import AbstractumVpn.ProtocolConfig
import Mathlib.Combinatorics.Enumerative.DoubleCounting

/-!
The list of networks that `subnets` makes of a range is the shortest one there
is: each is the widest that begins at its address within the range, so any
network within the range lies within one of them. The lists of the ranges of a
set make up what was added to the set and not removed since.
-/

namespace AbstractumVpn.Android

open BigEndian Intervals IpAddress

lemma IpAddress.key_inj {ip other : IpAddress} (same : ip.key = other.key) : ip = other := by
  have size : ip.size = other.size := (same_size_iff ip other).mpr (by rw [same])
  have number : value ip.address = value other.address := by
    rcases ip.key_cases with one | one <;> rcases other.key_cases with two | two <;> omega
  cases ip
  cases other
  congr 1
  exact value_inj size number

/-- Counting up goes to the next address of all, from which counting down goes back, and fails
only where no greater address is of the same family. -/
theorem IpAddress.inc_next (ip : IpAddress) :
    (∃ next, ip.inc = .ok next ∧ next.dec = .ok ip ∧ ∀ other, ip < other ↔ next ≤ other) ∨
      (ip.inc = .error .overflow ∧ ∀ other, ip < other → other.size ≠ ip.size) := by
  cases top : ip.isMaxIp with
  | true =>
    refine Or.inr ⟨by rw [inc, if_pos top], fun other above => ?_⟩
    have between := max_key ip other top ((lt_iff _ _).mp above)
    rw [ne_eq, same_size_iff]
    omega
  | false =>
    obtain ⟨next, counted, after⟩ := inc_key ip top
    have not_first : next.isMinIp = false := by
      rw [isMinIp, Bool.eq_false_iff, ne_eq, value_zero_iff]
      have := ip.key_ne
      rcases next.key_cases with one | one <;> omega
    obtain ⟨previous, back, before⟩ := dec_key next not_first
    have same : previous = ip := key_inj (by omega)
    refine Or.inl ⟨next, counted, same ▸ back, fun other => ?_⟩
    rw [lt_iff, le_iff]
    omega

namespace InetNetwork

lemma contains_start (network : InetNetwork) : network.contains network.start = true := by
  rw [contains, decide_eq_true_iff]
  exact ⟨(le_iff _ _).mpr (Nat.le_refl _), network.ordered⟩

lemma contains_end (network : InetNetwork) : network.contains network.end_ = true := by
  rw [contains, decide_eq_true_iff]
  exact ⟨network.ordered, (le_iff _ _).mpr (Nat.le_refl _)⟩

lemma contains_bounds {network : InetNetwork} {ip : IpAddress} (member : network.contains ip = true) :
    network.start.key ≤ ip.key ∧ ip.key ≤ network.end_.key := by
  rw [contains, decide_eq_true_iff, le_iff, le_iff] at member
  exact member

def Before (network later : InetNetwork) : Prop := network.end_ < later.start

lemma before_disjoint {network later : InetNetwork} (before : network.Before later)
    (ip : IpAddress) : ¬ (network.contains ip = true ∧ later.contains ip = true) := by
  rintro ⟨here, there⟩
  have last := (contains_bounds here).2
  have first := (contains_bounds there).1
  have gap := (lt_iff _ _).mp before
  omega

end InetNetwork

namespace IpRange

open InetNetwork

variable (end_ currentIp : IpAddress)

lemma fit_least (mask target : Nat) (beyond : mask ≤ target) (fits : target ≤ currentIp.maxMask)
    (within : getLastIpForMask currentIp target ≤ end_) : fitMask end_ currentIp mask ≤ target := by
  fun_induction fitMask end_ currentIp mask with
  | case1 mask more ih =>
    have different : mask ≠ target := by
      rintro rfl
      have far := (lt_iff _ _).mp more.2
      have near := (le_iff _ _).mp within
      omega
    exact ih (by omega)
  | case2 => exact beyond

lemma first_widest (other : InetNetwork) (begins : other.start = currentIp)
    (within : other.end_ ≤ end_) : (firstNetwork end_ currentIp).mask ≤ other.mask := by
  have size : other.address.size = currentIp.size := by rw [← begins, start_size]
  have masks : other.address.maxMask = currentIp.maxMask := congrArg (8 * ·) size
  have fits : other.mask ≤ currentIp.maxMask := masks ▸ other.fits
  have free : other.free = currentIp.maxMask - other.mask := by rw [InetNetwork.free, masks]
  have number := other.start_value
  rw [begins] at number
  have aligned : 2 ^ other.free ∣ value currentIp.address := Dvd.intro_left _ number.symm
  have bound : other.free ≤ 8 * currentIp.address.length := free ▸ Nat.sub_le _ _
  apply fit_least
  · -- the address has no more zero bits at its end
    have few := zeroBits_greatest currentIp.address other.free bound aligned
    unfold getPossibleMaxMask
    omega
  · exact fits
  · have same : (getLastIpForMask currentIp other.mask).key = other.end_.key := by
      apply key_congr
      · rw [last_size, end_size, size]
      · rw [other.end_value, ← number, free]
        exact value_fill _ _ (free ▸ aligned) (free ▸ bound)
    rw [le_iff] at within ⊢
    omega

/-- What the outer loop leaves: networks in ascending order, each beginning at its
address and as wide as the end of the range allows. -/
structure Tiling (end_ : IpAddress) (networks : List InetNetwork) : Prop where
  aligned : ∀ network ∈ networks, network.start = network.address
  ascending : networks.Pairwise Before
  widest : ∀ network ∈ networks, ∀ other : InetNetwork, other.start = network.address →
    other.end_ ≤ end_ → network.mask ≤ other.mask

lemma first_start : (firstNetwork end_ currentIp).start = currentIp := by
  apply key_inj
  apply key_congr (start_size _)
  rw [start_value]
  exact Nat.div_mul_cancel (first_aligned end_ currentIp)

lemma first_end :
    (firstNetwork end_ currentIp).end_.key ≤
      (getLastIpForMask currentIp (firstNetwork end_ currentIp).mask).key :=
  (le_iff _ _).mp ((first_contains end_ currentIp _).mp (contains_end _)).2

lemma tiling_cons {end_ currentIp : IpAddress} {networks : List InetNetwork}
    (later : ∀ network ∈ networks,
      (getLastIpForMask currentIp (firstNetwork end_ currentIp).mask).key < network.start.key)
    (tiling : Tiling end_ networks) :
    Tiling end_ (firstNetwork end_ currentIp :: networks) := by
  constructor
  · rintro network (_ | ⟨_, member⟩)
    · exact first_start end_ currentIp
    · exact tiling.aligned network member
  · refine List.pairwise_cons.mpr ⟨fun network member => ?_, tiling.ascending⟩
    rw [Before, lt_iff]
    exact (first_end end_ currentIp).trans_lt (later network member)
  · rintro network (_ | ⟨_, member⟩)
    · exact first_widest end_ currentIp
    · exact tiling.widest network member

lemma tiling_nil : Tiling end_ [] := by
  constructor <;> simp

lemma subnetsFrom_tiling (same : currentIp.size = end_.size) (networks : List InetNetwork)
    (made : subnetsFrom end_ currentIp = .ok networks) : Tiling end_ networks := by
  fun_induction subnetsFrom end_ currentIp generalizing networks with
  | case1 currentIp inside network lastIp top =>
    obtain rfl := Except.ok.inj made
    exact tiling_cons (by simp) (tiling_nil end_)
  | case2 currentIp inside network lastIp room failure counted => cases made
  | case3 currentIp inside network lastIp room next counted ih =>
    have size : next.size = end_.size := next_size counted inside same
    obtain ⟨rest, found, covers⟩ := subnetsFrom_cover end_ next size
    rw [found] at made
    obtain rfl := Except.ok.inj made
    refine tiling_cons (fun later member => ?_) (ih size rest found)
    -- what the rest begins with comes after the address counted to
    have begins := (covers later.start).mp ⟨later, member, later.contains_start⟩
    rw [le_iff, inc_ok counted] at begins
    exact begins.1
  | case4 currentIp outside =>
    obtain rfl := Except.ok.inj made
    exact tiling_nil end_

lemma tiling_apart {end_ : IpAddress} {networks : List InetNetwork} (tiling : Tiling end_ networks)
    {network other : InetNetwork} (member : network ∈ networks) (other_member : other ∈ networks)
    (different : network ≠ other) (ip : IpAddress) :
    ¬ (network.contains ip = true ∧ other.contains ip = true) := by
  have symmetric : Std.Symm fun network later : InetNetwork =>
      ∀ ip, ¬ (network.contains ip = true ∧ later.contains ip = true) :=
    ⟨fun _ _ one ip both => one ip both.symm⟩
  exact (tiling.ascending.imp before_disjoint).forall member other_member different ip

section Fewest

variable {range : IpRange} {networks : List InetNetwork} (tiling : Tiling range.end_ networks)
  (covers : ∀ ip, (∃ network ∈ networks, network.contains ip = true) ↔ ip ∈ range.addresses)

include tiling covers

/-- A network within the range lies within one of the list. -/
lemma within_one (other : InetNetwork)
    (inside : ∀ ip, other.contains ip = true → ip ∈ range.addresses) :
    ∃ network ∈ networks, ∀ ip, other.contains ip = true → network.contains ip = true := by
  obtain ⟨network, member, shared⟩ := (covers other.start).mpr (inside _ other.contains_start)
  refine ⟨network, member, ?_⟩
  by_cases wider : network.mask ≤ other.mask
  · exact contains_nested shared other.contains_start wider
  · -- otherwise the network of the list was not the widest at its address
    have around := contains_nested other.contains_start shared (Nat.le_of_not_le wider)
    have first := (contains_bounds shared).1
    rw [tiling.aligned network member] at first
    have begins := (contains_bounds (around _ network.contains_address)).1
    have same : other.start = network.address := key_inj (Nat.le_antisymm begins first)
    have reach : other.end_ ≤ range.end_ := (inside _ other.contains_end).2
    exact absurd (tiling.widest network member other same reach) wider

lemma tiling_fewest (others : List InetNetwork)
    (same : ∀ ip, (∃ network ∈ others, network.contains ip = true) ↔ ip ∈ range.addresses) :
    networks.length ≤ others.length := by
  classical
  have distinct : networks.Nodup := by
    apply tiling.ascending.imp
    rintro network later before rfl
    exact before_disjoint before _ ⟨network.contains_address, network.contains_address⟩
  have counted : networks.toFinset.card ≤ others.toFinset.card := by
    refine Finset.card_le_card_of_forall_subsingleton
      (fun network other => ∀ ip, other.contains ip = true → network.contains ip = true) ?_ ?_
    · -- the address of a network is in some other one, which lies within one of the list
      intro network listed
      have member := List.mem_toFinset.mp listed
      have address := (covers _).mp ⟨network, member, network.contains_address⟩
      obtain ⟨other, others_member, shared⟩ := (same _).mpr address
      obtain ⟨around, around_member, inside⟩ := within_one tiling covers other fun ip found =>
        (same ip).mp ⟨other, others_member, found⟩
      have one : around = network := by
        by_contra different
        exact tiling_apart tiling around_member member different network.address
          ⟨inside _ shared, network.contains_address⟩
      exact ⟨other, List.mem_toFinset.mpr others_member, one ▸ inside⟩
    · rintro other - network ⟨listed, inside⟩ around ⟨around_listed, around_inside⟩
      by_contra different
      exact tiling_apart tiling (List.mem_toFinset.mp listed) (List.mem_toFinset.mp around_listed)
        different other.address ⟨inside _ other.contains_address, around_inside _ other.contains_address⟩
  calc networks.length = networks.toFinset.card := (List.toFinset_card_of_nodup distinct).symm
    _ ≤ others.toFinset.card := counted
    _ ≤ others.length := others.toFinset_card_le

end Fewest

/-- `subnets` ends without an error. Its networks begin at their addresses, stand
in ascending order without a common address and make up the range, and no list of
networks that make up the range is shorter. -/
theorem subnets_fewest (range : IpRange) :
    ∃ networks, range.subnets = .ok networks ∧
      (∀ network ∈ networks, network.start = network.address) ∧
      networks.Pairwise Before ∧
      networks.Pairwise (fun network later =>
        ∀ ip, ¬ (network.contains ip = true ∧ later.contains ip = true)) ∧
      (∀ ip, (∃ network ∈ networks, network.contains ip = true) ↔ ip ∈ range.addresses) ∧
      ∀ others : List InetNetwork,
        (∀ ip, (∃ network ∈ others, network.contains ip = true) ↔ ip ∈ range.addresses) →
          networks.length ≤ others.length := by
  obtain ⟨networks, made, covers⟩ := range.subnets_cover
  have tiling := subnetsFrom_tiling range.end_ range.start range.sameSize networks made
  exact ⟨networks, made, tiling.aligned, tiling.ascending, tiling.ascending.imp before_disjoint,
    covers, tiling_fewest tiling covers⟩

end IpRange

namespace IpRangeSet

open InetNetwork ProtocolConfig

def subnets (ranges : List IpRange) : Except Failure (List InetNetwork) := do
  return (← ranges.mapM IpRange.subnets).flatten

lemma subnets_ascending (ranges : List IpRange) (canonical : Canonical (intervals ranges))
    (subnets : List (List InetNetwork)) (made : ranges.mapM IpRange.subnets = .ok subnets) :
    subnets.flatten.Pairwise Before := by
  induction ranges generalizing subnets with
  | nil =>
    obtain rfl := Except.ok.inj made
    exact List.Pairwise.nil
  | cons range rest ih =>
    obtain ⟨first, later⟩ := List.pairwise_cons.mp canonical
    obtain ⟨here, found, covers⟩ := range.subnets_cover
    obtain ⟨others, finished, covered⟩ := subnets_of_ranges rest
    rw [List.mapM_cons, found, finished] at made
    obtain rfl := Except.ok.inj made
    have tiling := IpRange.subnetsFrom_tiling range.end_ range.start range.sameSize here found
    rw [List.flatten_cons, List.pairwise_append]
    refine ⟨tiling.ascending, ih later others finished, fun network member next listed => ?_⟩
    have last := ((covers _).mp ⟨network, member, network.contains_end⟩).2
    obtain ⟨other, inside, start, -⟩ := (covered _).mp ⟨next, listed, next.contains_start⟩
    have gap := first other.interval (List.mem_map_of_mem inside)
    rw [le_iff] at last start
    rw [Apart, IpRange.interval_lo, IpRange.interval_hi] at gap
    rw [Before, lt_iff]
    omega

/-- Whatever was added and removed, `subnets` ends without an error, with networks in ascending
order, none of which share an address, that make up what plain sets would hold. -/
theorem set_subnets_exact (operations : List Operation) :
    ∃ ranges networks, applyAll operations = .ok ranges ∧ subnets ranges = .ok networks ∧
      networks.Pairwise Before ∧
      networks.Pairwise (fun network later =>
        ∀ ip, ¬ (network.contains ip = true ∧ later.contains ip = true)) ∧
      ∀ ip, (∃ network ∈ networks, network.contains ip = true) ↔ ip ∈ plainAll operations := by
  obtain ⟨ranges, applied, canonical, meaning⟩ := apply_run operations [] List.Pairwise.nil
  obtain ⟨subnets, made, covers⟩ := subnets_of_ranges ranges
  have ascending := subnets_ascending ranges canonical subnets made
  have empty : addresses [] = ∅ := by simp [addresses]
  rw [meaning, empty] at covers
  refine ⟨ranges, subnets.flatten, applied, ?_, ascending, ascending.imp before_disjoint, covers⟩
  rw [IpRangeSet.subnets, made]
  rfl

end IpRangeSet

end AbstractumVpn.Android
