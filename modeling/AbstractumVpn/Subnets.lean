import AbstractumVpn.BytePrefixes
import AbstractumVpn.IpRange

/-!
Networks of the Android client, the range of a network, and the networks a range
is made up of. A network has a mask that the system accepts for its address;
`subnets` hands the address on itself.
-/

namespace AbstractumVpn.Android

open BigEndian Intervals

deriving instance DecidableEq for IpAddress

namespace IpAddress

def maxMask (ip : IpAddress) : Nat := 8 * ip.size

end IpAddress

structure InetNetwork where
  address : IpAddress
  mask : Nat
  fits : mask ≤ address.maxMask
  deriving DecidableEq

namespace InetNetwork

def single (address : IpAddress) : InetNetwork := ⟨address, address.maxMask, Nat.le_refl _⟩

def start (network : InetNetwork) : IpAddress :=
  ⟨lowest network.mask network.address.address, by simpa using network.address.sized⟩

def end_ (network : InetNetwork) : IpAddress :=
  ⟨highest network.mask network.address.address, by simpa using network.address.sized⟩

def free (network : InetNetwork) : Nat := network.address.maxMask - network.mask

variable (network : InetNetwork)

lemma start_value :
    value network.start.address =
      value network.address.address / 2 ^ network.free * 2 ^ network.free :=
  value_lowest _ _ network.fits

lemma end_value :
    value network.end_.address =
      value network.address.address / 2 ^ network.free * 2 ^ network.free +
        (2 ^ network.free - 1) :=
  value_highest _ _ network.fits

@[simp] lemma start_size : network.start.size = network.address.size :=
  lowest_length _ _

@[simp] lemma end_size : network.end_.size = network.address.size :=
  highest_length _ _

end InetNetwork

namespace IpAddress

lemma le_value {ip other : IpAddress} (same : ip.size = other.size) :
    ip ≤ other ↔ value ip.address ≤ value other.address := by
  rw [le_iff]
  rcases ip.key_cases with one | one <;> rcases other.key_cases with two | two <;> omega

lemma size_between {low ip high : IpAddress} (same : low.size = high.size) (first : low ≤ ip)
    (last : ip ≤ high) : ip.size = low.size := by
  rw [le_iff] at first last
  rcases low.key_cases with one | one <;> rcases ip.key_cases with two | two <;>
    rcases high.key_cases with three | three <;> omega

end IpAddress

open IpAddress

lemma InetNetwork.ordered (network : InetNetwork) : network.start ≤ network.end_ := by
  rw [le_value (by simp), network.start_value, network.end_value]
  exact Nat.le_add_right _ _

namespace IpRange

def ofNetwork (network : InetNetwork) : IpRange :=
  ⟨network.start, network.end_, by simp, network.ordered⟩

end IpRange

namespace InetNetwork

def contains (network : InetNetwork) (ip : IpAddress) : Bool :=
  decide (network.start ≤ ip ∧ ip ≤ network.end_)

lemma contains_iff_range (network : InetNetwork) (ip : IpAddress) :
    network.contains ip = true ↔ ip ∈ (IpRange.ofNetwork network).addresses := by
  rw [contains, decide_eq_true_iff]
  rfl

lemma contains_iff (network : InetNetwork) (ip : IpAddress) :
    network.contains ip = true ↔ ip.size = network.address.size ∧
      value ip.address / 2 ^ network.free = value network.address.address / 2 ^ network.free := by
  have unit : 0 < 2 ^ network.free := Nat.two_pow_pos _
  have numbers : ip.size = network.address.size →
      (network.start ≤ ip ∧ ip ≤ network.end_ ↔
        value ip.address / 2 ^ network.free = value network.address.address / 2 ^ network.free) := by
    intro same
    rw [le_value (by simp [same]), le_value (by simp [same]), network.start_value,
      network.end_value, Nat.div_eq_iff unit]
    omega
  rw [contains, decide_eq_true_iff]
  constructor
  · intro between
    have same : ip.size = network.address.size := by
      rw [size_between (by simp) between.1 between.2, start_size]
    exact ⟨same, (numbers same).mp between⟩
  · rintro ⟨same, equal⟩
    exact (numbers same).mpr equal

lemma contains_address (network : InetNetwork) : network.contains network.address = true :=
  (network.contains_iff _).mpr ⟨rfl, rfl⟩

/-- Of two networks that share an address, the one with the longer mask lies
within the other. -/
lemma contains_nested {wide narrow : InetNetwork} {ip : IpAddress}
    (in_wide : wide.contains ip = true) (in_narrow : narrow.contains ip = true)
    (shorter : wide.mask ≤ narrow.mask) (other : IpAddress)
    (member : narrow.contains other = true) : wide.contains other = true := by
  rw [contains_iff] at *
  obtain ⟨wide_size, wide_same⟩ := in_wide
  obtain ⟨narrow_size, narrow_same⟩ := in_narrow
  obtain ⟨size, same⟩ := member
  refine ⟨by omega, ?_⟩
  have more : narrow.free ≤ wide.free := by
    unfold free maxMask
    omega
  obtain ⟨rest, added⟩ := Nat.exists_eq_add_of_le more
  rw [← wide_same, added, Nat.pow_add, ← Nat.div_div_eq_div_mul, ← Nat.div_div_eq_div_mul, same,
    narrow_same]

end InetNetwork

namespace IpRange

def getPossibleMaxMask (ip : IpAddress) : Nat := ip.maxMask - zeroBits ip.address

def getLastIpForMask (ip : IpAddress) (mask : Nat) : IpAddress :=
  ⟨fill (ip.maxMask - mask) ip.address, by simpa using ip.sized⟩

@[simp] lemma last_size (ip : IpAddress) (mask : Nat) :
    (getLastIpForMask ip mask).size = ip.size :=
  fill_length _ _

def fitMask (end_ currentIp : IpAddress) (mask : Nat) : Nat :=
  if mask < currentIp.maxMask ∧ end_ < getLastIpForMask currentIp mask then
    fitMask end_ currentIp (mask + 1)
  else mask
termination_by currentIp.maxMask - mask

lemma fit_bounds (end_ currentIp : IpAddress) (mask : Nat) (fits : mask ≤ currentIp.maxMask) :
    mask ≤ fitMask end_ currentIp mask ∧ fitMask end_ currentIp mask ≤ currentIp.maxMask := by
  fun_induction fitMask end_ currentIp mask with
  | case1 mask more ih =>
    omega
  | case2 mask => exact ⟨Nat.le_refl _, fits⟩

lemma possible_le (ip : IpAddress) : getPossibleMaxMask ip ≤ ip.maxMask := Nat.sub_le _ _

def firstNetwork (end_ currentIp : IpAddress) : InetNetwork :=
  ⟨currentIp, fitMask end_ currentIp (getPossibleMaxMask currentIp),
    (fit_bounds end_ currentIp _ (possible_le currentIp)).2⟩

lemma key_le_last (ip : IpAddress) (mask : Nat) : ip.key ≤ (getLastIpForMask ip mask).key := by
  rw [← le_iff, le_value (by simp)]
  exact value_le_fill _ _

lemma key_congr {ip other : IpAddress} (size : ip.size = other.size)
    (same : value ip.address = value other.address) : ip.key = other.key := by
  rw [key, key, size, same]

lemma inc_ok {ip next : IpAddress} (counted : ip.inc = .ok next) : next.key = ip.key + 1 := by
  have room : ip.isMaxIp = false := by
    by_contra top
    rw [Bool.not_eq_false] at top
    rw [inc, if_pos top] at counted
    cases counted
  obtain ⟨found, same, after⟩ := inc_key ip room
  rw [counted, Except.ok.injEq] at same
  rwa [same]

def subnetsFrom (end_ currentIp : IpAddress) : Except Failure (List InetNetwork) :=
  if _inside : currentIp ≤ end_ then
    let network := firstNetwork end_ currentIp
    let lastIp := getLastIpForMask currentIp network.mask
    if lastIp.isMaxIp then .ok [network]
    else
      match _counted : lastIp.inc with
      | .error failure => .error failure
      | .ok next => do return network :: (← subnetsFrom end_ next)
  else .ok []
termination_by end_.key + 1 - currentIp.key
decreasing_by
  have after : next.key =
      (getLastIpForMask currentIp (firstNetwork end_ currentIp).mask).key + 1 := inc_ok _counted
  have grown := key_le_last currentIp (firstNetwork end_ currentIp).mask
  have within := (le_iff _ _).mp _inside
  omega

def subnets (range : IpRange) : Except Failure (List InetNetwork) :=
  subnetsFrom range.end_ range.start

lemma fit_last (end_ currentIp : IpAddress) (mask : Nat) (fits : mask ≤ currentIp.maxMask)
    (inside : currentIp ≤ end_) :
    getLastIpForMask currentIp (fitMask end_ currentIp mask) ≤ end_ := by
  fun_induction fitMask end_ currentIp mask with
  | case1 mask more ih => exact ih more.1
  | case2 mask enough =>
    rw [not_and_or] at enough
    rcases enough with full | small
    · have all : currentIp.maxMask - mask = 0 := by omega
      have same : getLastIpForMask currentIp mask = currentIp := by
        simp [getLastIpForMask, all, fill, fillLittle]
      rwa [same]
    · rw [lt_iff] at small
      rw [le_iff]
      omega

section First

variable (end_ currentIp : IpAddress)

lemma first_aligned :
    2 ^ (firstNetwork end_ currentIp).free ∣ value currentIp.address := by
  obtain ⟨divides, few⟩ := value_zeroBits currentIp.address
  have longer := (fit_bounds end_ currentIp _ (possible_le currentIp)).1
  have fewer : (firstNetwork end_ currentIp).free ≤ zeroBits currentIp.address := by
    change currentIp.maxMask - fitMask end_ currentIp (getPossibleMaxMask currentIp) ≤ _
    unfold getPossibleMaxMask at *
    omega
  exact (Nat.pow_dvd_pow 2 fewer).trans divides

lemma first_contains (ip : IpAddress) :
    (firstNetwork end_ currentIp).contains ip = true ↔ currentIp ≤ ip ∧
      ip ≤ getLastIpForMask currentIp (firstNetwork end_ currentIp).mask := by
  have aligned := first_aligned end_ currentIp
  have start_key : (firstNetwork end_ currentIp).start.key = currentIp.key := by
    apply key_congr (InetNetwork.start_size _)
    rw [InetNetwork.start_value]
    exact Nat.div_mul_cancel aligned
  have end_key : (firstNetwork end_ currentIp).end_.key =
      (getLastIpForMask currentIp (firstNetwork end_ currentIp).mask).key := by
    apply key_congr ((InetNetwork.end_size _).trans (last_size currentIp _).symm)
    rw [InetNetwork.end_value]
    have filled : value (fill (firstNetwork end_ currentIp).free currentIp.address) = _ :=
      value_fill _ _ aligned (Nat.sub_le _ _)
    exact (congrArg (· + _) (Nat.div_mul_cancel aligned)).trans filled.symm
  rw [InetNetwork.contains, decide_eq_true_iff, le_iff, le_iff, le_iff, le_iff, start_key, end_key]

end First

lemma next_size {end_ currentIp next : IpAddress}
    (counted : (getLastIpForMask currentIp (firstNetwork end_ currentIp).mask).inc = .ok next)
    (inside : currentIp ≤ end_) (same : currentIp.size = end_.size) : next.size = end_.size := by
  have after := inc_ok counted
  have reached := (le_iff _ _).mp (fit_last end_ currentIp _ (possible_le currentIp) inside)
  have family := (same_size_iff _ end_).mp ((last_size currentIp
    (firstNetwork end_ currentIp).mask).trans same)
  have gap := next.key_ne
  rw [same_size_iff]
  change (getLastIpForMask currentIp (firstNetwork end_ currentIp).mask).key ≤ _ at reached
  omega

lemma subnetsFrom_cover (end_ currentIp : IpAddress) (same : currentIp.size = end_.size) :
    ∃ networks, subnetsFrom end_ currentIp = .ok networks ∧
      ∀ ip, (∃ network ∈ networks, network.contains ip = true) ↔ currentIp ≤ ip ∧ ip ≤ end_ := by
  fun_induction subnetsFrom end_ currentIp with
  | case1 currentIp inside network lastIp top =>
    have reached : lastIp ≤ end_ := fit_last end_ currentIp _ (possible_le currentIp) inside
    refine ⟨[network], rfl, fun ip => ?_⟩
    have block : network.contains ip = true ↔ currentIp ≤ ip ∧ ip ≤ lastIp :=
      first_contains end_ currentIp ip
    simp only [List.mem_singleton, exists_eq_left, block]
    refine and_congr_right fun _ => ⟨fun before => ?_, fun before => ?_⟩
    · rw [le_iff] at *
      omega
    · -- nothing of the family comes after the last address
      by_contra after
      rw [le_iff] at before after
      have families := max_key lastIp ip top (Nat.lt_of_not_le after)
      have size := (same_size_iff lastIp end_).mp ((last_size currentIp _).trans same)
      omega
  | case2 currentIp inside network lastIp room failure counted =>
    obtain ⟨next, found, -⟩ := inc_key lastIp (Bool.eq_false_iff.mpr room)
    rw [counted] at found
    cases found
  | case3 currentIp inside network lastIp room next counted ih =>
    have after : next.key = lastIp.key + 1 := inc_ok counted
    have reached : lastIp ≤ end_ := fit_last end_ currentIp _ (possible_le currentIp) inside
    have begun : currentIp.key ≤ lastIp.key := key_le_last currentIp _
    obtain ⟨networks, made, covers⟩ := ih (next_size counted inside same)
    refine ⟨network :: networks, by rw [made]; rfl, fun ip => ?_⟩
    have block : network.contains ip = true ↔ currentIp ≤ ip ∧ ip ≤ lastIp :=
      first_contains end_ currentIp ip
    rw [List.exists_mem_cons_iff, block, covers]
    simp only [le_iff] at *
    omega
  | case4 currentIp outside =>
    refine ⟨[], rfl, fun ip => ?_⟩
    rw [le_iff] at outside
    simp only [List.not_mem_nil, false_and, exists_false, false_iff, le_iff]
    omega

lemma subnets_cover (range : IpRange) :
    ∃ networks, range.subnets = .ok networks ∧
      ∀ ip, (∃ network ∈ networks, network.contains ip = true) ↔ ip ∈ range.addresses :=
  subnetsFrom_cover range.end_ range.start range.sameSize

end IpRange

end AbstractumVpn.Android
