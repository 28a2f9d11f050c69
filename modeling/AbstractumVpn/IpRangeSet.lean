import Mathlib.Data.Set.Lattice
import Mathlib.Order.CompletePartialOrder
import AbstractumVpn.IpRange

/-!
Sets of address ranges of the Android client. The sorted set is the list its
iterator walks over. Both operations walk over the ranges once, and are matched
with those on intervals of numbers.
-/

namespace AbstractumVpn.Android.IpRangeSet

open Intervals IpRange IpAddress

def insert (range : IpRange) : List IpRange → List IpRange
  | [] => [range]
  | curRange :: rest =>
    if range.compareTo curRange < 0 then range :: curRange :: rest
    else if range.compareTo curRange = 0 then curRange :: rest
    else curRange :: insert range rest

def endsBefore (range curRange : IpRange) : Except Failure Bool :=
  if range.end_ < curRange.start ∧ range.end_.isMaxIp = false then do
    return !((← range.end_.inc) == curRange.start)
  else return false

def addLoop (rangeToAdd : IpRange) :
    List IpRange → Except Failure (List IpRange × Option IpRange)
  | [] => return ([], some rangeToAdd)
  | curRange :: rest => do
      if ← endsBefore rangeToAdd curRange then return (curRange :: rest, some rangeToAdd)
      else match ← curRange.plus rangeToAdd with
        | none =>
          let walked ← addLoop rangeToAdd rest
          return (curRange :: walked.1, walked.2)
        | some resultRange =>
          if resultRange == curRange then return (curRange :: rest, none)
          else addLoop resultRange rest

def add (ranges : List IpRange) (ipRange : IpRange) : Except Failure (List IpRange) := do
  let walked ← addLoop ipRange ranges
  return match walked.2 with
    | some rangeToAdd => insert rangeToAdd walked.1
    | none => walked.1

def removeLoop (ipRange : IpRange) :
    List IpRange → Except Failure (List IpRange × List IpRange)
  | [] => return ([], [])
  | curRange :: rest => do
      if ipRange.end_ < curRange.start then return (curRange :: rest, [])
      else match ← curRange.minus ipRange with
        | none =>
          let walked ← removeLoop ipRange rest
          return (curRange :: walked.1, walked.2)
        | some resultRanges =>
          let walked ← removeLoop ipRange rest
          return (walked.1, resultRanges ++ walked.2)

def remove (ranges : List IpRange) (ipRange : IpRange) : Except Failure (List IpRange) := do
  let walked ← removeLoop ipRange ranges
  return walked.2.foldl (fun ranges range => insert range ranges) walked.1

inductive Operation where
  | add (ipRange : IpRange)
  | remove (ipRange : IpRange)

def apply (ranges : List IpRange) : Operation → Except Failure (List IpRange)
  | .add ipRange => add ranges ipRange
  | .remove ipRange => remove ranges ipRange

def applyAll (operations : List Operation) : Except Failure (List IpRange) :=
  operations.foldlM apply []

def addresses (ranges : List IpRange) : Set IpAddress :=
  {ip | ∃ range ∈ ranges, ip ∈ range.addresses}

def plain (set : Set IpAddress) : Operation → Set IpAddress
  | .add ipRange => set ∪ ipRange.addresses
  | .remove ipRange => set \ ipRange.addresses

def plainAll (operations : List Operation) : Set IpAddress := operations.foldl plain ∅

structure WellKept (ranges : List IpRange) : Prop where
  sorted : ranges.Pairwise fun range other => range.compareTo other < 0
  disjoint : ranges.Pairwise fun range other => Disjoint range.addresses other.addresses
  distant : ranges.Pairwise fun range other =>
    ∀ next, range.end_.inc = .ok next → (next == other.start) = false

def intervals (ranges : List IpRange) : List Interval := ranges.map interval

variable (range : IpRange) (ranges : List IpRange)

lemma compare_iff (other : IpRange) :
    (range.compareTo other < 0 ↔ range.interval.lo < other.interval.lo ∨
      (range.interval.lo = other.interval.lo ∧ range.interval.hi < other.interval.hi)) ∧
    (range.compareTo other = 0 ↔ range.interval = other.interval) := by
  have starts := compare_key range.start other.start
  have ends := compare_key range.end_ other.end_
  have equal : range.interval = other.interval ↔
      range.start.key = other.start.key ∧ range.end_.key = other.end_.key := by
    simp [interval]
  rw [equal]
  simp only [IpRange.compareTo, interval_lo, interval_hi]
  split <;> omega

lemma equals_iff (other : IpRange) :
    (range == other) = true ↔ range.interval = other.interval := by
  change (range.compareTo other == 0) = true ↔ _
  rw [beq_iff_eq]
  exact (compare_iff range other).2

lemma insert_refines :
    intervals (insert range ranges) = place range.interval (intervals ranges) := by
  induction ranges with
  | nil => rfl
  | cons curRange rest ih =>
    obtain ⟨less, equal⟩ := compare_iff range curRange
    simp only [insert, place, intervals, List.map_cons, less, equal]
    split_ifs
    · rfl
    · rfl
    · exact congrArg (curRange.interval :: ·) ih

lemma insertAll_refines (pieces : List IpRange) :
    intervals (pieces.foldl (fun ranges range => insert range ranges) ranges) =
      placeAll (intervals ranges) (intervals pieces) := by
  induction pieces generalizing ranges with
  | nil => rfl
  | cons piece rest ih =>
    rw [List.foldl_cons, ih, insert_refines]
    rfl

lemma endsBefore_ok (curRange : IpRange) :
    endsBefore range curRange =
      .ok (decide (Apart range.interval curRange.interval) && !range.end_.isMaxIp) := by
  unfold endsBefore
  cases top : range.end_.isMaxIp with
  | true => simp
  | false =>
    obtain ⟨next, counted, after⟩ := inc_key range.end_ top
    by_cases before : range.end_ < curRange.start
    · have lower := (lt_iff _ _).mp before
      have same : (!(next == curRange.start)) =
          decide (Apart range.interval curRange.interval) := by
        rw [Bool.eq_iff_iff, Bool.not_eq_true', ← Bool.not_eq_true, beq_iff, decide_eq_true_iff,
          Apart, interval_lo, interval_hi]
        omega
      simp [before, counted, same]
    · have higher := (lt_iff _ _).not.mp before
      have near : ¬ Apart range.interval curRange.interval := by
        rw [Apart, interval_lo, interval_hi]
        omega
      simp [before, near]

/-- Ranges above the one to add stay as they are, also when the walk does not
stop at the first of them: that happens when the last IPv4 address is added. -/
lemma addLoop_above (above : ∀ other ∈ ranges, Apart range.interval other.interval) :
    addLoop range ranges = .ok (ranges, some range) := by
  induction ranges with
  | nil => rfl
  | cons curRange rest ih =>
    have here := above curRange List.mem_cons_self
    have later := ih fun other member => above other (List.mem_cons_of_mem curRange member)
    obtain ⟨result, added, joined⟩ := plus_refines curRange range
    have distant : join curRange.interval range.interval = none := by
      refine join_distant _ _ ?_
      unfold Apart at here
      omega
    have unchanged : result = none := by simpa [distant] using joined
    rw [unchanged] at added
    rw [addLoop, endsBefore_ok, added, later]
    cases range.end_.isMaxIp <;> simp [bind, Except.bind]

lemma addLoop_refines (canonical : Canonical (intervals ranges)) :
    ∃ walked, addLoop range ranges = .ok walked ∧
      (intervals walked.1, walked.2.map interval) = absorb range.interval (intervals ranges) := by
  induction ranges generalizing range with
  | nil => exact ⟨([], some range), rfl, rfl⟩
  | cons curRange rest ih =>
    obtain ⟨first, later⟩ := List.pairwise_cons.mp canonical
    by_cases apart : Apart range.interval curRange.interval
    · refine ⟨(curRange :: rest, some range), addLoop_above range _ fun other member => ?_, ?_⟩
      · rcases List.mem_cons.mp member with same | member
        · rwa [same]
        · have := first other.interval (List.mem_map_of_mem member)
          have := curRange.interval.ordered
          unfold Apart at *
          omega
      · simp [intervals, absorb, apart]
    · -- not above, so the loop does not stop here either
      obtain ⟨result, added, joined⟩ := plus_refines curRange range
      rw [addLoop, endsBefore_ok, added]
      simp only [intervals, List.map_cons, absorb, if_neg apart, ← joined]
      cases result with
      | none =>
        obtain ⟨walked, made, same⟩ := ih range later
        refine ⟨(curRange :: walked.1, walked.2), ?_, ?_⟩
        · simp [apart, made]
        · simp only [intervals] at same
          simp [← same]
      | some resultRange =>
        have equal := equals_iff resultRange curRange
        by_cases contained : resultRange.interval = curRange.interval
        · refine ⟨(curRange :: rest, none), ?_, ?_⟩
          · simp [apart, equal.mpr contained]
          · simp [contained]
        · obtain ⟨walked, made, same⟩ := ih resultRange later
          have differs : (resultRange == curRange) = false :=
            Bool.eq_false_iff.mpr (contained ∘ equal.mp)
          refine ⟨walked, ?_, ?_⟩
          · simp [apart, differs, made]
          · simpa [contained, intervals] using same

lemma add_refines (ipRange : IpRange) (canonical : Canonical (intervals ranges)) :
    ∃ result, add ranges ipRange = .ok result ∧
      intervals result = unite (intervals ranges) ipRange.interval := by
  obtain ⟨⟨kept, pending⟩, made, same⟩ := addLoop_refines ipRange ranges canonical
  rw [add, made, unite, ← same]
  cases pending with
  | none => exact ⟨kept, rfl, rfl⟩
  | some range => exact ⟨insert range kept, rfl, insert_refines range kept⟩

lemma removeLoop_refines :
    ∃ walked, removeLoop range ranges = .ok walked ∧
      (intervals walked.1, intervals walked.2) = carve range.interval (intervals ranges) := by
  induction ranges with
  | nil => exact ⟨([], []), rfl, rfl⟩
  | cons curRange rest ih =>
    obtain ⟨result, taken, cutting⟩ := minus_refines curRange range
    obtain ⟨walked, made, same⟩ := ih
    simp only [intervals] at same
    have below_iff : range.end_ < curRange.start ↔ range.interval.hi < curRange.interval.lo :=
      lt_iff range.end_ curRange.start
    simp only [removeLoop, below_iff, intervals, List.map_cons, carve]
    by_cases below : range.interval.hi < curRange.interval.lo
    · exact ⟨(curRange :: rest, []), by rw [if_pos below]; rfl, by rw [if_pos below]; rfl⟩
    · simp only [if_neg below, taken, ← cutting]
      cases result with
      | none =>
        refine ⟨(curRange :: walked.1, walked.2), ?_, ?_⟩
        · simp [made]
        · simp [← same]
      | some pieces =>
        refine ⟨(walked.1, pieces ++ walked.2), ?_, ?_⟩
        · simp [made]
        · simp [← same]

lemma remove_refines (ipRange : IpRange) :
    ∃ result, remove ranges ipRange = .ok result ∧
      intervals result = subtract (intervals ranges) ipRange.interval := by
  obtain ⟨walked, made, same⟩ := removeLoop_refines ipRange ranges
  rw [remove, made, subtract, ← same]
  exact ⟨_, rfl, insertAll_refines walked.1 walked.2⟩

lemma mem_addresses_iff (ip : IpAddress) :
    ip ∈ addresses ranges ↔ ip.key ∈ covered (intervals ranges) := by
  simp [addresses, covered, intervals, mem_addresses]

lemma canonical_well_kept (canonical : Canonical (intervals ranges)) : WellKept ranges := by
  have apart : ranges.Pairwise fun range other => Apart range.interval other.interval :=
    List.pairwise_map.mp canonical
  refine ⟨apart.imp ?_, apart.imp ?_, apart.imp ?_⟩
  · intro range other distance
    have := range.bounds
    refine (compare_iff range other).1.mpr (Or.inl ?_)
    rw [Apart] at distance
    simp only [interval_lo, interval_hi] at *
    omega
  · intro range other distance
    rw [Set.disjoint_left]
    intro ip first second
    rw [mem_addresses, mem_points] at first second
    rw [Apart] at distance
    omega
  · intro range other distance next counted
    have room : range.end_.isMaxIp = false := by
      refine Bool.eq_false_iff.mpr fun top => ?_
      rw [inc, if_pos top] at counted
      cases counted
    obtain ⟨found, same, after⟩ := inc_key range.end_ room
    rw [counted, Except.ok.injEq] at same
    refine Bool.eq_false_iff.mpr fun equal => ?_
    rw [beq_iff, same, after] at equal
    rw [Apart, interval_lo, interval_hi] at distance
    omega

lemma apply_step (operation : Operation) (canonical : Canonical (intervals ranges)) :
    ∃ result, apply ranges operation = .ok result ∧ Canonical (intervals result) ∧
      addresses result = plain (addresses ranges) operation := by
  cases operation with
  | add ipRange =>
    obtain ⟨result, made, same⟩ := add_refines ranges ipRange canonical
    refine ⟨result, made, same ▸ unite_canonical _ _ canonical, ?_⟩
    ext ip
    rw [mem_addresses_iff, same, unite_points, plain, Set.mem_union, Set.mem_union,
      mem_addresses_iff, mem_addresses]
  | remove ipRange =>
    obtain ⟨result, made, same⟩ := remove_refines ranges ipRange
    refine ⟨result, made, same ▸ subtract_canonical _ _ canonical, ?_⟩
    ext ip
    rw [mem_addresses_iff, same, subtract_points _ _ canonical, plain, Set.mem_sdiff,
      Set.mem_sdiff, mem_addresses_iff, mem_addresses]

lemma apply_run (operations : List Operation) (ranges : List IpRange)
    (canonical : Canonical (intervals ranges)) :
    ∃ result, operations.foldlM apply ranges = .ok result ∧ Canonical (intervals result) ∧
      addresses result = operations.foldl plain (addresses ranges) := by
  induction operations generalizing ranges with
  | nil => exact ⟨ranges, rfl, canonical, rfl⟩
  | cons operation rest ih =>
    obtain ⟨next, made, kept, meaning⟩ := apply_step ranges operation canonical
    obtain ⟨result, finished, last, total⟩ := ih next kept
    refine ⟨result, ?_, last, ?_⟩
    · rw [List.foldlM_cons, made]
      exact finished
    · rw [List.foldl_cons, ← meaning, total]

/-- No operation throws, and the ranges are kept in order, disjoint and distant
and stand for what the operations make of plain sets. -/
theorem range_set_follows_plain_sets (operations : List Operation) :
    ∃ ranges, applyAll operations = .ok ranges ∧ WellKept ranges ∧
      addresses ranges = plainAll operations := by
  obtain ⟨ranges, made, canonical, meaning⟩ := apply_run operations [] List.Pairwise.nil
  refine ⟨ranges, made, canonical_well_kept ranges canonical, ?_⟩
  have empty : addresses [] = ∅ := by simp [addresses]
  rw [meaning, empty, plainAll]

end AbstractumVpn.Android.IpRangeSet
