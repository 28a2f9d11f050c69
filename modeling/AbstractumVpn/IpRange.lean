import AbstractumVpn.BigEndian
import AbstractumVpn.Intervals

/-!
Addresses and ranges of addresses of the Android client. An address is its 4 or
16 bytes; the shorter ones come first. Counting past the end of a family throws,
and so does a range that is reversed or has ends of two families. `key` numbers
the addresses of both families, with one number left out between them.
-/

namespace AbstractumVpn.Android

open BigEndian Intervals

structure IpAddress where
  address : List UInt8
  sized : address.length = 4 ∨ address.length = 16

inductive Failure where
  | overflow
  | mixedFamilies (start end_ : IpAddress)
  | reversed (start end_ : IpAddress)

namespace IpAddress

def size (ip : IpAddress) : Nat := ip.address.length

def isMinIp (ip : IpAddress) : Bool := ip.address.all (· == 0)

def isMaxIp (ip : IpAddress) : Bool := ip.address.all (· == 255)

def inc (ip : IpAddress) : Except Failure IpAddress :=
  if ip.isMaxIp then .error .overflow
  else .ok ⟨increment ip.address, by simpa using ip.sized⟩

def dec (ip : IpAddress) : Except Failure IpAddress :=
  if ip.isMinIp then .error .overflow
  else .ok ⟨decrement ip.address, by simpa using ip.sized⟩

def compareTo (ip other : IpAddress) : Int :=
  if ip.size ≠ other.size then (ip.size : Int) - other.size
  else compareBytes ip.address other.address

instance : LT IpAddress := ⟨fun ip other => ip.compareTo other < 0⟩

instance : LE IpAddress := ⟨fun ip other => ip.compareTo other ≤ 0⟩

instance (ip other : IpAddress) : Decidable (ip < other) := inferInstanceAs (Decidable (_ < _))

instance (ip other : IpAddress) : Decidable (ip ≤ other) := inferInstanceAs (Decidable (_ ≤ _))

instance : BEq IpAddress := ⟨fun ip other => ip.compareTo other == 0⟩

def minOf (ip other : IpAddress) : IpAddress := if ip ≤ other then ip else other

def maxOf (ip other : IpAddress) : IpAddress := if other ≤ ip then ip else other

end IpAddress

structure IpRange where
  start : IpAddress
  end_ : IpAddress
  sameSize : start.size = end_.size
  ordered : start ≤ end_

namespace IpRange

def create (start end_ : IpAddress) : Except Failure IpRange :=
  if sameSize : start.size = end_.size then
    if ordered : start ≤ end_ then .ok ⟨start, end_, sameSize, ordered⟩
    else .error (.reversed start end_)
  else .error (.mixedFamilies start end_)

def contains (range other : IpRange) : Bool :=
  decide (range.start ≤ other.start) && decide (other.end_ ≤ range.end_)

def isIntersect (range other : IpRange) : Bool :=
  decide (range.start ≤ other.end_) && decide (other.start ≤ range.end_)

def follows (range other : IpRange) : Except Failure Bool :=
  if other.end_ < range.start ∧ range.start.isMinIp = false then do
    return (← range.start.dec) == other.end_
  else return false

def precedes (range other : IpRange) : Except Failure Bool :=
  if range.end_ < other.start ∧ range.end_.isMaxIp = false then do
    return (← range.end_.inc) == other.start
  else return false

def plus (range other : IpRange) : Except Failure (Option IpRange) := do
  if ← range.follows other then
    return some (← create other.start range.end_)
  else if ← range.precedes other then
    return some (← create range.start other.end_)
  else if range.isIntersect other then
    return some (← create (range.start.minOf other.start) (range.end_.maxOf other.end_))
  else return none

def below (range other : IpRange) : Except Failure (List IpRange) :=
  if range.start < other.start then do
    return [← create range.start (← other.start.dec)]
  else return []

def above (range other : IpRange) : Except Failure (List IpRange) :=
  if other.end_ < range.end_ then do
    return [← create (← other.end_.inc) range.end_]
  else return []

def minus (range other : IpRange) : Except Failure (Option (List IpRange)) := do
  if other.contains range then return some []
  else if range.isIntersect other then
    let below ← range.below other
    let above ← range.above other
    return some (below ++ above)
  else return none

def compareTo (range other : IpRange) : Int :=
  let d := range.start.compareTo other.start
  if d = 0 then range.end_.compareTo other.end_ else d

instance : BEq IpRange := ⟨fun range other => range.compareTo other == 0⟩

def addresses (range : IpRange) : Set IpAddress := {ip | range.start ≤ ip ∧ ip ≤ range.end_}

end IpRange

namespace IpAddress

def key (ip : IpAddress) : Nat :=
  if ip.size = 4 then value ip.address else 2 ^ 32 + 1 + value ip.address

variable (ip other : IpAddress)

lemma key_cases :
    (ip.size = 4 ∧ ip.key = value ip.address ∧ value ip.address < 2 ^ 32) ∨
      (ip.size = 16 ∧ ip.key = 2 ^ 32 + 1 + value ip.address ∧ value ip.address < 2 ^ 128) := by
  have bound := value_lt ip.address
  rcases ip.sized with four | sixteen
  · left
    rw [four] at bound
    exact ⟨four, if_pos four, by simpa using bound⟩
  · right
    have other : ip.size ≠ 4 := by rw [size, sixteen]; decide
    rw [sixteen] at bound
    exact ⟨sixteen, if_neg other, by simpa using bound⟩

lemma same_size_iff : ip.size = other.size ↔ (ip.key < 2 ^ 32 ↔ other.key < 2 ^ 32) := by
  rcases ip.key_cases with one | one <;> rcases other.key_cases with two | two <;> omega

lemma key_ne : ip.key ≠ 2 ^ 32 := by
  rcases ip.key_cases with one | one <;> omega

lemma compare_key :
    (ip.compareTo other < 0 ↔ ip.key < other.key) ∧
      (ip.compareTo other = 0 ↔ ip.key = other.key) := by
  unfold compareTo
  split
  · rcases ip.key_cases with one | one <;> rcases other.key_cases with two | two <;> omega
  · rename_i same
    have bytes := compare_value ip.address other.address (not_not.mp same)
    rcases ip.key_cases with one | one <;> rcases other.key_cases with two | two <;> omega

lemma lt_iff : ip < other ↔ ip.key < other.key :=
  (compare_key ip other).1

lemma le_iff : ip ≤ other ↔ ip.key ≤ other.key := by
  have compared := compare_key ip other
  change ip.compareTo other ≤ 0 ↔ _
  omega

lemma beq_iff : (ip == other) = true ↔ ip.key = other.key := by
  change (ip.compareTo other == 0) = true ↔ _
  rw [beq_iff_eq]
  exact (compare_key ip other).2

lemma inc_key (room : ip.isMaxIp = false) :
    ∃ next, ip.inc = .ok next ∧ next.key = ip.key + 1 := by
  have not_top : value ip.address + 1 ≠ 256 ^ ip.address.length := by
    intro top
    rw [isMaxIp, (value_top_iff ip.address).mpr top] at room
    cases room
  refine ⟨⟨increment ip.address, by simpa using ip.sized⟩, by simp [inc, room], ?_⟩
  by_cases four : ip.address.length = 4
  · simp [key, size, four, value_increment ip.address not_top]
  · simp [key, size, four, value_increment ip.address not_top]
    omega

lemma dec_key (room : ip.isMinIp = false) :
    ∃ previous, ip.dec = .ok previous ∧ previous.key + 1 = ip.key := by
  have not_zero : value ip.address ≠ 0 := by
    intro zero
    rw [isMinIp, (value_zero_iff ip.address).mpr zero] at room
    cases room
  have counted := value_decrement ip.address not_zero
  refine ⟨⟨decrement ip.address, by simpa using ip.sized⟩, by simp [dec, room], ?_⟩
  by_cases four : ip.address.length = 4 <;> simp [key, size, four] <;> omega

/-- Only addresses of the other family lie above the last one of a family. -/
lemma max_key (top : ip.isMaxIp = true) (above : ip.key < other.key) :
    ip.key < 2 ^ 32 ∧ 2 ^ 32 < other.key := by
  have last := (value_top_iff ip.address).mp top
  have gap := other.key_ne
  rcases ip.key_cases with ⟨four, same, -⟩ | ⟨sixteen, same, -⟩
  · rw [show ip.address.length = 4 from four] at last
    omega
  · -- nothing is greater than the last IPv6 address
    rw [show ip.address.length = 16 from sixteen] at last
    rcases other.key_cases with two | two <;> omega

lemma min_key (bottom : ip.isMinIp = true) (below : other.key < ip.key) :
    other.key < 2 ^ 32 ∧ 2 ^ 32 < ip.key := by
  have first := (value_zero_iff ip.address).mp bottom
  have gap := other.key_ne
  rcases ip.key_cases with one | one <;> omega

end IpAddress

@[simp] lemma ok_bind {α β : Type} (value : α) (next : α → Except Failure β) :
    (Except.ok value >>= next) = next value := rfl

@[simp] lemma pure_ok {α : Type} (value : α) : (pure value : Except Failure α) = .ok value := rfl

namespace IpRange

open IpAddress

def interval (range : IpRange) : Interval :=
  ⟨range.start.key, range.end_.key, (le_iff _ _).mp range.ordered⟩

variable (range : IpRange) (ip : IpAddress) (other : IpRange)

@[simp] lemma interval_lo : range.interval.lo = range.start.key := rfl

@[simp] lemma interval_hi : range.interval.hi = range.end_.key := rfl

lemma mem_addresses : ip ∈ range.addresses ↔ ip.key ∈ range.interval.points :=
  and_congr (le_iff _ _) (le_iff _ _)

lemma bounds :
    range.start.key ≤ range.end_.key ∧ (range.end_.key < 2 ^ 32 ∨ 2 ^ 32 < range.start.key) := by
  have family := (same_size_iff _ _).mp range.sameSize
  have gap := range.start.key_ne
  exact ⟨(le_iff _ _).mp range.ordered, by omega⟩

lemma create_ok (start end_ : IpAddress) (family : start.key < 2 ^ 32 ↔ end_.key < 2 ^ 32)
    (ordered : start.key ≤ end_.key) :
    ∃ range, create start end_ = .ok range ∧ range.start = start ∧ range.end_ = end_ := by
  have sameSize := (same_size_iff start end_).mpr family
  have ordered := (le_iff start end_).mpr ordered
  exact ⟨⟨start, end_, sameSize, ordered⟩, by simp [create, sameSize, ordered], rfl, rfl⟩

lemma interval_eq (i : Interval) (low : range.start.key = i.lo) (high : range.end_.key = i.hi) :
    range.interval = i := by
  cases i
  simp_all [interval]

lemma follows_ok : range.follows other = .ok (decide (other.end_.key + 1 = range.start.key)) := by
  unfold follows
  split
  · rename_i case
    obtain ⟨previous, same, counted⟩ := dec_key range.start case.2
    have equal : (previous == other.end_) = decide (other.end_.key + 1 = range.start.key) := by
      rw [Bool.eq_iff_iff, beq_iff, decide_eq_true_iff]
      omega
    rw [same, ← equal]
    rfl
  · rename_i case
    have apart : other.end_.key + 1 ≠ range.start.key := by
      intro next
      refine case ⟨(lt_iff _ _).mpr (by omega), ?_⟩
      refine Bool.eq_false_iff.mpr fun bottom => ?_
      have families := min_key _ other.end_ bottom (by omega)
      omega
    rw [decide_eq_false apart]
    rfl

lemma precedes_ok :
    range.precedes other = .ok (decide (range.end_.key + 1 = other.start.key)) := by
  unfold precedes
  split
  · rename_i case
    obtain ⟨next, same, counted⟩ := inc_key range.end_ case.2
    have equal : (next == other.start) = decide (range.end_.key + 1 = other.start.key) := by
      rw [Bool.eq_iff_iff, beq_iff, decide_eq_true_iff]
      omega
    rw [same, ← equal]
    rfl
  · rename_i case
    have apart : range.end_.key + 1 ≠ other.start.key := by
      intro next
      refine case ⟨(lt_iff _ _).mpr (by omega), ?_⟩
      refine Bool.eq_false_iff.mpr fun top => ?_
      have families := max_key _ other.start top (by omega)
      omega
    rw [decide_eq_false apart]
    rfl

lemma intersect_iff :
    range.isIntersect other = true ↔
      range.start.key ≤ other.end_.key ∧ other.start.key ≤ range.end_.key := by
  simp [isIntersect, le_iff]

lemma contains_iff :
    range.contains other = true ↔
      range.start.key ≤ other.start.key ∧ other.end_.key ≤ range.end_.key := by
  simp [contains, le_iff]

lemma minOf_key (other : IpAddress) : (ip.minOf other).key = min ip.key other.key := by
  unfold minOf
  split_ifs with case <;> rw [le_iff] at case <;> omega

lemma maxOf_key (other : IpAddress) : (ip.maxOf other).key = max ip.key other.key := by
  unfold maxOf
  split_ifs with case <;> rw [le_iff] at case <;> omega

lemma create_join (start end_ : IpAddress)
    (touch : range.start.key ≤ other.end_.key + 1 ∧ other.start.key ≤ range.end_.key + 1)
    (low : start.key = min range.start.key other.start.key)
    (high : end_.key = max range.end_.key other.end_.key) :
    ∃ whole, create start end_ = .ok whole ∧
      some whole.interval = join range.interval other.interval := by
  have range_bounds := range.bounds
  have other_bounds := other.bounds
  obtain ⟨whole, made, same_start, same_end⟩ := create_ok start end_ (by omega) (by omega)
  refine ⟨whole, made, ?_⟩
  rw [join_touching range.interval other.interval touch, Option.some_inj]
  exact interval_eq _ _ (by simp [same_start, low]) (by simp [same_end, high])

/-- `plus` never throws. It joins ranges that meet or touch. -/
lemma plus_refines :
    ∃ result, range.plus other = .ok result ∧
      result.map interval = join range.interval other.interval := by
  have range_bounds := range.bounds
  have other_bounds := other.bounds
  unfold plus
  rw [follows_ok, precedes_ok]
  by_cases after : other.end_.key + 1 = range.start.key
  · obtain ⟨whole, made, joined⟩ := create_join range other other.start range.end_
      (by omega) (by omega) (by omega)
    exact ⟨some whole, by simp [after, made], joined⟩
  · by_cases before : range.end_.key + 1 = other.start.key
    · obtain ⟨whole, made, joined⟩ := create_join range other range.start other.end_
        (by omega) (by omega) (by omega)
      exact ⟨some whole, by simp [after, before, made],
        joined⟩
    · by_cases meets : range.isIntersect other = true
      · have meeting := (intersect_iff range other).mp meets
        obtain ⟨whole, made, joined⟩ := create_join range other _ _ (by omega)
          (minOf_key range.start other.start) (maxOf_key range.end_ other.end_)
        exact ⟨some whole,
          by simp [after, before, meets, made], joined⟩
      · refine ⟨none, by simp [after, before, meets], ?_⟩
        rw [intersect_iff] at meets
        have apart : ¬ (range.start.key ≤ other.end_.key + 1 ∧
            other.start.key ≤ range.end_.key + 1) := by omega
        rw [join_distant range.interval other.interval apart, Option.map_none]

/-- The end of the lower part exists, because the two ranges lie in one family. -/
lemma below_refines (meets : range.isIntersect other = true) :
    ∃ pieces, range.below other = .ok pieces ∧ pieces.map interval =
      if lower : range.interval.lo < other.interval.lo then
        [⟨range.interval.lo, other.interval.lo - 1, by omega⟩] else [] := by
  have range_bounds := range.bounds
  have meeting := (intersect_iff range other).mp meets
  unfold below
  by_cases lower : range.start.key < other.start.key
  · have room : other.start.isMinIp = false := by
      refine Bool.eq_false_iff.mpr fun bottom => ?_
      have families := min_key _ range.start bottom lower
      omega
    obtain ⟨previous, counted, next⟩ := dec_key other.start room
    obtain ⟨piece, made, start, end_⟩ := create_ok range.start previous (by omega) (by omega)
    refine ⟨[piece], by simp [lt_iff, lower, counted, made], ?_⟩
    rw [dif_pos (show range.interval.lo < other.interval.lo from lower), List.map_singleton]
    congr 1
    exact interval_eq _ _ (by rw [start]; rfl) (by rw [end_]; simp; omega)
  · exact ⟨[], by simp [lt_iff, lower], by simp [lower]⟩

lemma above_refines (meets : range.isIntersect other = true) :
    ∃ pieces, range.above other = .ok pieces ∧ pieces.map interval =
      if higher : other.interval.hi < range.interval.hi then
        [⟨other.interval.hi + 1, range.interval.hi, higher⟩] else [] := by
  have range_bounds := range.bounds
  have meeting := (intersect_iff range other).mp meets
  unfold above
  by_cases higher : other.end_.key < range.end_.key
  · have room : other.end_.isMaxIp = false := by
      refine Bool.eq_false_iff.mpr fun top => ?_
      have families := max_key _ range.end_ top higher
      omega
    obtain ⟨next, counted, after⟩ := inc_key other.end_ room
    obtain ⟨piece, made, start, end_⟩ := create_ok next range.end_ (by omega) (by omega)
    refine ⟨[piece], by simp [lt_iff, higher, counted, made], ?_⟩
    rw [dif_pos (show other.interval.hi < range.interval.hi from higher), List.map_singleton]
    congr 1
    exact interval_eq _ _ (by rw [start, after]; rfl) (by rw [end_]; rfl)
  · exact ⟨[], by simp [lt_iff, higher], by simp [higher]⟩

/-- `minus` never throws. It cuts the other range out of one it meets. -/
lemma minus_refines :
    ∃ result, range.minus other = .ok result ∧
      result.map (List.map interval) = cut range.interval other.interval := by
  have range_bounds := range.bounds
  have meets_iff := intersect_iff range other
  have inside_iff := contains_iff other range
  unfold minus
  by_cases inside : other.contains range = true
  · have within := inside_iff.mp inside
    refine ⟨some [], by rw [if_pos inside]; rfl, ?_⟩
    rw [cut_meeting range.interval other.interval ⟨by simp; omega, by simp; omega⟩,
      dif_neg (by simp; omega), dif_neg (by simp; omega)]
    rfl
  · rw [if_neg inside]
    by_cases meets : range.isIntersect other = true
    · obtain ⟨lower, lower_made, lower_same⟩ := below_refines range other meets
      obtain ⟨upper, upper_made, upper_same⟩ := above_refines range other meets
      refine ⟨some (lower ++ upper),
        by simp [meets, lower_made, upper_made], ?_⟩
      rw [cut_meeting range.interval other.interval (meets_iff.mp meets), Option.map_some,
        List.map_append, lower_same, upper_same]
    · refine ⟨none, by simp [meets], ?_⟩
      rw [cut_distant range.interval other.interval (fun met => meets (meets_iff.mpr met)),
        Option.map_none]

end IpRange

end AbstractumVpn.Android
