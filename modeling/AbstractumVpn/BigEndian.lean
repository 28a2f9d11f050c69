import Mathlib.Data.Nat.Digits.Lemmas

/-!
Strings of bytes read as numbers, most significant byte first. Counting goes on
from the last byte as long as a byte wraps around, so the loops are written over
the reversed string.
-/

namespace BigEndian

def little (bytes : List UInt8) : Nat := Nat.ofDigits 256 (bytes.map UInt8.toNat)

def value (bytes : List UInt8) : Nat := little bytes.reverse

def carry : List UInt8 → List UInt8
  | [] => []
  | byte :: rest => if byte + 1 ≠ 0 then (byte + 1) :: rest else (byte + 1) :: carry rest

def borrow : List UInt8 → List UInt8
  | [] => []
  | byte :: rest => if byte - 1 ≠ 255 then (byte - 1) :: rest else (byte - 1) :: borrow rest

def increment (bytes : List UInt8) : List UInt8 := (carry bytes.reverse).reverse

def decrement (bytes : List UInt8) : List UInt8 := (borrow bytes.reverse).reverse

def compareBytes : List UInt8 → List UInt8 → Int
  | a :: as, b :: bs =>
    let d : Int := (a.toNat : Int) - b.toNat
    if d ≠ 0 then d else compareBytes as bs
  | _, _ => 0

variable (bytes : List UInt8)

@[simp] lemma carry_length : (carry bytes).length = bytes.length := by
  induction bytes with
  | nil => rfl
  | cons byte rest ih =>
    unfold carry
    split <;> simp [ih]

@[simp] lemma borrow_length : (borrow bytes).length = bytes.length := by
  induction bytes with
  | nil => rfl
  | cons byte rest ih =>
    unfold borrow
    split <;> simp [ih]

@[simp] lemma increment_length : (increment bytes).length = bytes.length := by
  simp [increment]

@[simp] lemma decrement_length : (decrement bytes).length = bytes.length := by
  simp [decrement]

@[simp] lemma little_nil : little [] = 0 := rfl

@[simp] lemma little_cons (byte : UInt8) (rest : List UInt8) :
    little (byte :: rest) = byte.toNat + 256 * little rest := by
  simp [little, Nat.ofDigits_cons]

lemma little_lt : little bytes < 256 ^ bytes.length := by
  have digits : ∀ digit ∈ bytes.map UInt8.toNat, digit < 256 := by
    intro digit member
    obtain ⟨byte, -, same⟩ := List.mem_map.mp member
    exact same ▸ byte.toNat_lt
  simpa [little] using Nat.ofDigits_lt_base_pow_length (by decide) digits

lemma value_lt : value bytes < 256 ^ bytes.length := by
  simpa [value] using little_lt bytes.reverse

@[simp] lemma value_nil : value [] = 0 := rfl

lemma value_cons (byte : UInt8) (rest : List UInt8) :
    value (byte :: rest) = byte.toNat * 256 ^ rest.length + value rest := by
  simp [value, little, Nat.ofDigits_append, Nat.mul_comm, Nat.add_comm]

lemma little_inj {bytes others : List UInt8} (length : bytes.length = others.length)
    (same : little bytes = little others) : bytes = others := by
  induction bytes generalizing others with
  | nil => exact (List.length_eq_zero_iff.mp length.symm).symm
  | cons byte rest ih =>
    cases others with
    | nil => cases length
    | cons other others =>
      have small := byte.toNat_lt
      have small' := other.toNat_lt
      rw [little_cons, little_cons] at same
      have first : byte = other := UInt8.toNat_inj.mp (by omega)
      rw [first, ih (Nat.succ.inj length) (by omega)]

lemma value_inj {bytes others : List UInt8} (length : bytes.length = others.length)
    (same : value bytes = value others) : bytes = others :=
  List.reverse_injective (little_inj (by simpa using length) same)

lemma little_zero_iff : bytes.all (· == 0) = true ↔ little bytes = 0 := by
  induction bytes with
  | nil => simp
  | cons byte rest ih =>
    have zero : (byte == 0) = true ↔ byte.toNat = 0 := by
      rw [beq_iff_eq, ← UInt8.toNat_inj]
      rfl
    rw [List.all_cons, Bool.and_eq_true, zero, ih, little_cons]
    omega

lemma little_top_iff : bytes.all (· == 255) = true ↔ little bytes + 1 = 256 ^ bytes.length := by
  induction bytes with
  | nil => simp
  | cons byte rest ih =>
    have top : (byte == 255) = true ↔ byte.toNat = 255 := by
      rw [beq_iff_eq, ← UInt8.toNat_inj]
      rfl
    have small := byte.toNat_lt
    rw [List.all_cons, Bool.and_eq_true, top, ih, little_cons, List.length_cons, Nat.pow_succ]
    omega

lemma value_zero_iff : bytes.all (· == 0) = true ↔ value bytes = 0 := by
  rw [value, ← little_zero_iff, List.all_reverse]

lemma value_top_iff : bytes.all (· == 255) = true ↔ value bytes + 1 = 256 ^ bytes.length := by
  rw [value, ← List.length_reverse, ← little_top_iff, List.all_reverse]

lemma little_carry (room : little bytes + 1 ≠ 256 ^ bytes.length) :
    little (carry bytes) = little bytes + 1 := by
  induction bytes with
  | nil => simp at room
  | cons byte rest ih =>
    have small := byte.toNat_lt
    have next : (byte + 1).toNat = (byte.toNat + 1) % 256 := by simp
    have wraps : byte + 1 ≠ 0 ↔ byte.toNat ≠ 255 := by
      rw [ne_eq, ← UInt8.toNat_inj, next]
      simp
      omega
    unfold carry
    split
    · rename_i stays
      rw [little_cons, little_cons, next]
      have := wraps.mp stays
      omega
    · rename_i wrapped
      have full : byte.toNat = 255 := by
        by_contra other
        exact wrapped (wraps.mpr other)
      have later : little (carry rest) = little rest + 1 := by
        refine ih fun top => room ?_
        rw [little_cons, List.length_cons, Nat.pow_succ, full]
        omega
      rw [little_cons, little_cons, next, later, full]
      omega

lemma little_borrow (room : little bytes ≠ 0) : little (borrow bytes) + 1 = little bytes := by
  induction bytes with
  | nil => exact absurd rfl room
  | cons byte rest ih =>
    have small := byte.toNat_lt
    have previous : (byte - 1).toNat = (byte.toNat + 255) % 256 := by
      rw [UInt8.toNat_sub]
      simp [Nat.add_comm]
    have wraps : byte - 1 ≠ 255 ↔ byte.toNat ≠ 0 := by
      rw [ne_eq, ← UInt8.toNat_inj, previous]
      simp
      omega
    unfold borrow
    split
    · rename_i stays
      rw [little_cons, little_cons, previous]
      have := wraps.mp stays
      omega
    · rename_i under
      have empty : byte.toNat = 0 := by
        by_contra other
        exact under (wraps.mpr other)
      have later : little (borrow rest) + 1 = little rest := by
        refine ih fun none => room ?_
        rw [little_cons, none, empty]
      rw [little_cons, little_cons, previous, empty]
      omega

lemma value_increment (room : value bytes + 1 ≠ 256 ^ bytes.length) :
    value (increment bytes) = value bytes + 1 := by
  simpa [value, increment] using little_carry bytes.reverse (by simpa [value] using room)

lemma value_decrement (room : value bytes ≠ 0) : value (decrement bytes) + 1 = value bytes := by
  simpa [value, decrement] using little_borrow bytes.reverse room

/-- Strings of one length are compared as the numbers they stand for. -/
lemma compare_value (as bs : List UInt8) (same : as.length = bs.length) :
    (compareBytes as bs < 0 ↔ value as < value bs) ∧
      (compareBytes as bs = 0 ↔ value as = value bs) := by
  induction as generalizing bs with
  | nil =>
    cases bs with
    | nil => simp [compareBytes]
    | cons b bs => cases same
  | cons a as ih =>
    cases bs with
    | nil => cases same
    | cons b bs =>
      have rest : as.length = bs.length := Nat.succ.inj same
      have later := ih bs rest
      have as_lt := value_lt as
      have bs_lt := value_lt bs
      rw [rest] at as_lt
      rw [value_cons, value_cons, rest]
      unfold compareBytes
      generalize 256 ^ bs.length = unit at *
      rcases Nat.lt_trichotomy a.toNat b.toNat with less | equal | more
      · -- the first bytes differ by at least one unit, more than the rest can make up for
        have gap : (a.toNat + 1) * unit ≤ b.toNat * unit := Nat.mul_le_mul_right unit less
        rw [Nat.add_mul] at gap
        simp only
        split <;> omega
      · simp only [equal]
        constructor
        · omega
        · omega
      · have gap : (b.toNat + 1) * unit ≤ a.toNat * unit := Nat.mul_le_mul_right unit more
        rw [Nat.add_mul] at gap
        simp only
        split <;> omega

end BigEndian
