import AbstractumVpn.QtText
import Mathlib.Data.List.TakeWhile

/-!
Numbers that `QString::number` writes are read back by the conversions of
`QString` as long as they are in range.
-/

namespace AbstractumVpn.QtText

def toLongLong (text : String) : Int :=
  ((signed (trimmed text.toList)).filter fun n =>
    -9223372036854775808 ≤ n ∧ n ≤ 9223372036854775807).getD 0

def number (value : Int) : String := Int.repr value

variable (value : Int) (text : String)

lemma trimmed_plain (text : List Char) (plain : ∀ c ∈ text, isSpace c = false) :
    trimmed text = text := by
  have front : text.dropWhile isSpace = text := by
    cases text with
    | nil => rfl
    | cons c rest => exact List.dropWhile_cons_of_neg (by simp [plain c List.mem_cons_self])
  have back : text.rdropWhile isSpace = text := by
    rw [List.rdropWhile_eq_self_iff]
    intro some_text
    simp [plain _ (List.getLast_mem some_text)]
  rw [trimmed_eq, front, back]

lemma decimal_digits (n : Nat) : decimal (Nat.toDigits 10 n) = some n := by
  have all : (Nat.toDigits 10 n).all Char.isDigit = true := by
    rw [List.all_eq_true]
    exact fun c member => Nat.isDigit_of_mem_toDigits (by decide) (by decide) member
  have value : (Nat.toDigits 10 n).foldl (fun value c => value * 10 + (c.toNat - '0'.toNat)) 0 = n := by
    have read : Nat.ofDigitChars 10 (Nat.toDigits 10 n) 0 = n :=
      Nat.ofDigitChars_toDigits (by decide) (by decide)
    simpa only [Nat.ofDigitChars, Nat.mul_comm 10] using read
  rw [decimal, if_pos ⟨Nat.toDigits_ne_nil, all⟩, value]

lemma digit_plain {n : Nat} {c : Char} (member : c ∈ Nat.toDigits 10 n) : isSpace c = false := by
  have digit : c.isDigit = true := Nat.isDigit_of_mem_toDigits (by decide) (by decide) member
  obtain ⟨low, high⟩ := Bool.and_eq_true_iff.mp digit
  have low : 48 ≤ c.toNat := UInt32.le_iff_toNat_le.mp (of_decide_eq_true low)
  have high : c.toNat ≤ 57 := UInt32.le_iff_toNat_le.mp (of_decide_eq_true high)
  simp only [isSpace]
  simp
  omega

lemma signed_digits (n : Nat) : signed (Nat.toDigits 10 n) = some (n : Int) := by
  have digits := decimal_digits n
  cases text : Nat.toDigits 10 n with
  | nil => exact absurd text Nat.toDigits_ne_nil
  | cons c rest =>
    have first : c.isDigit = true :=
      Nat.isDigit_of_mem_toDigits (by decide) (by decide) (text ▸ List.mem_cons_self)
    rw [text] at digits
    unfold signed
    split
    · rename_i same
      rw [(List.cons.inj same).1] at first
      exact absurd first (by decide)
    · rename_i same
      rw [(List.cons.inj same).1] at first
      exact absurd first (by decide)
    · rw [digits]
      rfl

lemma signed_number : signed (trimmed (number value).toList) = some value := by
  cases value with
  | ofNat n =>
    have text : (number (Int.ofNat n)).toList = Nat.toDigits 10 n := Nat.toList_repr
    rw [text, trimmed_plain _ fun c member => digit_plain member, signed_digits]
    rfl
  | negSucc n =>
    have text : (number (Int.negSucc n)).toList = '-' :: Nat.toDigits 10 (n + 1) := by
      rw [number, Int.repr, String.toList_append, Nat.toList_repr]
      rfl
    have plain : ∀ c ∈ '-' :: Nat.toDigits 10 (n + 1), isSpace c = false := by
      intro c member
      rcases List.mem_cons.mp member with rfl | digit
      · rfl
      · exact digit_plain digit
    rw [text, trimmed_plain _ plain]
    unfold signed
    simp only [decimal_digits]
    rfl

lemma toInt_number (low : -2147483648 ≤ value) (high : value ≤ 2147483647) :
    toInt (number value) = value := by
  rw [toInt, toInt?, signed_number, Option.filter_some, if_pos (by simp [low, high]), Option.getD_some]

lemma toLongLong_number (low : -9223372036854775808 ≤ value) (high : value ≤ 9223372036854775807) :
    toLongLong (number value) = value := by
  rw [toLongLong, signed_number, Option.filter_some, if_pos (by simp [low, high]), Option.getD_some]

lemma toInt_range : -2147483648 ≤ toInt text ∧ toInt text ≤ 2147483647 := by
  rw [toInt, toInt?]
  cases found : (signed (trimmed text.toList)).filter fun n => -2147483648 ≤ n ∧ n ≤ 2147483647 with
  | none => decide
  | some n => simpa using (Option.filter_eq_some_iff.mp found).2

lemma toLongLong_range :
    -9223372036854775808 ≤ toLongLong text ∧ toLongLong text ≤ 9223372036854775807 := by
  rw [toLongLong]
  cases found : (signed (trimmed text.toList)).filter fun n =>
      -9223372036854775808 ≤ n ∧ n ≤ 9223372036854775807 with
  | none => decide
  | some n => simpa using (Option.filter_eq_some_iff.mp found).2

end AbstractumVpn.QtText
