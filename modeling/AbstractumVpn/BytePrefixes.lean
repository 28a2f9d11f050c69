import AbstractumVpn.BigEndian

/-!
Strings of bytes of which the first bits are kept: the smallest and the greatest
string that agree with a given one there, and the number of zero bits at the
end.
-/

namespace BigEndian

def byteMask (bits : Nat) : UInt8 := UInt8.ofNat (255 <<< (8 - bits % 8))

def lowest (bits : Nat) (bytes : List UInt8) : List UInt8 :=
  match bytes.drop (bits / 8) with
  | [] => bytes
  | byte :: rest =>
    bytes.take (bits / 8) ++ (byte &&& byteMask bits) :: rest.map fun _ => 0

def highest (bits : Nat) (bytes : List UInt8) : List UInt8 :=
  match bytes.drop (bits / 8) with
  | [] => bytes
  | byte :: rest =>
    bytes.take (bits / 8) ++ (byte ||| ~~~ byteMask bits) :: rest.map fun _ => 255

def fillLittle : Nat → List UInt8 → List UInt8
  | 0, bytes => bytes
  | _, [] => []
  | bits, byte :: rest =>
    if 8 < bits then (byte ||| 255) :: fillLittle (bits - 8) rest
    else (byte ||| ~~~ UInt8.ofNat (255 <<< bits)) :: rest

def fill (bits : Nat) (bytes : List UInt8) : List UInt8 := (fillLittle bits bytes.reverse).reverse

def trailingZeroBits (byte : UInt8) : Nat :=
  ((List.range 8).takeWhile fun k => !byte.toNat.testBit k).length

def zeroBitsLittle : List UInt8 → Nat
  | [] => 0
  | byte :: rest =>
    if trailingZeroBits byte = 8 then 8 + zeroBitsLittle rest else trailingZeroBits byte

def zeroBits (bytes : List UInt8) : Nat := zeroBitsLittle bytes.reverse

variable (byte : UInt8) (bits : Nat) (bytes : List UInt8)

lemma masked_low (kept : Nat) (bound : kept < 8) :
    (byte &&& UInt8.ofNat (255 <<< (8 - kept))).toNat =
      byte.toNat / 2 ^ (8 - kept) * 2 ^ (8 - kept) := by
  have all : ∀ (byte : Fin 256) (kept : Fin 8),
      byte.val &&& (255 <<< (8 - kept.val)) % 256 =
        byte.val / 2 ^ (8 - kept.val) * 2 ^ (8 - kept.val) := by
    decide +kernel
  simpa using all ⟨byte.toNat, byte.toNat_lt⟩ ⟨kept, bound⟩

lemma masked_high (kept : Nat) (bound : kept < 8) :
    (byte ||| ~~~ UInt8.ofNat (255 <<< (8 - kept))).toNat =
      byte.toNat / 2 ^ (8 - kept) * 2 ^ (8 - kept) + (2 ^ (8 - kept) - 1) := by
  have all : ∀ (byte : Fin 256) (kept : Fin 8),
      byte.val ||| (255 - (255 <<< (8 - kept.val)) % 256) =
        byte.val / 2 ^ (8 - kept.val) * 2 ^ (8 - kept.val) + (2 ^ (8 - kept.val) - 1) := by
    decide +kernel
  simpa using all ⟨byte.toNat, byte.toNat_lt⟩ ⟨kept, bound⟩

lemma filled_full : (byte ||| 255).toNat = 255 := by
  have all : ∀ byte : Fin 256, byte.val ||| 255 = 255 := by decide +kernel
  simpa using all ⟨byte.toNat, byte.toNat_lt⟩

lemma trailing_divides : 2 ^ trailingZeroBits byte ∣ byte.toNat ∧ trailingZeroBits byte ≤ 8 := by
  have all : ∀ byte : Fin 256,
      2 ^ ((List.range 8).takeWhile fun k => !byte.val.testBit k).length ∣ byte.val ∧
        ((List.range 8).takeWhile fun k => !byte.val.testBit k).length ≤ 8 := by
    decide +kernel
  exact all ⟨byte.toNat, byte.toNat_lt⟩

lemma trailing_greatest (bound : bits ≤ 8) (divides : 2 ^ bits ∣ byte.toNat) :
    bits ≤ trailingZeroBits byte := by
  have all : ∀ (byte : Fin 256) (bits : Fin 9), 2 ^ bits.val ∣ byte.val →
      bits.val ≤ ((List.range 8).takeWhile fun k => !byte.val.testBit k).length := by
    decide +kernel
  exact all ⟨byte.toNat, byte.toNat_lt⟩ ⟨bits, by omega⟩ divides

@[simp] lemma lowest_length : (lowest bits bytes).length = bytes.length := by
  unfold lowest
  split
  · rfl
  · rename_i byte rest split
    have parts := congrArg List.length (List.take_append_drop (bits / 8) bytes)
    rw [split] at parts
    simpa using parts

@[simp] lemma highest_length : (highest bits bytes).length = bytes.length := by
  unfold highest
  split
  · rfl
  · rename_i byte rest split
    have parts := congrArg List.length (List.take_append_drop (bits / 8) bytes)
    rw [split] at parts
    simpa using parts

lemma value_append (front back : List UInt8) :
    value (front ++ back) = value front * 256 ^ back.length + value back := by
  induction front with
  | nil => simp
  | cons byte rest ih =>
    rw [List.cons_append, value_cons, value_cons, ih, List.length_append, Nat.pow_add]
    ring

lemma value_zeros : value (bytes.map fun _ => 0) = 0 := by
  rw [← value_zero_iff]
  simp

lemma value_ones : value (bytes.map fun _ => 255) = 256 ^ bytes.length - 1 := by
  have top := (value_top_iff (bytes.map fun _ => (255 : UInt8))).mp (by simp)
  rw [List.length_map] at top
  omega

lemma pow_bytes (width low : Nat) : 2 ^ (8 * width + low) = 256 ^ width * 2 ^ low := by
  rw [Nat.pow_add, Nat.pow_mul]

lemma byte_parts {low : Nat} (bound : low ≤ 8) : (256 : Nat) = 2 ^ low * 2 ^ (8 - low) := by
  rw [← Nat.pow_add, Nat.add_sub_cancel' bound]

lemma quotient_parts (front byte back width low : Nat) (small : back < 256 ^ width)
    (bound : low ≤ 8) :
    ((front * 256 + byte) * 256 ^ width + back) / 2 ^ (8 * width + low) =
      front * 2 ^ (8 - low) + byte / 2 ^ low := by
  rw [pow_bytes, ← Nat.div_div_eq_div_mul, Nat.mul_comm _ (256 ^ width),
    Nat.mul_add_div (Nat.pow_pos (by decide)), Nat.div_eq_of_lt small, Nat.add_zero]
  nth_rewrite 1 [byte_parts bound]
  rw [Nat.mul_comm front, Nat.mul_assoc, Nat.mul_add_div (Nat.pow_pos (by decide)),
    Nat.mul_comm front]

structure Cut (bits : Nat) (bytes : List UInt8) (byte : UInt8) (rest : List UInt8) : Prop where
  drop : bytes.drop (bits / 8) = byte :: rest
  left : 8 * bytes.length - bits = 8 * rest.length + (8 - bits % 8)
  number : value bytes =
    (value (bytes.take (bits / 8)) * 256 + byte.toNat) * 256 ^ rest.length + value rest

lemma cut_cases (bound : bits ≤ 8 * bytes.length) :
    (bytes.drop (bits / 8) = [] ∧ 8 * bytes.length - bits = 0) ∨
      ∃ byte rest, Cut bits bytes byte rest := by
  have counted := List.length_drop (i := bits / 8) (l := bytes)
  cases split : bytes.drop (bits / 8) with
  | nil =>
    rw [split, List.length_nil] at counted
    exact Or.inl ⟨rfl, by omega⟩
  | cons byte rest =>
    rw [split, List.length_cons] at counted
    refine Or.inr ⟨byte, rest, split, by omega, ?_⟩
    have parts := List.take_append_drop (bits / 8) bytes
    rw [split] at parts
    rw [← parts, value_append, value_cons, List.length_cons, Nat.pow_succ]
    have kept : (bytes.take (bits / 8) ++ byte :: rest).take (bits / 8) =
        bytes.take (bits / 8) := by
      rw [parts]
    rw [kept]
    ring

lemma parts_number (front byte width low : Nat) (bound : low ≤ 8) :
    (front * 256 + byte / 2 ^ low * 2 ^ low) * 256 ^ width =
      (front * 2 ^ (8 - low) + byte / 2 ^ low) * 2 ^ (8 * width + low) := by
  rw [pow_bytes]
  nth_rewrite 1 [byte_parts bound]
  ring

lemma value_kept (bound : bits ≤ 8 * bytes.length) :
    value bytes / 2 ^ (8 * bytes.length - bits) =
      value (bytes.take (bits / 8)) * 2 ^ (bits % 8) +
        (bytes.getD (bits / 8) 0).toNat / 2 ^ (8 - bits % 8) := by
  rcases cut_cases bits bytes bound with ⟨all, none_left⟩ | ⟨byte, rest, cut⟩
  · have whole : bits = 8 * bytes.length := by omega
    simp [whole]
  · have few : 8 - bits % 8 ≤ 8 := Nat.sub_le _ _
    have rounded : 8 - (8 - bits % 8) = bits % 8 := by omega
    have first : bytes.getD (bits / 8) 0 = byte := by
      rw [List.getD_eq_getElem?_getD, ← List.head?_drop, cut.drop]
      rfl
    rw [cut.left, cut.number, quotient_parts _ _ _ _ _ (value_lt rest) few, rounded, first]

lemma value_lowest (bound : bits ≤ 8 * bytes.length) :
    value (lowest bits bytes) =
      value bytes / 2 ^ (8 * bytes.length - bits) * 2 ^ (8 * bytes.length - bits) := by
  rcases cut_cases bits bytes bound with ⟨all, none_left⟩ | ⟨byte, rest, cut⟩
  · simp [lowest, all, none_left]
  · have few : 8 - bits % 8 ≤ 8 := Nat.sub_le _ _
    rw [cut.left, cut.number, quotient_parts _ _ _ _ _ (value_lt rest) few,
      ← parts_number _ _ _ _ few]
    simp only [lowest, cut.drop]
    rw [value_append, value_cons, value_zeros, byteMask, masked_low byte (bits % 8) (by omega),
      List.length_cons, List.length_map, Nat.pow_succ]
    ring

lemma value_highest (bound : bits ≤ 8 * bytes.length) :
    value (highest bits bytes) =
      value bytes / 2 ^ (8 * bytes.length - bits) * 2 ^ (8 * bytes.length - bits) +
        (2 ^ (8 * bytes.length - bits) - 1) := by
  rcases cut_cases bits bytes bound with ⟨all, none_left⟩ | ⟨byte, rest, cut⟩
  · simp [highest, all, none_left]
  · have few : 8 - bits % 8 ≤ 8 := Nat.sub_le _ _
    have ones : 2 ^ (8 * rest.length + (8 - bits % 8)) - 1 =
        (2 ^ (8 - bits % 8) - 1) * 256 ^ rest.length + (256 ^ rest.length - 1) := by
      have some_one : 1 ≤ 256 ^ rest.length := Nat.one_le_two_pow.trans (Nat.pow_le_pow_left (by decide) _)
      rw [Nat.pow_add, Nat.pow_mul, Nat.sub_mul, Nat.one_mul, Nat.mul_comm]
      have enough : 256 ^ rest.length ≤ 2 ^ (8 - bits % 8) * 256 ^ rest.length :=
        Nat.le_mul_of_pos_left _ (Nat.pow_pos (by decide))
      change 2 ^ (8 - bits % 8) * 256 ^ rest.length - 1 = _
      omega
    rw [cut.left, cut.number, quotient_parts _ _ _ _ _ (value_lt rest) few,
      ← parts_number _ _ _ _ few, ones]
    simp only [highest, cut.drop]
    rw [value_append, value_cons, value_ones, byteMask, masked_high byte (bits % 8) (by omega),
      List.length_cons, List.length_map, Nat.pow_succ]
    ring

@[simp] lemma fillLittle_length : (fillLittle bits bytes).length = bytes.length := by
  fun_induction fillLittle bits bytes <;> simp_all

@[simp] lemma fill_length : (fill bits bytes).length = bytes.length := by
  simp [fill]

lemma little_fill (aligned : 2 ^ bits ∣ little bytes) (bound : bits ≤ 8 * bytes.length) :
    little (fillLittle bits bytes) = little bytes + (2 ^ bits - 1) := by
  fun_induction fillLittle bits bytes with
  | case1 => simp
  | case2 bits positive => exact absurd (Nat.le_zero.mp bound) positive
  | case3 bits byte rest _ many ih =>
    -- more than a byte is aligned, so the last byte is zero
    have unit : 2 ^ bits = 256 * 2 ^ (bits - 8) := by
      rw [← Nat.pow_add 2 8, Nat.add_sub_cancel' (Nat.le_of_lt many)]
    rw [little_cons] at aligned
    have zero : byte.toNat = 0 := by
      have whole : 256 ∣ byte.toNat + 256 * little rest :=
        (Dvd.intro _ unit.symm).trans aligned
      have divides := (Nat.dvd_add_left (Dvd.intro _ rfl)).mp whole
      exact Nat.eq_zero_of_dvd_of_lt divides byte.toNat_lt
    rw [zero, Nat.zero_add, unit] at aligned
    have later := ih (Nat.dvd_of_mul_dvd_mul_left (by decide) aligned)
      (by rw [List.length_cons] at bound; omega)
    have some_one : 1 ≤ 2 ^ (bits - 8) := Nat.one_le_two_pow
    rw [little_cons, little_cons, filled_full, later, zero, unit]
    omega
  | case4 bits byte rest positive few =>
    have aligned_byte : 2 ^ bits ∣ byte.toNat := by
      rw [little_cons] at aligned
      have unit : 2 ^ bits ∣ 256 := pow_dvd_pow 2 (Nat.le_of_not_lt few)
      exact (Nat.dvd_add_left (unit.trans (Dvd.intro _ rfl))).mp aligned
    have some_bit : 0 < bits := Nat.pos_of_ne_zero positive
    have kept : 8 - (8 - bits) = bits := by omega
    have filled := masked_high byte (8 - bits) (by omega)
    rw [kept, Nat.div_mul_cancel aligned_byte] at filled
    rw [little_cons, little_cons, filled]
    omega

lemma value_fill (aligned : 2 ^ bits ∣ value bytes) (bound : bits ≤ 8 * bytes.length) :
    value (fill bits bytes) = value bytes + (2 ^ bits - 1) := by
  simpa [value, fill] using little_fill bits bytes.reverse aligned (by simpa using bound)

lemma little_zeroBits :
    2 ^ zeroBitsLittle bytes ∣ little bytes ∧ zeroBitsLittle bytes ≤ 8 * bytes.length := by
  fun_induction zeroBitsLittle bytes with
  | case1 => simp
  | case2 byte rest all ih =>
    obtain ⟨divides, -⟩ := trailing_divides byte
    rw [all] at divides
    have zero : byte.toNat = 0 := Nat.eq_zero_of_dvd_of_lt divides byte.toNat_lt
    rw [little_cons, zero, Nat.zero_add, Nat.pow_add, List.length_cons]
    exact ⟨Nat.mul_dvd_mul_left _ ih.1, by omega⟩
  | case3 byte rest some_left =>
    obtain ⟨divides, few⟩ := trailing_divides byte
    have unit : 2 ^ trailingZeroBits byte ∣ 256 := pow_dvd_pow 2 few
    rw [little_cons, List.length_cons]
    exact ⟨Nat.dvd_add divides (unit.trans (Dvd.intro _ rfl)), by omega⟩

lemma value_zeroBits : 2 ^ zeroBits bytes ∣ value bytes ∧ zeroBits bytes ≤ 8 * bytes.length := by
  simpa [value, zeroBits] using little_zeroBits bytes.reverse

lemma little_zeroBits_greatest (bits : Nat) (bound : bits ≤ 8 * bytes.length)
    (divides : 2 ^ bits ∣ little bytes) : bits ≤ zeroBitsLittle bytes := by
  fun_induction zeroBitsLittle bytes generalizing bits with
  | case1 => simpa using bound
  | case2 byte rest all ih =>
    obtain ⟨eight, -⟩ := trailing_divides byte
    rw [all] at eight
    have zero : byte.toNat = 0 := Nat.eq_zero_of_dvd_of_lt eight byte.toNat_lt
    rw [little_cons, zero, Nat.zero_add] at divides
    rw [List.length_cons] at bound
    by_cases few : bits ≤ 8
    · omega
    · have unit : 2 ^ bits = 256 * 2 ^ (bits - 8) := by
        rw [← Nat.pow_add 2 8, Nat.add_sub_cancel' (by omega)]
      rw [unit] at divides
      have later := ih (bits - 8) (by omega) (Nat.dvd_of_mul_dvd_mul_left (by decide) divides)
      omega
  | case3 byte rest some_left =>
    -- the last byte is not zero, so not all of its bits divide
    have at_byte : ∀ few ≤ 8, few ≤ bits → few ≤ trailingZeroBits byte := by
      intro few bounded fewer
      have unit : 2 ^ few ∣ 256 * little rest :=
        (pow_dvd_pow 2 bounded : 2 ^ few ∣ 256).trans (Dvd.intro _ rfl)
      have whole : 2 ^ few ∣ byte.toNat + 256 * little rest := by
        exact (pow_dvd_pow 2 fewer).trans divides
      exact trailing_greatest byte few bounded ((Nat.dvd_add_left unit).mp whole)
    by_cases few : bits ≤ 8
    · exact at_byte bits few (Nat.le_refl _)
    · have eight := at_byte 8 (Nat.le_refl _) (by omega)
      exact absurd (Nat.le_antisymm (trailing_divides byte).2 eight) some_left

lemma zeroBits_greatest (bits : Nat) (bound : bits ≤ 8 * bytes.length)
    (divides : 2 ^ bits ∣ value bytes) : bits ≤ zeroBits bytes :=
  little_zeroBits_greatest bytes.reverse bits (by simpa using bound) divides

lemma value_le_fill : value bytes ≤ value (fill bits bytes) := by
  have littles : ∀ bits bytes, little bytes ≤ little (fillLittle bits bytes) := by
    intro bits bytes
    fun_induction fillLittle bits bytes with
    | case1 => exact Nat.le_refl _
    | case2 => exact Nat.le_refl _
    | case3 bits byte rest _ many ih =>
      have small := byte.toNat_lt
      rw [little_cons, little_cons, filled_full]
      omega
    | case4 bits byte rest positive few =>
      have grown : byte.toNat ≤ (byte ||| ~~~ UInt8.ofNat (255 <<< bits)).toNat := by
        exact Nat.left_le_or
      rw [little_cons, little_cons]
      omega
  simpa [value, fill] using littles bits bytes.reverse

end BigEndian
