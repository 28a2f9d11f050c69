import Mathlib.Data.List.DropRight

/-!
Qt's conversions of text to machine integers in the C locale: white space at
both ends is dropped, one sign may stand in front, and the rest must be decimal
digits whose value fits the type. And Qt's `split` and `arg`.
-/

namespace AbstractumVpn.QtText

def isSpace (c : Char) : Bool :=
  let n := c.toNat
  (9 ≤ n && n ≤ 13) || n == 0x20 || n == 0x85 || n == 0xa0 || n == 0x1680 ||
    (0x2000 ≤ n && n ≤ 0x200a) || n == 0x2028 || n == 0x2029 || n == 0x202f ||
    n == 0x205f || n == 0x3000

def trimmed (text : List Char) : List Char :=
  ((text.dropWhile isSpace).reverse.dropWhile isSpace).reverse

variable (separator piece : List Char) (mark : Char) (others text : List Char)

lemma trimmed_eq : trimmed text = (text.dropWhile isSpace).rdropWhile isSpace := rfl

lemma trimmed_trimmed : trimmed (trimmed text) = trimmed text := by
  rw [trimmed_eq, trimmed_eq]
  have front : ((text.dropWhile isSpace).rdropWhile isSpace).dropWhile isSpace =
      (text.dropWhile isSpace).rdropWhile isSpace := by
    -- dropping at the end leaves the first character, which is no space
    obtain ⟨dropped, parts⟩ := List.rdropWhile_prefix isSpace (l := text.dropWhile isSpace)
    cases kept : (text.dropWhile isSpace).rdropWhile isSpace with
    | nil => rfl
    | cons first rest =>
      rw [kept] at parts
      have settled := List.dropWhile_idempotent isSpace text
      rw [← parts, List.cons_append] at settled
      cases space : isSpace first with
      | false => rw [List.dropWhile_cons_of_neg (by simp [space])]
      | true =>
        rw [List.dropWhile_cons_of_pos space] at settled
        have shorter := congrArg List.length settled
        have bound := (List.dropWhile_sublist isSpace (l := rest ++ dropped)).length_le
        simp only [List.length_cons] at shorter
        omega
  rw [front, List.rdropWhile_idempotent]

def decimal (text : List Char) : Option Nat :=
  if text ≠ [] ∧ text.all Char.isDigit then
    some (text.foldl (fun value c => value * 10 + (c.toNat - '0'.toNat)) 0)
  else none

def toUInt (text : String) : Option Nat :=
  let number := match trimmed text.toList with
    | '+' :: rest => decimal rest
    | rest => decimal rest
  number.filter (· < 4294967296)

def signed (text : List Char) : Option Int :=
  match text with
  | '+' :: rest => (decimal rest).map fun n => (n : Int)
  | '-' :: rest => (decimal rest).map fun n => -(n : Int)
  | rest => (decimal rest).map fun n => (n : Int)

/-- The number and whether there is one, which `toInt(&ok)` tells apart. -/
def toInt? (text : String) : Option Int :=
  (signed (trimmed text.toList)).filter fun n => -2147483648 ≤ n ∧ n ≤ 2147483647

def toInt (text : String) : Int := (toInt? text).getD 0

/-- The pieces of a text, with `skip` characters of a separator still to be
passed and the present piece collected in reverse. -/
def splitFrom (separator : List Char) : Nat → List Char → List Char → List (List Char)
  | _, piece, [] => [piece.reverse]
  | skip + 1, piece, _ :: rest => splitFrom separator skip piece rest
  | 0, piece, c :: rest =>
    if separator.isPrefixOf (c :: rest)
    then piece.reverse :: splitFrom separator (separator.length - 1) [] rest
    else splitFrom separator 0 (c :: piece) rest

def split (text separator : String) : List String :=
  (splitFrom separator.toList 0 [] text.toList).map String.ofList

lemma splitFrom_absent (marked : mark ∈ separator) (piece text : List Char) (absent : mark ∉ text) :
    splitFrom separator 0 piece text = [piece.reverse ++ text] := by
  induction text generalizing piece with
  | nil => simp [splitFrom]
  | cons c rest ih =>
    -- a separator that starts here would bring its mark along
    have not_here : separator.isPrefixOf (c :: rest) = false := by
      rw [Bool.eq_false_iff]
      intro here
      exact absent ((List.isPrefixOf_iff_prefix.mp here).subset marked)
    rw [splitFrom, not_here, if_neg (by decide),
      ih (c :: piece) fun later => absent (List.mem_cons_of_mem c later)]
    simp

lemma splitFrom_skip (skip : Nat) :
    splitFrom separator skip piece text = splitFrom separator 0 piece (text.drop skip) := by
  induction text generalizing skip with
  | nil => simp [splitFrom]
  | cons c rest ih =>
    cases skip with
    | zero => rfl
    | succ skip => rw [splitFrom, ih skip, List.drop_succ_cons]

lemma splitFrom_ne_nil (skip : Nat) : splitFrom separator skip piece text ≠ [] := by
  fun_induction splitFrom separator skip piece text with
  | case1 => exact List.cons_ne_nil _ _
  | case2 piece skip c rest ih => exact ih
  | case3 => exact List.cons_ne_nil _ _
  | case4 piece c rest other ih => exact ih

lemma splitFrom_first (piece front back : List Char) (absent : mark ∉ front) :
    splitFrom (mark :: others) 0 piece (front ++ mark :: (others ++ back)) =
      (piece.reverse ++ front) :: splitFrom (mark :: others) 0 [] back := by
  induction front generalizing piece with
  | nil =>
    have here : (mark :: others).isPrefixOf (mark :: (others ++ back)) = true :=
      List.isPrefixOf_iff_prefix.mpr ⟨back, rfl⟩
    rw [List.nil_append, splitFrom, if_pos here, splitFrom_skip, List.append_nil]
    simp
  | cons c rest ih =>
    obtain ⟨other, later⟩ := not_or.mp (fun either => absent (List.mem_cons.mpr either))
    have not_here : (mark :: others).isPrefixOf (c :: (rest ++ mark :: (others ++ back))) = false := by
      rw [Bool.eq_false_iff]
      intro here
      exact other (List.cons_prefix_cons.mp (List.isPrefixOf_iff_prefix.mp here)).1
    rw [List.cons_append, splitFrom, not_here, if_neg (by decide), ih (c :: piece) later]
    simp

lemma splitFrom_front (separator : Char) (piece front back : List Char)
    (absent : separator ∉ front) :
    splitFrom [separator] 0 piece (front ++ separator :: back) =
      (piece.reverse ++ front) :: splitFrom [separator] 0 [] back :=
  splitFrom_first separator [] piece front back absent

lemma joined_splitFrom (piece text : List Char) :
    (mark :: others).intercalate (splitFrom (mark :: others) 0 piece text) =
      piece.reverse ++ text := by
  induction size : text.length using Nat.strongRecOn generalizing piece text with
  | _ length ih =>
    cases text with
    | nil => simp [splitFrom]
    | cons c rest =>
      rw [splitFrom]
      split
      · rename_i here
        obtain ⟨back, parts⟩ := List.isPrefixOf_iff_prefix.mp here
        rw [List.cons_append] at parts
        obtain ⟨rfl, rfl⟩ := List.cons.inj parts
        have shorter : back.length < length := by
          rw [← size, List.length_cons, List.length_append]
          omega
        have later := ih back.length shorter [] back rfl
        rw [List.length_cons, Nat.add_sub_cancel, splitFrom_skip, List.drop_left]
        obtain ⟨first, pieces, split⟩ :=
          List.exists_cons_of_ne_nil (splitFrom_ne_nil (mark :: others) [] back 0)
        rw [split] at later ⊢
        rw [List.intercalate_cons_cons, later]
        simp
      · have shorter : rest.length < length := by
          rw [← size, List.length_cons]
          omega
        rw [ih rest.length shorter (c :: piece) rest rfl]
        simp

/-- Pieces without the first character of the separator are found again when they are joined. -/
lemma splitFrom_joined {pieces : List (List Char)} (some_piece : pieces ≠ [])
    (absent : ∀ piece ∈ pieces, mark ∉ piece) :
    splitFrom (mark :: others) 0 [] ((mark :: others).intercalate pieces) = pieces := by
  induction pieces with
  | nil => exact absurd rfl some_piece
  | cons first later ih =>
    rw [List.forall_mem_cons] at absent
    cases later with
    | nil =>
      have alone : (mark :: others).intercalate [first] = first := by simp
      rw [alone, splitFrom_absent _ mark List.mem_cons_self _ _ absent.1]
      rfl
    | cons second pieces =>
      rw [List.intercalate_cons_cons, List.append_assoc, List.cons_append,
        splitFrom_first mark others _ _ _ absent.1, ih (List.cons_ne_nil _ _) absent.2]
      rfl

/-- A text is split into given pieces if and only if it is those pieces joined. -/
lemma splitFrom_eq_iff {pieces : List (List Char)} (some_piece : pieces ≠ [])
    (absent : ∀ piece ∈ pieces, mark ∉ piece) (text : List Char) :
    splitFrom (mark :: others) 0 [] text = pieces ↔ text = (mark :: others).intercalate pieces := by
  constructor
  · intro split
    rw [← split, joined_splitFrom, List.reverse_nil, List.nil_append]
  · rintro rfl
    exact splitFrom_joined mark others some_piece absent

lemma trimmed_part : trimmed text <:+: text := by
  exact (List.rdropWhile_prefix isSpace _).isInfix.trans (List.dropWhile_suffix isSpace).isInfix

def markerDigits : List Char → Option (Nat × Nat)
  | first :: second :: _ =>
    if first.isDigit && second.isDigit then
      some (10 * (first.toNat - '0'.toNat) + (second.toNat - '0'.toNat), 2)
    else if first.isDigit then some (first.toNat - '0'.toNat, 1)
    else none
  | [first] => if first.isDigit then some (first.toNat - '0'.toNat, 1) else none
  | [] => none

def marker : List Char → Option (Nat × Nat)
  | 'L' :: rest => (markerDigits rest).map fun found => (found.1, found.2 + 1)
  | rest => markerDigits rest

def markers : List Char → List Nat
  | [] => []
  | c :: rest =>
    if c = '%' then ((marker rest).map Prod.fst).toList ++ markers rest else markers rest

def fill (number : Nat) (value : List Char) : Nat → List Char → List Char
  | _, [] => []
  | skip + 1, _ :: rest => fill number value skip rest
  | 0, c :: rest =>
    match (marker rest).filter fun found => c = '%' ∧ found.1 = number with
    | some found => value ++ fill number value found.2 rest
    | none => c :: fill number value 0 rest

/-- `text.arg(value)`: the value goes where the markers with the lowest number are. -/
def arg (text value : String) : String :=
  match (markers text.toList).min? with
  | none => text
  | some lowest => String.ofList (fill lowest value.toList 0 text.toList)

example : arg (arg "%1:%2" "host") "443" = "host:443" := by decide +kernel

end AbstractumVpn.QtText
