import AbstractumVpn.LineBuffer
import Mathlib.Data.List.ReduceOption

/-!
Texts of lines, each a section header, a field or blank, and a reader for them.
All is read back if no key can be taken for a header or for the start of the
separator, and no line has a line break in it.
-/

namespace ConfigText

abbrev Text := List Char

inductive Line where
  | header (name : Text)
  | field (key value : Text)
  | other (text : Text)
  deriving DecidableEq

variable (separator : Text)

def Line.text : Line → Text
  | .header name => '[' :: (name ++ [']'])
  | .field key value => key ++ (separator ++ value)
  | .other text => text

def Line.parts : Line → Text
  | .header name => name
  | .field key value => key ++ value
  | .other text => text

def cut : Text → Option (Text × Text)
  | [] => none
  | c :: rest =>
    if separator.isPrefixOf (c :: rest) then some ([], (c :: rest).drop separator.length)
    else (cut rest).map fun parts => (c :: parts.1, parts.2)

def readLine (line : Text) : Line :=
  if line.head? = some '[' ∧ line.getLast? = some ']' then .header line.tail.dropLast
  else match cut separator line with
    | some (key, value) => .field key value
    | none => .other line

def read (text : Text) : List Line :=
  ((text.splitOn '\n').filter (· ≠ [])).map (readLine separator)

def write (lines : List (Option Line)) : Text :=
  lines.flatMap fun line => line.elim [] (Line.text separator) ++ ['\n']

@[simp] lemma write_nil : write separator [] = [] := rfl

@[simp] lemma write_cons (line : Option Line) (rest : List (Option Line)) :
    write separator (line :: rest) =
      line.elim [] (Line.text separator) ++ '\n' :: write separator rest := by
  simp [write]

@[simp] lemma write_append (front back : List (Option Line)) :
    write separator (front ++ back) = write separator front ++ write separator back := by
  simp [write]

def Plain : Line → Prop
  | .header _ => True
  | .field key _ => key ≠ [] ∧ key.head? ≠ some '[' ∧ ∀ c ∈ separator.head?, c ∉ key
  | .other _ => False

variable {separator}

lemma cut_key {key : Text} (value : Text) {first : Char} {rest : Text}
    (parts : separator = first :: rest) (absent : first ∉ key) :
    cut separator (key ++ (separator ++ value)) = some (key, value) := by
  induction key with
  | nil =>
    subst parts
    have here : (first :: rest).isPrefixOf ((first :: rest) ++ value) = true :=
      List.isPrefixOf_iff_prefix.mpr (List.prefix_append _ _)
    simp only [List.nil_append, List.cons_append, cut]
    simp
  | cons c key ih =>
    obtain ⟨other, later⟩ := not_or.mp (fun either => absent (List.mem_cons.mpr either))
    have not_here : separator.isPrefixOf (c :: (key ++ (separator ++ value))) = false := by
      rw [Bool.eq_false_iff, parts]
      intro here
      exact other (List.cons_prefix_cons.mp (List.isPrefixOf_iff_prefix.mp here)).1
    rw [List.cons_append, cut, not_here, if_neg (by decide), ih later]
    rfl

lemma cut_subset {line key value : Text} (found : cut separator line = some (key, value)) :
    (∀ c ∈ key, c ∈ line) ∧ ∀ c ∈ value, c ∈ line := by
  induction line generalizing key with
  | nil => cases found
  | cons c rest ih =>
    rw [cut] at found
    split at found
    · obtain ⟨rfl, rfl⟩ := Prod.mk.inj (Option.some.inj found)
      exact ⟨by simp, fun c member => List.mem_of_mem_drop member⟩
    · obtain ⟨parts, later, same⟩ := Option.map_eq_some_iff.mp found
      obtain ⟨rfl, rfl⟩ := Prod.mk.inj same
      obtain ⟨keys, values⟩ := ih later
      constructor
      · rintro d (_ | ⟨_, member⟩)
        · exact List.mem_cons_self
        · exact List.mem_cons_of_mem c (keys d member)
      · exact fun d member => List.mem_cons_of_mem c (values d member)

lemma text_ne_nil {line : Line} (plain : Plain separator line) : line.text separator ≠ [] := by
  cases line with
  | header name => exact List.cons_ne_nil _ _
  | field key value =>
    intro empty
    exact plain.1 (List.append_eq_nil_iff.mp empty).1
  | other text => cases plain

lemma readLine_text (nonempty : separator ≠ []) {line : Line} (plain : Plain separator line) :
    readLine separator (line.text separator) = line := by
  cases line with
  | header name =>
    have ends : (Line.header name).text separator = ('[' :: name) ++ [']'] := rfl
    rw [readLine, ends, List.getLast?_append]
    simp
  | field key value =>
    obtain ⟨some_key, no_bracket, absent⟩ := plain
    obtain ⟨first, rest, parts⟩ := List.exists_cons_of_ne_nil nonempty
    have start : (key ++ (separator ++ value)).head? ≠ some '[' := by
      rw [List.head?_append_of_ne_nil _ some_key]
      exact no_bracket
    rw [readLine, Line.text, if_neg (fun header => start header.1),
      cut_key value parts (absent first (by rw [parts]; rfl))]
  | other text => cases plain

lemma parts_readLine {line : Text} {c : Char} (member : c ∈ (readLine separator line).parts) :
    c ∈ line := by
  by_cases header : line.head? = some '[' ∧ line.getLast? = some ']'
  · rw [readLine, if_pos header] at member
    exact List.mem_of_mem_tail (List.dropLast_subset _ member)
  · rw [readLine, if_neg header] at member
    cases found : cut separator line with
    | none =>
      rw [found] at member
      exact member
    | some parts =>
      rw [found] at member
      obtain ⟨keys, values⟩ := cut_subset found
      rcases List.mem_append.mp member with key | value
      · exact keys c key
      · exact values c value

lemma mem_text {line : Line} {c : Char} (member : c ∈ line.text separator) :
    c ∈ line.parts ∨ c ∈ separator ∨ c = '[' ∨ c = ']' := by
  cases line with
  | header name =>
    simp only [Line.text, List.mem_cons, List.mem_append, List.not_mem_nil] at member
    tauto
  | field key value =>
    simp only [Line.text, List.mem_append] at member
    simp only [Line.parts, List.mem_append]
    tauto
  | other text => exact Or.inl member

lemma split_write (lines : List (Option Line))
    (unbroken : ∀ line ∈ lines.reduceOption, '\n' ∉ line.text separator) :
    (write separator lines).splitOn '\n' =
      lines.map (fun line => line.elim [] (Line.text separator)) ++ [[]] := by
  induction lines with
  | nil => simp
  | cons line rest ih =>
    have first : '\n' ∉ line.elim [] (Line.text separator) := by
      cases line with
      | none => simp
      | some line => exact unbroken line (by simp)
    have later : ∀ line ∈ rest.reduceOption, '\n' ∉ line.text separator := by
      intro found member
      apply unbroken found
      rw [List.reduceOption_mem_iff] at member ⊢
      exact List.mem_cons_of_mem _ member
    rw [write_cons, List.splitOn_append_cons_self_of_not_mem first, ih later]
    rfl

/-- Lines are read back as they were written if and only if none of them has a
line break in it. -/
lemma read_write_iff (nonempty : separator ≠ []) (one_line : '\n' ∉ separator)
    (lines : List (Option Line)) (plain : ∀ line ∈ lines.reduceOption, Plain separator line) :
    read separator (write separator lines) = lines.reduceOption ↔
      ∀ line ∈ lines.reduceOption, '\n' ∉ line.text separator := by
  constructor
  · intro same line member broken
    -- no line that is read has a break in it
    rw [← same, read, List.mem_map] at member
    obtain ⟨text, listed, rfl⟩ := member
    have unbroken := LineBuffer.piece_no_mark '\n' _ text (List.mem_filter.mp listed).1
    rcases mem_text broken with inside | mark | mark | mark
    · exact unbroken (parts_readLine inside)
    · exact one_line mark
    · exact absurd mark (by decide)
    · exact absurd mark (by decide)
  · intro unbroken
    rw [read, split_write lines unbroken, List.filter_append, List.map_append]
    clear unbroken
    induction lines with
    | nil => rfl
    | cons line rest ih =>
      cases line with
      | none => simpa using ih plain
      | some line =>
        have here : Plain separator line := plain line (by simp)
        have later := ih fun found member => plain found (by
          exact List.mem_cons_of_mem _ member)
        have kept : decide ((some line).elim [] (Line.text separator) ≠ []) = true :=
          decide_eq_true (text_ne_nil here)
        rw [List.map_cons, List.filter_cons, if_pos kept, List.map_cons, List.cons_append, later,
          List.reduceOption_cons_of_some]
        exact congrArg (· :: _) (readLine_text nonempty here)

end ConfigText
