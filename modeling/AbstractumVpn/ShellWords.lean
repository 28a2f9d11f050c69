import Mathlib.Data.List.Basic

/-!
Command lines as the shell reads them. A line that contains an active character
(a control operator, a redirection, an expansion, a quote, a line end) is not
taken apart: `tokenise` gives `none`. The words of any other line are its runs
of characters between blanks.
-/

namespace ShellWords

def isBlank (c : Char) : Bool := c == ' ' || c == '\t'

/-- By code point: control operators and redirections, then the dollar sign,
the backquote, the backslash, the quotes and the line ends. -/
def isActive (c : Char) : Bool :=
  [0x3b, 0x26, 0x7c, 0x3c, 0x3e, 0x28, 0x29, 0x24, 0x60, 0x5c, 0x22, 0x27, 0x0a, 0x0d].contains
    c.toNat

example : ";&|<>()$`\\\"'\n\r".toList.all isActive = true := by decide

/-- A text the shell reads as exactly one word, the text itself. -/
def Literal (word : List Char) : Prop :=
  word ≠ [] ∧ ∀ c ∈ word, isBlank c = false ∧ isActive c = false

-- the instance is named, so that no search over all characters takes its place
instance (word : List Char) : Decidable (Literal word) :=
  @instDecidableAnd _ _ inferInstance (List.decidableBAll _ word)

lemma plain_digit (c : Char) (digit : c.isDigit = true) :
    isBlank c = false ∧ isActive c = false := by
  have range : 48 ≤ c.toNat ∧ c.toNat ≤ 57 := by
    simpa [Char.isDigit, UInt32.le_iff_toNat_le] using digit
  constructor
  · have blanks : ' '.toNat = 32 ∧ '\t'.toNat = 9 := by decide
    rw [isBlank, Bool.or_eq_false_iff, beq_eq_false_iff_ne, beq_eq_false_iff_ne]
    constructor <;> rintro rfl <;> omega
  · rw [isActive, List.contains_eq_any_beq, List.any_eq_false]
    intro code member
    simp only [List.mem_cons, List.not_mem_nil, or_false] at member
    simp only [beq_iff_eq]
    omega

def tokenise (line : List Char) : Option (List (List Char)) :=
  if line.any isActive then none else some ((line.splitOnP isBlank).filter (· ≠ []))

lemma split_member (separator : Char → Bool) (line word : List Char) (c : Char)
    (member : word ∈ line.splitOnP separator) (inside : c ∈ word) :
    c ∈ line ∧ separator c = false := by
  induction line generalizing word with
  | nil =>
    rw [List.splitOnP_nil, List.mem_singleton] at member
    simp [member] at inside
  | cons first rest ih =>
    rw [List.splitOnP_cons_eq_if_modifyHead] at member
    split at member
    · rcases List.mem_cons.mp member with empty | later
      · simp [empty] at inside
      · exact ⟨List.mem_cons_of_mem first (ih word later inside).1, (ih word later inside).2⟩
    · rename_i plain
      obtain ⟨head, tail, split⟩ := List.exists_cons_of_ne_nil (List.splitOnP_ne_nil separator rest)
      rw [split, List.modifyHead_cons, List.mem_cons] at member
      rcases member with joined | later
      · rw [joined, List.mem_cons] at inside
        rcases inside with same | inside
        · subst same
          exact ⟨List.mem_cons_self, by simpa using plain⟩
        · have found := ih head (by rw [split]; exact List.mem_cons_self) inside
          exact ⟨List.mem_cons_of_mem first found.1, found.2⟩
      · have found := ih word (by rw [split]; exact List.mem_cons_of_mem head later) inside
        exact ⟨List.mem_cons_of_mem first found.1, found.2⟩

variable (words : List (List Char))

lemma join_member (c : Char) (member : c ∈ [' '].intercalate words) :
    c = ' ' ∨ ∃ word ∈ words, c ∈ word := by
  induction words with
  | nil => simp at member
  | cons word rest ih =>
    cases rest with
    | nil => exact Or.inr ⟨word, by simp, by simpa using member⟩
    | cons next rest =>
      rw [List.intercalate_cons_cons] at member
      rcases List.mem_append.mp member with front | back
      · rcases List.mem_append.mp front with inside | blank
        · exact Or.inr ⟨word, by simp, inside⟩
        · exact Or.inl (List.mem_singleton.mp blank)
      · rcases ih back with blank | ⟨other, among, inside⟩
        · exact Or.inl blank
        · exact Or.inr ⟨other, List.mem_cons_of_mem word among, inside⟩

lemma split_join (literal : ∀ word ∈ words, Literal word) :
    (([' '].intercalate words).splitOnP isBlank).filter (· ≠ []) = words := by
  induction words with
  | nil => simp
  | cons word rest ih =>
    obtain ⟨nonempty, plain⟩ := literal word List.mem_cons_self
    have no_blank : ∀ c ∈ word, isBlank c = false := fun c inside => (plain c inside).1
    cases rest with
    | nil => simp [List.splitOnP_eq_singleton no_blank, nonempty]
    | cons next rest =>
      have tail := ih fun other member => literal other (List.mem_cons_of_mem word member)
      rw [List.intercalate_cons_cons, List.append_assoc, List.singleton_append,
        List.splitOnP_append_cons_of_forall_mem no_blank ' ' rfl, List.filter_cons, tail]
      simp [nonempty]

/-- Joining words by blanks and reading the line gives the words back exactly
when all of them are literal. -/
lemma tokenise_join_iff :
    tokenise ([' '].intercalate words) = some words ↔ ∀ word ∈ words, Literal word := by
  constructor
  · intro read word member
    rw [tokenise] at read
    split at read
    · cases read
    · rename_i quiet
      rw [← Option.some.inj read, List.mem_filter] at member
      refine ⟨by simpa using member.2, fun c inside => ?_⟩
      obtain ⟨among, plain⟩ := split_member isBlank _ word c member.1 inside
      refine ⟨plain, ?_⟩
      simp only [List.any_eq_true, not_exists, not_and] at quiet
      simpa using quiet c among
  · intro literal
    have quiet : ([' '].intercalate words).any isActive = false := by
      rw [List.any_eq_false]
      intro c member
      rcases join_member words c member with blank | ⟨word, among, inside⟩
      · subst blank; decide
      · simp [((literal word among).2 c inside).2]
    rw [tokenise, quiet, split_join words literal]
    rfl

end ShellWords
