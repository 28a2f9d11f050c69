import Mathlib.Data.List.Basic
import Mathlib.Order.Basic

/-!
A buffer that lines are cut off from: `lines` are the pieces of a text in front
of its marks, `remainder` is what stands behind the last one. A text that
arrives in parts gives the lines of the whole.
-/

namespace LineBuffer

variable {α : Type} [DecidableEq α] (mark : α)

def lines (text : List α) : List (List α) := (text.splitOn mark).dropLast

def remainder (text : List α) : List α := (text.splitOn mark).getLastD []

def takeLine (buffer : List α) : Option (List α × List α) :=
  (buffer.idxOf? mark).map fun pos => (buffer.take pos, buffer.drop (pos + 1))

variable {mark}

variable {buffer line : List α}

lemma takeLine_none (none : takeLine mark buffer = none) : mark ∉ buffer := by
  rw [takeLine, Option.map_eq_none_iff] at none
  exact List.idxOf?_eq_none_iff.mp none

lemma takeLine_some {left : List α} (found : takeLine mark buffer = some (line, left)) :
    mark ∉ line ∧ buffer = line ++ mark :: left := by
  obtain ⟨pos, here, parts⟩ := Option.map_eq_some_iff.mp found
  obtain ⟨rfl, rfl⟩ := Prod.mk.inj parts
  obtain ⟨inside, same, before⟩ := List.idxOf?_eq_some_iff.mp here
  constructor
  · intro member
    obtain ⟨index, short, held⟩ := List.getElem_of_mem member
    rw [List.length_take, Nat.lt_min] at short
    rw [List.getElem_take] at held
    exact before index short.1 held
  · rw [← same, List.getElem_cons_drop, List.take_append_drop]

lemma takeLine_shorter {left : List α} (found : takeLine mark buffer = some (line, left)) :
    left.length < buffer.length := by
  rw [(takeLine_some found).2, List.length_append, List.length_cons]
  omega

lemma lines_absent {text : List α} (absent : mark ∉ text) :
    lines mark text = [] ∧ remainder mark text = text := by
  rw [lines, remainder, List.splitOn_eq_singleton absent]
  exact ⟨rfl, rfl⟩

lemma lines_front (absent : mark ∉ line) (left : List α) :
    lines mark (line ++ mark :: left) = line :: lines mark left ∧
      remainder mark (line ++ mark :: left) = remainder mark left := by
  rw [lines, lines, remainder, remainder, List.splitOn_append_cons_self_of_not_mem absent]
  have pieces := List.splitOn_ne_nil mark left
  constructor
  · exact List.dropLast_cons_of_ne_nil pieces
  · cases split : left.splitOn mark with
    | nil => exact absurd split pieces
    | cons first others => rfl

lemma piece_no_mark (mark : α) (text : List α) : ∀ piece ∈ text.splitOn mark, mark ∉ piece := by
  induction text with
  | nil => simp
  | cons c rest ih =>
    rw [List.splitOn_cons_eq_if_modifyHead]
    split
    · simpa using ih
    · rename_i other
      obtain ⟨first, later, parts⟩ := List.exists_cons_of_ne_nil (List.splitOn_ne_nil mark rest)
      rw [parts] at ih ⊢
      rw [List.forall_mem_cons] at ih
      rw [List.modifyHead_cons, List.forall_mem_cons, List.mem_cons, not_or]
      exact ⟨⟨fun same => other (beq_iff_eq.mpr same.symm), ih.1⟩, ih.2⟩

lemma line_cases (mark : α) (text : List α) :
    mark ∉ text ∨ ∃ line left, mark ∉ line ∧ text = line ++ mark :: left := by
  cases found : takeLine mark text with
  | none => exact Or.inl (takeLine_none found)
  | some parts => exact Or.inr ⟨parts.1, parts.2, takeLine_some found⟩

lemma lines_append (mark : α) (front back : List α) :
    lines mark (front ++ back) = lines mark front ++ lines mark (remainder mark front ++ back) ∧
      remainder mark (front ++ back) = remainder mark (remainder mark front ++ back) := by
  -- one line of the front at a time
  induction size : front.length using Nat.strongRecOn generalizing front with
  | _ length ih =>
    rcases line_cases mark front with absent | ⟨line, left, absent, rfl⟩
    · rw [(lines_absent absent).1, (lines_absent absent).2]
      exact ⟨rfl, rfl⟩
    · have shorter : left.length < length := by
        rw [← size, List.length_append, List.length_cons]
        omega
      obtain ⟨later, final⟩ := ih left.length shorter left rfl
      rw [List.append_assoc, List.cons_append, (lines_front absent _).1,
        (lines_front absent _).2, (lines_front absent _).1, (lines_front absent _).2, later, final]
      exact ⟨rfl, rfl⟩

end LineBuffer
