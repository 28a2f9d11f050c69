import Mathlib.Algebra.Ring.Nat
import Mathlib.Data.Fin.Basic

/-!
A ring of cells that a log is written into: the entry with the number `n` goes to the
cell `n % size` and replaces what was there. The ring holds the most recent entries,
each at its own cell, and cells that were never written are blank.
-/

namespace RingLog

variable {α β : Type} {size : Nat} [NeZero size]

def cell (size : Nat) [NeZero size] (number : Nat) : Fin size :=
  ⟨number % size, Nat.mod_lt number (Nat.pos_of_ne_zero (NeZero.ne size))⟩

def write (ring : Fin size → α) (number : Nat) (entry : α) : Fin size → α :=
  fun index => if index = cell size number then entry else ring index

lemma map_write (f : α → β) (ring : Fin size → α) (number : Nat) (entry : α) :
    (fun index => f (write ring number entry index)) =
      write (fun index => f (ring index)) number (f entry) := by
  funext index
  exact apply_ite f _ _ _

lemma write_same (ring : Fin size → α) (number : Nat) :
    write ring number (ring (cell size number)) = ring := by
  funext index
  by_cases here : index = cell size number
  · rw [write, if_pos here, here]
  · rw [write, if_neg here]

lemma write_congr {number other : Nat} (same : cell size number = cell size other)
    (ring : Fin size → α) (entry : α) : write ring number entry = write ring other entry := by
  funext index
  rw [write, write, same]

lemma entry_cases {log : List α} {entry found : α} {number : Nat}
    (held : (log ++ [entry])[number]? = some found) :
    (number < log.length ∧ log[number]? = some found) ∨ (number = log.length ∧ found = entry) := by
  by_cases older : number < log.length
  · rw [List.getElem?_append_left older] at held
    exact Or.inl ⟨older, held⟩
  · have inside := (List.getElem?_eq_some_iff.mp held).1
    rw [List.length_append, List.length_singleton] at inside
    obtain rfl : number = log.length := by omega
    rw [List.getElem?_concat_length, Option.some.injEq] at held
    exact Or.inr ⟨rfl, held.symm⟩

structure Holds (blank : α) (ring : Fin size → α) (log : List α) : Prop where
  recent : ∀ number entry, log[number]? = some entry → log.length ≤ number + size →
    ring (cell size number) = entry
  unwritten : ∀ index : Fin size, log.length ≤ index.val → ring index = blank

lemma holds_nil (blank : α) : Holds blank (fun _ : Fin size => blank) [] where
  recent number entry found _ := by simp at found
  unwritten _ _ := rfl

lemma cell_ne {number later : Nat} (before : number < later) (recent : later < number + size) :
    cell size number ≠ cell size later := by
  intro same
  have equal : number % size = later % size := congrArg Fin.val same
  have apart : (later - number) % size = 0 := Nat.sub_mod_eq_zero_of_mod_eq equal.symm
  rw [Nat.mod_eq_of_lt (by omega)] at apart
  omega

lemma Holds.push {blank : α} {ring : Fin size → α} {log : List α} (holds : Holds blank ring log)
    (entry : α) : Holds blank (write ring log.length entry) (log ++ [entry]) where
  recent number found at_number recent := by
    rw [List.length_append, List.length_singleton] at recent
    rcases entry_cases at_number with ⟨older, before⟩ | ⟨rfl, rfl⟩
    · rw [write, if_neg (cell_ne older (by omega))]
      exact holds.recent number found before (by omega)
    · rw [write, if_pos rfl]
  unwritten index beyond := by
    rw [List.length_append, List.length_singleton] at beyond
    have other : index ≠ cell size log.length := by
      rintro same
      have value : index.val = log.length % size := congrArg Fin.val same
      rw [Nat.mod_eq_of_lt (by omega)] at value
      omega
    rw [write, if_neg other]
    exact holds.unwritten index (by omega)

lemma recent_number (index : Fin size) {length : Nat} (written : index.val < length) :
    ∃ number < length, length ≤ number + size ∧ cell size number = index := by
  have parts := Nat.div_add_mod (length - 1 - index.val) size
  have small := Nat.mod_lt (length - 1 - index.val) index.pos
  refine ⟨index.val + size * ((length - 1 - index.val) / size), by omega, by omega, ?_⟩
  apply Fin.ext
  change (index.val + size * ((length - 1 - index.val) / size)) % size = index.val
  rw [Nat.add_mul_mod_self_left, Nat.mod_eq_of_lt index.isLt]

/-- What a cell holds: the most recent entry with a number of that cell, or nothing yet. -/
lemma Holds.lookup {blank : α} {ring : Fin size → α} {log : List α}
    (holds : Holds blank ring log) (index : Fin size) :
    (∃ number entry, log[number]? = some entry ∧ log.length ≤ number + size ∧
      cell size number = index ∧ ring index = entry) ∨
    (log.length ≤ index.val ∧ ring index = blank) := by
  by_cases written : index.val < log.length
  · obtain ⟨number, below, recent, rfl⟩ := recent_number index written
    have found := List.getElem?_eq_getElem below
    exact Or.inl ⟨number, _, found, recent, rfl, holds.recent number _ found recent⟩
  · exact Or.inr ⟨Nat.le_of_not_lt written, holds.unwritten index (Nat.le_of_not_lt written)⟩

end RingLog
