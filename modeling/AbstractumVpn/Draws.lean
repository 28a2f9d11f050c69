import Mathlib.Control.Basic
import Mathlib.Data.Nat.Basic

/-!
Computations that draw 32-bit words from a supply, and do not finish if it is
used up. `Gives` says what holds of every result of a computation that finishes.
`scaled` is the way `QRandomGenerator::bounded` makes a number of a range from one
word, in the header of Qt; other versions may take more words.
-/

namespace Draws

variable {α β : Type}

abbrev Draw (α : Type) := StateT (List UInt32) Option α

def word : Draw UInt32
  | [] => none
  | raw :: rest => some (raw, rest)

def scaled (lowest highest : Nat) (raw : UInt32) : Nat :=
  lowest + raw.toNat * (highest - lowest) / 4294967296

def bounded (lowest highest : Nat) : Draw Nat := do
  let raw ← word
  return scaled lowest highest raw

def redraw (reject : α → Bool) (make : UInt32 → α) : α → Draw α
  | value, [] => if reject value then none else some (value, [])
  | value, raw :: rest =>
    if reject value then redraw reject make (make raw) rest else some (value, raw :: rest)

lemma scaled_range {lowest highest : Nat} (room : lowest < highest) (raw : UInt32) :
    lowest ≤ scaled lowest highest raw ∧ scaled lowest highest raw < highest := by
  have small : raw.toNat < 4294967296 := raw.toNat_lt
  have offset : raw.toNat * (highest - lowest) / 4294967296 < highest - lowest := by
    apply Nat.div_lt_of_lt_mul
    exact Nat.mul_lt_mul_of_pos_right small (by omega)
  rw [scaled]
  omega

lemma lowest_lt_scaled (lowest highest : Nat) (raw : UInt32) :
    lowest < scaled lowest highest raw ↔ 4294967296 ≤ raw.toNat * (highest - lowest) := by
  rw [scaled]
  omega

lemma bind_some {first : Draw α} {next : α → Draw β} {supply left : List UInt32} {value : β}
    (finishes : (first >>= next) supply = some (value, left)) :
    ∃ mid rest, first supply = some (mid, rest) ∧ next mid rest = some (value, left) := by
  obtain ⟨⟨mid, rest⟩, before, after⟩ := Option.bind_eq_some_iff.mp finishes
  exact ⟨mid, rest, before, after⟩

lemma pure_some {result value : α} {supply left : List UInt32}
    (finishes : (pure result : Draw α) supply = some (value, left)) :
    result = value ∧ supply = left :=
  Prod.mk.inj (Option.some.inj finishes)

lemma bounded_some {lowest highest value : Nat} {supply left : List UInt32}
    (finishes : bounded lowest highest supply = some (value, left)) :
    ∃ raw, supply = raw :: left ∧ value = scaled lowest highest raw := by
  cases supply with
  | nil => cases finishes
  | cons raw rest =>
    obtain ⟨rfl, rfl⟩ := Prod.mk.inj (Option.some.inj finishes)
    exact ⟨raw, rfl, rfl⟩

def Gives (action : Draw α) (post : α → Prop) : Prop :=
  ∀ supply value left, action supply = some (value, left) → post value

lemma Gives.pure {post : α → Prop} {value : α} (holds : post value) :
    Gives (pure value) post := by
  intro supply result left finishes
  rw [← (pure_some finishes).1]
  exact holds

lemma Gives.bind {first : Draw α} {next : α → Draw β} {mid : α → Prop} {post : β → Prop}
    (before : Gives first mid) (after : ∀ value, mid value → Gives (next value) post) :
    Gives (first >>= next) post := by
  intro supply result left finishes
  obtain ⟨value, rest, drawn, finished⟩ := bind_some finishes
  exact after value (before supply value rest drawn) rest result left finished

lemma Gives.bounded {lowest highest : Nat} (room : lowest < highest) :
    Gives (bounded lowest highest) fun value => lowest ≤ value ∧ value < highest := by
  intro supply value left finishes
  obtain ⟨raw, -, rfl⟩ := bounded_some finishes
  exact scaled_range room raw

/-- What is redrawn is not rejected, and is in range if each try is. -/
lemma Gives.redraw {reject : α → Bool} {make : UInt32 → α} (range : α → Prop) {value : α}
    (start : range value) (tries : ∀ raw, range (make raw)) :
    Gives (redraw reject make value) fun result => range result ∧ reject result = false := by
  intro supply result left finishes
  induction supply generalizing value with
  | nil =>
    rw [Draws.redraw] at finishes
    split at finishes
    · cases finishes
    · rename_i kept
      obtain ⟨rfl, -⟩ := Prod.mk.inj (Option.some.inj finishes)
      exact ⟨start, eq_false_of_ne_true kept⟩
  | cons raw rest ih =>
    rw [Draws.redraw] at finishes
    split at finishes
    · exact ih (tries raw) finishes
    · rename_i kept
      obtain ⟨rfl, -⟩ := Prod.mk.inj (Option.some.inj finishes)
      exact ⟨start, eq_false_of_ne_true kept⟩

lemma Gives.redraw_scaled {reject : Nat → Bool} {lowest highest value : Nat}
    (start : lowest ≤ value ∧ value < highest) :
    Gives (Draws.redraw reject (scaled lowest highest) value) fun result =>
      (lowest ≤ result ∧ result < highest) ∧ reject result = false :=
  Gives.redraw (fun result => lowest ≤ result ∧ result < highest) start
    (scaled_range (Nat.lt_of_le_of_lt start.1 start.2))

end Draws
