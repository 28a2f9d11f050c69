import Mathlib.Data.List.Dedup
import Mathlib.Data.Finset.Card

/-!
A list cut into numbered pieces of one width, and a store in which the pieces
arrive in any order and any number of times. The store holds one entry for each
number, so it is complete when it is as large as the number of pieces.
-/

namespace Reassembly

variable {α β : Type}

def piece (width : Nat) (whole : List α) (number : Nat) : List α :=
  (whole.drop (number * width)).take width

lemma pieces_join_take (width : Nat) (whole : List α) (count : Nat) :
    (List.range count).flatMap (piece width whole) = whole.take (count * width) := by
  induction count with
  | zero => simp
  | succ count ih =>
    rw [List.range_succ, List.flatMap_append, ih, List.flatMap_singleton, Nat.succ_mul,
      List.take_add]
    rfl

lemma pieces_join (width : Nat) (whole : List α) (count : Nat)
    (enough : whole.length ≤ count * width) :
    (List.range count).flatMap (piece width whole) = whole := by
  rw [pieces_join_take, List.take_of_length_le enough]

def keep (store : List (Nat × β)) (number : Nat) (value : β) : List (Nat × β) :=
  (number, value) :: store.filter (·.1 ≠ number)

def numbers (store : List (Nat × β)) : List Nat := store.map Prod.fst

/-- The store holds the pieces of the numbers that have arrived, each of them once. -/
structure Holds (value : Nat → β) (arrived : List Nat) (store : List (Nat × β)) : Prop where
  distinct : (numbers store).Nodup
  known : ∀ number, number ∈ numbers store ↔ number ∈ arrived
  right : ∀ entry ∈ store, entry.2 = value entry.1

variable {value : Nat → β} {arrived : List Nat} {store : List (Nat × β)}

lemma holds_nil : Holds value [] ([] : List (Nat × β)) :=
  ⟨List.nodup_nil, fun _ => Iff.rfl, fun _ member => nomatch member⟩

lemma mem_numbers_keep (store : List (Nat × β)) (number other : Nat) (held : β) :
    other ∈ numbers (keep store number held) ↔ other = number ∨ other ∈ numbers store := by
  simp only [numbers, keep, List.map_cons, List.mem_cons, List.mem_map, List.mem_filter]
  constructor
  · rintro (same | ⟨entry, ⟨inside, -⟩, same⟩)
    · exact Or.inl same
    · exact Or.inr ⟨entry, inside, same⟩
  · rintro (same | ⟨entry, inside, rfl⟩)
    · exact Or.inl same
    · by_cases same : entry.1 = number
      · exact Or.inl same
      · exact Or.inr ⟨entry, ⟨inside, by simpa using same⟩, rfl⟩

section

variable (holds : Holds value arrived store)

include holds

lemma Holds.keep (number : Nat) :
    Holds value (arrived ++ [number]) (keep store number (value number)) := by
  constructor
  · apply List.nodup_cons.mpr
    constructor
    · intro member
      obtain ⟨entry, kept, same⟩ := List.mem_map.mp member
      have other : entry.1 ≠ number := by simpa using (List.mem_filter.mp kept).2
      exact other same
    · exact holds.distinct.sublist (List.filter_sublist.map Prod.fst)
  · intro other
    rw [mem_numbers_keep, holds.known, List.mem_append, List.mem_singleton, or_comm]
  · intro entry member
    rcases List.mem_cons.mp member with rfl | kept
    · rfl
    · exact holds.right entry (List.mem_filter.mp kept).1

/-- A number that has arrived before changes nothing that is known of the store. -/
lemma Holds.again {number : Nat} (old : number ∈ arrived) :
    Holds value (arrived ++ [number]) store := by
  refine ⟨holds.distinct, fun other => ?_, holds.right⟩
  rw [holds.known, List.mem_append, List.mem_singleton]
  constructor
  · exact Or.inl
  · rintro (before | rfl)
    · exact before
    · exact old

lemma Holds.size : store.length = arrived.dedup.length := by
  have same : (numbers store).Perm arrived.dedup := by
    apply (List.perm_ext_iff_of_nodup holds.distinct (List.nodup_dedup arrived)).mpr
    intro number
    rw [holds.known, List.mem_dedup]
  rw [← same.length_eq, numbers, List.length_map]

lemma Holds.lookup {number : Nat} (here : number ∈ arrived) :
    store.lookup number = some (value number) := by
  cases found : store.lookup number with
  | some held =>
    obtain ⟨front, back, rfl, -⟩ := List.lookup_eq_some_iff.mp found
    exact congrArg some (holds.right (number, held) (by simp))
  | none =>
    obtain ⟨entry, inside, same⟩ := List.mem_map.mp ((holds.known number).mpr here)
    exact absurd (List.lookup_eq_none_iff.mp found entry inside) (by simp [same])

end

def Complete (count : Nat) (arrived : List Nat) : Prop := ∀ number < count, number ∈ arrived

lemma complete_iff_count {count : Nat} (below : ∀ number ∈ arrived, number < count) :
    arrived.dedup.length = count ↔ Complete count arrived := by
  have inside : arrived.toFinset ⊆ Finset.range count := by
    intro number member
    exact Finset.mem_range.mpr (below number (List.mem_toFinset.mp member))
  rw [← List.card_toFinset]
  constructor
  · intro full number small
    have all : arrived.toFinset = Finset.range count :=
      Finset.eq_of_subset_of_card_le inside (by rw [full, Finset.card_range])
    exact List.mem_toFinset.mp (all ▸ Finset.mem_range.mpr small)
  · intro complete
    have all : arrived.toFinset = Finset.range count := by
      apply Finset.Subset.antisymm inside
      intro number small
      exact List.mem_toFinset.mpr (complete number (Finset.mem_range.mp small))
    rw [all, Finset.card_range]

lemma Holds.join {count width : Nat} {whole : List α}
    {store : List (Nat × List α)} (holds : Holds (piece width whole) arrived store)
    (complete : Complete count arrived) (enough : whole.length ≤ count * width) :
    ((List.range count).flatMap fun number => (store.lookup number).getD []) = whole := by
  conv_rhs => rw [← pieces_join width whole count enough]
  rw [List.flatMap_def, List.flatMap_def]
  congr 1
  apply List.map_congr_left
  intro number member
  rw [holds.lookup (complete number (List.mem_range.mp member)), Option.getD_some]

end Reassembly
