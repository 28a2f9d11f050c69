import Mathlib.Data.List.Basic

/-!
A store of numbered items with transactions: a commit puts the staged items in
effect, an abort drops them. `Covered` says that every item, in effect or
staged, has its number on a list kept elsewhere.
-/

namespace Transactions

variable {Item : Type}

structure Store (Item : Type) where
  inEffect : List (Nat × Item)
  staged : Option (List (Nat × Item))
  nextId : Nat

def Store.open (store : Store Item) : Store Item := { store with staged := some store.inEffect }

def Store.abort (store : Store Item) : Store Item := { store with staged := none }

def Store.commit (store : Store Item) : Store Item :=
  { store with inEffect := store.staged.getD store.inEffect, staged := none }

def Store.change (update : List (Nat × Item) → List (Nat × Item)) (store : Store Item) :
    Store Item :=
  match store.staged with
  | some items => { store with staged := some (update items) }
  | none => { store with inEffect := update store.inEffect }

def Store.insert (item : Item) (store : Store Item) : Store Item :=
  { store.change (· ++ [(store.nextId, item)]) with nextId := store.nextId + 1 }

def Store.erase (id : Nat) (store : Store Item) : Store Item :=
  store.change (List.filter (·.1 ≠ id))

def ids (items : List (Nat × Item)) : List Nat := items.map Prod.fst

structure Covered (recorded : List Nat) (store : Store Item) : Prop where
  inEffect : ∀ id ∈ ids store.inEffect, id ∈ recorded
  staged : ∀ items, store.staged = some items → ∀ id ∈ ids items, id ∈ recorded

section

variable {recorded : List Nat} {store : Store Item}

section

variable (covered : Covered recorded store)

include covered

lemma Covered.open : Covered recorded store.open := by
  constructor
  · exact covered.inEffect
  · rintro items same
    rw [← Option.some.inj same]
    exact covered.inEffect

lemma Covered.abort : Covered recorded store.abort :=
  ⟨covered.inEffect, fun _ none_staged => nomatch none_staged⟩

lemma Covered.commit : Covered recorded store.commit := by
  constructor
  · cases staged : store.staged with
    | none => simpa [Store.commit, staged] using covered.inEffect
    | some items => simpa [Store.commit, staged] using covered.staged items staged
  · exact fun _ none_staged => nomatch none_staged

lemma Covered.mono {wider : List Nat}
    (included : ∀ id ∈ recorded, id ∈ wider) : Covered wider store :=
  ⟨fun id member => included id (covered.inEffect id member),
    fun items staged id member => included id (covered.staged items staged id member)⟩

end

lemma Covered.change {update : List (Nat × Item) → List (Nat × Item)} {wider : List Nat}
    (covered : Covered recorded store) (included : ∀ id ∈ recorded, id ∈ wider)
    (updated : ∀ items, (∀ id ∈ ids items, id ∈ recorded) → ∀ id ∈ ids (update items), id ∈ wider) :
    Covered wider (store.change update) := by
  have kept := covered.mono included
  cases staged : store.staged with
  | none =>
    constructor
    · simpa [Store.change, staged] using updated _ covered.inEffect
    · simp [Store.change, staged]
  | some items =>
    constructor
    · simpa [Store.change, staged] using kept.inEffect
    · intro items' same
      simp only [Store.change, staged, Option.some.injEq] at same
      rw [← same]
      exact updated items (covered.staged items staged)

lemma Covered.insert (item : Item) (covered : Covered recorded store) {wider : List Nat}
    (included : ∀ id ∈ recorded, id ∈ wider) (listed : store.nextId ∈ wider) :
    Covered wider (store.insert item) := by
  have changed : Covered wider (store.change (· ++ [(store.nextId, item)])) := by
    apply covered.change included
    intro items old id member
    rw [ids, List.map_append, List.mem_append] at member
    rcases member with inside | new
    · exact included id (old id inside)
    · rw [List.map_singleton, List.mem_singleton] at new
      exact new ▸ listed
  exact ⟨changed.inEffect, changed.staged⟩

lemma erase_all (items : List (Nat × Item)) (staged : store.staged = some items)
    (numbers : List Nat) :
    numbers.foldl (fun store id => store.erase id) store =
      { store with staged := some (items.filter (·.1 ∉ numbers)) } := by
  induction numbers generalizing store items with
  | nil =>
    cases store
    simpa using staged
  | cons id rest ih =>
    have erased : store.erase id = { store with staged := some (items.filter (·.1 ≠ id)) } := by
      simp [Store.erase, Store.change, staged]
    rw [List.foldl_cons, erased, ih _ rfl]
    simp [Bool.and_comm]

lemma ids_filter (items : List (Nat × Item)) (numbers : List Nat) (id : Nat) :
    id ∈ ids (items.filter (·.1 ∉ numbers)) ↔ id ∈ ids items ∧ id ∉ numbers := by
  simp only [ids, List.mem_map, List.mem_filter, decide_not, Bool.not_eq_true',
    decide_eq_false_iff_not]
  constructor
  · rintro ⟨entry, ⟨inside, away⟩, rfl⟩
    exact ⟨⟨entry, inside, rfl⟩, away⟩
  · rintro ⟨⟨entry, inside, rfl⟩, away⟩
    exact ⟨entry, ⟨inside, away⟩, rfl⟩

end

end Transactions
