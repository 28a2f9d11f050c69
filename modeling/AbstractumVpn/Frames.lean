import Mathlib.Data.List.Basic

/-!
Stateful procedures as state-monad actions, and the part of the state an action
leaves alone: `Keeps view action` says no run of the action changes what the
`view` shows, `Shows view action shown` that the view follows another action.
`untilFalse` is the loop that leaves at the first failing step.
-/

namespace Frames

variable {State View Item α β : Type} (view : State → View)

def perform (action : StateM State α) (state : State) : α × State := (action.run state).run

section Perform

variable (state other : State)

@[simp] lemma perform_pure (value : α) : perform (pure value) state = (value, state) := rfl

@[simp] lemma perform_get : perform (get : StateM State State) state = (state, state) := rfl

@[simp] lemma perform_set : perform (set other : StateM State Unit) state = ((), other) := rfl

@[simp] lemma perform_modify (update : State → State) :
    perform (modify update : StateM State Unit) state = ((), update state) := rfl

@[simp] lemma perform_bind (first : StateM State α) (next : α → StateM State β) :
    perform (first >>= next) state =
      perform (next (perform first state).1) (perform first state).2 := rfl

@[simp] lemma perform_map (result : α → β) (action : StateM State α) :
    perform (result <$> action) state =
      (result (perform action state).1, (perform action state).2) := rfl

@[simp] lemma perform_ite (condition : Prop) [Decidable condition] (yes no : StateM State α) :
    perform (if condition then yes else no) state =
      if condition then perform yes state else perform no state := by
  split <;> rfl

@[simp] lemma perform_discard (action : StateM State α) :
    perform (discard action) state = ((), (perform action state).2) := rfl

@[simp] lemma perform_forM_nil (body : Item → StateM State Unit) :
    perform (([] : List Item).forM body) state = ((), state) := rfl

@[simp] lemma perform_forM_cons (body : Item → StateM State Unit) (item : Item)
    (rest : List Item) :
    perform ((item :: rest).forM body) state =
      perform (rest.forM body) (perform (body item) state).2 := rfl

end Perform

def Keeps (action : StateM State α) : Prop := ∀ state, view (perform action state).2 = view state

lemma keeps_pure (value : α) : Keeps view (pure value) := fun _ => rfl

lemma keeps_get : Keeps view (get : StateM State State) := fun _ => rfl

lemma keeps_modify (update : State → State) (same : ∀ state, view (update state) = view state) :
    Keeps view (modify update) := same

variable {view}

lemma Keeps.bind {first : StateM State α} {next : α → StateM State β}
    (kept : Keeps view first) (after : ∀ value, Keeps view (next value)) :
    Keeps view (first >>= next) := by
  intro state
  exact (after (perform first state).1 (perform first state).2).trans (kept state)

lemma Keeps.ite {condition : Prop} [Decidable condition] {yes no : StateM State α}
    (left : Keeps view yes) (right : Keeps view no) :
    Keeps view (if condition then yes else no) := by
  split
  · exact left
  · exact right

lemma Keeps.forM {body : Item → StateM State Unit} (kept : ∀ item, Keeps view (body item))
    (items : List Item) : Keeps view (items.forM body) := by
  induction items with
  | nil => exact keeps_pure view ()
  | cons item rest ih => exact (kept item).bind fun _ => ih

def untilFalse (body : Item → StateM State Bool) : List Item → StateM State Bool
  | [] => pure true
  | item :: rest => do
      if ← body item then untilFalse body rest else return false

lemma perform_untilFalse_cons (body : Item → StateM State Bool) (item : Item) (rest : List Item)
    (state : State) :
    perform (untilFalse body (item :: rest)) state =
      if (perform (body item) state).1 then perform (untilFalse body rest) (perform (body item) state).2
      else (false, (perform (body item) state).2) := by
  simp [untilFalse]

lemma Keeps.untilFalse {body : Item → StateM State Bool} {items : List Item}
    (kept : ∀ item ∈ items, Keeps view (body item)) : Keeps view (untilFalse body items) := by
  induction items with
  | nil => exact keeps_pure view true
  | cons item rest ih =>
    have tail := ih fun other member => kept other (List.mem_cons_of_mem item member)
    exact (kept item List.mem_cons_self).bind fun _ => tail.ite (keeps_pure view false)

/-- What the action does is, in the view, what another one does there. -/
def Shows (view : State → View) (action : StateM State α) (shown : StateM View α) : Prop :=
  ∀ state, (perform action state).map id view = perform shown (view state)

lemma Shows.untilFalse {body : Item → StateM State Bool} {shown : Item → StateM View Bool}
    (each : ∀ item, Shows view (body item) (shown item)) (items : List Item) :
    Shows view (untilFalse body items) (untilFalse shown items) := by
  induction items with
  | nil => exact fun _ => rfl
  | cons item rest ih =>
    intro state
    rw [perform_untilFalse_cons, perform_untilFalse_cons, ← each item state]
    by_cases goes : (perform (body item) state).1 = true
    · simpa only [Prod.map, id, goes, if_true] using ih (perform (body item) state).2
    · simp [goes]

/-! An action on a part of the state, run in the whole. -/
section Parts

variable {Whole : Type} (part : Whole → State) (put : State → Whole → Whole)

def within (action : StateM State α) : StateM Whole α := do
  let whole ← get
  let outcome := perform action (part whole)
  set (put outcome.2 whole)
  return outcome.1

variable {part put}

lemma Keeps.within {whole : Whole → View} {action : StateM State α}
    (factors : ∀ state, whole state = view (part state))
    (put_part : ∀ state inner, part (put inner state) = inner) (kept : Keeps view action) :
    Keeps whole (within part put action) := by
  intro state
  change whole (put (perform action (part state)).2 state) = whole state
  rw [factors, put_part, kept, factors]

end Parts

end Frames
