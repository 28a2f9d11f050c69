import Mathlib.Data.List.Basic

/-!
Runs of a deterministic step function over a list of events, and the rules for
properties that hold in every state a run visits. A guard is a condition on the
state before a step and its event; `Guarded` says that all steps of a run meet
it.
-/

namespace Runs

variable {State Event : Type} (step : State → Event → State)

def run (start : State) (events : List Event) : State := events.foldl step start

variable (start : State) {inv : State → Prop} {guard : State → Event → Prop}

@[simp] lemma run_nil : run step start [] = start := rfl

@[simp] lemma run_cons (event : Event) (rest : List Event) :
    run step start (event :: rest) = run step (step start event) rest := rfl

@[simp] lemma run_append (front back : List Event) :
    run step start (front ++ back) = run step (run step start front) back := by
  simp [run]

def Visits (start : State) (events : List Event) (state : State) : Prop :=
  ∃ front back, events = front ++ back ∧ state = run step start front

def Guarded (guard : State → Event → Prop) : State → List Event → Prop
  | _, [] => True
  | start, event :: rest => guard start event ∧ Guarded guard (step start event) rest

instance decidableGuarded (guard : State → Event → Prop)
    [∀ state event, Decidable (guard state event)] :
    ∀ start events, Decidable (Guarded step guard start events)
  | _, [] => isTrue trivial
  | start, event :: rest =>
    have := decidableGuarded guard (step start event) rest
    inferInstanceAs (Decidable (guard start event ∧ Guarded step guard (step start event) rest))

/-- A guard on the events alone. -/
lemma guarded_forall (allowed : Event → Prop) (start : State) (events : List Event) :
    Guarded step (fun _ event => allowed event) start events ↔ ∀ event ∈ events, allowed event := by
  induction events generalizing start with
  | nil => simp [Guarded]
  | cons event rest ih => simp [Guarded, ih]

/-- Two guards that agree wherever an invariant of the steps holds. -/
lemma guarded_congr {other : State → Event → Prop}
    (kept : ∀ state event, inv state → inv (step state event))
    (same : ∀ state event, inv state → (guard state event ↔ other state event)) (start : State)
    (events : List Event) (holds : inv start) :
    Guarded step guard start events ↔ Guarded step other start events := by
  induction events generalizing start with
  | nil => rfl
  | cons event rest ih =>
    exact and_congr (same start event holds) (ih (step start event) (kept start event holds))

lemma visits_cons (event : Event) (rest : List Event) (state : State) :
    Visits step start (event :: rest) state ↔
      state = start ∨ Visits step (step start event) rest state := by
  constructor
  · rintro ⟨front, back, split, reached⟩
    cases front with
    | nil => exact Or.inl reached
    | cons first front =>
      obtain ⟨same, rest'⟩ := List.cons.inj split
      subst same
      exact Or.inr ⟨front, back, rest', reached⟩
  · rintro (same | ⟨front, back, split, reached⟩)
    · exact ⟨[], event :: rest, rfl, same⟩
    · exact ⟨event :: front, back, by rw [split]; rfl, reached⟩

lemma visits_nil (state : State) : Visits step start [] state ↔ state = start := by
  constructor
  · rintro ⟨front, back, split, reached⟩
    have empty : front = [] := (List.append_eq_nil_iff.mp split.symm).1
    simpa [empty] using reached
  · intro same
    exact ⟨[], [], rfl, same⟩

lemma visits_last (events : List Event) : Visits step start events (run step start events) :=
  ⟨events, [], by simp, rfl⟩

variable {step}

/-- What holds at the start and is kept by every step holds at the end. -/
lemma run_invariant (kept : ∀ state event, inv state → inv (step state event)) (start : State)
    (events : List Event) (holds : inv start) : inv (run step start events) := by
  induction events generalizing start with
  | nil => exact holds
  | cons event rest ih => exact ih (step start event) (kept start event holds)

/-- The same with steps that keep the invariant under a guard. -/
lemma guarded_invariant
    (kept : ∀ state event, inv state → guard state event → inv (step state event)) (start : State)
    (events : List Event) (holds : inv start) (guarded : Guarded step guard start events)
    (state : State) (visited : Visits step start events state) : inv state := by
  induction events generalizing start with
  | nil => rwa [(visits_nil step start state).mp visited]
  | cons event rest ih =>
    rcases (visits_cons step start event rest state).mp visited with same | later
    · rwa [same]
    · exact ih (step start event) (kept start event holds guarded.1) guarded.2 later

/-- A property of the states and a condition on the steps hold along a run if
and only if all its steps meet the guard, when an invariant implies the
property, the guarded steps keep the invariant and meet the condition, and
every other step loses one of the two. -/
lemma visits_steps_iff {property : State → Prop} {allowed guard : State → Event → Prop}
    (implied : ∀ state, inv state → property state)
    (kept : ∀ state event, inv state → guard state event →
      inv (step state event) ∧ allowed state event)
    (forced : ∀ state event, inv state → property (step state event) → allowed state event →
      guard state event) (start : State) (events : List Event) (holds : inv start) :
    ((∀ state, Visits step start events state → property state) ∧
        Guarded step allowed start events) ↔
      Guarded step guard start events := by
  constructor
  · rintro ⟨always, steps⟩
    induction events generalizing start with
    | nil => trivial
    | cons event rest ih =>
      have later : ∀ state, Visits step (step start event) rest state → property state :=
        fun state visited =>
          always state ((visits_cons step start event rest state).mpr (Or.inr visited))
      have first : guard start event :=
        forced start event holds (later _ ⟨[], rest, rfl, rfl⟩) steps.1
      exact ⟨first, ih (step start event) (kept start event holds first).1 later steps.2⟩
  · intro guarded
    constructor
    · intro state visited
      exact implied state (guarded_invariant (fun state event inv met => (kept state event inv met).1)
        start events holds guarded state visited)
    · induction events generalizing start with
      | nil => trivial
      | cons event rest ih =>
        obtain ⟨next, first⟩ := kept start event holds guarded.1
        exact ⟨first, ih (step start event) next guarded.2⟩

/-- The same for a property of the states alone. -/
lemma visits_property_iff {property : State → Prop} {guard : State → Event → Prop}
    (implied : ∀ state, inv state → property state)
    (kept : ∀ state event, inv state → guard state event → inv (step state event))
    (forced : ∀ state event, inv state → property (step state event) → guard state event)
    (start : State) (events : List Event) (holds : inv start) :
    (∀ state, Visits step start events state → property state) ↔
      Guarded step guard start events := by
  have free : Guarded step (fun _ _ => True) start events :=
    (guarded_forall step (fun _ => True) start events).mpr fun _ _ => trivial
  have both := visits_steps_iff implied
    (fun state event inv met => ⟨kept state event inv met, trivial⟩)
    (fun state event inv shown _ => forced state event inv shown) start events holds
  exact Iff.trans (and_iff_left free).symm both

end Runs
