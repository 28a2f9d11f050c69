import AbstractumVpn.Runs

/-!
Calls that wait in an event loop of their own. A call is the list of operations
it still has to do. The calls under way are a stack, the innermost first: while
a call waits, its loop handles events, and it goes on only when every call that
was begun in the meantime has returned.
-/

namespace EventLoops

structure Loop (State Operation : Type) where
  state : State
  calls : List (List Operation)

/-- `handle` begins the call for an event. `perform` gives the operations that
come before the rest of the call, and no result while the operation has to wait
for something else. -/
structure Program (State Event Operation : Type) where
  handle : State → Event → State × List Operation
  waits : State → Operation → Bool
  perform : State → Operation → Option (State × List Operation)

inductive Turn (Event : Type) where
  | event (event : Event)
  | go

/-- An event, and turns for the call it begins. -/
def handled {Event : Type} (event : Event) (turns : Nat) : List (Turn Event) :=
  .event event :: List.replicate turns .go

variable {State Event Operation : Type} (program : Program State Event Operation)

def Loop.listens (loop : Loop State Operation) : Bool :=
  match loop.calls with
  | [] => true
  | [] :: _ => false
  | (operation :: _) :: _ => program.waits loop.state operation

def step (loop : Loop State Operation) : Turn Event → Loop State Operation
  | .event event =>
    if loop.listens program then
      let (state, call) := program.handle loop.state event
      ⟨state, call :: loop.calls⟩
    else loop
  | .go =>
    match loop.calls with
    | [] => loop
    | [] :: outer => ⟨loop.state, outer⟩
    | (operation :: rest) :: outer =>
      match program.perform loop.state operation with
      | none => loop
      | some (state, before) => ⟨state, (before ++ rest) :: outer⟩

variable {program}

lemma step_event {state : State} {calls : List (List Operation)}
    (listens : Loop.listens program ⟨state, calls⟩ = true) (event : Event) :
    step program ⟨state, calls⟩ (.event event) =
      ⟨(program.handle state event).1, (program.handle state event).2 :: calls⟩ :=
  if_pos listens

lemma step_go {state after : State} {operation : Operation} {before : List Operation}
    (performed : program.perform state operation = some (after, before)) (rest : List Operation)
    (outer : List (List Operation)) :
    step program ⟨state, (operation :: rest) :: outer⟩ .go = ⟨after, (before ++ rest) :: outer⟩ := by
  simp [step, performed]

variable {inv : State → List (List Operation) → Prop}
  {guard : Loop State Operation → Turn Event → Prop}

/-- An invariant of the loop from the begin of a call, the return of one and
each of its operations. -/
lemma guarded_step
    (handled : ∀ state calls event, inv state calls → guard ⟨state, calls⟩ (.event event) →
      inv (program.handle state event).1 ((program.handle state event).2 :: calls))
    (returned : ∀ state outer, inv state ([] :: outer) → inv state outer)
    (performed : ∀ state operation rest outer after before,
      inv state ((operation :: rest) :: outer) →
      guard ⟨state, (operation :: rest) :: outer⟩ .go →
      program.perform state operation = some (after, before) →
      inv after ((before ++ rest) :: outer))
    (loop : Loop State Operation) (turn : Turn Event) (holds : inv loop.state loop.calls)
    (met : guard loop turn) :
    inv (step program loop turn).state (step program loop turn).calls := by
  obtain ⟨state, calls⟩ := loop
  cases turn with
  | event event =>
    simp only [step]
    split
    · exact handled state calls event holds met
    · exact holds
  | go =>
    match calls with
    | [] => exact holds
    | [] :: outer => exact returned state outer holds
    | (operation :: rest) :: outer =>
      simp only [step]
      cases result : program.perform state operation with
      | none => exact holds
      | some reached => exact performed state operation rest outer _ _ holds met result

/-- A call whose operations neither wait nor bring others with them, to its
return. -/
lemma run_plain {effect : State → Operation → State} {keeps : State → Prop} (call : List Operation)
    (plain : ∀ operation ∈ call, ∀ state, keeps state →
      program.perform state operation = some (effect state operation, []) ∧
        keeps (effect state operation))
    (state : State) (outer : List (List Operation)) (kept : keeps state) :
    Runs.run (step program) ⟨state, call :: outer⟩ (List.replicate (call.length + 1) .go) =
      ⟨call.foldl effect state, outer⟩ := by
  induction call generalizing state with
  | nil => rfl
  | cons operation rest ih =>
    obtain ⟨performed, after⟩ := plain operation List.mem_cons_self state kept
    rw [List.length_cons, List.replicate_succ, Runs.run_cons, step_go performed, List.foldl_cons]
    exact ih (fun other later => plain other (List.mem_cons_of_mem operation later)) _ after

end EventLoops
