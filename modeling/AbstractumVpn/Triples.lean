import AbstractumVpn.Frames

/-!
Pre- and postconditions of state-monad actions. A triple speaks about the result
of an action and the state it leaves, for every state that meets the
precondition; `Preserves` is for a condition that is carried through.
-/

namespace Frames

variable {State View Item α β : Type}

def Triple (pre : State → Prop) (action : StateM State α) (post : α → State → Prop) : Prop :=
  ∀ state, pre state → post (perform action state).1 (perform action state).2

def Preserves (inv : State → Prop) (action : StateM State α) : Prop :=
  Triple inv action fun _ => inv

section Rules

variable {pre : State → Prop} {post : α → State → Prop}

lemma Triple.pure {value : α} (holds : ∀ state, pre state → post value state) :
    Triple pre (pure value) post := holds

lemma Triple.modify {update : State → State} {after : Unit → State → Prop}
    (holds : ∀ state, pre state → after () (update state)) : Triple pre (modify update) after :=
  holds

lemma Triple.bind {first : StateM State β} {next : β → StateM State α}
    (mid : β → State → Prop) (before : Triple pre first mid)
    (after : ∀ value, Triple (mid value) (next value) post) : Triple pre (first >>= next) post := by
  intro state holds
  exact after _ _ (before state holds)

lemma Triple.ite {condition : Prop} [Decidable condition] {yes no : StateM State α}
    (left : condition → Triple pre yes post) (right : ¬ condition → Triple pre no post) :
    Triple pre (if condition then yes else no) post := by
  by_cases holds : condition
  · rw [if_pos holds]
    exact left holds
  · rw [if_neg holds]
    exact right holds

def onward (inv stop : State → Prop) (goes : Bool) (state : State) : Prop :=
  if goes then inv state else stop state

variable {stop : State → Prop} {body : Item → StateM State Bool}

lemma Triple.untilFalse {inv : State → Prop} {items : List Item}
    (one : ∀ item ∈ items, Triple inv (body item) (onward inv stop)) :
    Triple inv (untilFalse body items) (onward inv stop) := by
  induction items with
  | nil => exact Triple.pure fun _ holds => holds
  | cons item rest ih =>
    have tail := ih fun other member => one other (List.mem_cons_of_mem item member)
    refine Triple.bind _ (one item List.mem_cons_self) fun goes => ?_
    cases goes with
    | true => exact tail
    | false => exact Triple.pure fun _ left => left

/-- A fixed sequence of steps, left at the first that fails. -/
lemma Triple.steps {post : State → Prop} {first : StateM State Bool}
    {rest : List (StateM State Bool)} (mid : State → Prop)
    (before : Triple pre first (onward mid stop))
    (after : Triple mid (Frames.untilFalse id rest) (onward post stop)) :
    Triple pre (Frames.untilFalse id (first :: rest)) (onward post stop) := by
  refine Triple.bind _ before fun goes => ?_
  cases goes with
  | true => exact after
  | false => exact Triple.pure fun _ left => left

lemma Triple.steps_end : Triple pre (Frames.untilFalse id []) (onward pre stop) :=
  Triple.pure fun _ holds => holds

/-- What both ways out of a step have in common. -/
lemma Triple.either {inv after : State → Prop} {action : StateM State Bool}
    (triple : Triple pre action (onward inv stop)) (on : ∀ state, inv state → after state)
    (out : ∀ state, stop state → after state) : Triple pre action fun _ => after := by
  intro state holds
  have ended := triple state holds
  revert ended
  cases (perform action state).1 with
  | true => exact on _
  | false => exact out _

lemma Triple.weaken {stronger : State → Prop} {weaker : α → State → Prop}
    {action : StateM State α} (triple : Triple pre action post)
    (first : ∀ state, stronger state → pre state)
    (last : ∀ value state, post value state → weaker value state) :
    Triple stronger action weaker :=
  fun state holds => last _ _ (triple state (first state holds))

end Rules

section Preserving

variable {inv : State → Prop}

lemma Preserves.pure (value : α) : Preserves inv (pure value : StateM State α) :=
  Triple.pure fun _ holds => holds

lemma Preserves.modify {update : State → State}
    (kept : ∀ state, inv state → inv (update state)) : Preserves inv (modify update) :=
  Triple.modify kept

lemma Preserves.bind {first : StateM State β} {next : β → StateM State α}
    (before : Preserves inv first) (after : ∀ value, Preserves inv (next value)) :
    Preserves inv (first >>= next) :=
  Triple.bind _ before after

lemma Preserves.ite {condition : Prop} [Decidable condition] {yes no : StateM State α}
    (left : Preserves inv yes) (right : Preserves inv no) :
    Preserves inv (if condition then yes else no) :=
  Triple.ite (fun _ => left) fun _ => right

lemma Preserves.untilFalse {items : List Item} (kept : ∀ item ∈ items, Preserves inv (body item)) :
    Preserves inv (untilFalse body items) := by
  induction items with
  | nil => exact Preserves.pure true
  | cons item rest ih =>
    have tail := ih fun other member => kept other (List.mem_cons_of_mem item member)
    exact Preserves.bind (kept item List.mem_cons_self) fun _ =>
      Preserves.ite tail (Preserves.pure false)

lemma Preserves.forM {each : Item → StateM State Unit} (kept : ∀ item, Preserves inv (each item))
    (items : List Item) : Preserves inv (items.forM each) := by
  induction items with
  | nil => exact Preserves.pure ()
  | cons item rest ih => exact Preserves.bind (kept item) fun _ => ih

/-- A loop over items of which one loses the condition that the others keep.
What is lost stays lost. -/
lemma Triple.untilFalse_lost {lost : State → Prop} {fine : Item → Prop} {items : List Item}
    (good : ∀ item ∈ items, fine item → Triple inv (body item) (onward inv fun _ => False))
    (bad : ∀ item ∈ items, ¬ fine item → Triple inv (body item) fun _ => lost)
    (stays : ∀ item ∈ items, Preserves lost (body item)) (some : ∃ item ∈ items, ¬ fine item) :
    Triple inv (Frames.untilFalse body items) fun _ => lost := by
  induction items with
  | nil =>
    obtain ⟨item, member, -⟩ := some
    cases member
  | cons item rest ih =>
    rw [List.forall_mem_cons] at good bad stays
    by_cases kept : fine item
    · have later : ∃ item ∈ rest, ¬ fine item := by
        obtain ⟨other, member, unfit⟩ := some
        rcases List.mem_cons.mp member with same | member
        · exact absurd kept (same ▸ unfit)
        · exact ⟨other, member, unfit⟩
      refine Triple.bind _ (good.1 kept) fun goes => ?_
      cases goes with
      | true => exact ih good.2 bad.2 stays.2 later
      | false => exact fun _ left => left.elim
    · have tail : Preserves lost (Frames.untilFalse body rest) := Preserves.untilFalse stays.2
      refine Triple.bind _ (bad.1 kept) fun goes => ?_
      exact Preserves.ite tail (Preserves.pure false)

/-- A condition on a view that the action keeps. -/
lemma Keeps.preserves {view : State → View} {action : StateM State α} (kept : Keeps view action)
    (condition : View → Prop) : Preserves (fun state => condition (view state)) action := by
  intro state holds
  have same := kept state
  change condition (view _)
  rwa [same]

/-- A step that keeps a condition goes on or leaves in it. -/
lemma Preserves.step {action : StateM State Bool} (kept : Preserves inv action)
    (leaves : ∀ state, inv state → stop state) : Triple inv action (onward inv stop) := by
  intro state holds
  have after := kept state holds
  cases (perform action state).1 with
  | true => exact after
  | false => exact leaves _ after

end Preserving

end Frames
