import Mathlib.Data.List.Pairwise
import Mathlib.Order.BooleanAlgebra.Set

/-!
Sets of natural numbers kept as lists of closed intervals. A list is canonical
when its intervals are in ascending order with a number left out between any
two. `absorb` and `carve` walk such a list once to unite it with an interval or
to take one away.
-/

namespace Intervals

structure Interval where
  lo : Nat
  hi : Nat
  ordered : lo ≤ hi
  deriving DecidableEq

def Interval.points (i : Interval) : Set Nat := {n | i.lo ≤ n ∧ n ≤ i.hi}

variable (hole new i j : Interval) (list pieces : List Interval)

@[simp] lemma mem_points (n : Nat) : n ∈ i.points ↔ i.lo ≤ n ∧ n ≤ i.hi := Iff.rfl

def covered (list : List Interval) : Set Nat := {n | ∃ i ∈ list, n ∈ i.points}

def Apart (i j : Interval) : Prop := i.hi + 1 < j.lo

def Canonical (list : List Interval) : Prop := list.Pairwise Apart

def Separate (i j : Interval) : Prop := Apart i j ∨ Apart j i

instance (i j : Interval) : Decidable (Apart i j) := inferInstanceAs (Decidable (_ < _))

def join (i j : Interval) : Option Interval :=
  if i.lo ≤ j.hi + 1 ∧ j.lo ≤ i.hi + 1 then
    some ⟨min i.lo j.lo, max i.hi j.hi, by have := i.ordered; omega⟩
  else none

def cut (i j : Interval) : Option (List Interval) :=
  if i.lo ≤ j.hi ∧ j.lo ≤ i.hi then
    some ((if below : i.lo < j.lo then [⟨i.lo, j.lo - 1, by omega⟩] else []) ++
      (if above : j.hi < i.hi then [⟨j.hi + 1, i.hi, above⟩] else []))
  else none

def absorb (new : Interval) : List Interval → List Interval × Option Interval
  | [] => ([], some new)
  | i :: rest =>
    if Apart new i then (i :: rest, some new)
    else match join i new with
      | none => ((absorb new rest).1.cons i, (absorb new rest).2)
      | some whole => if whole = i then (i :: rest, none) else absorb whole rest

def carve (hole : Interval) : List Interval → List Interval × List Interval
  | [] => ([], [])
  | i :: rest =>
    if hole.hi < i.lo then (i :: rest, [])
    else match cut i hole with
      | none => ((carve hole rest).1.cons i, (carve hole rest).2)
      | some pieces => ((carve hole rest).1, pieces ++ (carve hole rest).2)

def place (new : Interval) : List Interval → List Interval
  | [] => [new]
  | i :: rest =>
    if new.lo < i.lo ∨ (new.lo = i.lo ∧ new.hi < i.hi) then new :: i :: rest
    else if new = i then i :: rest
    else i :: place new rest

def placeAll (list pieces : List Interval) : List Interval := pieces.foldl (fun l i => place i l) list

def unite (list : List Interval) (new : Interval) : List Interval :=
  placeAll (absorb new list).1 (absorb new list).2.toList

def subtract (list : List Interval) (hole : Interval) : List Interval :=
  placeAll (carve hole list).1 (carve hole list).2

lemma join_touching (touch : i.lo ≤ j.hi + 1 ∧ j.lo ≤ i.hi + 1) :
    join i j = some ⟨min i.lo j.lo, max i.hi j.hi, by have := i.ordered; omega⟩ :=
  if_pos touch

lemma join_distant (distant : ¬ (i.lo ≤ j.hi + 1 ∧ j.lo ≤ i.hi + 1)) : join i j = none :=
  if_neg distant

lemma cut_meeting (meets : i.lo ≤ j.hi ∧ j.lo ≤ i.hi) :
    cut i j = some ((if below : i.lo < j.lo then [⟨i.lo, j.lo - 1, by omega⟩] else []) ++
      (if above : j.hi < i.hi then [⟨j.hi + 1, i.hi, above⟩] else [])) :=
  if_pos meets

lemma cut_distant (distant : ¬ (i.lo ≤ j.hi ∧ j.lo ≤ i.hi)) : cut i j = none :=
  if_neg distant

@[simp] lemma covered_nil : covered [] = ∅ := by
  simp [covered]

@[simp] lemma covered_cons : covered (i :: list) = i.points ∪ covered list := by
  ext n
  simp [covered]

@[simp] lemma covered_append (front back : List Interval) :
    covered (front ++ back) = covered front ∪ covered back := by
  induction front with
  | nil => simp
  | cons i rest ih => simp [ih, Set.union_assoc]

lemma join_points (whole : Interval) (joined : join i j = some whole) :
    whole.points = i.points ∪ j.points := by
  unfold join at joined
  split at joined
  · cases joined
    ext n
    simp only [mem_points, Set.mem_union]
    omega
  · cases joined

lemma join_none (absent : join i j = none) : Separate i j := by
  unfold join at absent
  split at absent
  · cases absent
  · simp only [Separate, Apart]
    omega

lemma cut_points (cutting : cut i j = some pieces) : covered pieces = i.points \ j.points := by
  unfold cut at cutting
  split at cutting
  · cases cutting
    ext n
    split_ifs <;> simp <;> omega
  · cases cutting

lemma cut_none (absent : cut i j = none) : i.points \ j.points = i.points := by
  unfold cut at absent
  split at absent
  · cases absent
  · ext n
    simp only [mem_points, Set.mem_sdiff]
    omega

lemma place_points : covered (place new list) = new.points ∪ covered list := by
  induction list with
  | nil => simp [place]
  | cons i rest ih =>
    unfold place
    split_ifs with first same
    · simp
    · simp [same, ← Set.union_assoc]
    · simp only [covered_cons, ih]
      exact Set.union_left_comm i.points new.points (covered rest)

lemma mem_place (member : i ∈ place new list) : i = new ∨ i ∈ list := by
  induction list with
  | nil => simpa [place] using member
  | cons j rest ih =>
    unfold place at member
    split_ifs at member
    · simpa using member
    · exact Or.inr member
    · rcases List.mem_cons.mp member with here | later
      · exact Or.inr (by simp [here])
      · rcases ih later with same | old
        · exact Or.inl same
        · exact Or.inr (List.mem_cons_of_mem j old)

lemma place_canonical (canonical : Canonical list) (separate : ∀ i ∈ list, Separate new i) :
    Canonical (place new list) := by
  induction list with
  | nil => exact List.pairwise_singleton Apart new
  | cons i rest ih =>
    obtain ⟨first, later⟩ := List.pairwise_cons.mp canonical
    have here := separate i List.mem_cons_self
    have := new.ordered
    have := i.ordered
    unfold place
    split_ifs with before same
    · refine List.pairwise_cons.mpr ⟨fun j member => ?_, canonical⟩
      have apart : Apart new i := by
        unfold Separate Apart at *
        omega
      rcases List.mem_cons.mp member with equal | member
      · rwa [equal]
      · have := first j member
        unfold Apart at *
        omega
    · exact canonical
    · refine List.pairwise_cons.mpr ⟨fun j member => ?_, ih later fun j member =>
        separate j (List.mem_cons_of_mem i member)⟩
      rcases mem_place new j rest member with equal | member
      · unfold Separate Apart at *
        rw [equal]
        omega
      · exact first j member

lemma placeAll_points : covered (placeAll list pieces) = covered list ∪ covered pieces := by
  induction pieces generalizing list with
  | nil => simp [placeAll]
  | cons i rest ih =>
    rw [placeAll, List.foldl_cons, ← placeAll, ih, place_points, covered_cons,
      Set.union_comm i.points, Set.union_assoc]

lemma placeAll_canonical (canonical : Canonical list) (separate : pieces.Pairwise Separate)
    (outside : ∀ piece ∈ pieces, ∀ i ∈ list, Separate piece i) :
    Canonical (placeAll list pieces) := by
  induction pieces generalizing list with
  | nil => exact canonical
  | cons piece rest ih =>
    obtain ⟨first, later⟩ := List.pairwise_cons.mp separate
    refine ih (place piece list) ?_ later fun other member i placed => ?_
    · exact place_canonical piece list canonical (outside piece List.mem_cons_self)
    · rcases mem_place piece i list placed with same | old
      · rw [same]
        exact (first other member).symm
      · exact outside other (List.mem_cons_of_mem piece member) i old

structure Walked (kept pieces : List Interval) : Prop where
  canonical : Canonical kept
  separate : pieces.Pairwise Separate
  outside : ∀ piece ∈ pieces, ∀ i ∈ kept, Separate piece i

/-- An interval of numbers that are all covered by intervals apart from `i` is
apart from `i`. -/
lemma apart_of_covered (piece : Interval) (list : List Interval) (first : ∀ j ∈ list, Apart i j)
    (inside : piece.points ⊆ covered list) : Apart i piece := by
  obtain ⟨j, member, low, -⟩ := inside (show piece.lo ∈ piece.points by
    simpa using piece.ordered)
  have := first j member
  unfold Apart at *
  omega

lemma absorb_sublist : (absorb new list).1.Sublist list := by
  induction list generalizing new with
  | nil => exact List.Sublist.refl []
  | cons i rest ih =>
    unfold absorb
    split_ifs
    · exact List.Sublist.refl _
    · split
      · exact (ih new).cons_cons i
      · split_ifs
        · exact List.Sublist.refl _
        · exact (ih _).cons i

lemma absorb_points :
    covered (absorb new list).1 ∪ covered (absorb new list).2.toList =
      covered list ∪ new.points := by
  induction list generalizing new with
  | nil => simp [absorb]
  | cons i rest ih =>
    unfold absorb
    split_ifs
    · simp
    · split
      · rw [covered_cons, covered_cons, Set.union_assoc, ih new, Set.union_assoc]
      · rename_i whole joined
        have grown := join_points i new whole joined
        split_ifs with same
        · -- `i` contains the new interval, and nothing is left to add
          subst same
          have inside : new.points ⊆ covered (whole :: rest) := by
            rw [covered_cons, grown]
            exact fun n member => Or.inl (Or.inr member)
          simp only [Option.toList_none, covered_nil, Set.union_empty]
          exact (Set.union_eq_left.mpr inside).symm
        · rw [ih whole, grown, covered_cons, ← Set.union_assoc, Set.union_comm (covered rest)]

lemma absorb_walked (canonical : Canonical list) :
    Walked (absorb new list).1 (absorb new list).2.toList := by
  induction list generalizing new with
  | nil => exact ⟨List.Pairwise.nil, List.pairwise_singleton _ new, by simp [absorb]⟩
  | cons i rest ih =>
    obtain ⟨first, later⟩ := List.pairwise_cons.mp canonical
    unfold absorb
    split_ifs with apart
    · -- the walk stops: all that follows is above `i`
      refine ⟨canonical, List.pairwise_singleton _ new, fun piece member j old => Or.inl ?_⟩
      rw [List.mem_singleton.mp member]
      rcases List.mem_cons.mp old with same | old
      · rwa [same]
      · have := first j old
        have := i.ordered
        unfold Apart at *
        omega
    · split
      · rename_i absent
        have passed : Apart i new := (join_none i new absent).resolve_right apart
        have walked := ih new later
        refine ⟨List.pairwise_cons.mpr ⟨fun j member => ?_, walked.canonical⟩, walked.separate,
          fun piece member j old => ?_⟩
        · exact first j ((absorb_sublist new rest).subset member)
        · rcases List.mem_cons.mp old with same | old
          · rw [same]
            -- what is put back later holds only numbers of `new` and of `rest`
            refine Or.inr (apart_of_covered i piece (new :: rest) ?_ fun n inside => ?_)
            · simpa using ⟨passed, first⟩
            · have total : n ∈ covered rest ∪ new.points :=
                (absorb_points new rest).subset (Or.inr ⟨piece, member, inside⟩)
              rwa [Set.union_comm, ← covered_cons] at total
          · exact walked.outside piece member j old
      · split_ifs
        · exact ⟨canonical, List.Pairwise.nil, by simp⟩
        · exact ih _ later

lemma unite_canonical (new : Interval) (canonical : Canonical list) :
    Canonical (unite list new) :=
  have walked := absorb_walked new list canonical
  placeAll_canonical _ _ walked.canonical walked.separate walked.outside

lemma unite_points (new : Interval) : covered (unite list new) = covered list ∪ new.points :=
  (placeAll_points _ _).trans (absorb_points new list)

lemma cut_inside (cutting : cut i j = some pieces) (piece : Interval) (member : piece ∈ pieces) :
    piece.hi ≤ i.hi := by
  unfold cut at cutting
  split at cutting
  · cases cutting
    rcases List.mem_append.mp member with below | above
    · split_ifs at below with low
      · rw [List.mem_singleton.mp below]
        simp only
        omega
      · cases below
    · split_ifs at above
      · rw [List.mem_singleton.mp above]
      · cases above
  · cases cutting

lemma cut_separate (cutting : cut i j = some pieces) : pieces.Pairwise Separate := by
  unfold cut at cutting
  split at cutting
  · cases cutting
    have := j.ordered
    split_ifs <;> simp [Separate, Apart]
    omega
  · cases cutting

lemma carve_sublist : (carve hole list).1.Sublist list := by
  induction list with
  | nil => exact List.Sublist.refl []
  | cons i rest ih =>
    unfold carve
    split_ifs
    · exact List.Sublist.refl _
    · split
      · exact ih.cons_cons i
      · exact ih.cons i

lemma carve_points (canonical : Canonical list) :
    covered (carve hole list).1 ∪ covered (carve hole list).2 = covered list \ hole.points := by
  induction list with
  | nil => simp [carve]
  | cons i rest ih =>
    obtain ⟨first, later⟩ := List.pairwise_cons.mp canonical
    unfold carve
    split_ifs with above
    · have beyond : Disjoint (covered (i :: rest)) hole.points := by
        rw [Set.disjoint_left]
        rintro n ⟨j, member, low, -⟩ inside
        have := inside.2
        have := i.ordered
        rcases List.mem_cons.mp member with same | member
        · subst same
          omega
        · have apart := first j member
          unfold Apart at apart
          omega
      rw [covered_nil, Set.union_empty, sdiff_eq_left.mpr beyond]
    · split
      · rename_i absent
        rw [covered_cons, covered_cons, Set.union_assoc, ih later, Set.union_sdiff_distrib,
          cut_none i hole absent]
      · rename_i pieces cutting
        rw [covered_append, cut_points i hole pieces cutting, Set.union_left_comm, ih later,
          covered_cons, Set.union_sdiff_distrib]

lemma carve_walked (canonical : Canonical list) :
    Walked (carve hole list).1 (carve hole list).2 := by
  induction list with
  | nil => exact ⟨List.Pairwise.nil, List.Pairwise.nil, by simp [carve]⟩
  | cons i rest ih =>
    obtain ⟨first, later⟩ := List.pairwise_cons.mp canonical
    have walked := ih later
    have stays : ∀ j ∈ (carve hole rest).1, Apart i j :=
      fun j member => first j ((carve_sublist hole rest).subset member)
    have pieces_apart : ∀ piece ∈ (carve hole rest).2, Apart i piece := by
      intro piece member
      refine apart_of_covered i piece rest first fun n inside => ?_
      exact ((carve_points hole rest later).subset (Or.inr ⟨piece, member, inside⟩)).1
    unfold carve
    split_ifs
    · exact ⟨canonical, List.Pairwise.nil, by simp⟩
    · split
      · refine ⟨List.pairwise_cons.mpr ⟨stays, walked.canonical⟩, walked.separate,
          fun piece member j old => ?_⟩
        rcases List.mem_cons.mp old with same | old
        · rw [same]
          exact Or.inr (pieces_apart piece member)
        · exact walked.outside piece member j old
      · rename_i pieces cutting
        -- a piece of `i` ends where `i` ends at the latest
        have lower : ∀ piece ∈ pieces, ∀ j, Apart i j → Apart piece j := by
          intro piece member j apart
          have := cut_inside i hole pieces cutting piece member
          unfold Apart at *
          omega
        refine ⟨walked.canonical, List.pairwise_append.mpr
          ⟨cut_separate i hole pieces cutting, walked.separate, ?_⟩, ?_⟩
        · intro piece member other later
          exact Or.inl (lower piece member other (pieces_apart other later))
        · intro piece member j old
          rcases List.mem_append.mp member with here | later
          · exact Or.inl (lower piece here j (stays j old))
          · exact walked.outside piece later j old

lemma subtract_canonical (hole : Interval) (canonical : Canonical list) :
    Canonical (subtract list hole) :=
  have walked := carve_walked hole list canonical
  placeAll_canonical _ _ walked.canonical walked.separate walked.outside

lemma subtract_points (hole : Interval) (canonical : Canonical list) :
    covered (subtract list hole) = covered list \ hole.points :=
  (placeAll_points _ _).trans (carve_points hole list canonical)

end Intervals
