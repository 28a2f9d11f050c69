import Mathlib.Data.List.Induction

/-!
Lists of rules for nested regions. Of the rules that match, the last decides, or
the last of those with the highest rank. On the points of a region that are in
no region of higher rank both readings give one answer.
-/

namespace NestedRules

variable {Region Point : Type}

structure Nesting (Region Point : Type) where
  covers : Region → Point → Bool
  rank : Region → Nat
  within : Region → Region → Bool
  covers_of_within : ∀ {inner outer point}, within inner outer = true →
    covers inner point = true → covers outer point = true
  within_of_rank : ∀ {inner outer point}, covers inner point = true →
    covers outer point = true → rank outer ≤ rank inner → within inner outer = true

abbrev Rule (Region : Type) := Region × Bool

def last (applies : Region → Bool) (rules : List (Rule Region)) : Option Bool :=
  rules.foldl (fun found rule => if applies rule.1 then some rule.2 else found) none

def prefer (rank : Region → Nat) (found : Option (Rule Region)) (rule : Rule Region) :
    Rule Region :=
  match found with
  | none => rule
  | some best => if rank best.1 ≤ rank rule.1 then rule else best

def best (rank : Region → Nat) (applies : Region → Bool) (rules : List (Rule Region)) :
    Option (Rule Region) :=
  rules.foldl
    (fun found rule => if applies rule.1 then some (prefer rank found rule) else found) none

def closest (rank : Region → Nat) (applies : Region → Bool) (rules : List (Rule Region)) :
    Option Bool :=
  (best rank applies rules).map Prod.snd

lemma last_append (applies : Region → Bool) (rules : List (Rule Region)) (rule : Rule Region) :
    last applies (rules ++ [rule]) =
      if applies rule.1 then some rule.2 else last applies rules := by
  simp [last]

variable (rank : Region → Nat) {applies : Region → Bool} {rules : List (Rule Region)}

lemma best_append (applies : Region → Bool) (rules : List (Rule Region)) (rule : Rule Region) :
    best rank applies (rules ++ [rule]) =
      if applies rule.1 then some (prefer rank (best rank applies rules) rule)
      else best rank applies rules := by
  simp [best]

lemma last_congr {applies' : Region → Bool} {rules : List (Rule Region)}
    (same : ∀ rule ∈ rules, applies rule.1 = applies' rule.1) :
    last applies rules = last applies' rules := by
  induction rules using List.reverseRecOn with
  | nil => rfl
  | append_singleton rules rule ih =>
    rw [last_append, last_append, same rule (by simp),
      ih fun other member => same other (by simp [member])]

lemma closest_congr {applies' : Region → Bool} {rules : List (Rule Region)}
    (same : ∀ rule ∈ rules, applies rule.1 = applies' rule.1) :
    closest rank applies rules = closest rank applies' rules := by
  unfold closest
  congr 1
  induction rules using List.reverseRecOn with
  | nil => rfl
  | append_singleton rules rule ih =>
    rw [best_append, best_append, same rule (by simp),
      ih fun other member => same other (by simp [member])]

lemma last_none (unmatched : ∀ rule ∈ rules, applies rule.1 = false) :
    last applies rules = none := by
  induction rules using List.reverseRecOn with
  | nil => rfl
  | append_singleton rules rule ih =>
    rw [last_append, unmatched rule (by simp)]
    exact ih fun other member => unmatched other (by simp [member])

variable {rule : Rule Region}

lemma best_mem {rank : Region → Nat} {applies : Region → Bool} {rules : List (Rule Region)}
    (found : best rank applies rules = some rule) : rule ∈ rules ∧ applies rule.1 = true := by
  induction rules using List.reverseRecOn with
  | nil => cases found
  | append_singleton rules added ih =>
    rw [best_append] at found
    have earlier : best rank applies rules = some rule →
        rule ∈ rules ++ [added] ∧ applies rule.1 = true :=
      fun before => ⟨by simp [(ih before).1], (ih before).2⟩
    split at found
    · rename_i applied
      cases before : best rank applies rules with
      | none =>
        simp only [before, prefer, Option.some.injEq] at found
        exact found ▸ ⟨by simp, applied⟩
      | some chosen =>
        simp only [before, prefer, Option.some.injEq] at found
        split at found
        · exact found ▸ ⟨by simp, applied⟩
        · exact earlier (before.trans (congrArg some found))
    · exact earlier found

/-- Some rule decides when one matches, and none that matches has a higher rank. -/
lemma best_greatest (applies : Region → Bool) {rules : List (Rule Region)} (member : rule ∈ rules)
    (applied : applies rule.1 = true) :
    ∃ chosen, best rank applies rules = some chosen ∧ rank rule.1 ≤ rank chosen.1 := by
  induction rules using List.reverseRecOn with
  | nil => cases member
  | append_singleton rules added ih =>
    rw [best_append]
    rcases List.mem_append.mp member with earlier | here
    · obtain ⟨chosen, found, higher⟩ := ih earlier
      rw [found]
      split
      · refine ⟨_, rfl, ?_⟩
        simp only [prefer]
        split
        · exact Nat.le_trans higher ‹_›
        · exact higher
      · exact ⟨chosen, rfl, higher⟩
    · rw [List.mem_singleton] at here
      subst here
      rw [if_pos applied]
      refine ⟨_, rfl, ?_⟩
      cases best rank applies rules with
      | none => exact Nat.le_refl _
      | some chosen =>
        simp only [prefer]
        split
        · exact Nat.le_refl _
        · exact Nat.le_of_not_le ‹_›

lemma closest_none {rank : Region → Nat} {applies : Region → Bool} {rules : List (Rule Region)}
    (unmatched : ∀ rule ∈ rules, applies rule.1 = false) : closest rank applies rules = none := by
  cases found : best rank applies rules with
  | none => rw [closest, found, Option.map_none]
  | some rule =>
    obtain ⟨member, applied⟩ := best_mem found
    rw [unmatched rule member] at applied
    cases applied

lemma closest_uniform {rank : Region → Nat} {applies : Region → Bool}
    {rules : List (Rule Region)} (uniform : ∀ rule ∈ rules, rule.2 = true) :
    closest rank applies rules = some true ↔ ∃ rule ∈ rules, applies rule.1 = true := by
  constructor
  · intro decided
    obtain ⟨rule, found, -⟩ := Option.map_eq_some_iff.mp decided
    exact ⟨rule, best_mem found⟩
  · rintro ⟨rule, member, applied⟩
    obtain ⟨chosen, found, -⟩ := best_greatest rank applies member applied
    rw [closest, found, Option.map_some, uniform chosen (best_mem found).1]

variable (nesting : Nesting Region Point)

def Ground (rules : List (Rule Region)) (region : Region) (point : Point) : Prop :=
  nesting.covers region point = true ∧
    ∀ rule ∈ rules, nesting.covers rule.1 point = true → nesting.rank rule.1 ≤ nesting.rank region

variable {nesting}

/-- Which rules match on a region's own ground depends on the region only. -/
lemma covers_ground {region : Region} {point : Point} (ground : Ground nesting rules region point)
    (member : rule ∈ rules) : nesting.covers rule.1 point = nesting.within region rule.1 := by
  rw [Bool.eq_iff_iff]
  constructor
  · intro covered
    exact nesting.within_of_rank ground.1 covered (ground.2 rule member covered)
  · intro inside
    exact nesting.covers_of_within inside ground.1

lemma exists_ground {point : Point} (member : rule ∈ rules)
    (covered : nesting.covers rule.1 point = true) :
    ∃ chosen ∈ rules, Ground nesting rules chosen.1 point := by
  obtain ⟨chosen, found, -⟩ :=
    best_greatest nesting.rank (fun region => nesting.covers region point) member covered
  refine ⟨chosen, (best_mem found).1, (best_mem found).2, fun other listed applied => ?_⟩
  obtain ⟨greatest, again, higher⟩ :=
    best_greatest nesting.rank (fun region => nesting.covers region point) listed applied
  rw [found] at again
  cases again
  exact higher

lemma last_ground {region : Region} {point : Point} (ground : Ground nesting rules region point) :
    last (fun other => nesting.covers other point) rules = last (nesting.within region) rules :=
  last_congr fun _ member => covers_ground ground member

lemma closest_ground {kept : List (Rule Region)} {region : Region} {point : Point}
    (ground : Ground nesting rules region point) (listed : ∀ rule ∈ kept, rule ∈ rules) :
    closest nesting.rank (fun other => nesting.covers other point) kept =
      closest nesting.rank (nesting.within region) kept :=
  closest_congr nesting.rank fun rule member => covers_ground ground (listed rule member)

variable (nesting) in
/-- The last match in a list and the closest one among some of its rules agree on
a set of points if and only if they agree around every region that has own
ground in it. -/
lemma agree_iff (rules kept : List (Rule Region)) (listed : ∀ rule ∈ kept, rule ∈ rules)
    (points : Point → Prop) :
    (∀ point, points point →
      (last (fun region => nesting.covers region point) rules = some true ↔
        closest nesting.rank (fun region => nesting.covers region point) kept = some true)) ↔
    ∀ rule ∈ rules, (∃ point, points point ∧ Ground nesting rules rule.1 point) →
      (last (nesting.within rule.1) rules = some true ↔
        closest nesting.rank (nesting.within rule.1) kept = some true) := by
  constructor
  · rintro agree rule - ⟨point, inside, ground⟩
    rw [← last_ground ground, ← closest_ground ground listed]
    exact agree point inside
  · intro agree point inside
    by_cases matched : ∃ rule ∈ rules, nesting.covers rule.1 point = true
    · obtain ⟨rule, member, covered⟩ := matched
      obtain ⟨chosen, chosen_member, ground⟩ := exists_ground member covered
      rw [last_ground ground, closest_ground ground listed]
      exact agree chosen chosen_member ⟨point, inside, ground⟩
    · have unmatched : ∀ rule ∈ rules, nesting.covers rule.1 point = false := by
        intro rule member
        exact Bool.eq_false_iff.mpr fun covered => matched ⟨rule, member, covered⟩
      rw [last_none unmatched, closest_none fun rule member => unmatched rule (listed rule member)]

end NestedRules
