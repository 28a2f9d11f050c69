import Mathlib.Data.List.Basic

/-!
Logs of what a program did, the last entry first, and rules for what may be
written next. A rule is given the new entry and the log before it.
-/

namespace EventLogs

variable {α : Type}

def Follows (rule : α → List α → Prop) : List α → Prop
  | [] => True
  | entry :: before => rule entry before ∧ Follows rule before

@[simp] lemma follows_nil (rule : α → List α → Prop) : Follows rule [] := trivial

instance decidableFollows (rule : α → List α → Prop)
    [∀ entry before, Decidable (rule entry before)] : ∀ log, Decidable (Follows rule log)
  | [] => isTrue trivial
  | entry :: before =>
    have := decidableFollows rule before
    inferInstanceAs (Decidable (rule entry before ∧ Follows rule before))

def since [DecidableEq α] (mark : α) (log : List α) : List α := log.takeWhile (· ≠ mark)

@[simp] lemma since_mark [DecidableEq α] (mark : α) (log : List α) : since mark (mark :: log) = [] := by
  simp [since]

lemma since_other [DecidableEq α] {mark entry : α} (other : entry ≠ mark) (log : List α) :
    since mark (entry :: log) = entry :: since mark log := by
  simp [since, other]

end EventLogs
