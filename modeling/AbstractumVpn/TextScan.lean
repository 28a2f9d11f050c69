import Mathlib.Data.List.Basic

/-!
All places of a text where a pattern is found, in their order. A pattern that
never reads past a separator is looked for in each part between the separators
on its own.
-/

namespace TextScan

variable {α β : Type}

def scan (find : List α → Option β) : List α → List β
  | [] => []
  | c :: rest => (find (c :: rest)).toList ++ scan find rest

/-- The pattern neither starts at the separator nor reads past it. -/
structure Stops (find : List α → Option β) (separator : α) : Prop where
  nil : find [] = none
  before : ∀ front back, find (front ++ separator :: back) = find front

variable {find : List α → Option β} {separator : α}

lemma Stops.scan_append (stops : Stops find separator) (front back : List α) :
    scan find (front ++ separator :: back) = scan find front ++ scan find back := by
  induction front with
  | nil =>
    have here : find (separator :: back) = none := (stops.before [] back).trans stops.nil
    simp [scan, here]
  | cons c front ih =>
    have here : find (c :: (front ++ separator :: back)) = find (c :: front) :=
      stops.before (c :: front) back
    simp [scan, here, ih]

lemma Stops.scan_intercalate (stops : Stops find separator) (parts : List (List α)) :
    scan find ([separator].intercalate parts) = parts.flatMap (scan find) := by
  induction parts with
  | nil => rfl
  | cons part parts ih =>
    cases parts with
    | nil => simp
    | cons next rest =>
      rw [List.intercalate_cons_cons, List.append_assoc, List.singleton_append,
        stops.scan_append, ih]
      rfl

lemma Stops.scan_splitOn [DecidableEq α] (stops : Stops find separator) (text : List α) :
    (text.splitOn separator).flatMap (scan find) = scan find text := by
  rw [← stops.scan_intercalate, List.intercalate_splitOn]

lemma scan_nil (text : List α) (nowhere : ∀ rest, rest <:+ text → find rest = none) :
    scan find text = [] := by
  induction text with
  | nil => rfl
  | cons c rest ih =>
    rw [scan, nowhere (c :: rest) (List.suffix_refl _), Option.toList_none, List.nil_append]
    exact ih fun later suffix => nowhere later (suffix.trans (List.suffix_cons c rest))

lemma scan_pass (front back : List α) (start : α)
    (starts : ∀ c rest, c ≠ start → find (c :: rest) = none) (absent : start ∉ front) :
    scan find (front ++ back) = scan find back := by
  induction front with
  | nil => rfl
  | cons c front ih =>
    rw [List.mem_cons, not_or] at absent
    rw [List.cons_append, scan, starts c _ (Ne.symm absent.1), Option.toList_none,
      List.nil_append, ih absent.2]

end TextScan
