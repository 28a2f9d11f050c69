import Mathlib.Data.List.Basic

/-!
Grammars of command lines: named options, each followed by a fixed number of
values, and positional arguments in a fixed order. `scan` copies what it has
accepted and gives up at the first argument it cannot place.
-/

namespace ArgumentGrammar

structure Rule where
  values : Nat
  validator : Option (List String → Bool)

structure Grammar where
  namedArgs : List (String × Rule)
  positionalArgs : List (List String → Bool)

def Rule.allows (rule : Rule) (values : List String) : Bool :=
  match rule.validator with
  | some validator => validator values
  | none => true

/-- The command line from some point on, with `index` positional arguments
before it. An argument with an option's name is that option. -/
inductive Accepts (grammar : Grammar) : Nat → List String → Prop
  | done (index : Nat) : Accepts grammar index []
  | named (index : Nat) (token : String) (rule : Rule) (values rest : List String)
      (known : grammar.namedArgs.lookup token = some rule)
      (count : values.length = rule.values) (allowed : rule.allows values = true)
      (later : Accepts grammar index rest) : Accepts grammar index (token :: (values ++ rest))
  | positional (index : Nat) (token : String) (rest : List String)
      (validator : List String → Bool) (plain : grammar.namedArgs.lookup token = none)
      (expected : grammar.positionalArgs[index]? = some validator)
      (allowed : validator [token] = true) (later : Accepts grammar (index + 1) rest) :
      Accepts grammar index (token :: rest)

def scan (grammar : Grammar) : Nat → Nat → List String → Option (List String)
  | _, _, [] => some []
  | index, skip + 1, _ :: rest => scan grammar index skip rest
  | index, 0, token :: rest =>
    match grammar.namedArgs.lookup token with
    | some rule =>
      let values := rest.take rule.values
      if values.length ≠ rule.values then none
      else if rule.allows values then
        (scan grammar index rule.values rest).map fun scanned => token :: (values ++ scanned)
      else none
    | none =>
      match grammar.positionalArgs[index]? with
      | some validator =>
        if validator [token] then
          (scan grammar (index + 1) 0 rest).map fun scanned => token :: scanned
        else none
      | none => none

variable (grammar : Grammar) (index : Nat) (args : List String)

lemma scan_skip (skip : Nat) (args : List String) :
    scan grammar index skip args = scan grammar index 0 (args.drop skip) := by
  induction args generalizing skip with
  | nil => cases skip <;> rfl
  | cons token rest ih =>
    cases skip with
    | zero => rfl
    | succ skip =>
      exact ih skip

/-- What is copied is the command line itself, and the grammar allows it. -/
lemma scan_sound (skip : Nat) (args scanned : List String)
    (done : scan grammar index skip args = some scanned) :
    scanned = args.drop skip ∧ Accepts grammar index (args.drop skip) := by
  induction args generalizing index skip scanned with
  | nil =>
    rw [List.drop_nil]
    exact ⟨by cases skip <;> simpa [scan] using done.symm, Accepts.done index⟩
  | cons token rest ih =>
    cases skip with
    | succ skip =>
      exact ih index skip scanned done
    | zero =>
      rw [scan] at done
      rw [List.drop_zero]
      cases known : grammar.namedArgs.lookup token with
      | some rule =>
        simp only [known] at done
        split_ifs at done with count allowed
        obtain ⟨later, scan_later, same⟩ := Option.map_eq_some_iff.mp done
        obtain ⟨copied, accepted⟩ := ih index rule.values later scan_later
        -- the values were copied with the option, the rest by the later scan
        refine ⟨by rw [← same, copied, List.take_append_drop], ?_⟩
        rw [← List.take_append_drop rule.values rest]
        exact Accepts.named index token rule _ _ known (not_not.mp count) allowed accepted
      | none =>
        simp only [known] at done
        cases expected : grammar.positionalArgs[index]? with
        | none => simp [expected] at done
        | some validator =>
          simp only [expected] at done
          split_ifs at done with allowed
          obtain ⟨later, scan_later, same⟩ := Option.map_eq_some_iff.mp done
          obtain ⟨copied, accepted⟩ := ih (index + 1) 0 later scan_later
          rw [List.drop_zero] at copied accepted
          exact ⟨by rw [← same, copied],
            Accepts.positional index token rest validator known expected allowed accepted⟩

lemma scan_complete (accepted : Accepts grammar index args) :
    scan grammar index 0 args = some args := by
  induction accepted with
  | done index => rfl
  | named index token rule values rest known count allowed later ih =>
    have back : (values ++ rest).drop rule.values = rest := by rw [← count]; simp
    have jumped : scan grammar index rule.values (values ++ rest) = some rest := by
      rw [scan_skip, back, ih]
    simp [scan, known, jumped, count, allowed]
  | positional index token rest validator plain expected allowed later ih =>
    simp [scan, plain, expected, allowed, ih]

lemma scan_iff : scan grammar 0 0 args = some args ↔ Accepts grammar 0 args :=
  ⟨fun done => (scan_sound grammar 0 0 args args done).2, scan_complete grammar 0 args⟩

/-- Either the whole command line is copied or nothing is. -/
lemma scan_cases : scan grammar 0 0 args = none ∨ scan grammar 0 0 args = some args := by
  cases result : scan grammar 0 0 args with
  | none => exact Or.inl rfl
  | some scanned =>
    have same := (scan_sound grammar 0 0 args scanned result).1
    exact Or.inr (by rw [same, List.drop_zero])

end ArgumentGrammar
