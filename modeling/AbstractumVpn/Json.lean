import AbstractumVpn.AssocList
import Mathlib.Data.Rat.Defs

/-!
The part of Qt's JSON API that the service and the daemon read their requests
with. A conversion of a value of another type gives that conversion's default.
Numbers are exact rationals; `toInt` accepts whole numbers in the range of a C++
`int`.
-/

namespace AbstractumVpn.Json

inductive Value where
  | undefined
  | null
  | bool (value : Bool)
  | double (value : Rat)
  | string (value : String)
  | array (items : List Value)
  | object (entries : List (String × Value))
  deriving Inhabited

abbrev Object := List (String × Value)

def Object.value (object : Object) (key : String) : Value :=
  (object.lookup key).getD .undefined

def Object.contains (object : Object) (key : String) : Bool :=
  (object.lookup key).isSome

def Object.insert (object : Object) (key : String) (value : Value) : Object :=
  (key, value) :: object.filter (·.1 ≠ key)

def Object.remove (object : Object) (key : String) : Object := object.filter (·.1 ≠ key)

lemma Object.value_insert_other (object : Object) (key other : String) (value : Value)
    (different : other ≠ key) : (object.insert key value).value other = object.value other := by
  rw [Object.value, Object.insert, AssocList.lookup_cons_other _ _ different,
    AssocList.lookup_filter, if_neg different, Object.value]

@[simp] lemma Object.value_insert_self (object : Object) (key : String) (value : Value) :
    (object.insert key value).value key = value := by
  simp [Object.value, Object.insert]

namespace Value

def toString? : Value → Option String
  | .string text => some text
  | _ => none

def toString (value : Value) : String := value.toString?.getD ""

def toInt : Value → Int
  | .double number =>
    if number.den = 1 ∧ -2147483648 ≤ number.num ∧ number.num ≤ 2147483647
    then number.num else 0
  | _ => 0

def toArray : Value → List Value
  | .array items => items
  | _ => []

def toObject : Value → Object
  | .object entries => entries
  | _ => []

def toBool : Value → Bool
  | .bool value => value
  | _ => false

end Value

def textToBool (text : String) : Bool :=
  !(text == "" || text == "0" || text.toList.map Char.toLower == "false".toList)

lemma mapM_eq_some_iff {α β : Type} (f : α → Option β) (items : List α) (results : List β) :
    items.mapM f = some results ↔ items.map f = results.map some := by
  induction items generalizing results with
  | nil => cases results <;> simp
  | cons item rest ih =>
    rw [List.mapM_cons, List.map_cons]
    cases results with
    | nil => cases f item <;> cases rest.mapM f <;> simp
    | cons result later =>
      cases f item with
      | none => simp
      | some found =>
        rw [List.map_cons, List.cons.injEq, Option.some.injEq, ← ih]
        cases rest.mapM f <;> simp

/-- The strings of an array up to the first entry that is no string, as the
loops with `if (!v.isString()) break;` collect them. -/
def leadingStrings : List Value → List String
  | .string text :: rest => text :: leadingStrings rest
  | _ => []

end AbstractumVpn.Json
