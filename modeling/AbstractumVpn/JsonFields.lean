import AbstractumVpn.ImportController

/-!
Objects that are written field by field, some of which may be left out, what
`object[key] = value` does to an object, numbers of the type `int`, and objects
that are kept as a text.
-/

namespace AbstractumVpn.Json

open AssocList

open ImportController (put)

abbrev Fields := List (String × Option Value)

def ofFields (fields : Fields) : Object := AssocList.present fields

variable {fields : Fields}

lemma lookup_absent {key : String} (absent : key ∉ fields.map Prod.fst) :
    (ofFields fields).lookup key = none :=
  lookup_of_not_mem fun member => absent ((present_keys fields).subset member)

def stringOr (value : Value) (default : String) : String := value.toString?.getD default

def unlessEmpty (text : String) : Option Value := if text = "" then none else some (.string text)

@[simp] lemma unlessEmpty_inj {text other : String} :
    unlessEmpty text = unlessEmpty other ↔ text = other := by
  unfold unlessEmpty
  split_ifs with empty empty' <;> simp_all [eq_comm]

abbrev Texts := List (String × String)

def nonEmpty (texts : Texts) : Fields := texts.map fun field => (field.1, unlessEmpty field.2)

lemma mem_nonEmpty {texts : Texts} {field : String × String} (member : field ∈ texts) :
    (field.1, unlessEmpty field.2) ∈ nonEmpty texts :=
  List.mem_map.mpr ⟨field, member, rfl⟩

lemma mem_front {texts : Texts} {field : String × String} (member : field ∈ texts) :
    (field.1, unlessEmpty field.2) ∈ nonEmpty texts ++ fields :=
  List.mem_append_left fields (mem_nonEmpty member)

def Object.text (object : Object) (key : String) : String := (object.value key).toString

/-- What a reader with a default for a missing text gets. -/
lemma toString?_unlessEmpty (text default : String) :
    (((unlessEmpty text).getD .undefined).toString?).getD default =
      if text = "" then default else text := by
  rw [unlessEmpty]
  split
  · rfl
  · rfl

section Distinct

variable (distinct : (fields.map Prod.fst).Nodup)

include distinct

lemma lookup_ofFields (key : String) : (ofFields fields).lookup key = (fields.lookup key).join :=
  lookup_present distinct key

lemma value_ofFields (key : String) :
    Object.value (ofFields fields) key = ((fields.lookup key).join).getD .undefined := by
  rw [Object.value, lookup_ofFields distinct]

lemma contains_ofFields (key : String) :
    Object.contains (ofFields fields) key = ((fields.lookup key).join).isSome := by
  rw [Object.contains, lookup_ofFields distinct]

lemma value_of_mem {key : String} {value : Option Value} (member : (key, value) ∈ fields) :
    Object.value (ofFields fields) key = value.getD .undefined := by
  rw [value_ofFields distinct, lookup_of_mem distinct member, Option.join_some]

lemma text_of_mem {key text : String}
    (written : (key, unlessEmpty text) ∈ fields ∨ (key, some (Value.string text)) ∈ fields) :
    Object.text (ofFields fields) key = text := by
  rcases written with omitted | always
  · rw [Object.text, value_of_mem distinct omitted, Value.toString, toString?_unlessEmpty]
    split
    · next empty => exact empty.symm
    · rfl
  · rw [Object.text, value_of_mem distinct always]
    rfl

lemma texts_of_subset {texts : Texts} (inside : nonEmpty texts ⊆ fields) :
    ∀ field ∈ texts, Object.text (ofFields fields) field.1 = field.2 :=
  fun _ member => text_of_mem distinct (Or.inl (inside (mem_nonEmpty member)))

end Distinct

lemma ofFields_inj {others : Fields} (keys : fields.map Prod.fst = others.map Prod.fst)
    (distinct : (fields.map Prod.fst).Nodup) :
    ofFields fields = ofFields others ↔ fields = others :=
  present_inj keys distinct

lemma value_missing {object : Object} {key : String} (missing : ¬ object.contains key = true) :
    object.value key = .undefined := by
  rw [Object.value, Option.not_isSome_iff_eq_none.mp missing, Option.getD_none]

variable (object : Object) (key other : String) (value : Value)

lemma lookup_put :
    (put object key value).lookup other = if other = key then some value else object.lookup other := by
  rw [put]
  split
  · rename_i present
    have updated : (object.map fun entry => if entry.1 = key then (key, value) else entry) =
        object.map fun entry => (entry.1, if entry.1 = key then value else entry.2) := by
      apply List.map_congr_left
      intro entry _
      split
      · rename_i same
        rw [same]
      · rfl
    rw [updated, lookup_map (fun name held => if name = key then value else held)]
    split
    · rename_i same
      subst same
      obtain ⟨held, found⟩ := Option.isSome_iff_exists.mp present
      simp [found]
    · simp
  · rename_i missing
    rw [List.lookup_append]
    split
    · rename_i same
      subst same
      have none : object.lookup other = none := Option.not_isSome_iff_eq_none.mp missing
      simp [none]
    · rename_i different
      rw [lookup_cons_other [] value different]
      simp

@[simp] lemma value_put_self : Object.value (put object key value) key = value := by
  simp [Object.value, lookup_put]

lemma value_put_other (different : other ≠ key) :
    Object.value (put object key value) other = object.value other := by
  simp [Object.value, lookup_put, different]

@[simp] lemma contains_put_self : Object.contains (put object key value) key = true := by
  simp [Object.contains, lookup_put]

lemma contains_put_other (different : other ≠ key) :
    Object.contains (put object key value) other = object.contains other := by
  simp [Object.contains, lookup_put, different]

lemma contains_of_value {object : Object} {key : String} (held : object.value key ≠ .undefined) :
    object.contains key = true := by
  cases found : object.lookup key with
  | none =>
    rw [Object.value, found] at held
    exact absurd rfl held
  | some value =>
    rw [Object.contains, found]
    rfl

def IsInt (value : Int) : Prop := -2147483648 ≤ value ∧ value ≤ 2147483647

lemma toInt_double {value : Int} (int : IsInt value) : (Value.double (value : Rat)).toInt = value := by
  rw [Value.toInt, if_pos]
  · exact Rat.num_intCast _
  · exact ⟨Rat.den_intCast _, int⟩

/-- The compact text of an object is read as the object. -/
structure ReadsBack (codec : ImportController.Codec) (object : Object) : Prop where
  nonempty : codec.compact (.object object) ≠ ""
  read : codec.fromJson (codec.toUtf8 (codec.compact (.object object))) = some (.object object)

end AbstractumVpn.Json
