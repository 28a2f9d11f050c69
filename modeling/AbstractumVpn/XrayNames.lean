import AbstractumVpn.XrayInstaller
import Mathlib

/-!
Single values of the Xray settings, each written by one normalisation and read
by another: a name that has been written is read as a name of the user
interface, which is written as the same name again; a range is read as two
numbers. What is left out is read as the value of a new config.
-/

namespace AbstractumVpn.XrayInstaller

open Json XrayServerConfig XrayConfigurator

lemma toLower_toLower (text : String) : toLower (toLower text) = toLower text := by
  simp [toLower, Function.comp_def]

lemma toUpper_toUpper (text : String) : toUpper (toUpper text) = toUpper text := by
  simp [toUpper, Function.comp_def]

variable (placement : String) {text : String}

lemma toLower_eq_empty : toLower text = "" ↔ text = "" := by
  simp [toLower]

lemma toUpper_eq_empty : toUpper text = "" ↔ text = "" := by
  simp [toUpper]

lemma isSpace_letter {c : Char} (low : 65 ≤ c.toNat) (high : c.toNat ≤ 122) :
    QtText.isSpace c = false := by
  simp only [QtText.isSpace]
  simp
  omega

lemma isSpace_toLower (c : Char) : QtText.isSpace c.toLower = QtText.isSpace c := by
  by_cases upper : c.isUpper = true
  · -- neither an upper case letter nor a lower case one is a space
    have letter : 65 ≤ c.toNat ∧ c.toNat ≤ 90 := by
      simpa [Char.isUpper, UInt32.le_iff_toNat_le] using upper
    have lower : c.toLower.toNat = c.toNat + 32 := by
      rw [Char.toLower_eq_of_isUpper upper, Char.toNat_ofNat, if_pos]
      omega
    rw [isSpace_letter (by omega) (by omega), isSpace_letter letter.1 (by omega)]
  · rw [Char.toLower_eq_of_not_isUpper upper]

lemma trimmed_toLower (text : String) : trimmed (toLower text) = toLower (trimmed text) := by
  have spaces : QtText.isSpace ∘ Char.toLower = QtText.isSpace := funext isSpace_toLower
  simp [trimmed, toLower, QtText.trimmed, List.dropWhile_map, spaces,
    ← List.map_reverse]

lemma trimmed_trimmed (text : String) : trimmed (trimmed text) = trimmed text := by
  rw [trimmed, trimmed, String.toList_ofList, QtText.trimmed_trimmed]

lemma sameText_iff {other : String} : sameText text other = true ↔ toLower text = toLower other :=
  decide_eq_true_iff

/-! ## Names

A name of Xray that has been written is read as the name of the user interface,
and that is written as the same name of Xray. -/

def uiName : List (String × String) → String → String
  | [], core => core
  | (name, ui) :: rest, core => if core = name then ui else uiName rest core

lemma uiName_again (write : String → String) {names : List (String × String)} {core : String}
    (table : ∀ entry ∈ names, write entry.2 = entry.1)
    (other : core ∉ names.map Prod.fst → write core = core) : write (uiName names core) = core := by
  induction names with
  | nil => exact other (by simp)
  | cons entry rest ih =>
    obtain ⟨first, later⟩ := List.forall_mem_cons.mp table
    rw [uiName]
    split
    · rename_i same
      rw [first, same]
    · rename_i different
      apply ih later
      intro absent
      apply other
      simpa [different] using absent

lemma normalizeXhttpMode_eq (mode : String) :
    normalizeXhttpMode mode = orDefault (toLower (trimmed mode)) "auto" := by
  simp only [normalizeXhttpMode, Bool.or_eq_true, decide_eq_true_eq, sameText_iff]
  split
  · rename_i auto
    rcases auto with empty | auto
    · rw [empty]
      decide
    · rw [auto]
      decide
  · rename_i given
    have lower : toLower (trimmed mode) ≠ "" := fun empty => given (Or.inl (toLower_eq_empty.mp empty))
    rw [orDefault_given lower]
    split
    · rename_i same
      rw [same]
      decide
    · split
      · rename_i same
        rw [same]
        decide
      · split
        · rename_i same
          rw [same]
          decide
        · rfl

lemma mode_again (mode : String) :
    normalizeXhttpMode (readMode (normalizeXhttpMode mode)) = normalizeXhttpMode mode := by
  have given : normalizeXhttpMode mode ≠ "" := by
    rw [normalizeXhttpMode_eq]
    exact orDefault_ne_empty (by decide)
  have lower : toLower (trimmed (normalizeXhttpMode mode)) = normalizeXhttpMode mode := by
    rw [normalizeXhttpMode_eq, orDefault]
    split
    · decide
    · rw [trimmed_toLower, trimmed_trimmed, toLower_toLower]
  generalize normalizeXhttpMode mode = core at given lower ⊢
  have read : readMode core = uiName [("auto", "Auto"), ("packet-up", "Packet-up"),
      ("stream-up", "Stream-up"), ("stream-one", "Stream-one")] core := by
    simp [readMode, uiName, given]
  rw [read]
  apply uiName_again _
  · decide
  · intro _
    rw [normalizeXhttpMode_eq, lower, orDefault_given given]

lemma sessionSeqPlacement_again {placement : String}
    (given : normalizeSessionSeqPlacement placement ≠ "") :
    normalizeSessionSeqPlacement (sessionSeqUi (normalizeSessionSeqPlacement placement)) =
      normalizeSessionSeqPlacement placement := by
  have lower : toLower (normalizeSessionSeqPlacement placement) =
      normalizeSessionSeqPlacement placement := by
    unfold normalizeSessionSeqPlacement
    split
    · decide
    · exact toLower_toLower placement
  have not_none : normalizeSessionSeqPlacement placement ≠ "none" := by
    simp only [normalizeSessionSeqPlacement, Bool.or_eq_true, sameText_iff]
    split
    · decide
    · rename_i other
      exact fun is_none => other (Or.inr is_none)
  generalize normalizeSessionSeqPlacement placement = core at given lower not_none ⊢
  have read : sessionSeqUi core = uiName [("path", "Path"), ("cookie", "Cookie"),
      ("header", "Header"), ("query", "Query")] core := by
    simp [sessionSeqUi, uiName, given]
  rw [read]
  apply uiName_again _
  · decide
  · intro _
    have other : ¬sameText core "None" = true := by
      rw [sameText_iff, lower]
      exact not_none
    simp [normalizeSessionSeqPlacement, other, lower]

lemma uplinkDataPlacement_again :
    normalizeUplinkDataPlacement (uplinkDataUi (normalizeUplinkDataPlacement placement)) =
      normalizeUplinkDataPlacement placement := by
  -- a placement in a query has been written as one in a header
  have facts : normalizeUplinkDataPlacement placement ≠ "" ∧
      toLower (normalizeUplinkDataPlacement placement) = normalizeUplinkDataPlacement placement ∧
      normalizeUplinkDataPlacement placement ≠ "query" := by
    simp only [normalizeUplinkDataPlacement, Bool.or_eq_true, decide_eq_true_eq, sameText_iff]
    split
    · decide
    · rename_i given
      split
      · decide
      · split
        · decide
        · rename_i not_query
          exact ⟨fun empty => given (Or.inl (toLower_eq_empty.mp empty)), toLower_toLower placement,
            not_query⟩
  generalize normalizeUplinkDataPlacement placement = core at facts ⊢
  obtain ⟨given, lower, not_query⟩ := facts
  have read : uplinkDataUi core = uiName [("body", "Body"), ("auto", "Auto"), ("header", "Header"),
      ("cookie", "Cookie")] core := by
    simp [uplinkDataUi, uiName, given]
  rw [read]
  apply uiName_again _
  · decide
  · intro absent
    obtain ⟨not_body, not_auto, -⟩ : core ≠ "body" ∧ core ≠ "auto" ∧ core ≠ "header" ∧
        core ≠ "cookie" := by
      simpa using absent
    have body : toLower "Body" = "body" := by decide
    have auto : toLower "Auto" = "auto" := by decide
    have query : toLower "Query" = "query" := by decide
    simp [normalizeUplinkDataPlacement, sameText, lower, given, not_body, not_auto, not_query, body,
      auto, query]

/-- What is written: one of two fixed placements, or one that no rule takes and that stays as it
is. -/
lemma paddingPlacement_cases :
    normalizeXPaddingPlacement placement = "cookie" ∨
    normalizeXPaddingPlacement placement = "queryInHeader" ∨
    normalizeXPaddingPlacement placement = toLower (trimmed placement) ∧ trimmed placement ≠ "" ∧
      normalizeXPaddingPlacement (toLower (trimmed placement)) = toLower (trimmed placement) := by
  simp only [normalizeXPaddingPlacement, Bool.or_eq_true, sameText, containsText, trimmed_toLower,
    trimmed_trimmed, toLower_toLower, toLower_eq_empty]
  split
  · exact Or.inl rfl
  · rename_i given
    split
    · exact Or.inr (Or.inl rfl)
    · split
      · exact Or.inr (Or.inl rfl)
      · exact Or.inr (Or.inr ⟨rfl, given, rfl⟩)

lemma containsText_short {part : String} (short : text.toList.length < part.toList.length) :
    containsText text part = false := by
  rw [containsText, decide_eq_false_iff_not]
  intro inside
  have bound := inside.length_le
  simp only [toLower, String.toList_ofList, List.length_map] at bound
  omega

lemma paddingPlacement_word {word : String} (plain : trimmed word = word ∧ word ≠ "" ∧
    word.toList.length < 13 ∧ toLower word ≠ "body") :
    normalizeXPaddingPlacement word = toLower word := by
  obtain ⟨trim, given, short, not_body⟩ := plain
  have query : toLower word ≠ toLower "Query in header" := by
    intro same
    have lengths := congrArg (fun text => text.toList.length) same
    simp only [toLower, String.toList_ofList, List.length_map] at lengths
    have long : "Query in header".toList.length = 15 := by decide
    omega
  have body : toLower "Body" = "body" := by decide
  have nested : containsText word "queryInHeader" = false := containsText_short (by
    have long : "queryInHeader".toList.length = 13 := by decide
    omega)
  simp [normalizeXPaddingPlacement, trim, given, sameText, body, not_body, query, nested]

lemma paddingPlacement_again :
    normalizeXPaddingPlacement (orDefault (placementUi (normalizeXPaddingPlacement placement))
      "Cookie") = normalizeXPaddingPlacement placement := by
  have cookie : normalizeXPaddingPlacement "Cookie" = "cookie" := paddingPlacement_word (by decide)
  have header : normalizeXPaddingPlacement "Header" = "header" := paddingPlacement_word (by decide)
  have query : normalizeXPaddingPlacement "Query" = "query" := paddingPlacement_word (by decide)
  have nested : normalizeXPaddingPlacement "Query in header" = "queryInHeader" := by
    have trim : trimmed "Query in header" = "Query in header" := by decide
    simp [normalizeXPaddingPlacement, trim, sameText]
  rcases paddingPlacement_cases placement with is_cookie | is_nested | ⟨written, given, again⟩
  · rw [is_cookie]
    exact cookie
  · rw [is_nested]
    exact nested
  · rw [written]
    have lower : toLower (toLower (trimmed placement)) = toLower (trimmed placement) :=
      toLower_toLower _
    have core_given : toLower (trimmed placement) ≠ "" := mt toLower_eq_empty.mp given
    generalize toLower (trimmed placement) = core at again lower core_given ⊢
    have not_nested : core ≠ "queryinheader" := by
      -- it would have been written as the name of Xray, which is not in lower case
      rintro rfl
      have inside : containsText "queryinheader" "queryInHeader" = true := by
        have same : toLower "queryinheader" = toLower "queryInHeader" := by decide
        rw [containsText, decide_eq_true_iff, same]
      have trim : trimmed "queryinheader" = "queryinheader" := by decide
      simp [normalizeXPaddingPlacement, trim, inside] at again
    have read : placementUi core = uiName [("cookie", "Cookie"), ("header", "Header"),
        ("query", "Query")] core := by
      simp [placementUi, uiName, lower, not_nested]
    rw [read]
    apply uiName_again fun text => normalizeXPaddingPlacement (orDefault text "Cookie")
    · simp [orDefault, cookie, header, query]
    · intro _
      rw [orDefault_given core_given, again]

lemma paddingMethod_cases (method : String) :
    normalizeXPaddingMethod method = "repeat-x" ∨ normalizeXPaddingMethod method = "tokenish" ∨
    normalizeXPaddingMethod method = toLower (trimmed method) ∧ trimmed method ≠ "" ∧
      normalizeXPaddingMethod (toLower (trimmed method)) = toLower (trimmed method) := by
  simp only [normalizeXPaddingMethod, Bool.or_eq_true, decide_eq_true_eq, sameText_iff,
    trimmed_toLower, trimmed_trimmed, toLower_toLower, toLower_eq_empty]
  split
  · exact Or.inl rfl
  · rename_i not_repeat
    split
    · exact Or.inr (Or.inl rfl)
    · split
      · exact Or.inl rfl
      · exact Or.inr (Or.inr ⟨rfl, fun empty => not_repeat (Or.inl empty), rfl⟩)

lemma paddingMethod_again (method : String) :
    normalizeXPaddingMethod (orDefault (methodUi (normalizeXPaddingMethod method)) "Repeat-x") =
      normalizeXPaddingMethod method := by
  rcases paddingMethod_cases method with is_repeat | is_token | ⟨written, given, again⟩
  · rw [is_repeat]
    decide
  · rw [is_token]
    decide
  · rw [written]
    have core_given : toLower (trimmed method) ≠ "" := mt toLower_eq_empty.mp given
    have lower : toLower (toLower (trimmed method)) = toLower (trimmed method) := toLower_toLower _
    generalize toLower (trimmed method) = core at again lower core_given ⊢
    have read : methodUi core = uiName [("repeat-x", "Repeat-x"), ("tokenish", "Tokenish")] core := by
      simp [methodUi, uiName, lower]
    rw [read]
    apply uiName_again fun text => normalizeXPaddingMethod (orDefault text "Repeat-x")
    · decide
    · intro _
      rw [orDefault_given core_given, again]

lemma number_ne_empty (value : Int) : QtText.number value ≠ "" := by
  intro empty
  have read := QtText.signed_number value
  rw [empty] at read
  cases read

lemma toLongLong_double (text : String) :
    toLongLong (.double (QtText.toLongLong text : Int)) = QtText.toLongLong text := by
  have bounds := QtText.toLongLong_range text
  simp only [toLongLong, Rat.den_intCast, Rat.num_intCast, if_true]
  rw [if_pos bounds]

lemma number_again {value : Int} (int : IsInt value) (default : String) :
    QtText.toInt (orDefault (QtText.number value) default) = value := by
  rw [orDefault_given (number_ne_empty _), QtText.toInt_number _ int.1 int.2]

def Given (least most : String) : Prop := least ≠ "" ∨ most ≠ ""

section Ranges

variable {least most : String} (fallbackMin fallbackMax oldMin oldMax : String)

lemma rangeIfAny_given (given : Given least most) :
    rangeIfAny least most fallbackMin fallbackMax =
      some (range (QtText.toInt (orDefault least fallbackMin))
        (QtText.toInt (orDefault most fallbackMax))) := by
  apply if_neg
  simpa [Given, imp_iff_not_or] using given

lemma rangeIfAny_missing (missing : ¬Given least most) :
    rangeIfAny least most fallbackMin fallbackMax = none := by
  apply if_pos
  simpa [Given] using missing

lemma readRange_range {lower upper : Int} (lower_int : IsInt lower) (upper_int : IsInt upper) :
    readRange (range lower upper) oldMin oldMax = (QtText.number lower, QtText.number upper) := by
  simp only [readRange, range, Value.toObject, Object.value]
  simp [List.lookup_cons, toInt_double lower_int, toInt_double upper_int]

def rangeAgain (value : Value) : Option Value :=
  rangeIfAny (readRange value oldMin oldMax).1 (readRange value oldMin oldMax).2 fallbackMin fallbackMax

/-- A range that is given stays; one that is not given is written with the bounds of a new config. -/
lemma rangeAgain_iff (old : Given oldMin oldMax) :
    rangeAgain fallbackMin fallbackMax oldMin oldMax
        ((rangeIfAny least most fallbackMin fallbackMax).getD .undefined) =
      rangeIfAny least most fallbackMin fallbackMax ↔ Given least most := by
  by_cases given : Given least most
  · apply iff_of_true _ given
    rw [rangeAgain, rangeIfAny_given _ _ given, Option.getD_some,
      readRange_range _ _ (QtText.toInt_range _) (QtText.toInt_range _),
      rangeIfAny_given _ _ (Or.inl (number_ne_empty _)), number_again (QtText.toInt_range _),
      number_again (QtText.toInt_range _)]
  · apply iff_of_false _ given
    rw [rangeAgain, rangeIfAny_missing _ _ given]
    have kept : readRange Value.undefined oldMin oldMax = (oldMin, oldMax) := rfl
    rw [Option.getD_none, kept, rangeIfAny_given _ _ old]
    exact Option.some_ne_none _

end Ranges

lemma longIfAny_again {object : Object} {key text : String}
    (written : object.lookup key = longIfAny text) :
    longIfAny (readLong object key "") = longIfAny text := by
  rw [readLong, Object.contains, Object.value, written]
  by_cases empty : text = ""
  · simp [longIfAny, empty]
  · simp only [longIfAny, empty, if_false, Option.isSome_some, if_true, Option.getD_some,
      toLongLong_double, number_ne_empty]
    rw [QtText.toLongLong_number _ (QtText.toLongLong_range text).1 (QtText.toLongLong_range text).2]

end AbstractumVpn.XrayInstaller
