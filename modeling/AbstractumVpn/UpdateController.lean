import AbstractumVpn.Json
import AbstractumVpn.QtText
import AbstractumVpn.Runs
import Mathlib.Data.List.Infix
import Mathlib.Order.Basic

/-!
`UpdateController`: the release that the client takes from the answer of the
server, and whether it is newer than the installed one. The tag of a release is
cut to a version of at most four components. `platform` is the end of the name
of an installer, which is compared without regard to the case of ASCII letters,
`dates` the conversion of the date of a release.
-/

namespace AbstractumVpn.UpdateController

open Json

/-- The segments of `QVersionNumber::fromString`, from the parts between the points. What stands
behind the digits of a part is the suffix of the version. -/
def segments : List (List Char) → List Nat
  | [] => []
  | part :: rest =>
    let digits := part.takeWhile Char.isDigit
    match (QtText.decimal digits).filter (· ≤ 2147483647) with
    | none => []
    | some value => if digits = part then value :: segments rest else [value]

def fromString (text : List Char) : List Nat := segments (text.splitOn '.')

def withoutV : List Char → List Char
  | 'v' :: rest => rest
  | tagName => tagName

def normalizedVersion (tagName : List Char) : List Char :=
  let undashed := (withoutV tagName).takeWhile (· ≠ '-')
  let components := undashed.splitOn '.'
  let version := if 4 < components.length then ['.'].intercalate (components.take 4) else undashed
  if fromString version = [] then [] else version

structure State where
  version : List Char := []
  changelogText : String := ""
  releaseDate : String := ""
  downloadUrl : String := ""
  downloadSize : Int := 0
  downloadDigest : String := ""

def toSize : Value → Int
  | .double number => number.num.tdiv number.den
  | _ => 0

def pickInstallerAsset (platform : Option String) (assets : List Value) (s : State) : Bool × State :=
  let isInstaller (suffix : String) (value : Value) : Bool :=
    decide (suffix.toLower.toList <:+ (value.toObject.value "name").toString.toLower.toList)
  match platform.bind fun suffix => assets.find? (isInstaller suffix) with
  | none => (false, s)
  | some value =>
    let asset := value.toObject
    let downloadUrl := (asset.value "browser_download_url").toString
    (downloadUrl ≠ "",
      { s with
        downloadUrl
        downloadSize := toSize (asset.value "size")
        downloadDigest := (asset.value "digest").toString })

def tagName (release : Value) : List Char := (release.toObject.value "tag_name").toString.toList

def parseRelease (platform : Option String) (dates : String → String) :
    List Value → State → Bool × State
  | [], s => (false, s)
  | value :: rest, s =>
    let release := value.toObject
    if (release.value "draft").toBool then parseRelease platform dates rest s
    else
      let version := normalizedVersion (tagName value)
      if version = [] then parseRelease platform dates rest s
      else
        -- the asset is stored also when it turns out to have no address
        let (found, s) := pickInstallerAsset platform (release.value "assets").toArray s
        if found then
          (true,
            { s with
              version
              changelogText := (release.value "body").toString
              releaseDate := dates (release.value "published_at").toString })
        else parseRelease platform dates rest s

def isNewVersionAvailable (appVersion : List Char) (s : State) : Bool :=
  decide (fromString appVersion < fromString s.version)

structure Component where
  digits : List Char
  value : Nat
  read : QtText.decimal digits = some value
  bounded : value ≤ 2147483647

def dotted (components : List Component) : List Char :=
  ['.'].intercalate (components.map Component.digits)

structure Tag where
  v : Bool
  components : List Component
  given : components ≠ []
  suffix : Option (List Char)

def Tag.text (tag : Tag) : List Char :=
  (if tag.v then ['v'] else []) ++ dotted tag.components ++ tag.suffix.elim [] ('-' :: ·)

lemma Component.numeric (component : Component) :
    component.digits ≠ [] ∧ ∀ c ∈ component.digits, c.isDigit = true := by
  have read := component.read
  unfold QtText.decimal at read
  split at read
  · next given => exact ⟨given.1, List.all_eq_true.mp given.2⟩
  · cases read

lemma segments_components (components : List Component) :
    segments (components.map Component.digits) = components.map Component.value := by
  induction components with
  | nil => rfl
  | cons component rest ih =>
    have digits : component.digits.takeWhile Char.isDigit = component.digits :=
      List.takeWhile_eq_self_iff.mpr component.numeric.2
    have bounded := component.bounded
    simp [segments, digits, component.read, Option.filter, bounded, ih]

variable {components : List Component}

lemma split_dotted (given : components ≠ []) :
    (dotted components).splitOn '.' = components.map Component.digits := by
  apply List.splitOn_intercalate
  · intro digits member point
    obtain ⟨component, -, rfl⟩ := List.mem_map.mp member
    exact absurd (component.numeric.2 '.' point) (by decide)
  · simpa using given

lemma fromString_dotted (given : components ≠ []) :
    fromString (dotted components) = components.map Component.value := by
  rw [fromString, split_dotted given, segments_components]

lemma dotted_ne_nil (given : components ≠ []) : dotted components ≠ [] := by
  intro empty
  have none : fromString [] = [] := by decide
  have read := fromString_dotted given
  rw [empty, none] at read
  exact given (List.map_eq_nil_iff.mp read.symm)

lemma mem_dotted {c : Char} (member : c ∈ dotted components) : c.isDigit = true ∨ c = '.' := by
  induction components with
  | nil => cases member
  | cons component rest ih =>
    cases rest with
    | nil =>
      left
      exact component.numeric.2 c (by simpa [dotted] using member)
    | cons next later =>
      have parts : dotted (component :: next :: later) =
          component.digits ++ '.' :: dotted (next :: later) := by
        simp [dotted]
      rw [parts, List.mem_append, List.mem_cons] at member
      rcases member with digit | point | behind
      · exact Or.inl (component.numeric.2 c digit)
      · exact Or.inr point
      · exact ih behind

lemma withoutV_text (tag : Tag) :
    withoutV tag.text = dotted tag.components ++ tag.suffix.elim [] ('-' :: ·) := by
  rw [Tag.text]
  cases tag.v with
  | true => rfl
  | false =>
    -- a version begins with a digit
    obtain ⟨first, rest, parts⟩ := List.exists_cons_of_ne_nil (dotted_ne_nil tag.given)
    have digit : first ≠ 'v' := by
      rintro rfl
      have member : 'v' ∈ dotted tag.components := by simp [parts]
      rcases mem_dotted member with digit | point
      · cases digit
      · cases point
    rw [parts]
    simp [withoutV, digit]

lemma undashed_text (tag : Tag) :
    (withoutV tag.text).takeWhile (· ≠ '-') = dotted tag.components := by
  rw [withoutV_text, List.takeWhile_append_of_pos]
  · cases tag.suffix <;> simp
  · intro c member
    have other : c ≠ '-' := by
      rintro rfl
      rcases mem_dotted member with digit | point
      · cases digit
      · cases point
    simpa using other

lemma normalized_text (tag : Tag) :
    normalizedVersion tag.text = dotted (tag.components.take 4) := by
  have some_taken : tag.components.take 4 ≠ [] := by simpa using tag.given
  rw [normalizedVersion]
  simp only [undashed_text, split_dotted tag.given, List.length_map, ← List.map_take]
  have cut : (if 4 < tag.components.length then dotted (tag.components.take 4)
      else dotted tag.components) = dotted (tag.components.take 4) := by
    split
    · rfl
    · rw [List.take_of_length_le (by omega)]
  rw [← dotted, cut, if_neg]
  simpa [fromString_dotted some_taken] using tag.given

lemma parsed_version (platform : Option String) (dates : String → String) {releases : List Value}
    {s t : State} (parsed : parseRelease platform dates releases s = (true, t)) :
    ∃ release ∈ releases, t.version = normalizedVersion (tagName release) := by
  induction releases generalizing s with
  | nil => cases parsed
  | cons value rest ih =>
    have skipped {before : State} (later : parseRelease platform dates rest before = (true, t)) :
        ∃ release ∈ value :: rest, t.version = normalizedVersion (tagName release) := by
      obtain ⟨release, member, version⟩ := ih later
      exact ⟨release, List.mem_cons_of_mem value member, version⟩
    simp only [parseRelease] at parsed
    split at parsed
    · exact skipped parsed
    · split at parsed
      · exact skipped parsed
      · split at parsed
        · cases parsed
          exact ⟨value, List.mem_cons_self, rfl⟩
        · exact skipped parsed

/-- A release that is taken is newer if and only if the first four numbers of its tag are. -/
theorem update_offered_iff {platform : Option String} {dates : String → String}
    {releases : List Value} {s t : State}
    (parsed : parseRelease platform dates releases s = (true, t)) :
    ∃ release ∈ releases, t.version = normalizedVersion (tagName release) ∧
      ∀ tag : Tag, tagName release = tag.text →
        ∀ installed : List Component, installed.length = 4 →
          (isNewVersionAvailable (dotted installed) t = true ↔
            installed.map Component.value < (tag.components.take 4).map Component.value) ∧
          ((tag.components.take 4).map Component.value = installed.map Component.value →
            isNewVersionAvailable (dotted installed) t = false) := by
  obtain ⟨release, member, version⟩ := parsed_version platform dates parsed
  refine ⟨release, member, version, ?_⟩
  intro tag tagged installed four
  have some_installed : installed ≠ [] := by
    rintro rfl
    cases four
  have some_taken : tag.components.take 4 ≠ [] := by simpa using tag.given
  have newer : isNewVersionAvailable (dotted installed) t = true ↔
      installed.map Component.value < (tag.components.take 4).map Component.value := by
    rw [isNewVersionAvailable, version, tagged, normalized_text, fromString_dotted some_installed,
      fromString_dotted some_taken, decide_eq_true_iff]
  refine ⟨newer, fun same => ?_⟩
  rw [Bool.eq_false_iff, ne_eq, newer, same]
  exact List.lt_irrefl _

/-! ## What the replies leave -/

def downloads (asset : Object) : String × Int × String :=
  ((asset.value "browser_download_url").toString, toSize (asset.value "size"),
    (asset.value "digest").toString)

def State.downloads (s : State) : String × Int × String :=
  (s.downloadUrl, s.downloadSize, s.downloadDigest)

def State.fields (s : State) : List Char × String × String × Int × String :=
  (s.version, s.changelogText, s.downloads)

def store (asset : Object) (s : State) : State :=
  { s with
    downloadUrl := (downloads asset).1
    downloadSize := (downloads asset).2.1
    downloadDigest := (downloads asset).2.2 }

def take (dates : String → String) (release : Value) (s : State) : State :=
  { s with
    version := normalizedVersion (tagName release)
    changelogText := (release.toObject.value "body").toString
    releaseDate := dates (release.toObject.value "published_at").toString }

section Replies

variable (platform : Option String) (dates : String → String)

def picked (assets : List Value) : Option Object :=
  (platform.bind fun suffix => assets.find? fun value =>
    decide (suffix.toLower.toList <:+ (value.toObject.value "name").toString.toLower.toList)).map
      Value.toObject

/-- The installer of a release that has been published with a version. -/
def installer (release : Value) : Option Object :=
  if (release.toObject.value "draft").toBool ∨ normalizedVersion (tagName release) = [] then none
  else picked platform (release.toObject.value "assets").toArray

def installers (releases : List Value) : List Object := releases.filterMap (installer platform)

/-- `received` is no field of the source: the releases of all replies. -/
structure Updater where
  held : State := {}
  received : List Value := []

def reply (u : Updater) (releases : List Value) : Updater :=
  ⟨(parseRelease platform dates releases u.held).2, u.received ++ releases⟩

def Whole (u : Updater) : Prop :=
  u.held.fields = State.fields {} ∨
    ∃ release ∈ u.received, ∃ asset ∈ installer platform release, u.held.fields =
      (normalizedVersion (tagName release), (release.toObject.value "body").toString, downloads asset)

def Untouched (u : Updater) (releases : List Value) : Prop :=
  (parseRelease platform dates releases u.held).1 = false →
    (reply platform dates u releases).held.fields = u.held.fields

/-- There is an address for one of the installers, or the last one has the data that are held. -/
def Addressed (u : Updater) (releases : List Value) : Prop :=
  (∃ asset ∈ installers platform releases, (downloads asset).1 ≠ "") ∨
    ∀ asset ∈ (installers platform releases).getLast?, downloads asset = u.held.downloads

lemma pick_eq (assets : List Value) (s : State) :
    pickInstallerAsset platform assets s = (picked platform assets).elim (false, s) fun asset =>
      (decide ((downloads asset).1 ≠ ""), store asset s) := by
  rw [pickInstallerAsset, picked]
  split
  · next none => rw [none, Option.map_none, Option.elim_none]
  · next found => rw [found, Option.map_some, Option.elim_some, store, downloads]

lemma parse_cons (value : Value) (rest : List Value) (s : State) :
    parseRelease platform dates (value :: rest) s =
      (installer platform value).elim (parseRelease platform dates rest s) fun asset =>
        if (downloads asset).1 ≠ "" then (true, take dates value (store asset s))
        else parseRelease platform dates rest (store asset s) := by
  rw [parseRelease, installer]
  by_cases draft : (value.toObject.value "draft").toBool = true
  · simp [draft]
  · by_cases unversioned : normalizedVersion (tagName value) = []
    · simp [unversioned]
    · simp only [draft, unversioned, pick_eq]
      cases picked platform (value.toObject.value "assets").toArray with
      | none => rfl
      | some asset => by_cases given : (downloads asset).1 = "" <;> simp [take]

/-- A reply is rejected with the data of its last installer, none of which has an address; or the
first one with an address is taken. -/
lemma parse_cases (releases : List Value) (s : State) :
    ((∀ asset ∈ installers platform releases, (downloads asset).1 = "") ∧
      parseRelease platform dates releases s =
        (false, (installers platform releases).getLast?.elim s (store · s))) ∨
    ∃ release ∈ releases, ∃ asset ∈ installers platform releases, (downloads asset).1 ≠ "" ∧
      installer platform release = some asset ∧
      parseRelease platform dates releases s = (true, take dates release (store asset s)) := by
  induction releases generalizing s with
  | nil => exact Or.inl ⟨by simp [installers], rfl⟩
  | cons value rest ih =>
    rw [parse_cons]
    cases found : installer platform value with
    | none =>
      have same : installers platform (value :: rest) = installers platform rest := by
        simp [installers, found]
      rw [Option.elim_none, same]
      rcases ih s with rejected | ⟨release, member, later⟩
      · exact Or.inl rejected
      · exact Or.inr ⟨release, List.mem_cons_of_mem value member, later⟩
    | some first =>
      have first_in : installers platform (value :: rest) = first :: installers platform rest := by
        simp [installers, found]
      rw [Option.elim_some, first_in]
      split
      · next given => exact Or.inr ⟨value, by simp, first, by simp, given, found, rfl⟩
      · next missing =>
        rcases ih (store first s) with ⟨empty, rejected⟩ | ⟨release, member, asset, inside, given, own, taken⟩
        · refine Or.inl ⟨List.forall_mem_cons.mpr ⟨not_not.mp missing, empty⟩, ?_⟩
          rw [rejected, List.getLast?_cons]
          cases (installers platform rest).getLast? <;> rfl
        · exact Or.inr ⟨release, List.mem_cons_of_mem value member, asset,
            List.mem_cons_of_mem first inside, given, own, taken⟩

variable {platform} {u : Updater} {releases : List Value}

lemma rejected_fields (empty : ∀ asset ∈ installers platform releases, (downloads asset).1 = "")
    (rejected : parseRelease platform dates releases u.held =
      (false, (installers platform releases).getLast?.elim u.held (store · u.held))) :
    (reply platform dates u releases).held.fields = u.held.fields ↔
      Addressed platform u releases := by
  have nowhere : ¬ ∃ asset ∈ installers platform releases, (downloads asset).1 ≠ "" := by
    rintro ⟨asset, inside, given⟩
    exact given (empty asset inside)
  rw [Addressed, or_iff_right nowhere, reply, rejected]
  cases (installers platform releases).getLast? with
  | none => simp
  | some asset => simp [State.fields, State.downloads, store, downloads]

lemma reply_whole (whole : Whole platform u) (addressed : Addressed platform u releases) :
    Whole platform (reply platform dates u releases) ∧ Untouched platform dates u releases := by
  rcases parse_cases platform dates releases u.held with
    ⟨empty, rejected⟩ | ⟨release, member, asset, -, -, own, taken⟩
  · have same := (rejected_fields dates empty rejected).mpr addressed
    refine ⟨?_, fun _ => same⟩
    rw [Whole, same]
    rcases whole with unset | ⟨release, member, from_release⟩
    · exact Or.inl unset
    · exact Or.inr ⟨release, List.mem_append_left _ member, from_release⟩
  · constructor
    · refine Or.inr ⟨release, List.mem_append_right _ member, asset, own, ?_⟩
      rw [reply, taken]
      rfl
    · intro refused
      rw [taken] at refused
      cases refused

lemma untouched_addressed (untouched : Untouched platform dates u releases) :
    Addressed platform u releases := by
  rcases parse_cases platform dates releases u.held with
    ⟨empty, rejected⟩ | ⟨-, -, asset, inside, given, -⟩
  · exact (rejected_fields dates empty rejected).mp (untouched (congrArg Prod.fst rejected))
  · exact Or.inl ⟨asset, inside, given⟩

/-- What is held comes from one release, and a rejected reply changes nothing of it, if and only if
no rejected reply ends its search with an installer of which other data are held. -/
theorem release_data_whole_iff (replies : List (List Value)) :
    ((∀ u, Runs.Visits (reply platform dates) {} replies u → Whole platform u) ∧
      Runs.Guarded (reply platform dates) (Untouched platform dates) {} replies) ↔
    Runs.Guarded (reply platform dates) (Addressed platform) {} replies :=
  Runs.visits_steps_iff (fun _ whole => whole) (fun _ _ => reply_whole dates)
    (fun _ _ _ _ => untouched_addressed dates) _ replies (Or.inl rfl)

end Replies

def sampleRelease : Value :=
  .object [("tag_name", .string "v5-rc"), ("assets", .array [.object
    [("name", .string "setup.exe"), ("browser_download_url", .string "url")]])]

def sampleParsed : Bool × State := parseRelease (some ".exe") id [sampleRelease] {}

theorem sample_release_offered : sampleParsed.1 = true ∧
    isNewVersionAvailable (dotted (List.replicate 4 ⟨['4'], 4, by decide, by decide⟩))
      sampleParsed.2 = true := by
  have parsed : sampleParsed = (true, sampleParsed.2) := Prod.ext (by decide +kernel) rfl
  obtain ⟨release, member, -, newer⟩ := update_offered_iff parsed
  obtain rfl := List.mem_singleton.mp member
  have tagged : tagName sampleRelease =
      Tag.text ⟨true, [⟨['5'], 5, by decide, by decide⟩], by simp, some ['r', 'c']⟩ := by decide
  exact ⟨congrArg Prod.fst parsed, (newer _ tagged _ rfl).1.mpr (by decide)⟩

def addressless : Value :=
  .object [("tag_name", .string "v6"), ("assets", .array [.object [("name", .string "setup.exe")]])]

/-- The version stays, and its address is gone. -/
theorem addressless_installer_stored :
    ¬ Runs.Guarded (reply (some ".exe") id) (Untouched (some ".exe") id) {}
      [[sampleRelease], [addressless]] := by
  rintro ⟨-, untouched, -⟩
  have same := untouched (by decide +kernel)
  revert same
  decide +kernel

end AbstractumVpn.UpdateController
