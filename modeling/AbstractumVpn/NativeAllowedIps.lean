import AbstractumVpn.LineBuffer
import AbstractumVpn.SplitTunnelConfig

/-!
What `appendSplitTunnelingConfig` makes of a native config that has its allowed
addresses in its text only: it takes the first line that has the word
`AllowedIPs` in it and splits it at ` = ` and at `, `, however the entries are
spaced.
-/

namespace AbstractumVpn.NativeAllowedIps

open AppSettings Json SplitTunnelConfig

def allowedValue (line : String) : Option (List Char) :=
  let key := line.toList.takeWhile (· ≠ '=')
  if '=' ∈ line.toList ∧ QtText.trimmed key = "AllowedIPs".toList then
    some (line.toList.dropWhile (· ≠ '=')).tail
  else none

def valueEntries (value : List Char) : List String :=
  (value.splitOn ',').map fun entry => String.ofList (entry.filter (! QtText.isSpace ·))

def entries (text : String) : List String :=
  ((QtText.split text "\n").filterMap allowedValue).flatMap valueEntries

def nativeText (configuration : Object) : String := ((configData configuration).value "config").toString

/-- The configuration is made, its allowed addresses are the entries of the text, and it has no
sites only when all of them are meant. -/
def Handled (qt : Qt) (settings : Settings) (configuration : Object) : Prop :=
  ∃ raw, appendSplitTunnelingConfig qt settings configuration = .ok raw ∧
    allowedIps raw = (entries (nativeText configuration)).map .string ∧
    (raw.value "splitTunnelSites" = texts [] →
      raw.value "splitTunnelType" = .double RouteMode.vpnAllSites.code)

/-- The first line with the word in it is written with one blank on both sides of the equals sign
and behind each comma, and lists all entries of the text. -/
def WellWritten (configuration : Object) : Prop :=
  ∀ line ∈ nativeLine (configData configuration) "AllowedIPs",
    entries (nativeText configuration) ≠ [] ∧
      (QtText.split line " = ")[1]? =
        some (String.intercalate ", " (entries (nativeText configuration)))

/-- A route mode of the user's is for a config that sends everything through the tunnel. -/
def ModeFits (settings : Settings) (configuration : Object) : Prop :=
  settings.isSitesSplitTunnelingEnabled = true → settings.routeMode ≠ .vpnAllSites →
    "0.0.0.0/0" ∈ entries (nativeText configuration) ∧ "::/0" ∈ entries (nativeText configuration)

lemma entries_no_comma {text entry : String} (member : entry ∈ entries text) :
    ',' ∉ entry.toList := by
  obtain ⟨value, -, listed⟩ := List.mem_flatMap.mp member
  obtain ⟨piece, between, rfl⟩ := List.mem_map.mp listed
  rw [String.toList_ofList]
  intro comma
  exact LineBuffer.piece_no_mark ',' value piece between (List.mem_of_mem_filter comma)

lemma allowedValue_word {line : String} (value : List Char) (listed : allowedValue line = some value) :
    "AllowedIPs".toList <:+: line.toList := by
  rw [allowedValue] at listed
  split at listed
  · rename_i key
    rw [← key.2]
    exact (QtText.trimmed_part _).trans (List.takeWhile_prefix _).isInfix
  · cases listed

lemma entries_absent {configuration : Object}
    (absent : nativeLine (configData configuration) "AllowedIPs" = none) :
    entries (nativeText configuration) = [] := by
  rw [nativeLine, List.find?_eq_none] at absent
  have nothing : (QtText.split (nativeText configuration) "\n").filterMap allowedValue = [] := by
    rw [List.filterMap_eq_nil_iff]
    intro line member
    by_contra listed
    obtain ⟨value, found⟩ := Option.ne_none_iff_exists'.mp listed
    exact absent line member (decide_eq_true (allowedValue_word value found))
  rw [entries, nothing, List.flatMap_nil]

/-- A text is split at `, ` into given entries if and only if it is those joined. -/
lemma split_entries {listed : List String} (some_entry : listed ≠ [])
    (no_comma : ∀ entry ∈ listed, ',' ∉ entry.toList) (value : String) :
    QtText.split value ", " = listed ↔ value = String.intercalate ", " listed := by
  have absent : ∀ piece ∈ listed.map String.toList, ',' ∉ piece := by
    intro piece member
    obtain ⟨entry, inside, rfl⟩ := List.mem_map.mp member
    exact no_comma entry inside
  have some_piece : listed.map String.toList ≠ [] := by simpa using some_entry
  have separator : (", " : String).toList = ',' :: [' '] := rfl
  have pieces := QtText.splitFrom_eq_iff ',' [' '] some_piece absent value.toList
  rw [← String.toList_inj, String.toList_intercalate, separator, ← pieces, QtText.split, separator]
  constructor
  · rintro rfl
    rw [List.map_map]
    exact (List.map_id'' (fun text => String.toList_ofList) _).symm
  · intro split
    rw [split, List.map_map]
    exact List.map_id'' (fun text => String.ofList_toList) _

section Native

variable {configuration : Object} (wireguard : isWireguard configuration = true)
  (native : (configData configuration).value "allowed_ips" = .undefined)

include native in
lemma split_absent (absent : nativeLine (configData configuration) "AllowedIPs" = none) :
    splitAllowedIps (configData configuration) = .ok none := by
  rw [splitAllowedIps, native]
  simp only [absent]

include native in
lemma split_listed {line value : String}
    (first : nativeLine (configData configuration) "AllowedIPs" = some line)
    (behind : (QtText.split line " = ")[1]? = some value) :
    splitAllowedIps (configData configuration) =
      .ok (some ((configData configuration).insert "allowed_ips"
        (texts (QtText.split value ", ")))) := by
  rw [splitAllowedIps, native]
  simp only [first]
  cases parts : QtText.split line " = " with
  | nil => simp [parts] at behind
  | cons key rest =>
    cases rest with
    | nil => simp [parts] at behind
    | cons held more =>
      rw [parts] at behind
      obtain rfl : held = value := Option.some.inj behind
      rfl

include native in
/-- A line with the word and without ` = ` stops the program. -/
lemma split_crash {line : String}
    (first : nativeLine (configData configuration) "AllowedIPs" = some line)
    (missing : (QtText.split line " = ")[1]? = none) :
    splitAllowedIps (configData configuration) = .error .outOfRange := by
  rw [splitAllowedIps, native]
  simp only [first]
  cases parts : QtText.split line " = " with
  | nil => rfl
  | cons key rest =>
    cases rest with
    | nil => rfl
    | cons held more => simp [parts] at missing

lemma texts_injective {left right : List String} (same : left.map Value.string = right.map Value.string) :
    left = right := by
  apply List.map_injective_iff.mpr _ same
  intro one other equal
  exact Value.string.inj equal

include wireguard native in
/-- The allowed addresses are the entries of the text exactly when it is written as the code
expects. -/
lemma allowed_iff :
    (∃ completed, complete configuration = .ok completed ∧
      allowedIps completed = (entries (nativeText configuration)).map .string) ↔
      WellWritten configuration := by
  cases first : nativeLine (configData configuration) "AllowedIPs" with
  | none =>
    constructor
    · intro _ line member
      rw [first] at member
      cases member
    · intro _
      obtain ⟨completed, made, allowed⟩ := complete_allowed wireguard (split_absent native first)
      refine ⟨completed, made, ?_⟩
      rw [allowedIps, allowed, entries_absent first, Option.getD_none, native]
      rfl
  | some line =>
    have single : WellWritten configuration ↔ entries (nativeText configuration) ≠ [] ∧
        (QtText.split line " = ")[1]? =
          some (String.intercalate ", " (entries (nativeText configuration))) := by
      rw [WellWritten, first]
      simp
    rw [single]
    cases behind : (QtText.split line " = ")[1]? with
    | none =>
      constructor
      · rintro ⟨completed, made, -⟩
        rw [complete, split_crash native first behind] at made
        cases made
      · rintro ⟨-, impossible⟩
        cases impossible
    | some value =>
      obtain ⟨completed, made, allowed⟩ :=
        complete_allowed wireguard (split_listed native first behind)
      rw [Option.getD_some, Object.value_insert_self] at allowed
      replace allowed := congrArg Value.toArray allowed
      have pieces : (∃ completed, complete configuration = .ok completed ∧
          allowedIps completed = (entries (nativeText configuration)).map .string) ↔
          QtText.split value ", " = entries (nativeText configuration) := by
        constructor
        · rintro ⟨other, made', listed⟩
          obtain rfl : completed = other := Except.ok.inj (made.symm.trans made')
          exact texts_injective (allowed.symm.trans listed)
        · intro split
          rw [split] at allowed
          exact ⟨completed, made, allowed⟩
      rw [pieces, Option.some.injEq]
      constructor
      · intro split
        have some_entry : entries (nativeText configuration) ≠ [] := by
          rw [← split, QtText.split, ne_eq, List.map_eq_nil_iff]
          exact QtText.splitFrom_ne_nil _ _ _ _
        exact ⟨some_entry, (split_entries some_entry (fun _ => entries_no_comma) value).mp split⟩
      · rintro ⟨some_entry, joined⟩
        exact (split_entries some_entry (fun _ => entries_no_comma) value).mpr joined

end Native

lemma containsText_iff (listed : List String) (text : String) :
    containsText (listed.map .string) text = true ↔ text ∈ listed := by
  rw [containsText, List.any_map, List.any_eq_true]
  constructor
  · rintro ⟨entry, member, same⟩
    obtain rfl : entry = text := Option.some.inj (beq_iff_eq.mp same)
    exact member
  · intro member
    exact ⟨text, member, beq_iff_eq.mpr rfl⟩

/-- An empty list of sites goes with another mode only for a config that site-based split
tunnelling is not meant for. -/
lemma sitesConfig_iff (qt : Qt) (settings : Settings) (allowed : Bool) (dns1 dns2 : String) :
    ((sitesConfig qt settings allowed dns1 dns2).2 = [] →
        (sitesConfig qt settings allowed dns1 dns2).1 = .vpnAllSites) ↔
      (settings.isSitesSplitTunnelingEnabled = true → settings.routeMode ≠ .vpnAllSites →
        allowed = true) := by
  rw [sitesConfig]
  cases settings.isSitesSplitTunnelingEnabled with
  | false => simp
  | true =>
    cases allowed with
    | false => simp
    | true =>
      simp only [if_true, implies_true, iff_true]
      split
      · exact fun _ => rfl
      · rename_i some_site
        split
        · intro empty
          exact absurd (List.append_eq_nil_iff.mp empty).1 some_site
        · intro empty
          exact absurd empty some_site

lemma mode_of_code {mode : RouteMode}
    (same : Value.double mode.code = .double RouteMode.vpnAllSites.code) : mode = .vpnAllSites := by
  have code := Value.double.inj same
  cases mode with
  | vpnAllSites => rfl
  | vpnOnlyForwardSites => exact absurd code (by decide)
  | vpnAllExceptSites => exact absurd code (by decide)

lemma texts_nil {list : List String} (empty : texts list = texts []) : list = [] := by
  rw [texts, texts, Value.array.injEq, List.map_nil, List.map_eq_nil_iff] at empty
  exact empty

section Sites

variable (qt : Qt) (settings : Settings) {completed : Object}
  (wireguard : isWireguard completed = true)

include wireguard in
lemma emitted_iff :
    ((addSplitTunneling qt settings completed).value "splitTunnelSites" = texts [] →
        (addSplitTunneling qt settings completed).value "splitTunnelType" =
          .double RouteMode.vpnAllSites.code) ↔
      ((wireguardSites qt settings completed).2 = [] →
        (wireguardSites qt settings completed).1 = .vpnAllSites) := by
  rw [add_sites qt wireguard, add_type qt wireguard]
  constructor
  · intro emitted empty
    rw [empty] at emitted
    exact mode_of_code (emitted rfl)
  · intro all empty
    rw [all (texts_nil empty)]

lemma mode_fits_iff {listed : List String} (allowed : allowedIps completed = listed.map .string) :
    ((wireguardSites qt settings completed).2 = [] →
        (wireguardSites qt settings completed).1 = .vpnAllSites) ↔
      (settings.isSitesSplitTunnelingEnabled = true → settings.routeMode ≠ .vpnAllSites →
        "0.0.0.0/0" ∈ listed ∧ "::/0" ∈ listed) := by
  rw [wireguardSites, sitesConfig_iff, allowed, containsDefaults, Bool.and_eq_true,
    containsText_iff, containsText_iff]

end Sites

/-- A native config is handled well if and only if its text is written as the code expects and
the route mode fits it. -/
theorem native_config_handled_iff (qt : Qt) (settings : Settings) (configuration : Object)
    (wireguard : isWireguard configuration = true)
    (native : (configData configuration).value "allowed_ips" = .undefined) :
    Handled qt settings configuration ↔
      WellWritten configuration ∧ ModeFits settings configuration := by
  rw [← allowed_iff wireguard native]
  constructor
  · rintro ⟨raw, appended, listed, emitted⟩
    obtain ⟨completed, made, rfl⟩ := (append_ok_iff qt wireguard settings raw).mp appended
    have kept := (complete_frame wireguard made).1
    have allowed : allowedIps completed = (entries (nativeText configuration)).map .string := by
      rw [allowedIps, ← add_data qt kept settings]
      exact listed
    rw [emitted_iff qt settings kept, mode_fits_iff qt settings allowed] at emitted
    exact ⟨⟨completed, made, allowed⟩, emitted⟩
  · rintro ⟨⟨completed, made, allowed⟩, fits⟩
    have kept := (complete_frame wireguard made).1
    refine ⟨_, (append_ok_iff qt wireguard settings _).mpr ⟨completed, made, rfl⟩, ?_, ?_⟩
    · rw [allowedIps, add_data qt kept settings]
      exact allowed
    · rw [emitted_iff qt settings kept, mode_fits_iff qt settings allowed]
      exact fits

/-! Native configs of one line, for a user who wants some sites kept out of the tunnel. -/

def exceptSites : Settings where
  isSitesSplitTunnelingEnabled := true
  routeMode := .vpnAllExceptSites
  vpnSites _ := []
  isAppsSplitTunnelingEnabled := false
  appsRouteMode := .vpnAllApps
  vpnApps _ := []

def nativeConfig (text : String) : Object :=
  [("protocol", .string "wireguard"), ("wireguard_config_data", .object [("config", .string text)])]

/-- A line without blanks stops the program, and a config that does not send everything through
the tunnel keeps the mode of the user although it has no sites. -/
theorem native_config_mishandled :
    appendSplitTunnelingConfig noAddresses exceptSites (nativeConfig "AllowedIPs=0.0.0.0/0") =
        .error .outOfRange ∧
      entries "AllowedIPs=0.0.0.0/0" = ["0.0.0.0/0"] ∧
      (appendSplitTunnelingConfig noAddresses exceptSites
        (nativeConfig "AllowedIPs = 10.0.0.0/8")).toOption.map (fun raw =>
          ((raw.value "splitTunnelSites").toArray.length, (raw.value "splitTunnelType").toInt)) =
        some (0, 2) := by
  refine ⟨rfl, ?_, ?_⟩
  · decide +kernel
  · decide +kernel

theorem spaced_config_handled :
    Handled noAddresses exceptSites (nativeConfig "AllowedIPs = 0.0.0.0/0, ::/0") := by
  have listed : entries (nativeText (nativeConfig "AllowedIPs = 0.0.0.0/0, ::/0")) =
      ["0.0.0.0/0", "::/0"] := by decide +kernel
  have first : nativeLine (configData (nativeConfig "AllowedIPs = 0.0.0.0/0, ::/0")) "AllowedIPs" =
      some "AllowedIPs = 0.0.0.0/0, ::/0" := by decide +kernel
  apply (native_config_handled_iff noAddresses exceptSites _ (by decide +kernel) rfl).mpr
  constructor
  · intro line member
    rw [first, Option.mem_some_iff] at member
    subst member
    rw [listed]
    exact ⟨List.cons_ne_nil _ _, by decide +kernel⟩
  · intro _ _
    rw [listed]
    decide

end AbstractumVpn.NativeAllowedIps
