import AbstractumVpn.JsonText
import AbstractumVpn.QrImport

/-!
What an import does to the containers of an Amnezia config: the clients of
AmneziaWG and WireGuard get the default MTU, and the user is warned of lines of
an OpenVPN config that start programs.
-/

namespace AbstractumVpn.ImportController

open Json QtText

section Mtu

variable (codec : Codec) (parts : Parts)

def ownProtocol (container : Object) : String :=
  protocolString (containerFromString (container.value "container").toString)

def lastConfig (container : Object) : String :=
  (Object.value (container.value (ownProtocol container)).toObject "last_config").toString

def HasLastConfig (item : Value) : Prop :=
  isWireguardContainer item.toObject = true ∧ lastConfig item.toObject ≠ ""

def Blocks (item : Value) : Prop :=
  isWireguardContainer item.toObject = true ∧ lastConfig item.toObject = ""

def profile (item : Value) : Object := codec.object (codec.toUtf8 (lastConfig item.toObject))

def HasMtu (item : Value) : Prop := (profile codec item).contains "mtu" = true

structure MtuAdded (before after : Value) : Prop where
  mtu : HasMtu codec after
  profile : ∀ key, key ≠ "mtu" → (profile codec after).value key = (profile codec before).value key
  protocol : ∀ key, key ≠ "last_config" →
    Object.value (after.toObject.value (ownProtocol before.toObject)).toObject key =
      Object.value (before.toObject.value (ownProtocol before.toObject)).toObject key
  container : ∀ key, key ≠ ownProtocol before.toObject →
    after.toObject.value key = before.toObject.value key

def Prepared (before after : Value) : Prop :=
  (HasLastConfig before → MtuAdded codec before after) ∧ (¬ HasLastConfig before → after = before)

structure MtuEverywhere (config : Object) : Prop where
  containers : List.Forall₂ (Prepared codec) (config.value "containers").toArray
    (Object.value (processAmneziaConfig codec parts config) "containers").toArray
  others : ∀ key, key ≠ "containers" →
    Object.value (processAmneziaConfig codec parts config) key = config.value key
  again : processAmneziaConfig codec parts (processAmneziaConfig codec parts config) =
    processAmneziaConfig codec parts config

/-- A container with a last config behind one without has an MTU already. -/
def MtuReached (config : Object) : Prop :=
  (config.value "containers").toArray.Pairwise fun earlier later =>
    Blocks earlier → HasLastConfig later → HasMtu codec later

def mtuJson (text : String) : Object :=
  put (codec.object (codec.toUtf8 text)) "mtu" (.string (defaultMtu parts))

/-- The text of a last config with the default MTU is read back. -/
def MtuRead : Prop :=
  ∀ text, codec.fromJson (codec.toUtf8 (codec.toJson (.object (mtuJson codec parts text)))) =
    some (.object (mtuJson codec parts text))

def replacement (item : Value) : Option Value :=
  if isWireguardContainer item.toObject then
    (withDefaultMtu codec parts item.toObject).map .object
  else some item

def replaced : List Value → List Value
  | [] => []
  | item :: rest =>
    (replacement codec parts item).elim (item :: rest) fun after => after :: replaced rest

variable {codec parts}

lemma put_put (object : Object) (key : String) (value other : Value) :
    put (put object key value) key other = put object key other := by
  rw [put, if_pos (contains_put_self object key value)]
  by_cases present : object.contains key = true
  · rw [put, if_pos present, put, if_pos present, List.map_map]
    apply List.map_congr_left
    intro entry _
    by_cases same : entry.1 = key <;> simp [same]
  · have absent : ∀ entry ∈ object, entry.1 ≠ key := by
      rintro entry member rfl
      exact AssocList.not_mem_of_lookup (Option.not_isSome_iff_eq_none.mp present)
        (List.mem_map_of_mem member)
    have kept : (object.map fun entry => if entry.1 = key then (key, other) else entry) = object := by
      rw [List.map_congr_left fun entry member => if_neg (absent entry member), List.map_id']
    rw [put, if_neg present, put, if_neg present, List.map_append, kept]
    simp

def mtuPut (codec : Codec) (parts : Parts) (container : Object) : Object :=
  put container (ownProtocol container) (.object (put
    (container.value (ownProtocol container)).toObject "last_config"
      (.string (codec.toJson (.object (mtuJson codec parts (lastConfig container)))))))

lemma withDefaultMtu_eq (container : Object) : withDefaultMtu codec parts container =
    if lastConfig container = "" then none else some (mtuPut codec parts container) := rfl

lemma own_other (container : Object) : "container" ≠ ownProtocol container := by
  unfold ownProtocol protocolString
  split <;> decide

section Put

variable (container : Object)

lemma name_put : Object.value (mtuPut codec parts container) "container" =
    container.value "container" := value_put_other _ _ _ _ (own_other container)

lemma own_put : ownProtocol (mtuPut codec parts container) = ownProtocol container := by
  rw [ownProtocol, name_put, ownProtocol]

lemma protocol_put : Object.value (mtuPut codec parts container) (ownProtocol container) =
    .object (put (container.value (ownProtocol container)).toObject "last_config"
      (.string (codec.toJson (.object (mtuJson codec parts (lastConfig container)))))) :=
  value_put_self _ _ _

lemma profile_put (read : MtuRead codec parts) :
    profile codec (.object (mtuPut codec parts container)) =
      mtuJson codec parts (lastConfig container) := by
  rw [profile, Value.toObject, lastConfig, own_put, protocol_put, Value.toObject, value_put_self,
    Codec.object]
  exact congrArg (fun value => (Option.map Value.toObject value).getD []) (read _)

lemma mtuPut_again (read : MtuRead codec parts) :
    mtuPut codec parts (mtuPut codec parts container) = mtuPut codec parts container := by
  have same : mtuJson codec parts (lastConfig (mtuPut codec parts container)) =
      mtuJson codec parts (lastConfig container) := by
    have read_back := profile_put container read
    rw [profile, Value.toObject] at read_back
    rw [mtuJson, read_back, mtuJson, put_put]
  rw [mtuPut, own_put, protocol_put, Value.toObject, put_put, same]
  exact put_put _ _ _ _

end Put

variable (codec parts) in
lemma replacement_cases (item : Value) :
    Blocks item ∧ replacement codec parts item = none ∨
    HasLastConfig item ∧
      replacement codec parts item = some (.object (mtuPut codec parts item.toObject)) ∨
    ¬ Blocks item ∧ ¬ HasLastConfig item ∧ replacement codec parts item = some item := by
  by_cases wireguard : isWireguardContainer item.toObject = true
  · by_cases empty : lastConfig item.toObject = ""
    · left
      simp [Blocks, replacement, withDefaultMtu_eq, wireguard, empty]
    · right
      left
      simp [HasLastConfig, replacement, withDefaultMtu_eq, wireguard, empty]
  · right
    right
    simp [Blocks, HasLastConfig, replacement, wireguard]

lemma replacement_again (read : MtuRead codec parts) {item after : Value}
    (found : replacement codec parts item = some after) :
    replacement codec parts after = none ∨ replacement codec parts after = some after := by
  rcases replacement_cases codec parts item with ⟨-, none⟩ | ⟨-, put⟩ | ⟨-, -, same⟩
  · rw [none] at found
    cases found
  · rw [put] at found
    obtain rfl := Option.some.inj found
    -- the loop may also end here, where the text that was written is empty
    rcases replacement_cases codec parts (.object (mtuPut codec parts item.toObject)) with
      ⟨-, none⟩ | ⟨-, again⟩ | ⟨-, -, same⟩
    · exact Or.inl none
    · right
      rw [again, Value.toObject, mtuPut_again _ read]
    · exact Or.inr same
  · rw [same] at found
    exact Or.inr (Option.some.inj found ▸ same)

lemma replaced_again (read : MtuRead codec parts) (items : List Value) :
    replaced codec parts (replaced codec parts items) = replaced codec parts items := by
  induction items with
  | nil => rfl
  | cons item rest ih =>
    cases found : replacement codec parts item with
    | none => simp [replaced, found]
    | some after =>
      rcases replacement_again read found with stop | same
      · simp [replaced, found, stop]
      · simp [replaced, found, same, ih]

variable (codec parts) in
/-- The loop stores the list with the replacements, if there are any. -/
lemma process_eq (items passed : List Value) (config : Object) :
    processContainers codec parts passed items config = config ∧ replaced codec parts items = items ∨
      processContainers codec parts passed items config =
        put config "containers" (.array (passed ++ replaced codec parts items)) := by
  induction items generalizing passed config with
  | nil => exact Or.inl ⟨rfl, rfl⟩
  | cons item rest ih =>
    by_cases wireguard : isWireguardContainer item.toObject = true
    · cases changed : withDefaultMtu codec parts item.toObject with
      | none =>
        left
        simp [processContainers, replaced, replacement, wireguard, changed]
      | some container =>
        right
        simp only [processContainers, replaced, replacement, wireguard, changed, if_true,
          Option.map_some, Option.elim_some]
        rcases ih (passed ++ [.object container])
          (put config "containers" (.array (passed ++ .object container :: rest))) with same | stored
        · rw [same.1, same.2]
        · rw [stored, put_put, List.append_assoc, List.singleton_append]
    · have next := ih (passed ++ [item]) config
      rw [List.append_assoc, List.singleton_append] at next
      simpa [processContainers, replaced, replacement, wireguard] using next

lemma prepared_self (item : Value) :
    Prepared codec item item ↔ (HasLastConfig item → HasMtu codec item) :=
  ⟨fun prepared has => (prepared.1 has).mtu,
    fun mtu => ⟨fun has => ⟨mtu has, fun _ _ => rfl, fun _ _ => rfl, fun _ _ => rfl⟩, fun _ => rfl⟩⟩

lemma mtu_added (read : MtuRead codec parts) (item : Value) :
    MtuAdded codec item (.object (mtuPut codec parts item.toObject)) where
  mtu := by
    rw [HasMtu, profile_put _ read]
    exact contains_put_self _ _ _
  profile key other := by
    rw [profile_put _ read]
    exact value_put_other _ _ _ _ other
  protocol key other := by
    rw [Value.toObject, protocol_put]
    exact value_put_other _ _ _ _ other
  container key other := value_put_other _ _ _ _ other

lemma prepared_iff (read : MtuRead codec parts) (items : List Value) :
    List.Forall₂ (Prepared codec) items (replaced codec parts items) ↔
      items.Pairwise fun earlier later =>
        Blocks earlier → HasLastConfig later → HasMtu codec later := by
  induction items with
  | nil => simp [replaced]
  | cons item rest ih =>
    rw [List.pairwise_cons, ← ih]
    rcases replacement_cases codec parts item with ⟨blocks, none⟩ | ⟨has, put⟩ | ⟨free, without, same⟩
    · have without : ¬ HasLastConfig item := fun has => has.2 blocks.2
      simp only [replaced, none, Option.elim_none, List.forall₂_same, List.forall_mem_cons,
        prepared_self, without, blocks, false_imp_iff, true_imp_iff, true_and]
      refine ⟨fun mtu => ⟨mtu, ih.mpr ?_⟩, And.left⟩
      exact List.pairwise_of_forall_mem_list fun _ _ later member _ => mtu later member
    · have free : ¬ Blocks item := fun blocks => has.2 blocks.2
      have prepared : Prepared codec item (.object (mtuPut codec parts item.toObject)) :=
        ⟨fun _ => mtu_added read item, fun without => absurd has without⟩
      simp [replaced, put, free, prepared]
    · have prepared : Prepared codec item item := ⟨fun has => absurd has without, fun _ => rfl⟩
      simp [replaced, same, free, prepared]

/-- The import sets the MTU of every client if and only if it gets past every client without one. -/
theorem imported_mtu_iff (read : MtuRead codec parts) (config : Object) :
    MtuEverywhere codec parts config ↔ MtuReached codec config := by
  have first := process_eq codec parts (config.value "containers").toArray [] config
  rw [List.nil_append, ← processAmneziaConfig] at first
  have containers : (Object.value (processAmneziaConfig codec parts config) "containers").toArray =
      replaced codec parts (config.value "containers").toArray := by
    rcases first with ⟨unchanged, same⟩ | stored
    · rw [unchanged, same]
    · rw [stored, value_put_self, Value.toArray]
  rw [MtuReached, ← prepared_iff read, ← containers]
  refine ⟨fun everywhere => everywhere.containers, fun prepared => ⟨prepared, ?_, ?_⟩⟩
  · intro key other
    rcases first with ⟨unchanged, -⟩ | stored
    · rw [unchanged]
    · rw [stored, value_put_other _ _ _ _ other]
  · rcases first with ⟨unchanged, -⟩ | stored
    · rw [unchanged, unchanged]
    · have second := process_eq codec parts (replaced codec parts (config.value "containers").toArray)
        [] (processAmneziaConfig codec parts config)
      rw [← containers, ← processAmneziaConfig, containers, replaced_again read] at second
      rcases second with ⟨unchanged, -⟩ | again
      · exact unchanged
      · rw [again, stored]
        exact put_put _ _ _ _

end Mtu

def mtuProfile : Object := [("mtu", .string (defaultMtu QrImport.sampleParts))]

def mtuCodec : Codec := documentCodec [[], mtuProfile]

def wireguardItem (lastConfig : Object) : Value :=
  .object [("container", .string "amnezia-wireguard"), ("wireguard", .object lastConfig)]

def emptyProfile : Object := [("last_config", .string (compactText (.object [])))]

lemma mtuCodec_read : MtuRead mtuCodec QrImport.sampleParts := by
  intro text
  have json : mtuJson mtuCodec QrImport.sampleParts text = mtuProfile := by
    rw [mtuJson, Codec.object]
    cases found : mtuCodec.fromJson (mtuCodec.toUtf8 text) with
    | none => rfl
    | some value =>
      obtain ⟨document, listed, rfl⟩ := read_listed found
      rcases List.mem_pair.mp listed with rfl | rfl <;> rfl
  rw [json]
  exact (read_later [] [mtuProfile] (by decide +kernel)).trans (read_indented mtuProfile [])

def servedConfig : Object := [("containers", .array [wireguardItem emptyProfile, wireguardItem []])]

theorem served_config_mtu : MtuEverywhere mtuCodec QrImport.sampleParts servedConfig := by
  apply (imported_mtu_iff mtuCodec_read servedConfig).mpr
  refine List.pairwise_pair.mpr fun blocks => absurd blocks.2 ?_
  decide

def skippedConfig : Object := [("containers", .array [wireguardItem [], wireguardItem emptyProfile])]

theorem skipped_config_lacks_mtu :
    ¬ MtuEverywhere mtuCodec QrImport.sampleParts skippedConfig := by
  intro everywhere
  cases everywhere.containers with
  | cons _ later =>
    cases later with
    | cons prepared _ =>
      have mtu := (prepared.1 ⟨by decide, by decide⟩).mtu
      rw [HasMtu, profile] at mtu
      cases mtu

section Warning

variable (codec : Codec)

def isOpenVpn (item : Value) : Bool :=
  (item.toObject.value "container").toString = "amnezia-openvpn"

/-- The line begins with a dangerous directive, behind which come these characters. -/
def Directive (line : String) (rest : List Char) : Prop :=
  ∃ tag ∈ dangerousTags, line.toList.dropWhile QtText.isSpace = tag.toList ++ rest

/-- The lines of any OpenVPN container that begin with a directive and white space or their end. -/
def DangerousLine (serverConfig : Object) (line : String) : Prop :=
  ∃ item ∈ (serverConfig.value "containers").toArray, isOpenVpn item = true ∧
    line ∈ QtText.split (openVpnConfig codec item.toObject) "\n" ∧
    ∃ rest, Directive line rest ∧ ∀ c ∈ rest.head?, QtText.isSpace c = true

def AllReported (serverConfig : Object) : Prop :=
  ∀ line, DangerousLine codec serverConfig line →
    contains (checkForMaliciousStrings codec serverConfig) line = true

/-- A blank stands behind the directive, or nothing but white space. -/
def Separated (line : String) : Prop :=
  ∃ rest, Directive line rest ∧ (rest.head? = some ' ' ∨ ∀ c ∈ rest, QtText.isSpace c = true)

/-- The last OpenVPN container has every dangerous line, and each directive is separated. -/
def LastHasAll (serverConfig : Object) : Prop :=
  ∀ line, DangerousLine codec serverConfig line →
    Separated line ∧
      ∃ last ∈ ((serverConfig.value "containers").toArray.filter isOpenVpn).getLast?,
        line ∈ QtText.split (openVpnConfig codec last.toObject) "\n"

lemma check_eq (serverConfig : Object) : checkForMaliciousStrings codec serverConfig =
    (((serverConfig.value "containers").toArray.filter isOpenVpn).getLast?.map
      fun last => openVpnWarning (openVpnConfig codec last.toObject)).getD "" := by
  have last (items : List Value) :
      items.foldl (fun _ item => openVpnWarning (openVpnConfig codec item.toObject)) "" =
        (items.getLast?.map fun last => openVpnWarning (openVpnConfig codec last.toObject)).getD "" := by
    induction items using List.reverseRecOn with
    | nil => rfl
    | append_singleton front item _ => simp
  rw [← last, List.foldl_filter]
  simp [checkForMaliciousStrings, isOpenVpn]

lemma tag_plain : ∀ tag ∈ dangerousTags, tag.toList ≠ [] ∧
    ∀ c ∈ tag.toList, isSpace c = false := by
  have all : ∀ tag ∈ dangerousTags, tag.toList ≠ [] ∧
      tag.toList.all (!isSpace ·) = true := by decide
  simpa using all

/-- What is cut off at the end of the line is white space behind the directive. -/
lemma trimmed_directive {line tag : String} {rest : List Char} (known : tag ∈ dangerousTags)
    (starts : line.toList.dropWhile isSpace = tag.toList ++ rest) :
    trimmed line.toList = tag.toList ++ rest.rdropWhile isSpace := by
  have plain := (tag_plain tag known).2
  have kept : tag.toList.reverse.dropWhile isSpace = tag.toList.reverse := by
    rw [List.dropWhile_eq_self_iff]
    intro _
    simp [plain]
  rw [trimmed_eq, starts, List.rdropWhile, List.reverse_append, List.dropWhile_append, kept,
    List.rdropWhile]
  split
  · next empty => simp [List.isEmpty_iff.mp empty]
  · simp

lemma isDangerous_of_separated {line : String} (separated : Separated line) :
    isDangerous line = true := by
  obtain ⟨rest, ⟨tag, known, starts⟩, behind⟩ := separated
  obtain ⟨given, plain⟩ := tag_plain tag known
  have no_blank : ' ' ∉ tag.toList := fun member => absurd (plain ' ' member) (by decide)
  have first : firstWord (String.ofList (trimmed line.toList)) = tag := by
    have pieces : ∃ later, splitFrom [' '] 0 [] (trimmed line.toList) =
        tag.toList :: later := by
      rw [trimmed_directive known starts]
      cases kept : rest.rdropWhile isSpace with
      | nil => exact ⟨[], by simp [splitFrom_absent [' '] ' ' (by simp) [] _ no_blank]⟩
      | cons c later =>
        -- the white space that is kept begins with the blank
        obtain ⟨cut, parts⟩ := List.rdropWhile_prefix isSpace (l := rest)
        rw [kept] at parts
        rcases behind with blank | spaces
        · have same : c = ' ' := by simpa [← parts] using blank
          exact ⟨_, by rw [same, splitFrom_front ' ' [] _ _ no_blank]; rfl⟩
        · rw [List.rdropWhile_eq_nil_iff.mpr spaces] at kept
          cases kept
    obtain ⟨later, pieces⟩ := pieces
    have named : tag ≠ "" := fun empty => given (by simp [empty])
    simp [firstWord, split, pieces, named]
  rw [isDangerous, first]
  exact List.contains_iff_mem.mpr (List.mem_map_of_mem known)

lemma contains_append {text line : String} (front : String) (inside : contains text line = true) :
    contains (front ++ text) line = true := by
  rw [contains, decide_eq_true_iff, String.toList_append]
  exact (of_decide_eq_true inside).trans (List.suffix_append _ _).isInfix

lemma warning_contains {config line : String} (member : line ∈ split config "\n")
    (separated : Separated line) : contains (openVpnWarning config) line = true := by
  have given : line ≠ "" := by
    rintro rfl
    obtain ⟨rest, ⟨tag, known, starts⟩, -⟩ := separated
    exact (tag_plain tag known).1 (List.append_eq_nil_iff.mp starts.symm).1
  have found : line ∈ maliciousStrings config := by
    simp [maliciousStrings, member, given, isDangerous_of_separated separated]
  have item : line.toList <:+: ("<br><i>" ++ line ++ "</i>").toList := by
    rw [String.toList_append, String.toList_append]
    exact List.infix_append _ _ _
  apply contains_append
  rw [if_neg (List.ne_nil_of_mem found)]
  apply contains_append
  rw [contains, decide_eq_true_iff, String.toList_join]
  exact item.trans (List.infix_of_mem_flatten (List.mem_map_of_mem (List.mem_map_of_mem found)))

/-- The dangerous lines are all reported if those of the last OpenVPN container are all there are. -/
theorem dangerous_lines_reported (serverConfig : Object)
    (all : LastHasAll codec serverConfig) : AllReported codec serverConfig := by
  intro line dangerous
  obtain ⟨separated, last, found, listed⟩ := all line dangerous
  rw [check_eq, Option.mem_def.mp found]
  exact warning_contains listed separated

end Warning

/-! Two OpenVPN containers, with the texts of their JSON documents. -/

def profileJson (config : String) : Object := [("config", .string config)]

def openVpnItem (config : String) : Value :=
  .object [("container", .string "amnezia-openvpn"),
    ("openvpn", .object [("last_config", .string (compactText (.object (profileJson config))))])]

section TwoContainers

variable (first second : String)

def twoOpenVpn : Object := [("containers", .array [openVpnItem first, openVpnItem second])]

def twoCodec : Codec := documentCodec [profileJson first, profileJson second]

lemma config_of_item {codec : Codec} {config : String} (compact : codec.compact = compactText)
    (read : ReadsBack codec (profileJson config)) :
    openVpnConfig codec (openVpnItem config).toObject = config := by
  have text : openVpnConfig codec (openVpnItem config).toObject =
      (Object.value (codec.object (codec.toUtf8 (codec.compact (.object (profileJson config)))))
        "config").toString := by
    rw [compact]
    rfl
  rw [text, Codec.object, read.read]
  rfl

lemma first_config :
    openVpnConfig (twoCodec first second) (openVpnItem first).toObject = first :=
  config_of_item rfl (reads_first _ _)

lemma second_config (other : latin1 (compactText (.object (profileJson second))) ≠
        latin1 (compactText (.object (profileJson first))) ∧
      latin1 (compactText (.object (profileJson second))) ≠
        latin1 (indentedText (.object (profileJson first)))) :
    openVpnConfig (twoCodec first second) (openVpnItem second).toObject = second :=
  config_of_item rfl (reads_second _ _ _ other)

end TwoContainers

lemma up_separated : Separated "up script" :=
  ⟨" script".toList, ⟨"up", by decide, by decide⟩, Or.inl rfl⟩

lemma harmless {line : String} {rest : List Char}
    (other : ∀ tag ∈ dangerousTags, ¬ tag.toList <+: line.toList.dropWhile isSpace) :
    ¬ Directive line rest := by
  rintro ⟨tag, known, starts⟩
  exact other tag known ⟨rest, starts.symm⟩

theorem shared_script_reported :
    AllReported (twoCodec "up script" "client\nup script\n\tdown")
      (twoOpenVpn "up script" "client\nup script\n\tdown") := by
  apply dangerous_lines_reported
  have last := second_config "up script" "client\nup script\n\tdown" (by decide +kernel)
  have alone : split "up script" "\n" = ["up script"] := by decide +kernel
  have lines : split "client\nup script\n\tdown" "\n" = ["client", "up script", "\tdown"] := by
    decide +kernel
  rintro line ⟨item, member, -, listed, rest, directive, -⟩
  suffices found : Separated line ∧ line ∈ ["client", "up script", "\tdown"] by
    refine ⟨found.1, openVpnItem "client\nup script\n\tdown", rfl, ?_⟩
    rw [last, lines]
    exact found.2
  rcases List.mem_pair.mp member with rfl | rfl
  · rw [first_config, alone, List.mem_singleton] at listed
    rw [listed]
    exact ⟨up_separated, by decide⟩
  · rw [last, lines] at listed
    refine ⟨?_, listed⟩
    simp only [List.mem_cons, List.not_mem_nil, or_false] at listed
    rcases listed with rfl | rfl | rfl
    · exact absurd directive (harmless (by decide))
    · exact up_separated
    · exact ⟨[], ⟨"down", by decide, by decide⟩, Or.inr (by simp)⟩

theorem first_script_lost :
    ¬ AllReported (twoCodec "up script" "client") (twoOpenVpn "up script" "client") := by
  intro reported
  have first := first_config "up script" "client"
  have last := second_config "up script" "client" (by decide +kernel)
  have found := reported "up script" ⟨openVpnItem "up script", List.mem_cons_self, by decide,
    by rw [first]; decide +kernel, " script".toList, ⟨"up", by decide, by decide⟩, by simp [isSpace]⟩
  have text : checkForMaliciousStrings (twoCodec "up script" "client")
      (twoOpenVpn "up script" "client") = openVpnWarning (openVpnConfig
        (twoCodec "up script" "client") (openVpnItem "client").toObject) := check_eq _ _
  have missing : contains (openVpnWarning "client") "up script" = false := by decide +kernel
  rw [text, last, missing] at found
  cases found

end AbstractumVpn.ImportController
