import AbstractumVpn.ImportController

/-!
One Amnezia config imported in two ways: as a `vpn://` text, the base64 of the
compressed JSON text, which goes through the checks of `extractConfigFromData`;
and as the compressed bytes, which `extractConfigFromQr` unpacks and takes as
they are. Either may happen to contain one of the words that a kind of config is
told by.
-/

namespace AbstractumVpn.QrImport

open ImportController Json

structure Packing (codec : Codec) where
  qCompress : Bytes → Bytes
  toBase64 : Bytes → String
  utf8 : ∀ text, codec.fromUtf8 (codec.toUtf8 text) = text
  empty : codec.toUtf8 "" = []
  unpacks : ∀ bytes, bytes ≠ [] → codec.qUncompress (qCompress bytes) = bytes
  decodes : ∀ bytes, codec.fromBase64 (codec.toUtf8 (toBase64 bytes)) = bytes
  alphabet : ∀ bytes, ':' ∉ (toBase64 bytes).toList

section Definitions

variable (codec : Codec) (parts : Parts) (packing : Packing codec) (json : String)

def qrBytes : Bytes := packing.qCompress (codec.toUtf8 json)

def vpnText : String := "vpn://" ++ packing.toBase64 (qrBytes codec packing json)

def server : Object := codec.object (codec.toUtf8 json)

def SameImport (first second : ImportResult) : Prop :=
  first.errorCode = second.errorCode ∧ first.config = second.config ∧
    first.maliciousWarningText = second.maliciousWarningText

structure Plain : Prop where
  text : checkConfigFormat (vpnText codec packing json) = .invalid
  bytes : checkConfigFormat (codec.fromUtf8 (qrBytes codec packing json)) = .invalid
  object : codec.object (qrBytes codec packing json) = []

structure Untouched (config : Object) : Prop where
  own : ServersRepository.isServerFromApi config = false
  normal : processAmneziaConfig codec parts config = config
  silent : checkForMaliciousStrings codec config = ""

def textImport : ImportResult :=
  if checkConfigFormat (vpnText codec packing json) = .invalid then
    importAs codec parts .amnezia json ""
  else
    importAs codec parts (checkConfigFormat (vpnText codec packing json))
      (vpnText codec packing json) ""

def qrImport : ImportResult :=
  if checkConfigFormat (codec.fromUtf8 (qrBytes codec packing json)) ≠ .invalid then
    extractConfigFromData codec parts (codec.fromUtf8 (qrBytes codec packing json)) ""
  else if codec.object (qrBytes codec packing json) ≠ [] then
    importObject (codec.object (qrBytes codec packing json))
  else importObject (server codec json)

end Definitions

lemma without_scheme (text : String) (plain : ':' ∉ text.toList) :
    withoutScheme ("vpn://" ++ text) = text := by
  have pieces : QtText.splitFrom "vpn://".toList 0 [] ("vpn://" ++ text).toList =
      [[], text.toList] := by
    rw [String.toList_append]
    change [] :: QtText.splitFrom "vpn://".toList 0 [] text.toList = _
    rw [QtText.splitFrom_absent "vpn://".toList ':' (by decide) [] text.toList plain]
    rfl
  rw [withoutScheme, QtText.split, pieces]
  simp

/-- A text without one of the characters of a word does not contain the word. -/
lemma contains_false (part : String) {text : String} {mark : Char} (marked : mark ∈ part.toList)
    (absent : mark ∉ text.toList) : contains text part = false := by
  rw [contains, decide_eq_false_iff_not]
  intro inside
  exact absent (inside.subset marked)

/-- Every word that tells a kind of config has one of three characters. -/
lemma format_invalid {text : String} (lower_s : 's' ∉ text.toList) (lower_c : 'c' ∉ text.toList)
    (underscore : '_' ∉ text.toList) : checkConfigFormat text = .invalid := by
  rw [checkConfigFormat, contains_false "Servers/serversList" (by decide) lower_s,
    contains_false "containers" (by decide) lower_c,
    contains_false "api_key" (by decide) underscore,
    contains_false "auth_data" (by decide) underscore,
    contains_false "hostName" (by decide) lower_s, contains_false "[Interface]" (by decide) lower_c,
    contains_false "inbounds" (by decide) lower_s, contains_false "client" (by decide) lower_c]
  rfl

section Imports

variable {codec : Codec} {parts : Parts} (packing : Packing codec) {json : String}

lemma vpn_no_link (text : String) : importShareLink codec parts ("vpn://" ++ text) "" = none := by
  have start : ∀ scheme : String, ¬ scheme.toList <+: ("vpn://" ++ text).toList →
      startsWith ("vpn://" ++ text) scheme = false := by
    intro scheme other
    exact decide_eq_false other
  have vless := start "vless://" (by simp)
  have vmess := start "vmess://" (by simp)
  have trojan := start "trojan://" (by simp)
  have ss := start "ss://" (by simp)
  have ssd := start "ssd://" (by simp)
  simp [importShareLink, vless, vmess, trojan, ss, ssd]

include packing in
lemma packed_some (some_text : json ≠ "") : codec.toUtf8 json ≠ [] := by
  intro none
  apply some_text
  rw [← packing.utf8 json, none, ← packing.empty, packing.utf8]

lemma unpacked (some_text : json ≠ "") :
    codec.qUncompress (qrBytes codec packing json) = codec.toUtf8 json :=
  packing.unpacks _ (packed_some packing some_text)

lemma packed_import (some_text : json ≠ "") :
    extractConfigFromData codec parts (vpnText codec packing json) "" =
      if checkConfigFormat (vpnText codec packing json) = .invalid then
        importAs codec parts (checkConfigFormat json) json ""
      else
        importAs codec parts (checkConfigFormat (vpnText codec packing json))
          (vpnText codec packing json) "" := by
  have read : decoded codec (vpnText codec packing json) = json := by
    rw [decoded, vpnText, without_scheme _ (packing.alphabet _), packing.decodes, uncompressed,
      unpacked packing some_text, if_pos (packed_some packing some_text), packing.utf8]
  have no_link : importShareLink codec parts
      ("vpn://" ++ packing.toBase64 (qrBytes codec packing json)) "" = none := vpn_no_link _
  rw [extractConfigFromData, vpnText, no_link, Option.getD_none, ← vpnText, importText, read]

lemma amnezia_some (amnezia : checkConfigFormat json = .amnezia) : json ≠ "" := by
  rintro rfl
  exact absurd amnezia (by decide)

variable (amnezia : checkConfigFormat json = .amnezia)

include amnezia

lemma text_import :
    extractConfigFromData codec parts (vpnText codec packing json) "" =
      textImport codec parts packing json := by
  rw [packed_import packing (amnezia_some amnezia), amnezia, textImport]

lemma qr_import :
    extractConfigFromQr codec parts (qrBytes codec packing json) =
      qrImport codec parts packing json := by
  have unpacks := unpacked packing (amnezia_some amnezia)
  have some_bytes := packed_some packing (amnezia_some amnezia)
  simp only [extractConfigFromQr, unpacks, ne_eq, some_bytes]
  rfl

end Imports

section Results

variable {codec : Codec} {parts : Parts}

lemma put_some (object : Object) (key : String) (value : Value) : put object key value ≠ [] := by
  unfold put
  split
  · rename_i present
    rw [ne_eq, List.map_eq_nil_iff]
    rintro rfl
    cases present
  · simp

lemma process_some (passed items : List Value) (config : Object) (some_entry : config ≠ []) :
    processContainers codec parts passed items config ≠ [] := by
  induction items generalizing passed config with
  | nil => exact some_entry
  | cons item rest ih =>
    rw [processContainers]
    split
    · cases withDefaultMtu codec parts item.toObject with
      | none => exact some_entry
      | some container => exact ih _ _ (put_some _ _ _)
    · exact ih _ _ some_entry

lemma process_nil_iff (config : Object) :
    processAmneziaConfig codec parts config = [] ↔ config = [] := by
  constructor
  · intro none
    by_contra some_entry
    exact process_some _ _ _ some_entry none
  · rintro rfl
    rfl

/-- A config that is told by its version is not empty. -/
lemma api_some {config : Object} (api : ServersRepository.isServerFromApi config = true) :
    config ≠ [] := by
  rintro rfl
  exact absurd api (by decide)

variable (codec parts) in
lemma import_amnezia_eq (json : String) : importAs codec parts .amnezia json "" =
    if ServersRepository.isServerFromApi (server codec json) = true then
      { errorCode := .legacyApiV1NotSupportedError, configType := .amnezia }
    else if processAmneziaConfig codec parts (server codec json) ≠ [] then
      { config := processAmneziaConfig codec parts (server codec json), configType := .amnezia,
        maliciousWarningText := checkForMaliciousStrings codec
          (processAmneziaConfig codec parts (server codec json)) }
    else { errorCode := .importInvalidConfigError, configType := .amnezia } := rfl

lemma same_iff_untouched (json : String) :
    SameImport (importAs codec parts .amnezia json "") (importObject (server codec json)) ↔
      Untouched codec parts (server codec json) := by
  rw [import_amnezia_eq, importObject]
  by_cases api : ServersRepository.isServerFromApi (server codec json) = true
  -- the text is refused, and the bytes are imported
  · rw [if_pos api, if_neg (api_some api)]
    constructor
    · rintro ⟨refused, -⟩
      cases refused
    · rintro ⟨own, -, -⟩
      rw [api] at own
      cases own
  · rw [if_neg api]
    rw [Bool.not_eq_true] at api
    by_cases none : server codec json = []
    · have processed : processAmneziaConfig codec parts (server codec json) = [] :=
        (process_nil_iff _).mpr none
      rw [if_neg (not_not.mpr processed), if_pos none]
      exact iff_of_true ⟨rfl, rfl, rfl⟩ ⟨api, processed.trans none.symm, by rw [none]; rfl⟩
    · have processed : processAmneziaConfig codec parts (server codec json) ≠ [] :=
        (process_nil_iff _).not.mpr none
      rw [if_pos processed, if_neg none]
      constructor
      · rintro ⟨-, normal, silent⟩
        change processAmneziaConfig codec parts (server codec json) = server codec json at normal
        change checkForMaliciousStrings codec
          (processAmneziaConfig codec parts (server codec json)) = "" at silent
        rw [normal] at silent
        exact ⟨api, normal, silent⟩
      · rintro ⟨-, normal, silent⟩
        rw [normal]
        exact ⟨rfl, rfl, silent⟩

end Results

/-- The two ways to import an Amnezia config agree if and only if the config is one of an own
server that the text import leaves as it is and has nothing to say about, or an encoded form
is taken for a config itself and the two imports come out alike. -/
theorem qr_and_text_agree_iff (codec : Codec) (parts : Parts) (packing : Packing codec)
    (json : String) (amnezia : checkConfigFormat json = .amnezia) :
    SameImport (extractConfigFromData codec parts (vpnText codec packing json) "")
        (extractConfigFromQr codec parts (qrBytes codec packing json)) ↔
      (Plain codec packing json ∧ Untouched codec parts (server codec json)) ∨
      (¬ Plain codec packing json ∧
        SameImport (textImport codec parts packing json) (qrImport codec parts packing json)) := by
  rw [text_import packing amnezia, qr_import packing amnezia]
  by_cases plain : Plain codec packing json
  · have by_text : textImport codec parts packing json = importAs codec parts .amnezia json "" :=
      if_pos plain.text
    have by_qr : qrImport codec parts packing json = importObject (server codec json) := by
      rw [qrImport, if_neg (not_not.mpr plain.bytes), if_neg (not_not.mpr plain.object)]
    rw [by_text, by_qr, same_iff_untouched]
    simp [plain]
  · simp [plain]

def charBytes (c : Char) : Bytes :=
  [UInt8.ofNat (c.toNat / 65536), UInt8.ofNat (c.toNat / 256), UInt8.ofNat c.toNat]

def readChars : Bytes → List Char
  | high :: middle :: low :: rest =>
    Char.ofNat (high.toNat * 65536 + middle.toNat * 256 + low.toNat) :: readChars rest
  | _ => []

lemma read_chars (text : List Char) : readChars (text.flatMap charBytes) = text := by
  induction text with
  | nil => rfl
  | cons c rest ih =>
    have small : c.toNat < 16777216 := by
      rcases c.valid with low | ⟨-, high⟩
      · change c.toNat < _ at low
        omega
      · change c.toNat < _ at high
        omega
    have number : (UInt8.ofNat (c.toNat / 65536)).toNat * 65536 +
        (UInt8.ofNat (c.toNat / 256)).toNat * 256 + (UInt8.ofNat c.toNat).toNat = c.toNat := by
      simp only [UInt8.toNat_ofNat']
      omega
    change Char.ofNat _ :: readChars (rest.flatMap charBytes) = _
    rw [ih, number, Char.ofNat_toNat]

def letter (byte : UInt8) : Char := Char.ofNat (byte.toNat + 256)

lemma letter_toNat (byte : UInt8) : (letter byte).toNat = byte.toNat + 256 := by
  have small := byte.toNat_lt
  have valid : (byte.toNat + 256).isValidChar := Or.inl (by omega)
  rw [letter, Char.ofNat, dif_pos valid]
  rfl

def sampleCodec (json : String) (object : Object) : Codec where
  toUtf8 text := text.toList.flatMap charBytes
  fromUtf8 bytes := String.ofList (readChars bytes)
  toLocal8Bit text := text.toList.flatMap charBytes
  fromBase64 bytes := (readChars bytes).map fun c => UInt8.ofNat c.toNat
  qUncompress bytes := match bytes with
    | 1 :: rest => rest
    | _ => []
  fromJson bytes := if bytes = json.toList.flatMap charBytes then some (.object object) else none
  toJson _ := ""
  compact _ := ""

def samplePacking (json : String) (object : Object) : Packing (sampleCodec json object) where
  qCompress bytes := 1 :: bytes
  toBase64 bytes := String.ofList (bytes.map letter)
  utf8 text := by
    change String.ofList (readChars (text.toList.flatMap charBytes)) = text
    rw [read_chars, String.ofList_toList]
  empty := rfl
  unpacks _ _ := rfl
  decodes bytes := by
    change (readChars ((String.ofList (bytes.map letter)).toList.flatMap charBytes)).map _ = bytes
    rw [read_chars, String.toList_ofList, List.map_map]
    conv_rhs => rw [← List.map_id bytes]
    apply List.map_congr_left
    intro byte _
    change UInt8.ofNat (letter byte).toNat = byte
    rw [letter_toNat]
    apply UInt8.toNat_inj.mp
    have small := byte.toNat_lt
    rw [UInt8.toNat_ofNat']
    omega
  alphabet bytes := by
    rw [String.toList_ofList, List.mem_map]
    rintro ⟨byte, -, same⟩
    have number := congrArg Char.toNat same
    rw [letter_toNat] at number
    change byte.toNat + 256 = 58 at number
    omega

lemma sample_server (json : String) (object : Object) :
    server (sampleCodec json object) json = object := by
  have parsed : (sampleCodec json object).fromJson ((sampleCodec json object).toUtf8 json) =
      some (.object object) := if_pos rfl
  rw [server, Codec.object, parsed]
  rfl

/-- What the kind of the two encoded forms depends on, with the characters in the place of texts. -/
lemma sample_text (json : String) (object : Object) :
    (vpnText _ (samplePacking json object) json).toList =
      "vpn://".toList ++ (1 :: json.toList.flatMap charBytes).map letter := by
  rw [vpnText, String.toList_append]
  exact congrArg _ String.toList_ofList

lemma sample_no_object (json : String) (object : Object) :
    (sampleCodec json object).object (qrBytes _ (samplePacking json object) json) = [] := by
  have longer : 1 :: json.toList.flatMap charBytes ≠ json.toList.flatMap charBytes :=
    List.cons_ne_self _ _
  have none : (sampleCodec json object).fromJson (qrBytes _ (samplePacking json object) json) =
      none := if_neg longer
  rw [Codec.object, none]
  rfl

def sampleParts : Parts where
  vless _ _ := ⟨[], "", ""⟩
  vmessNew _ _ := ⟨[], "", ""⟩
  vmess _ _ := ⟨[], "", ""⟩
  trojan _ _ := ⟨[], "", ""⟩
  ss _ _ := ⟨[], "", ""⟩
  ssd _ _ := ⟨[], "", []⟩
  extractOpenVpnConfig _ := []
  extractWireGuardConfig _ := ([], .wireGuard)
  nextAvailableServerName := ""
  mobile := false

def ownJson : String :=
  "\x7b\"containers\":[\x7b\"container\":\"amnezia-xray\",\"xray\":\x7b\"port\":\"443\"\x7d\x7d]\x7d"

def ownServer : Object :=
  [("containers", .array [.object
    [("container", .string "amnezia-xray"), ("xray", .object [("port", .string "443")])]])]

theorem own_server_agrees :
    checkConfigFormat ownJson = .amnezia ∧
      SameImport
        (extractConfigFromData (sampleCodec ownJson ownServer) sampleParts
          (vpnText _ (samplePacking ownJson ownServer) ownJson) "")
        (extractConfigFromQr (sampleCodec ownJson ownServer) sampleParts
          (qrBytes _ (samplePacking ownJson ownServer) ownJson)) := by
  have kind : checkConfigFormat ownJson = .amnezia := by decide +kernel
  refine ⟨kind, (qr_and_text_agree_iff _ sampleParts (samplePacking ownJson ownServer) ownJson
    kind).mpr (Or.inl ⟨⟨?_, ?_, ?_⟩, ?_⟩)⟩
  · simp only [checkConfigFormat, contains, sample_text]
    decide +kernel
  · simp only [checkConfigFormat]
    decide +kernel
  · exact sample_no_object _ _
  · rw [sample_server]
    exact ⟨rfl, rfl, rfl⟩

def subscriptionJson : String := "\x7b\"api_key\":\"k\",\"config_version\":1\x7d"

def subscription : Object := [("api_key", .string "k"), ("config_version", .double 1)]

/-- The key of a subscription service is refused as a text and imported as a QR code. -/
theorem subscription_imported_by_qr :
    let codec := sampleCodec subscriptionJson subscription
    let packing := samplePacking subscriptionJson subscription
    let text := extractConfigFromData codec sampleParts (vpnText codec packing subscriptionJson) ""
    let qr := extractConfigFromQr codec sampleParts (qrBytes codec packing subscriptionJson)
    checkConfigFormat subscriptionJson = .amnezia ∧ ¬ SameImport text qr ∧
      text.errorCode = .legacyApiV1NotSupportedError ∧ text.config = [] ∧
      qr.errorCode = .noError ∧ qr.config = subscription := by
  intro codec packing text qr
  have kind : checkConfigFormat subscriptionJson = .amnezia := by decide +kernel
  have read : server codec subscriptionJson = subscription := sample_server _ _
  have plain : Plain codec packing subscriptionJson := by
    constructor
    · simp only [checkConfigFormat, contains, codec, packing, sample_text]
      decide +kernel
    · simp only [codec, packing]
      decide +kernel
    · exact sample_no_object _ _
  have by_text : text = importAs codec sampleParts .amnezia subscriptionJson "" :=
    (text_import packing kind).trans (if_pos plain.text)
  have by_qr : qr = importObject subscription := by
    have computed : qr = qrImport codec sampleParts packing subscriptionJson :=
      qr_import packing kind
    rw [computed, qrImport, if_neg (not_not.mpr plain.bytes), if_neg (not_not.mpr plain.object),
      read]
  have refused : text = { errorCode := .legacyApiV1NotSupportedError, configType := .amnezia } := by
    rw [by_text, import_amnezia_eq, read]
    rfl
  refine ⟨kind, ?_, by rw [refused], by rw [refused], by rw [by_qr]; rfl, by rw [by_qr]; rfl⟩
  rintro ⟨same, -⟩
  rw [refused, by_qr] at same
  cases same

end AbstractumVpn.QrImport
