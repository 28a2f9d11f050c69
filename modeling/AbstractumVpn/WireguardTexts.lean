import AbstractumVpn.ConfigText
import AbstractumVpn.InterfaceConfig

/-!
The texts that the WireGuard daemon hands on: `InterfaceConfig::toWgConf` for
the tunnel service of Windows, and the messages of `addInterface` and
`updatePeer` to the tunnel process of Linux. Whether a junk field is null or
only empty the request tells.
-/

namespace AbstractumVpn

namespace InterfaceConfig

open ConfigText

/-! ## The texts -/

def addresses (config : InterfaceConfig) : List String :=
  config.deviceIpv4Address.toList ++ config.deviceIpv6Address.toList

def validated (config : InterfaceConfig) : List String :=
  [config.privateKey, config.deviceIpv4Address.getD "", config.deviceIpv6Address.getD "",
    config.serverIpv4Gateway, config.serverIpv6Gateway, config.serverPublicKey,
    config.serverIpv4AddrIn.getD "", config.serverIpv6AddrIn.getD ""]

def hasLineBreak (text : String) : Bool := text.toList.contains '\n'

def dnsServers (config : InterfaceConfig) : List String :=
  [config.primaryDnsServer] ++
    (if config.secondaryDnsServer.isEmpty then [] else [config.secondaryDnsServer]) ++
    (if config.primaryDnsServer = config.serverIpv4Gateway then [config.serverIpv6Gateway] else [])

/-- A field of AmneziaWG: its name in the request, its keys in a config file and in a
message, and its text. -/
structure Field where
  name : String
  key : String
  messageKey : String
  value : String

def junkFields (config : InterfaceConfig) : List Field :=
  [⟨"Jc", "Jc", "jc", config.junkPacketCount⟩, ⟨"Jmin", "JMin", "jmin", config.junkPacketMinSize⟩,
    ⟨"Jmax", "JMax", "jmax", config.junkPacketMaxSize⟩, ⟨"S1", "S1", "s1", config.initPacketJunkSize⟩,
    ⟨"S2", "S2", "s2", config.responsePacketJunkSize⟩,
    ⟨"S3", "S3", "s3", config.cookieReplyPacketJunkSize⟩,
    ⟨"S4", "S4", "s4", config.transportPacketJunkSize⟩,
    ⟨"H1", "H1", "h1", config.initPacketMagicHeader⟩,
    ⟨"H2", "H2", "h2", config.responsePacketMagicHeader⟩,
    ⟨"H3", "H3", "h3", config.underloadPacketMagicHeader⟩,
    ⟨"H4", "H4", "h4", config.transportPacketMagicHeader⟩]

def tuningFields (config : InterfaceConfig) : List Field :=
  [⟨"ContentPaddingAddition", "ContentPaddingAddition", "content_padding_addition",
      config.contentPaddingAddition⟩,
    ⟨"RekeyAfterTime", "RekeyAfterTime", "rekey_after_time", config.rekeyAfterTime⟩,
    ⟨"RekeyTimeout", "RekeyTimeout", "rekey_timeout", config.rekeyTimeout⟩,
    ⟨"RejectAfterTime", "RejectAfterTime", "reject_after_time", config.rejectAfterTime⟩,
    ⟨"KeepaliveTimeout", "KeepaliveTimeout", "keepalive_timeout", config.keepaliveTimeout⟩,
    ⟨"MaxHandshakeAttempts", "MaxHandshakeAttempts", "max_handshake_attempts",
      config.maxHandshakeAttempts⟩]

def nonEmpty (fields : List (String × String)) : List (String × String) :=
  fields.filter fun field => !field.2.isEmpty

def interfaceFields (isNull : String → Bool) (extra : List (String × String))
    (config : InterfaceConfig) : List (String × String) :=
  [("PrivateKey", config.privateKey), ("Address", String.intercalate ", " (addresses config))] ++
    (if config.deviceMTU ≠ 0 then [("MTU", Int.repr config.deviceMTU)] else []) ++
    (if config.primaryDnsServer.isEmpty then []
      else [("DNS", String.intercalate ", " (dnsServers config))]) ++
    ((junkFields config).filter fun field => !isNull field.name).map
      (fun field => (field.key, field.value)) ++
    config.specialJunk ++
    nonEmpty [("HeaderProtectionKey", config.headerProtectionKey)] ++
    nonEmpty ((tuningFields config).map fun field => (field.key, field.value)) ++
    extra

def peerFields (config : InterfaceConfig) : List (String × String) :=
  [("PublicKey", config.serverPublicKey),
    ("Endpoint", config.serverIpv4AddrIn.getD "" ++ ":" ++ Int.repr config.serverPort),
    ("AllowedIPs", String.intercalate ", " (config.allowedIPAddressRanges.map IPAddress.toString))] ++
    nonEmpty [("PersistentKeepalive", config.persistentKeepalive)]

def writeFields (separator : String) (fields : List (String × String)) : String :=
  String.join (fields.map fun field => field.1 ++ separator ++ field.2 ++ "\n")

def toWgConf (isNull : String → Bool) (extra : List (String × String)) (config : InterfaceConfig) :
    String :=
  if (validated config).any hasLineBreak then ""
  else if (addresses config).isEmpty then ""
  else
    "[Interface]\n" ++ writeFields " = " (interfaceFields isNull extra config) ++
      "\n[Peer]\n" ++ writeFields " = " (peerFields config)

def extraConfig : List (String × String) := [("Table", "off")]

end InterfaceConfig

namespace WireguardUtilsLinux

open InterfaceConfig

def lowered (key : String) : String := String.ofList (key.toList.map Char.toLower)

def hexDigit (digit : Nat) : Char :=
  "0123456789abcdef".toList.getD digit '0'

def toHex (bytes : List UInt8) : String :=
  String.ofList (bytes.flatMap fun byte => [hexDigit (byte.toNat / 16), hexDigit (byte.toNat % 16)])

variable (fromBase64 : String → List UInt8)

def interfaceMessageFields (config : InterfaceConfig) : List (String × String) :=
  [("set", "1"), ("private_key", toHex (fromBase64 config.privateKey)), ("replace_peers", "true")] ++
    nonEmpty ((junkFields config).map fun field => (field.messageKey, field.value)) ++
    config.specialJunk.map (fun field => (lowered field.1, field.2)) ++
    (if config.headerProtectionKey.isEmpty then []
      else [("header_protection_key", toHex (fromBase64 config.headerProtectionKey))]) ++
    nonEmpty ((tuningFields config).map fun field => (field.messageKey, field.value))

def interfaceMessage (config : InterfaceConfig) : String :=
  writeFields "=" (interfaceMessageFields fromBase64 config)

def endpoint (config : InterfaceConfig) : Option String :=
  match config.serverIpv4AddrIn, config.serverIpv6AddrIn with
  | some address, _ => some (address ++ ":" ++ Int.repr config.serverPort)
  | none, some address => some ("[" ++ address ++ "]:" ++ Int.repr config.serverPort)
  | none, none => none

def peerMessageFields (config : InterfaceConfig) : Option (List (String × String)) :=
  (endpoint config).map fun endpoint =>
    [("set", "1"), ("public_key", toHex (fromBase64 config.serverPublicKey))] ++
      (config.serverPskKey.toList.map fun key => ("preshared_key", toHex (fromBase64 key))) ++
      [("endpoint", endpoint), ("replace_allowed_ips", "true")] ++
      nonEmpty [("persistent_keepalive_interval", config.persistentKeepalive)] ++
      config.allowedIPAddressRanges.map fun ip => ("allowed_ip", ip.toString)

def peerMessage (config : InterfaceConfig) : Option String :=
  (peerMessageFields fromBase64 config).map (writeFields "=")

end WireguardUtilsLinux

namespace InterfaceConfig

open ConfigText

def fieldLine (field : String × String) : Line := .field field.1.toList field.2.toList

def PlainKey (separator key : String) : Prop :=
  key.toList ≠ [] ∧ key.toList.head? ≠ some '[' ∧ '\n' ∉ key.toList ∧
    ∀ c ∈ separator.toList.head?, c ∉ key.toList

instance (separator key : String) : Decidable (PlainKey separator key) :=
  -- not over all characters, which are finitely many
  have : Decidable (∀ c ∈ separator.toList.head?, c ∉ key.toList) := Option.decidableForallMem _
  inferInstanceAs (Decidable (_ ∧ _ ∧ _ ∧ _))

def Unbroken (fields : List (String × String)) : Prop := ∀ field ∈ fields, '\n' ∉ field.2.toList

instance (fields : List (String × String)) : Decidable (Unbroken fields) :=
  inferInstanceAs (Decidable (∀ field ∈ fields, _))

section Reading

variable {separator : String}

lemma writeFields_toList (fields : List (String × String)) :
    (writeFields separator fields).toList =
      write separator.toList (fields.map fun field => some (fieldLine field)) := by
  induction fields with
  | nil => rfl
  | cons field rest ih =>
    have first : writeFields separator (field :: rest) =
        field.1 ++ separator ++ field.2 ++ "\n" ++ writeFields separator rest := by
      simp [writeFields]
    rw [first, List.map_cons, write_cons, ← ih]
    simp [fieldLine, Line.text]

lemma field_lines (fields : List (String × String)) :
    (fields.map fun field => some (fieldLine field)).reduceOption = fields.map fieldLine := by
  rw [List.reduceOption, List.filterMap_map]
  exact congrFun List.filterMap_eq_map fields

lemma field_plain {field : String × String} (plain : PlainKey separator field.1) :
    Plain separator.toList (fieldLine field) := ⟨plain.1, plain.2.1, plain.2.2.2⟩

lemma field_unbroken {field : String × String} (one_line : '\n' ∉ separator.toList)
    (plain : PlainKey separator field.1) :
    '\n' ∉ (fieldLine field).text separator.toList ↔ '\n' ∉ field.2.toList := by
  simp [fieldLine, Line.text, one_line, plain.2.2.1]

/-- A message is read as its fields if and only if no value has a line break. -/
lemma read_fields_iff (nonempty : separator.toList ≠ []) (one_line : '\n' ∉ separator.toList)
    {fields : List (String × String)} (plain : ∀ field ∈ fields, PlainKey separator field.1) :
    read separator.toList (writeFields separator fields).toList = fields.map fieldLine ↔
      Unbroken fields := by
  have lines := field_lines fields
  rw [writeFields_toList, ← lines, read_write_iff nonempty one_line, lines]
  · rw [List.forall_mem_map]
    exact forall₂_congr fun field member => field_unbroken one_line (plain field member)
  · rw [lines, List.forall_mem_map]
    exact fun field member => field_plain (plain field member)

end Reading

section File

variable (isNull : String → Bool) (extra : List (String × String)) (config : InterfaceConfig)

def fileLines : List (Option Line) :=
  some (.header "Interface".toList) ::
    ((interfaceFields isNull extra config).map fun field => some (fieldLine field)) ++
    none :: some (.header "Peer".toList) ::
      (peerFields config).map fun field => some (fieldLine field)

/-- One section for the interface and one for the peer, with a line for each field. -/
def sections : List Line :=
  .header "Interface".toList :: (interfaceFields isNull extra config).map fieldLine ++
    .header "Peer".toList :: (peerFields config).map fieldLine

lemma file_sections : (fileLines isNull extra config).reduceOption = sections isNull extra config := by
  simp only [fileLines, sections, List.reduceOption_cons_of_some,
    List.reduceOption_append, List.reduceOption_cons_of_none, field_lines]

lemma toWgConf_toList (checked : (validated config).any hasLineBreak = false)
    (addressed : (addresses config).isEmpty = false) :
    (toWgConf isNull extra config).toList = write " = ".toList (fileLines isNull extra config) := by
  rw [toWgConf, if_neg (by simp [checked]), if_neg (by simp [addressed])]
  simp only [String.toList_append, writeFields_toList, fileLines, write_append, List.append_assoc]
  rfl

variable {isNull extra config}

lemma read_file_iff (checked : (validated config).any hasLineBreak = false)
    (addressed : (addresses config).isEmpty = false)
    (plain : ∀ field ∈ interfaceFields isNull extra config, PlainKey " = " field.1)
    (peer : ∀ field ∈ peerFields config, PlainKey " = " field.1) :
    read " = ".toList (toWgConf isNull extra config).toList = sections isNull extra config ↔
      Unbroken (interfaceFields isNull extra config) ∧ Unbroken (peerFields config) := by
  have one_line : '\n' ∉ " = ".toList := by decide
  have fields : ∀ fields : List (String × String), (∀ field ∈ fields, PlainKey " = " field.1) →
      ((∀ line ∈ fields.map fieldLine, '\n' ∉ line.text " = ".toList) ↔ Unbroken fields) := by
    intro fields plain
    rw [List.forall_mem_map]
    exact forall₂_congr fun field member => field_unbroken one_line (plain field member)
  have headers : '\n' ∉ (Line.header "Interface".toList).text " = ".toList ∧
      '\n' ∉ (Line.header "Peer".toList).text " = ".toList := by decide
  rw [toWgConf_toList isNull extra config checked addressed, ← file_sections,
    read_write_iff (by decide) one_line, file_sections]
  · simp only [sections, List.forall_mem_append, List.forall_mem_cons, headers, true_and,
      fields _ plain, fields _ peer, not_false_eq_true]
  · rw [file_sections]
    simp only [sections, List.forall_mem_append, List.forall_mem_cons, List.forall_mem_map]
    exact ⟨⟨trivial, fun field member => field_plain (plain field member)⟩, trivial,
      fun field member => field_plain (peer field member)⟩

end File

/-! ## The keys -/

def specialKeys : List String := ["I1", "I2", "I3", "I4", "I5"]

def interfaceKeys : List String :=
  ["PrivateKey", "Address"] ++ ["MTU"] ++ ["DNS"] ++
    ["Jc", "JMin", "JMax", "S1", "S2", "S3", "S4", "H1", "H2", "H3", "H4"] ++ specialKeys ++
    ["HeaderProtectionKey"] ++
    ["ContentPaddingAddition", "RekeyAfterTime", "RekeyTimeout", "RejectAfterTime",
      "KeepaliveTimeout", "MaxHandshakeAttempts"] ++ ["Table"]

def peerKeys : List String :=
  ["PublicKey", "Endpoint", "AllowedIPs"] ++ ["PersistentKeepalive"]

lemma nonEmpty_keys (fields : List (String × String)) :
    ((nonEmpty fields).map Prod.fst).Sublist (fields.map Prod.fst) :=
  List.filter_sublist.map _

lemma special_keys (obj : Json.Object) :
    ((Daemon.specialJunk obj).map Prod.fst).Sublist specialKeys := by
  have kept : ∀ keys : List String, ((keys.filterMap fun key =>
      if obj.contains key then some (key, (obj.value key).toString) else none).map Prod.fst).Sublist
        keys := by
    intro keys
    induction keys with
    | nil => exact List.Sublist.slnil
    | cons key rest ih =>
      rw [List.filterMap_cons]
      split
      · exact ih.cons key
      · rename_i found
        split at found
        · obtain rfl := Option.some.inj found
          exact ih.cons_cons key
        · cases found
  exact kept specialKeys

lemma interface_keys (isNull : String → Bool) {config : InterfaceConfig}
    (special : (config.specialJunk.map Prod.fst).Sublist specialKeys) :
    ((interfaceFields isNull extraConfig config).map Prod.fst).Sublist interfaceKeys := by
  simp only [interfaceFields, List.map_append]
  refine List.Sublist.append (List.Sublist.append (List.Sublist.append (List.Sublist.append
    (List.Sublist.append (List.Sublist.append (List.Sublist.append (List.Sublist.refl _) ?_) ?_) ?_)
      special) (nonEmpty_keys _)) ?_) (List.Sublist.refl _)
  · split <;> simp
  · split <;> simp
  · rw [List.map_map]
    exact List.filter_sublist.map _
  · exact nonEmpty_keys _

lemma peer_keys (config : InterfaceConfig) : ((peerFields config).map Prod.fst).Sublist peerKeys := by
  simp only [peerFields, List.map_append]
  exact List.Sublist.append (List.Sublist.refl _) (nonEmpty_keys _)

lemma plain_of_keys {separator : String} {keys : List String}
    (plain : ∀ key ∈ keys, PlainKey separator key) {fields : List (String × String)}
    (listed : (fields.map Prod.fst).Sublist keys) :
    ∀ field ∈ fields, PlainKey separator field.1 := fun _ member =>
  plain _ (listed.subset (List.mem_map_of_mem member))

end InterfaceConfig

namespace WireguardUtilsLinux

open ConfigText InterfaceConfig

def interfaceMessageKeys : List String :=
  ["set", "private_key", "replace_peers"] ++
    ["jc", "jmin", "jmax", "s1", "s2", "s3", "s4", "h1", "h2", "h3", "h4"] ++
    specialKeys.map lowered ++ ["header_protection_key"] ++
    ["content_padding_addition", "rekey_after_time", "rekey_timeout", "reject_after_time",
      "keepalive_timeout", "max_handshake_attempts"]

def peerMessageKeys : List String :=
  ["set", "public_key", "preshared_key", "endpoint", "replace_allowed_ips",
    "persistent_keepalive_interval", "allowed_ip"]

lemma peer_message_keys_plain : ∀ key ∈ peerMessageKeys, PlainKey "=" key := by decide

variable (fromBase64 : String → List UInt8) {config : InterfaceConfig}

lemma interface_message_keys (special : (config.specialJunk.map Prod.fst).Sublist specialKeys) :
    ((interfaceMessageFields fromBase64 config).map Prod.fst).Sublist interfaceMessageKeys := by
  simp only [interfaceMessageFields, List.map_append]
  refine List.Sublist.append (List.Sublist.append (List.Sublist.append (List.Sublist.append
    (List.Sublist.refl _) (nonEmpty_keys _)) ?_) ?_) (nonEmpty_keys _)
  · have kept := special.map lowered
    rw [List.map_map] at kept ⊢
    exact kept
  · split <;> simp

lemma peer_message_keys {fields : List (String × String)}
    (made : peerMessageFields fromBase64 config = some fields) :
    ∀ field ∈ fields, field.1 ∈ peerMessageKeys := by
  obtain ⟨endpoint, -, rfl⟩ := Option.map_eq_some_iff.mp made
  intro field member
  have keepalive := fun member => (nonEmpty_keys
    [("persistent_keepalive_interval", config.persistentKeepalive)]).subset
      (List.mem_map_of_mem (f := Prod.fst) (a := field) member)
  simp only [List.mem_append, List.mem_map] at member
  rcases member with (((first | ⟨key, -, rfl⟩) | second) | kept) | ⟨ip, -, rfl⟩
  · rcases List.mem_pair.mp first with rfl | rfl <;> simp [peerMessageKeys]
  · simp [peerMessageKeys]
  · rcases List.mem_pair.mp second with rfl | rfl <;> simp [peerMessageKeys]
  · rw [List.mem_singleton.mp (keepalive kept)]
    simp [peerMessageKeys]
  · simp [peerMessageKeys]

end WireguardUtilsLinux

namespace InterfaceConfig

open ConfigText WireguardUtilsLinux

def nullIn (obj : Json.Object) (name : String) : Bool := (obj.value name).toString?.isNone

/-- For every accepted request, the config file is empty or is read, line by line, as
one section for the interface and one for the peer with one line for each field, if
and only if a checked field has a line break in it or no written value has one. The
messages are read as their fields if and only if no written value has a line break. -/
theorem no_injection_iff (qt : Qt) (fromBase64 : String → List UInt8) (obj : Json.Object)
    (config : InterfaceConfig) (accepted : Daemon.parseConfig qt obj = some config) :
    ((toWgConf (nullIn obj) extraConfig config = "" ∨
        read " = ".toList (toWgConf (nullIn obj) extraConfig config).toList =
            sections (nullIn obj) extraConfig config ∧
          ((interfaceFields (nullIn obj) extraConfig config).map Prod.fst).Nodup ∧
          ((peerFields config).map Prod.fst).Nodup) ↔
      (validated config).any hasLineBreak = true ∨
        Unbroken (interfaceFields (nullIn obj) extraConfig config) ∧ Unbroken (peerFields config)) ∧
    (read "=".toList (interfaceMessage fromBase64 config).toList =
        (interfaceMessageFields fromBase64 config).map fieldLine ↔
      Unbroken (interfaceMessageFields fromBase64 config)) ∧
    ∃ message fields, peerMessage fromBase64 config = some message ∧
      peerMessageFields fromBase64 config = some fields ∧
      (read "=".toList message.toList = fields.map fieldLine ↔ Unbroken fields) := by
  have parsed := Daemon.parsed_fields accepted
  have special : (config.specialJunk.map Prod.fst).Sublist specialKeys := by
    rw [parsed.specialJunk]
    exact special_keys obj
  have file_keys := interface_keys (nullIn obj) special
  refine ⟨?_, ?_, ?_⟩
  · cases checked : (validated config).any hasLineBreak with
    | true => simp [toWgConf, checked]
    | false =>
      have addressed : (addresses config).isEmpty = false := by
        rw [List.isEmpty_eq_false_iff, addresses]
        rcases parsed.device with ipv4 | ipv6
        · obtain ⟨address, found⟩ := Option.ne_none_iff_exists'.mp ipv4
          simp [found]
        · obtain ⟨address, found⟩ := Option.ne_none_iff_exists'.mp ipv6
          simp [found]
      have text : toWgConf (nullIn obj) extraConfig config ≠ "" := by
        intro empty
        have lines := toWgConf_toList (nullIn obj) extraConfig config checked addressed
        rw [empty] at lines
        simp [fileLines] at lines
      have distinct : ((interfaceFields (nullIn obj) extraConfig config).map Prod.fst).Nodup ∧
          ((peerFields config).map Prod.fst).Nodup :=
        ⟨file_keys.nodup (by decide), (peer_keys config).nodup (by decide)⟩
      rw [read_file_iff checked addressed (plain_of_keys (by decide) file_keys)
        (plain_of_keys (by decide) (peer_keys config))]
      simp [text, distinct, and_true]
  · exact read_fields_iff (by decide) (by decide)
      (plain_of_keys (by decide) (interface_message_keys fromBase64 special))
  · have made : ∃ found, endpoint config = some found := by
      rcases parsed.server with ipv4 | ipv6
      · obtain ⟨address, found⟩ := Option.ne_none_iff_exists'.mp ipv4
        simp [endpoint, found]
      · obtain ⟨address, found⟩ := Option.ne_none_iff_exists'.mp ipv6
        cases ipv4 : config.serverIpv4AddrIn <;> simp [endpoint, found, ipv4]
    have fields : ∃ fields, peerMessageFields fromBase64 config = some fields := by
      simp [peerMessageFields, made]
    obtain ⟨fields, fields_made⟩ := fields
    refine ⟨writeFields "=" fields, fields, by simp [peerMessage, fields_made], fields_made, ?_⟩
    apply read_fields_iff (by decide) (by decide)
    intro field member
    exact peer_message_keys_plain _ (peer_message_keys fromBase64 fields_made field member)

/-! A request whose DNS server and whose number of junk packets go on in a second
line, and one that has nothing to hide. -/

def lineRequest (dns junk : String) : Json.Object :=
  [("privateKey", .string ""), ("serverPublicKey", .string ""), ("serverPort", .double 51820),
    ("deviceIpv4Address", .string "10.8.0.2"), ("serverIpv4AddrIn", .string "203.0.113.5"),
    ("primaryDnsServer", .string dns), ("Jc", .string junk), ("allowedIPAddressRanges", .array [])]

theorem plain_request_read :
    ∃ config, Daemon.parseConfig noAddresses (lineRequest "1.1.1.1" "4") = some config ∧
      read " = ".toList (toWgConf (nullIn (lineRequest "1.1.1.1" "4")) extraConfig config).toList =
        sections (nullIn (lineRequest "1.1.1.1" "4")) extraConfig config ∧
      read "=".toList (interfaceMessage (fun _ => []) config).toList =
        (interfaceMessageFields (fun _ => []) config).map fieldLine := by
  refine ⟨_, rfl, ?_, ?_⟩
  · have whole := (no_injection_iff noAddresses (fun _ => []) (lineRequest "1.1.1.1" "4") _ rfl).1.mpr
      (Or.inr (by decide))
    exact (whole.resolve_left (by decide)).1
  · exact (no_injection_iff noAddresses (fun _ => []) (lineRequest "1.1.1.1" "4") _ rfl).2.1.mpr (by decide)

/-- The request is accepted, and both texts have a line of the attacker's choice. -/
theorem dns_server_adds_line :
    let obj := lineRequest "1.1.1.1\nPostUp = calc" "4\nlisten_port=1"
    ∃ config, Daemon.parseConfig noAddresses obj = some config ∧
      Line.field "PostUp".toList "calc".toList ∈
        read " = ".toList (toWgConf (nullIn obj) extraConfig config).toList ∧
      "PostUp" ∉ (interfaceFields (nullIn obj) extraConfig config).map Prod.fst ∧
      Line.field "listen_port".toList "1".toList ∈
        read "=".toList (interfaceMessage (fun _ => []) config).toList ∧
      "listen_port" ∉ (interfaceMessageFields (fun _ => []) config).map Prod.fst := by
  refine ⟨_, rfl, ?_⟩
  decide +kernel

end InterfaceConfig

end AbstractumVpn
