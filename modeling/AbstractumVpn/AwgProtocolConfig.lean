import AbstractumVpn.JsonText

/-!
`AwgProtocolConfig`: the settings of an AmneziaWG server and the config of its
client as they are saved. The client is a text inside the object of the server;
both have the parameters of the obfuscation.
-/

namespace AbstractumVpn.AwgProtocolConfig

open ImportController (Codec put)
open Json

structure Obfuscation where
  junkPacketCount : String
  junkPacketMinSize : String
  junkPacketMaxSize : String
  initPacketJunkSize : String
  responsePacketJunkSize : String
  cookieReplyPacketJunkSize : String
  transportPacketJunkSize : String
  initPacketMagicHeader : String
  responsePacketMagicHeader : String
  underloadPacketMagicHeader : String
  transportPacketMagicHeader : String
  specialJunk1 : String
  specialJunk2 : String
  specialJunk3 : String
  specialJunk4 : String
  specialJunk5 : String
  headerProtectionKey : String
  contentPaddingAddition : String
  rekeyAfterTime : String
  rekeyTimeout : String
  rejectAfterTime : String
  keepaliveTimeout : String
  maxHandshakeAttempts : String

structure ServerConfig extends Obfuscation where
  port : String
  transportProto : String
  protocolVersion : String
  subnetAddress : String
  subnetCidr : String
  isThirdPartyConfig : Bool

/-- Two of the sizes are compared for the second version of the protocol only. -/
def ServerConfig.hasEqualServerSettings (config other : ServerConfig) : Bool :=
  config.subnetAddress = other.subnetAddress && config.port = other.port &&
    config.junkPacketCount = other.junkPacketCount &&
    config.junkPacketMinSize = other.junkPacketMinSize &&
    config.junkPacketMaxSize = other.junkPacketMaxSize &&
    config.initPacketJunkSize = other.initPacketJunkSize &&
    config.responsePacketJunkSize = other.responsePacketJunkSize &&
    config.initPacketMagicHeader = other.initPacketMagicHeader &&
    config.responsePacketMagicHeader = other.responsePacketMagicHeader &&
    config.underloadPacketMagicHeader = other.underloadPacketMagicHeader &&
    config.transportPacketMagicHeader = other.transportPacketMagicHeader &&
    config.specialJunk1 = other.specialJunk1 && config.specialJunk2 = other.specialJunk2 &&
    config.specialJunk3 = other.specialJunk3 && config.specialJunk4 = other.specialJunk4 &&
    config.specialJunk5 = other.specialJunk5 &&
    config.headerProtectionKey = other.headerProtectionKey &&
    (config.protocolVersion ≠ "2" ||
      config.cookieReplyPacketJunkSize = other.cookieReplyPacketJunkSize &&
        config.transportPacketJunkSize = other.transportPacketJunkSize)

lemma ServerConfig.equal_sizes {old new : ServerConfig}
    (equal : old.hasEqualServerSettings new = true) (version : old.protocolVersion = "2") :
    old.cookieReplyPacketJunkSize = new.cookieReplyPacketJunkSize ∧
      old.transportPacketJunkSize = new.transportPacketJunkSize := by
  simp only [ServerConfig.hasEqualServerSettings, Bool.and_eq_true, Bool.or_eq_true,
    decide_eq_true_eq] at equal
  exact equal.2.resolve_left (· version)

structure ClientConfig extends Obfuscation where
  nativeConfig : String
  hostName : String
  port : Int
  clientIp : String
  clientPrivateKey : String
  clientPublicKey : String
  serverPublicKey : String
  presharedKey : String
  clientId : String
  allowedIps : List String
  persistentKeepAlive : String
  mtu : String
  isObfuscationEnabled : Bool

structure Config where
  serverConfig : ServerConfig
  clientConfig : Option ClientConfig

def messageInitiationSize : Int := 148
def messageResponseSize : Int := 92
def messageCookieReplySize : Int := 64
def messageTransportSize : Int := 32

def isHeadersEqual (h1 h2 h3 h4 : String) : Bool :=
  h1 == h2 || h1 == h3 || h1 == h4 || h2 == h3 || h2 == h4 || h3 == h4

def isPacketSizeEqual (s1 s2 s3 s4 : Int) : Bool :=
  let initSize := messageInitiationSize + s1
  let responseSize := messageResponseSize + s2
  let cookieSize := messageCookieReplySize + s3
  let transportSize := messageTransportSize + s4
  initSize == responseSize || initSize == cookieSize || initSize == transportSize ||
    responseSize == cookieSize || responseSize == transportSize || cookieSize == transportSize

def Obfuscation.packets (config : Obfuscation) : Texts :=
  [("Jc", config.junkPacketCount), ("Jmin", config.junkPacketMinSize),
    ("Jmax", config.junkPacketMaxSize), ("S1", config.initPacketJunkSize),
    ("S2", config.responsePacketJunkSize), ("S3", config.cookieReplyPacketJunkSize),
    ("S4", config.transportPacketJunkSize), ("H1", config.initPacketMagicHeader),
    ("H2", config.responsePacketMagicHeader), ("H3", config.underloadPacketMagicHeader),
    ("H4", config.transportPacketMagicHeader)]

def Obfuscation.specialJunk (config : Obfuscation) : Texts :=
  [("I1", config.specialJunk1), ("I2", config.specialJunk2), ("I3", config.specialJunk3),
    ("I4", config.specialJunk4), ("I5", config.specialJunk5)]

def Obfuscation.tuning (config : Obfuscation) : Texts :=
  [("HeaderProtectionKey", config.headerProtectionKey),
    ("ContentPaddingAddition", config.contentPaddingAddition),
    ("RekeyAfterTime", config.rekeyAfterTime), ("RekeyTimeout", config.rekeyTimeout),
    ("RejectAfterTime", config.rejectAfterTime), ("KeepaliveTimeout", config.keepaliveTimeout),
    ("MaxHandshakeAttempts", config.maxHandshakeAttempts)]

def ServerConfig.own (config : ServerConfig) : Texts :=
  [("port", config.port), ("transport_proto", config.transportProto),
    ("protocol_version", config.protocolVersion), ("subnet_address", config.subnetAddress),
    ("subnet_cidr", config.subnetCidr)]

def ClientConfig.own (config : ClientConfig) : Texts :=
  [("config", config.nativeConfig), ("hostName", config.hostName), ("client_ip", config.clientIp),
    ("client_priv_key", config.clientPrivateKey), ("client_pub_key", config.clientPublicKey),
    ("server_pub_key", config.serverPublicKey), ("psk_key", config.presharedKey),
    ("clientId", config.clientId), ("persistent_keep_alive", config.persistentKeepAlive),
    ("mtu", config.mtu)]

def always (texts : Texts) : Fields := texts.map fun field => (field.1, some (.string field.2))

def flag (value : Bool) : Option Value := if value then some (.bool value) else none

/-- The server has its special junk written also when it is empty. -/
def ServerConfig.fields (config : ServerConfig) : Fields :=
  nonEmpty config.own ++ nonEmpty config.packets ++ always config.specialJunk ++
    nonEmpty config.tuning ++ [("isThirdPartyConfig", flag config.isThirdPartyConfig)]

def ClientConfig.fields (config : ClientConfig) : Fields :=
  nonEmpty config.own ++ nonEmpty config.packets ++ nonEmpty config.specialJunk ++
    nonEmpty config.tuning ++
    [("port", if config.port > 0 then some (.double config.port) else none),
      ("allowed_ips", if config.allowedIps = [] then none
        else some (.array (config.allowedIps.map .string))),
      ("isObfuscationEnabled", flag config.isObfuscationEnabled)]

def ServerConfig.toJson (config : ServerConfig) : Object := ofFields config.fields

def ClientConfig.toJson (config : ClientConfig) : Object := ofFields config.fields

variable (codec : Codec)

def Config.toJson (config : Config) : Object :=
  match config.clientConfig with
  | some client =>
    put config.serverConfig.toJson "last_config" (.string (codec.compact (.object client.toJson)))
  | none => config.serverConfig.toJson

def Obfuscation.fromJson (json : Object) : Obfuscation where
  junkPacketCount := json.text "Jc"
  junkPacketMinSize := json.text "Jmin"
  junkPacketMaxSize := json.text "Jmax"
  initPacketJunkSize := json.text "S1"
  responsePacketJunkSize := json.text "S2"
  cookieReplyPacketJunkSize := json.text "S3"
  transportPacketJunkSize := json.text "S4"
  initPacketMagicHeader := json.text "H1"
  responsePacketMagicHeader := json.text "H2"
  underloadPacketMagicHeader := json.text "H3"
  transportPacketMagicHeader := json.text "H4"
  specialJunk1 := json.text "I1"
  specialJunk2 := json.text "I2"
  specialJunk3 := json.text "I3"
  specialJunk4 := json.text "I4"
  specialJunk5 := json.text "I5"
  headerProtectionKey := json.text "HeaderProtectionKey"
  contentPaddingAddition := json.text "ContentPaddingAddition"
  rekeyAfterTime := json.text "RekeyAfterTime"
  rekeyTimeout := json.text "RekeyTimeout"
  rejectAfterTime := json.text "RejectAfterTime"
  keepaliveTimeout := json.text "KeepaliveTimeout"
  maxHandshakeAttempts := json.text "MaxHandshakeAttempts"

def ServerConfig.fromJson (json : Object) : ServerConfig where
  toObfuscation := Obfuscation.fromJson json
  port := json.text "port"
  transportProto := json.text "transport_proto"
  protocolVersion := json.text "protocol_version"
  subnetAddress := json.text "subnet_address"
  subnetCidr := json.text "subnet_cidr"
  isThirdPartyConfig := (json.value "isThirdPartyConfig").toBool

def ClientConfig.fromJson (json : Object) : ClientConfig where
  toObfuscation := Obfuscation.fromJson json
  nativeConfig := json.text "config"
  hostName := json.text "hostName"
  port := (json.value "port").toInt
  clientIp := json.text "client_ip"
  clientPrivateKey := json.text "client_priv_key"
  clientPublicKey := json.text "client_pub_key"
  serverPublicKey := json.text "server_pub_key"
  presharedKey := json.text "psk_key"
  clientId := json.text "clientId"
  allowedIps := (json.value "allowed_ips").toArray.map Value.toString
  persistentKeepAlive := json.text "persistent_keep_alive"
  mtu := json.text "mtu"
  isObfuscationEnabled := (json.value "isObfuscationEnabled").toBool

def readClient (lastConfigStr : String) : Option ClientConfig :=
  if lastConfigStr = "" then none
  else match codec.fromJson (codec.toUtf8 lastConfigStr) with
    | some (.object object) => some (ClientConfig.fromJson object)
    | _ => none

def Config.fromJson (json : Object) : Config where
  serverConfig := ServerConfig.fromJson json
  clientConfig := readClient codec (json.text "last_config")

lemma obfuscation_read (config : Obfuscation) (json : Object)
    (written : ∀ field ∈ config.packets ++ config.specialJunk ++ config.tuning,
      json.text field.1 = field.2) : Obfuscation.fromJson json = config := by
  simp only [Obfuscation.packets, Obfuscation.specialJunk, Obfuscation.tuning, List.cons_append,
    List.nil_append, List.forall_mem_cons] at written
  simp [Obfuscation.fromJson, written]

lemma flag_read (value : Bool) : ((flag value).getD .undefined).toBool = value := by
  cases value <;> rfl

def obfuscationKeys : List String :=
  ["Jc", "Jmin", "Jmax", "S1", "S2", "S3", "S4", "H1", "H2", "H3", "H4", "I1", "I2", "I3", "I4",
    "I5", "HeaderProtectionKey", "ContentPaddingAddition", "RekeyAfterTime", "RekeyTimeout",
    "RejectAfterTime", "KeepaliveTimeout", "MaxHandshakeAttempts"]

def serverKeys : List String :=
  ["port", "transport_proto", "protocol_version", "subnet_address", "subnet_cidr"] ++
    obfuscationKeys ++ ["isThirdPartyConfig"]

def clientKeys : List String :=
  ["config", "hostName", "client_ip", "client_priv_key", "client_pub_key", "server_pub_key",
    "psk_key", "clientId", "persistent_keep_alive", "mtu"] ++ obfuscationKeys ++
    ["port", "allowed_ips", "isObfuscationEnabled"]

namespace ServerConfig

variable (config : ServerConfig)

lemma keys : config.fields.map Prod.fst = serverKeys := rfl

lemma distinct : (config.fields.map Prod.fst).Nodup := by
  rw [keys]
  decide +kernel

lemma text_toJson {field : String × String}
    (member : field ∈ config.own ∨
      field ∈ config.packets ++ config.specialJunk ++ config.tuning) :
    config.toJson.text field.1 = field.2 := by
  apply text_of_mem config.distinct
  simp only [fields, List.mem_append] at member ⊢
  rcases member with own | (packet | special) | tuning
  · simp [mem_nonEmpty own]
  · simp [mem_nonEmpty packet]
  · exact Or.inr (Or.inl (Or.inl (Or.inr (List.mem_map.mpr ⟨_, special, rfl⟩))))
  · simp [mem_nonEmpty tuning]

lemma flag_toJson :
    (Object.value config.toJson "isThirdPartyConfig").toBool = config.isThirdPartyConfig := by
  have member : ("isThirdPartyConfig", flag config.isThirdPartyConfig) ∈ config.fields := by
    simp [fields]
  rw [toJson, value_of_mem config.distinct member, flag_read]

lemma fromJson_congr {json other : Object}
    (same : ∀ key ∈ serverKeys, Object.value json key = Object.value other key) :
    fromJson json = fromJson other := by
  simp only [serverKeys, obfuscationKeys, List.cons_append, List.nil_append,
    List.forall_mem_cons] at same
  simp [fromJson, Obfuscation.fromJson, Object.text, same]

lemma fromJson_toJson : fromJson config.toJson = config := by
  have own := fun field (member : field ∈ config.own) => config.text_toJson (Or.inl member)
  simp only [ServerConfig.own, List.forall_mem_cons] at own
  have parameters := obfuscation_read config.toObfuscation config.toJson
    fun field member => config.text_toJson (Or.inr member)
  simp [fromJson, own, parameters, flag_toJson]

end ServerConfig

namespace ClientConfig

variable (config : ClientConfig)

lemma keys : config.fields.map Prod.fst = clientKeys := rfl

lemma distinct : (config.fields.map Prod.fst).Nodup := by
  rw [keys]
  decide +kernel

lemma text_toJson {field : String × String}
    (member : field ∈ config.own ∨
      field ∈ config.packets ++ config.specialJunk ++ config.tuning) :
    config.toJson.text field.1 = field.2 := by
  apply text_of_mem config.distinct
  simp only [fields, List.mem_append] at member ⊢
  rcases member with own | (packet | special) | tuning
  · simp [mem_nonEmpty own]
  · simp [mem_nonEmpty packet]
  · simp [mem_nonEmpty special]
  · simp [mem_nonEmpty tuning]

lemma flag_toJson :
    (Object.value config.toJson "isObfuscationEnabled").toBool = config.isObfuscationEnabled := by
  have member : ("isObfuscationEnabled", flag config.isObfuscationEnabled) ∈ config.fields := by
    simp [fields]
  rw [toJson, value_of_mem config.distinct member, flag_read]

/-- A port that is not positive is left out, and zero stands for a missing one. -/
lemma port_toJson (int : IsInt config.port) (not_negative : 0 ≤ config.port) :
    (Object.value config.toJson "port").toInt = config.port := by
  have member : ("port", if config.port > 0 then some (Value.double config.port) else none) ∈
      config.fields := by
    simp [fields]
  rw [toJson, value_of_mem config.distinct member]
  split
  · exact toInt_double int
  · next no_port => exact Int.le_antisymm not_negative (Int.not_lt.mp no_port)

lemma allowedIps_toJson :
    (Object.value config.toJson "allowed_ips").toArray.map Value.toString = config.allowedIps := by
  have member : ("allowed_ips", if config.allowedIps = [] then none
      else some (Value.array (config.allowedIps.map .string))) ∈ config.fields := by
    simp [fields]
  rw [toJson, value_of_mem config.distinct member]
  split
  · next none => exact none.symm
  · rw [Option.getD_some, Value.toArray, List.map_map]
    exact List.map_id config.allowedIps

lemma fromJson_toJson (int : IsInt config.port) (not_negative : 0 ≤ config.port) :
    fromJson config.toJson = config := by
  have own := fun field (member : field ∈ config.own) => config.text_toJson (Or.inl member)
  simp only [ClientConfig.own, List.forall_mem_cons] at own
  have parameters := obfuscation_read config.toObfuscation config.toJson
    fun field member => config.text_toJson (Or.inr member)
  simp [fromJson, own, parameters, flag_toJson, allowedIps_toJson,
    config.port_toJson int not_negative]

end ClientConfig

lemma server_read (config : Config) :
    ServerConfig.fromJson (config.toJson codec) = config.serverConfig := by
  rw [Config.toJson]
  split
  · next client _ =>
      have same : ∀ key ∈ serverKeys,
          Object.value (put config.serverConfig.toJson "last_config"
            (.string (codec.compact (.object client.toJson)))) key =
          Object.value config.serverConfig.toJson key := by
        intro key member
        apply value_put_other
        rintro rfl
        exact absurd member (by decide +kernel)
      rw [ServerConfig.fromJson_congr same, ServerConfig.fromJson_toJson]
  · exact config.serverConfig.fromJson_toJson

lemma no_last_config (config : ServerConfig) : Object.text config.toJson "last_config" = "" := by
  have absent : "last_config" ∉ serverKeys := by decide +kernel
  have missing : config.toJson.lookup "last_config" = none := lookup_absent absent
  rw [Object.text, Object.value, missing]
  rfl

/-- A config that is saved and read again is the same in all fields of the server
and the client. -/
theorem saved_config_read (config : Config)
    (ports : ∀ client ∈ config.clientConfig, IsInt client.port ∧ 0 ≤ client.port)
    (written : ∀ client ∈ config.clientConfig, ReadsBack codec client.toJson) :
    Config.fromJson codec (config.toJson codec) = config := by
  have server := server_read codec config
  cases held : config.clientConfig with
  | none =>
    have nothing : (config.toJson codec).text "last_config" = "" := by
      rw [Config.toJson, held]
      exact no_last_config config.serverConfig
    rw [Config.fromJson, server, nothing, readClient, if_pos rfl, ← held]
  | some client =>
    obtain ⟨int, not_negative⟩ := ports client held
    obtain ⟨nonempty, read⟩ := written client held
    have last : (config.toJson codec).text "last_config" =
        codec.compact (.object client.toJson) := by
      rw [Config.toJson, held, Object.text, value_put_self]
      rfl
    rw [Config.fromJson, server, last, readClient, if_neg nonempty, read]
    simp [client.fromJson_toJson int not_negative, ← held]

def someParameters : Obfuscation where
  junkPacketCount := "4"
  junkPacketMinSize := "10"
  junkPacketMaxSize := "50"
  initPacketJunkSize := "86"
  responsePacketJunkSize := ""
  cookieReplyPacketJunkSize := ""
  transportPacketJunkSize := "0"
  initPacketMagicHeader := "1020325451"
  responsePacketMagicHeader := "3288052141"
  underloadPacketMagicHeader := "1766607858"
  transportPacketMagicHeader := "2528465083"
  specialJunk1 := "<b 0xc700>"
  specialJunk2 := ""
  specialJunk3 := ""
  specialJunk4 := ""
  specialJunk5 := ""
  headerProtectionKey := ""
  contentPaddingAddition := ""
  rekeyAfterTime := "120"
  rekeyTimeout := ""
  rejectAfterTime := ""
  keepaliveTimeout := ""
  maxHandshakeAttempts := ""

def someServer : ServerConfig where
  toObfuscation := someParameters
  port := "55424"
  transportProto := "udp"
  protocolVersion := "2"
  subnetAddress := "10.8.1.0"
  subnetCidr := "24"
  isThirdPartyConfig := false

def someClient : ClientConfig where
  toObfuscation := someParameters
  nativeConfig := "[Interface]"
  hostName := "198.51.100.7"
  port := 55424
  clientIp := "10.8.1.2"
  clientPrivateKey := "key"
  clientPublicKey := "public"
  serverPublicKey := "server"
  presharedKey := ""
  clientId := "public"
  allowedIps := ["0.0.0.0/0", "::/0"]
  persistentKeepAlive := "25"
  mtu := ""
  isObfuscationEnabled := true

def clientCodec : Codec := documentCodec [someClient.toJson]

lemma someClient_port : IsInt someClient.port ∧ 0 ≤ someClient.port :=
  ⟨⟨by decide, by decide⟩, by decide⟩

lemma someClient_saved : ReadsBack clientCodec someClient.toJson := reads_first _ []

theorem some_config_read :
    Config.fromJson clientCodec (Config.toJson clientCodec ⟨someServer, some someClient⟩) =
      ⟨someServer, some someClient⟩ :=
  saved_config_read clientCodec ⟨someServer, some someClient⟩
    (fun _ held => Option.some.inj held ▸ someClient_port)
    (fun _ held => Option.some.inj held ▸ someClient_saved)

end AbstractumVpn.AwgProtocolConfig
