import AbstractumVpn.ServersRepository
import AbstractumVpn.SiteRoutes

/-!
`ImportController`: what the client makes of a text, a file or the bytes of a QR
code. The kind of a config is told by words that its text contains; a text with
none of them is decoded and looked at again. `Codec` holds what Qt does with
texts and bytes, `Parts` the readers of the formats that are not modelled here.
The words of OpenVPN are compared without regard to the case of ASCII letters.
-/

namespace AbstractumVpn.ImportController

open Json SiteRoutes

abbrev Bytes := List UInt8

structure Codec where
  toUtf8 : String → Bytes
  fromUtf8 : Bytes → String
  toLocal8Bit : String → Bytes
  /-- `QByteArray::fromBase64` with the URL alphabet. -/
  fromBase64 : Bytes → Bytes
  qUncompress : Bytes → Bytes
  /-- `QJsonDocument::fromJson`, nothing for a null document. -/
  fromJson : Bytes → Option Value
  /-- `toJson()` and `toJson(Compact)`. -/
  toJson : Value → String
  compact : Value → String

def Codec.object (codec : Codec) (bytes : Bytes) : Object :=
  ((codec.fromJson bytes).map Value.toObject).getD []

inductive ConfigTypes where
  | amnezia
  | openVpn
  | wireGuard
  | awg
  | xray
  | shadowSocks
  | backup
  | invalid
  deriving DecidableEq

inductive ErrorCode where
  | noError
  | importInvalidConfigError
  | importBackupFileUseRestoreInstead
  | legacyApiV1NotSupportedError
  deriving DecidableEq

structure ImportResult where
  errorCode : ErrorCode := .noError
  config : Object := []
  configFileName : String := ""
  maliciousWarningText : String := ""
  configType : ConfigTypes := .invalid
  isNativeWireGuardConfig : Bool := false

structure Link where
  config : Object
  label : String
  errorMessage : String

structure SsdLink where
  servers : List (String × Object)
  groupName : String
  log : List String

structure Parts where
  vless : String → String → Link
  vmessNew : String → String → Link
  vmess : String → String → Link
  trojan : String → String → Link
  ss : String → String → Link
  ssd : String → String → SsdLink
  extractOpenVpnConfig : String → Object
  extractWireGuardConfig : String → Object × ConfigTypes
  nextAvailableServerName : String
  /-- Whether the build is one for a mobile system, which sets the default MTU. -/
  mobile : Bool

/-- `object[key] = value`. The keys of an object have an order of their own, so a value that is
replaced leaves the others where they are. -/
def put (object : Object) (key : String) (value : Value) : Object :=
  if object.contains key then object.map fun entry => if entry.1 = key then (key, value) else entry
  else object ++ [(key, value)]

def contains (text part : String) : Bool := decide (part.toList <:+: text.toList)

def startsWith (text start : String) : Bool := decide (start.toList <+: text.toList)

def checkConfigFormat (config : String) : ConfigTypes :=
  if contains config "Servers/serversList" then .backup
  else if contains config "containers" || contains config "api_key" ||
      contains config "auth_data" || (contains config "hostName" &&
        contains config "userName" && contains config "password") then .amnezia
  else if contains config "[Interface]" && contains config "[Peer]" then .wireGuard
  else if contains config "inbounds" && contains config "outbounds" then .xray
  else if contains config "client" && (contains config "dev tun" || contains config "dev tap") then
    .openVpn
  else .invalid

def containerFromString (container : String) : DockerContainer :=
  match container with
  | "amnezia-awg" => .awg
  | "amnezia-awg2" => .awg2
  | "amnezia-wireguard" => .wireGuard
  | "amnezia-openvpn" => .openVpn
  | "amnezia-openvpn-cloak" => .cloak
  | "amnezia-shadowsocks" => .shadowSocks
  | "amnezia-ipsec" => .ipsec
  | "amnezia-xray" => .xray
  | "amnezia-ssxray" => .ssXray
  | "amnezia-torwebsite" => .torWebSite
  | "amnezia-dns" => .dns
  | "amnezia-sftp" => .sftp
  | "amnezia-socks5proxy" => .socks5Proxy
  | "amnezia-mtproxy" => .mtProxy
  | "amnezia-telemt" => .telemt
  | _ => .none

def protocolString (container : DockerContainer) : String :=
  if isAwgContainer container then "awg" else "wireguard"

variable (codec : Codec) (parts : Parts)

def defaultMtu : String := if parts.mobile then "1280" else "1376"

def isWireguardContainer (container : Object) : Bool :=
  let dockerContainer := containerFromString (container.value "container").toString
  isAwgContainer dockerContainer || dockerContainer = .wireGuard

def withDefaultMtu (container : Object) : Option Object :=
  let protocol := protocolString (containerFromString (container.value "container").toString)
  let containerConfig := (container.value protocol).toObject
  let protocolConfig := (containerConfig.value "last_config").toString
  if protocolConfig = "" then none
  else
    let jsonConfig := put (codec.object (codec.toUtf8 protocolConfig)) "mtu"
      (.string (defaultMtu parts))
    some (put container protocol (.object (put containerConfig "last_config"
      (.string (codec.toJson (.object jsonConfig))))))

def processContainers (passed : List Value) : List Value → Object → Object
  | [], config => config
  | item :: rest, config =>
    if isWireguardContainer item.toObject then
      match withDefaultMtu codec parts item.toObject with
      | none => config
      | some container =>
        processContainers (passed ++ [.object container]) rest
          (put config "containers" (.array (passed ++ .object container :: rest)))
    else processContainers (passed ++ [item]) rest config

def processAmneziaConfig (config : Object) : Object :=
  processContainers codec parts [] (config.value "containers").toArray config

def dangerousTags : List String :=
  ["up", "tls-verify", "ipchange", "client-connect", "route-up", "route-pre-down",
    "client-disconnect", "down", "learn-address", "auth-user-pass-verify"]

def firstWord (line : String) : String :=
  ((QtText.split line " ").filter (· ≠ "")).headD ""

def isDangerous (rawLine : String) : Bool :=
  let line := String.ofList (QtText.trimmed rawLine.toList)
  (dangerousTags.map String.toLower).contains (firstWord line).toLower

def maliciousStrings (protocolConfigJson : String) : List String :=
  ((QtText.split protocolConfigJson "\n").filter (· ≠ "")).filter isDangerous

def openVpnConfig (container : Object) : String :=
  let protocolConfig := (Object.value (container.value "openvpn").toObject "last_config").toString
  (Object.value (codec.object (codec.toUtf8 protocolConfig)) "config").toString

def openVpnWarning (protocolConfigJson : String) : String :=
  let found := maliciousStrings protocolConfigJson
  "This configuration contains an OpenVPN setup. OpenVPN configurations can include malicious scripts, so only add it if you fully trust the provider of this config. " ++
    if found = [] then ""
    else
      "<br>In the imported configuration, potentially dangerous lines were found:" ++
        String.join (found.map fun line => "<br><i>" ++ line ++ "</i>")

def checkForMaliciousStrings (serverConfig : Object) : String :=
  (serverConfig.value "containers").toArray.foldl
    (fun warningText container =>
      if (container.toObject.value "container").toString = "amnezia-openvpn" then
        openVpnWarning (openVpnConfig codec container.toObject)
      else warningText) ""

def behind (word : List Char) : List Char → Option (List Char)
  | [] => if word = [] then some [] else none
  | c :: rest =>
    if word.isPrefixOf (c :: rest) then some ((c :: rest).drop word.length) else behind word rest

def isPatternSpace (c : Char) : Bool := (9 ≤ c.toNat && c.toNat ≤ 13) || c.toNat == 32

def hostNameMatch (fuel : Nat) (text : List Char) : Option (List Char) :=
  match fuel with
  | 0 => none
  | fuel + 1 =>
    match behind "\"address\":".toList text with
    | none => none
    | some rest =>
      match rest.dropWhile isPatternSpace with
      | '"' :: value =>
        match value.takeWhile (· ≠ '"') with
        | [] => hostNameMatch fuel rest
        | captured => some captured
      | _ => hostNameMatch fuel rest

def extractXrayConfig (data : String) (configType : ConfigTypes) (description : String) : Object :=
  let text := ((codec.fromJson (codec.toLocal8Bit data)).map codec.toJson).getD ""
  let lastConfig : Object := [("isThirdPartyConfig", .bool true), ("last_config", .string text)]
  let hostName := (hostNameMatch data.toList.length data.toList).getD []
  let names :=
    if configType = .shadowSocks then ("ssxray", "amnezia-ssxray") else ("xray", "amnezia-xray")
  [("containers", .array [.object [("container", .string names.2), (names.1, .object lastConfig)]]),
    ("defaultContainer", .string names.2),
    ("description",
      .string (if description = "" then parts.nextAvailableServerName else description)),
    ("hostName", .string (String.ofList hostName))]

def importAs (configType : ConfigTypes) (config configFileName : String) : ImportResult :=
  match configType with
  | .openVpn =>
    let extracted := parts.extractOpenVpnConfig config
    if extracted ≠ [] then
      { config := extracted, configFileName, configType,
        maliciousWarningText := checkForMaliciousStrings codec extracted }
    else { errorCode := .importInvalidConfigError, configFileName, configType }
  | .awg | .wireGuard =>
    let extracted := parts.extractWireGuardConfig config
    let isNativeWireGuardConfig := extracted.2 = .wireGuard
    { errorCode := if extracted.1 ≠ [] then .noError else .importInvalidConfigError
      config := extracted.1, configFileName, configType := extracted.2, isNativeWireGuardConfig }
  | .xray =>
    let extracted := extractXrayConfig codec parts config .xray ""
    if extracted ≠ [] then { config := extracted, configFileName, configType }
    else { errorCode := .importInvalidConfigError, configFileName, configType }
  | .amnezia =>
    let server := codec.object (codec.toUtf8 config)
    if ServersRepository.isServerFromApi server then
      { errorCode := .legacyApiV1NotSupportedError, configFileName, configType }
    else
      let processed := processAmneziaConfig codec parts server
      if processed ≠ [] then
        { config := processed, configFileName, configType,
          maliciousWarningText := checkForMaliciousStrings codec processed }
      else { errorCode := .importInvalidConfigError, configFileName, configType }
  | .backup => { errorCode := .importBackupFileUseRestoreInstead, configFileName, configType }
  | .invalid => { errorCode := .importInvalidConfigError, configType }
  | .shadowSocks => { errorCode := .importInvalidConfigError, configFileName, configType }

def importLink (configType : ConfigTypes) (data description configFileName : String) :
    Option ImportResult :=
  let extracted := extractXrayConfig codec parts data configType description
  if extracted ≠ [] then some { config := extracted, configFileName, configType } else none

def linkText (link : Link) : String := codec.compact (.object link.config)

def importShareLink (config configFileName : String) : Option ImportResult :=
  let link (applies : Bool) (configType : ConfigTypes) (read : Link) : Option ImportResult :=
    if applies then importLink codec parts configType (linkText codec read) read.label configFileName
    else none
  let vmessNew := startsWith config "vmess://" && contains config "@"
  let label := if vmessNew then (parts.vmessNew config "").label else ""
  (link (startsWith config "vless://") .xray (parts.vless config "")).or <|
  (link vmessNew .xray (parts.vmessNew config "")).or <|
  (link (startsWith config "vmess://") .xray (parts.vmess config label)).or <|
  (link (startsWith config "trojan://") .xray (parts.trojan config "")).or <|
  (link (startsWith config "ss://" && !contains config "plugin=") .shadowSocks
    (parts.ss config "")).or <|
  if startsWith config "ssd://" then
    -- the name of the first server is taken for its config
    (parts.ssd config "").servers.head?.bind fun server =>
      importLink codec parts .shadowSocks server.1 "" configFileName
  else none

def withoutScheme (config : String) : String := String.join (QtText.split config "vpn://")

def uncompressed (bytes : Bytes) : Bytes :=
  let unpacked := codec.qUncompress bytes
  if unpacked ≠ [] then unpacked else bytes

def decoded (config : String) : String :=
  codec.fromUtf8 (uncompressed codec (codec.fromBase64 (codec.toUtf8 (withoutScheme config))))

def importText (config configFileName : String) : ImportResult :=
  if checkConfigFormat config = .invalid then
    importAs codec parts (checkConfigFormat (decoded codec config)) (decoded codec config)
      configFileName
  else importAs codec parts (checkConfigFormat config) config configFileName

def extractConfigFromData (data configFileName : String) : ImportResult :=
  (importShareLink codec parts data configFileName).getD (importText codec parts data configFileName)

def importObject (config : Object) : ImportResult :=
  if config = [] then { errorCode := .importInvalidConfigError }
  else { config, configType := .amnezia }

def extractConfigFromQr (data : Bytes) : ImportResult :=
  let dataStr := codec.fromUtf8 data
  if checkConfigFormat dataStr ≠ .invalid then extractConfigFromData codec parts dataStr ""
  else if codec.object data ≠ [] then importObject (codec.object data)
  else if codec.qUncompress data ≠ [] then importObject (codec.object (codec.qUncompress data))
  else
    let ba := uncompressed codec (codec.fromBase64 data)
    if ba ≠ [] then importObject (codec.object ba)
    else { errorCode := .importInvalidConfigError }

end AbstractumVpn.ImportController
