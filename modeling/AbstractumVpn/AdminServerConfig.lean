import AbstractumVpn.ContainerUtils

/-!
`SelfHostedAdminServerConfig` and the `ContainerConfig` of each of its
containers, with their JSON. The configs of the protocols are left to
`ProtocolJson`.
-/

namespace AbstractumVpn.AdminServerConfig

open ContainerUtils Json
open SiteRoutes (DockerContainer)

structure ServerCredentials where
  hostName : String
  userName : String
  secretData : String
  port : Int

def ServerCredentials.isValid (credentials : ServerCredentials) : Bool :=
  !credentials.hostName.isEmpty && !credentials.userName.isEmpty &&
    !credentials.secretData.isEmpty && decide (credentials.port > 0)

def protoToString : Proto → String
  | .unknown => ""
  | .openVpn => "openvpn"
  | .wireGuard => "wireguard"
  | .awg => "awg"
  | .ikev2 => "ikev2"
  | .xray => "xray"
  | .ssXray => "ssxray"
  | .torWebSite => "torwebsite"
  | .dns => "dns"
  | .sftp => "sftp"
  | .socks5Proxy => "socks5proxy"
  | .mtProxy => "mtproxy"
  | .telemt => "telemt"

structure ProtocolJson (Protocol : Type) where
  toJson : Protocol → Object
  fromJson : Object → Proto → Protocol

structure ContainerConfig (Protocol : Type) where
  container : DockerContainer
  protocolConfig : Protocol

structure Config (Protocol : Type) where
  description : String
  hostName : String
  containers : ContainerMap (ContainerConfig Protocol)
  defaultContainer : DockerContainer
  dns1 : String
  dns2 : String
  userName : String
  password : String
  port : Int

variable {Protocol : Type}

def Config.credentials (config : Config Protocol) : ServerCredentials :=
  ⟨config.hostName, config.userName, config.password, config.port⟩

def Config.getDnsPair (qt : Qt) (config : Config Protocol) (isAmneziaDnsEnabled : Bool)
    (primaryDns secondaryDns : String) : String × String :=
  let dnsOnServer := (config.containers .dns).isSome
  let dns1 :=
    if config.dns1 = "" || !AppSettings.checkIPv4Format qt config.dns1 then
      if isAmneziaDnsEnabled && dnsOnServer then "172.29.172.254" else primaryDns
    else config.dns1
  let dns2 :=
    if config.dns2 = "" || !AppSettings.checkIPv4Format qt config.dns2 then secondaryDns
    else config.dns2
  (dns1, dns2)

variable (protocols : ProtocolJson Protocol)

def textEntry (key text : String) : Object := if text ≠ "" then [(key, .string text)] else []

def ContainerConfig.toJson (config : ContainerConfig Protocol) : Object :=
  let protoName := protoToString (defaultProtocol config.container)
  [("container", .string (containerToString config.container)),
    (protoName, .object (protocols.toJson config.protocolConfig))]

def ContainerConfig.fromJson (json : Object) : ContainerConfig Protocol :=
  let container := ImportController.containerFromString (json.value "container").toString
  let protoType := defaultProtocol container
  ⟨container, protocols.fromJson (json.value (protoToString protoType)).toObject protoType⟩

def Config.containersArray (config : Config Protocol) : List Value :=
  config.containers.keys.filterMap fun container =>
    (config.containers container).map fun held => .object (held.toJson protocols)

def Config.toJson (config : Config Protocol) : Object :=
  (if config.containersArray protocols ≠ [] then
    [("containers", .array (config.containersArray protocols))] else []) ++
  (if config.defaultContainer ≠ .none then
    [("defaultContainer", .string (containerToString config.defaultContainer))] else []) ++
  textEntry "description" config.description ++ textEntry "dns1" config.dns1 ++
  textEntry "dns2" config.dns2 ++ textEntry "hostName" config.hostName ++
  textEntry "password" config.password ++
  (if config.port > 0 then [("port", .double config.port)] else []) ++
  textEntry "userName" config.userName

def readContainer (containers : ContainerMap (ContainerConfig Protocol)) (item : Value) :
    ContainerMap (ContainerConfig Protocol) :=
  containers.insert
    (ImportController.containerFromString (item.toObject.value "container").toString)
    (ContainerConfig.fromJson protocols item.toObject)

def readContainers (items : List Value) : ContainerMap (ContainerConfig Protocol) :=
  items.foldl (readContainer protocols) fun _ => none

def Config.fromJson (json : Object) : Config Protocol where
  description := (json.value "description").toString
  hostName := (json.value "hostName").toString
  containers := readContainers protocols (json.value "containers").toArray
  defaultContainer :=
    ImportController.containerFromString (json.value "defaultContainer").toString
  dns1 := (json.value "dns1").toString
  dns2 := (json.value "dns2").toString
  userName := (json.value "userName").toString
  password := (json.value "password").toString
  port := if json.contains "port" then (json.value "port").toInt else 0

/-- Every container is stored under its own kind. -/
def Keyed (containers : ContainerMap (ContainerConfig Protocol)) : Prop :=
  ∀ container config, containers container = some config → config.container = container

lemma readContainer_keyed {containers : ContainerMap (ContainerConfig Protocol)}
    (keyed : Keyed containers) (item : Value) : Keyed (readContainer protocols containers item) := by
  intro container config found
  rw [readContainer, ContainerMap.insert_apply] at found
  split at found
  · rename_i same
    rw [same, ← Option.some.inj found]
    rfl
  · exact keyed container config found

lemma readContainers_keyed (items : List Value) : Keyed (readContainers protocols items) :=
  List.foldlRecOn (motive := Keyed) items _ (fun _ _ found => nomatch found)
    fun _ keyed item _ => readContainer_keyed protocols keyed item

end AbstractumVpn.AdminServerConfig
