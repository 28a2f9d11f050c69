import AbstractumVpn.AdminServerConfig
import AbstractumVpn.AwgProtocolConfig
import AbstractumVpn.ScriptsRegistry
import AbstractumVpn.XrayProtocolConfig

/-!
`ProtocolConfig`: the config of a container is that of one of eleven protocols.
Five of them keep the profile made for this device, as a text under the key
`last_config`, and a mark for a config of another provider.
-/

namespace AbstractumVpn.ContainerProtocols

open AwgProtocolConfig (flag flag_read)
open ContainerUtils (Proto)
open ImportController (Codec put)
open Json
open ScriptsRegistry (SftpProtocolConfig Socks5ProxyProtocolConfig)
open XrayInstaller (boolOr)

structure Profiled (Server Client : Type) where
  serverConfig : Server
  clientConfig : Option Client

structure OpenVpnServerConfig extends ScriptsRegistry.OpenVpnServerConfig where
  isThirdPartyConfig : Bool

structure OpenVpnClientConfig where
  nativeConfig : String
  clientId : String
  blockOutsideDns : Bool

structure WireGuardServerConfig extends ScriptsRegistry.WireGuardServerConfig where
  transportProto : String := ""
  subnetMask : String := ""
  isThirdPartyConfig : Bool := false

structure WireGuardClientConfig where
  nativeConfig : String := ""
  hostName : String := ""
  port : Int := 0
  clientIp : String := ""
  clientPrivateKey : String := ""
  clientPublicKey : String := ""
  serverPublicKey : String := ""
  presharedKey : String := ""
  clientId : String := ""
  allowedIps : List String := []
  persistentKeepAlive : String := ""
  mtu : String := ""
  isObfuscationEnabled : Bool := false

structure Ikev2ServerConfig where
  hostName : String
  isThirdPartyConfig : Bool

structure Ikev2ClientConfig where
  nativeConfig : String
  hostName : String
  userName : String
  cert : String
  password : String
  clientId : String

structure MtProxyProtocolConfig extends ScriptsRegistry.MtProxyProtocolConfig where
  tgLink : String
  tmeLink : String

structure TelemtProtocolConfig extends ScriptsRegistry.TelemtProtocolConfig where
  tgLink : String
  tmeLink : String

inductive ProtocolConfig where
  | awg (config : AwgProtocolConfig.Config)
  | wireGuard (config : Profiled WireGuardServerConfig WireGuardClientConfig)
  | openVpn (config : Profiled OpenVpnServerConfig OpenVpnClientConfig)
  | xray (config : XrayProtocolConfig.Config)
  | sftp (config : SftpProtocolConfig)
  | socks5Proxy (config : Socks5ProxyProtocolConfig)
  | mtProxy (config : MtProxyProtocolConfig)
  | telemt (config : TelemtProtocolConfig)
  | ikev2 (config : Profiled Ikev2ServerConfig Ikev2ClientConfig)
  | tor (site : String)
  | dns

def texts (items : List String) : Option Value :=
  if items = [] then none else some (.array (items.map .string))

def OpenVpnServerConfig.fields (config : OpenVpnServerConfig) : Fields :=
  nonEmpty [("port", config.port), ("transport_proto", config.transportProto),
    ("subnet_address", config.subnetAddress), ("subnet_mask", config.subnetMask),
    ("subnet_cidr", config.subnetCidr), ("cipher", config.cipher), ("hash", config.hash),
    ("additional_client_config", config.additionalClientConfig),
    ("additional_server_config", config.additionalServerConfig)] ++
  [("ncp_disable", flag config.ncpDisable),
    ("tls_auth", if config.tlsAuth then none else some (.bool config.tlsAuth)),
    ("isThirdPartyConfig", flag config.isThirdPartyConfig)]

def OpenVpnClientConfig.fields (config : OpenVpnClientConfig) : Fields :=
  nonEmpty [("config", config.nativeConfig), ("clientId", config.clientId)] ++
  [("block_outside_dns", some (.bool config.blockOutsideDns))]

def WireGuardServerConfig.fields (config : WireGuardServerConfig) : Fields :=
  nonEmpty [("port", config.port), ("transport_proto", config.transportProto),
    ("subnet_address", config.subnetAddress), ("subnet_mask", config.subnetMask),
    ("subnet_cidr", config.subnetCidr)] ++
  [("isThirdPartyConfig", flag config.isThirdPartyConfig)]

def WireGuardClientConfig.fields (config : WireGuardClientConfig) : Fields :=
  nonEmpty [("config", config.nativeConfig), ("hostName", config.hostName),
    ("client_ip", config.clientIp), ("client_priv_key", config.clientPrivateKey),
    ("client_pub_key", config.clientPublicKey), ("server_pub_key", config.serverPublicKey),
    ("psk_key", config.presharedKey), ("clientId", config.clientId),
    ("persistent_keep_alive", config.persistentKeepAlive), ("mtu", config.mtu)] ++
  [("port", if config.port > 0 then some (.double config.port) else none),
    ("allowed_ips", texts config.allowedIps),
    ("isObfuscationEnabled", flag config.isObfuscationEnabled)]

def Ikev2ServerConfig.fields (config : Ikev2ServerConfig) : Fields :=
  [("hostName", unlessEmpty config.hostName),
    ("isThirdPartyConfig", flag config.isThirdPartyConfig)]

def Ikev2ClientConfig.fields (config : Ikev2ClientConfig) : Fields :=
  nonEmpty [("config", config.nativeConfig), ("hostName", config.hostName),
    ("userName", config.userName), ("cert", config.cert), ("password", config.password),
    ("clientId", config.clientId)]

def SftpProtocolConfig.fields (config : SftpProtocolConfig) : Fields :=
  nonEmpty [("port", config.port), ("userName", config.userName), ("password", config.password)]

def Socks5ProxyProtocolConfig.fields (config : Socks5ProxyProtocolConfig) : Fields :=
  nonEmpty [("port", config.port), ("userName", config.userName), ("password", config.password)]

def MtProxyProtocolConfig.fields (config : MtProxyProtocolConfig) : Fields :=
  nonEmpty [("port", config.port), ("mtproxy_secret", config.secret), ("mtproxy_tag", config.tag),
    ("mtproxy_tg_link", config.tgLink), ("mtproxy_tme_link", config.tmeLink),
    ("mtproxy_public_host", config.publicHost), ("mtproxy_transport_mode", config.transportMode),
    ("mtproxy_tls_domain", config.tlsDomain), ("mtproxy_workers_mode", config.workersMode),
    ("mtproxy_workers", config.workers), ("mtproxy_nat_internal_ip", config.natInternalIp),
    ("mtproxy_nat_external_ip", config.natExternalIp)] ++
  [("mtproxy_is_enabled", some (.bool config.isEnabled)),
    ("mtproxy_additional_secrets", texts config.additionalSecrets),
    ("mtproxy_nat_enabled", some (.bool config.natEnabled))]

def TelemtProtocolConfig.fields (config : TelemtProtocolConfig) : Fields :=
  nonEmpty [("port", config.port), ("telemt_secret", config.secret), ("telemt_tag", config.tag),
    ("telemt_tg_link", config.tgLink), ("telemt_tme_link", config.tmeLink),
    ("telemt_public_host", config.publicHost), ("telemt_transport_mode", config.transportMode),
    ("telemt_tls_domain", config.tlsDomain), ("telemt_user_name", config.userName),
    ("telemt_workers_mode", config.workersMode), ("telemt_workers", config.workers),
    ("telemt_nat_internal_ip", config.natInternalIp),
    ("telemt_nat_external_ip", config.natExternalIp)] ++
  [("telemt_is_enabled", some (.bool config.isEnabled)),
    ("telemt_mask_enabled", some (.bool config.maskEnabled)),
    ("telemt_tls_emulation", some (.bool config.tlsEmulation)),
    ("telemt_use_middle_proxy", some (.bool config.useMiddleProxy)),
    ("telemt_additional_secrets", texts config.additionalSecrets),
    ("telemt_nat_enabled", some (.bool config.natEnabled))]

section Writing

variable (codec : Codec)

def withLastConfig (server : Object) : Option Object → Object
  | some client => put server "last_config" (.string (codec.compact (.object client)))
  | none => server

def ProtocolConfig.toJson : ProtocolConfig → Object
  | .awg config => config.toJson codec
  | .wireGuard config => withLastConfig codec (ofFields config.serverConfig.fields)
      (config.clientConfig.map fun client => ofFields client.fields)
  | .openVpn config => withLastConfig codec (ofFields config.serverConfig.fields)
      (config.clientConfig.map fun client => ofFields client.fields)
  | .xray config => config.toJson codec
  | .sftp config => ofFields (SftpProtocolConfig.fields config)
  | .socks5Proxy config => ofFields (Socks5ProxyProtocolConfig.fields config)
  | .mtProxy config => ofFields config.fields
  | .telemt config => ofFields config.fields
  | .ikev2 config => withLastConfig codec (ofFields config.serverConfig.fields)
      (config.clientConfig.map fun client => ofFields client.fields)
  | .tor site => ofFields [("site", unlessEmpty site)]
  | .dns => []

end Writing

def OpenVpnServerConfig.fromJson (json : Object) : OpenVpnServerConfig where
  port := json.text "port"
  transportProto := json.text "transport_proto"
  subnetAddress := json.text "subnet_address"
  subnetMask := json.text "subnet_mask"
  subnetCidr := json.text "subnet_cidr"
  cipher := json.text "cipher"
  hash := json.text "hash"
  ncpDisable := (json.value "ncp_disable").toBool
  tlsAuth := boolOr (json.value "tls_auth") true
  additionalClientConfig := json.text "additional_client_config"
  additionalServerConfig := json.text "additional_server_config"
  isThirdPartyConfig := (json.value "isThirdPartyConfig").toBool

def OpenVpnClientConfig.fromJson (json : Object) : OpenVpnClientConfig where
  nativeConfig := json.text "config"
  clientId := json.text "clientId"
  blockOutsideDns := (json.value "block_outside_dns").toBool

def WireGuardServerConfig.fromJson (json : Object) : WireGuardServerConfig where
  port := json.text "port"
  transportProto := json.text "transport_proto"
  subnetAddress := json.text "subnet_address"
  subnetMask := json.text "subnet_mask"
  subnetCidr := json.text "subnet_cidr"
  isThirdPartyConfig := (json.value "isThirdPartyConfig").toBool

def WireGuardClientConfig.fromJson (json : Object) : WireGuardClientConfig where
  nativeConfig := json.text "config"
  hostName := json.text "hostName"
  port := (json.value "port").toInt
  clientIp := json.text "client_ip"
  clientPrivateKey := json.text "client_priv_key"
  clientPublicKey := json.text "client_pub_key"
  serverPublicKey := json.text "server_pub_key"
  presharedKey := json.text "psk_key"
  clientId := json.text "clientId"
  allowedIps := (json.value "allowed_ips").toArray.map Value.toString
  persistentKeepAlive := json.text "persistent_keep_alive"
  mtu := json.text "mtu"
  isObfuscationEnabled := (json.value "isObfuscationEnabled").toBool

def Ikev2ServerConfig.fromJson (json : Object) : Ikev2ServerConfig where
  hostName := json.text "hostName"
  isThirdPartyConfig := (json.value "isThirdPartyConfig").toBool

def Ikev2ClientConfig.fromJson (json : Object) : Ikev2ClientConfig where
  nativeConfig := json.text "config"
  hostName := json.text "hostName"
  userName := json.text "userName"
  cert := json.text "cert"
  password := json.text "password"
  clientId := json.text "clientId"

def SftpProtocolConfig.fromJson (json : Object) : SftpProtocolConfig :=
  ⟨json.text "port", json.text "userName", json.text "password"⟩

def Socks5ProxyProtocolConfig.fromJson (json : Object) : Socks5ProxyProtocolConfig :=
  ⟨json.text "port", json.text "userName", json.text "password"⟩

def readSecrets (value : Value) : List String :=
  (value.toArray.map Value.toString).filter (· ≠ "")

def MtProxyProtocolConfig.fromJson (json : Object) : MtProxyProtocolConfig where
  port := json.text "port"
  secret := json.text "mtproxy_secret"
  tag := json.text "mtproxy_tag"
  tgLink := json.text "mtproxy_tg_link"
  tmeLink := json.text "mtproxy_tme_link"
  isEnabled := boolOr (json.value "mtproxy_is_enabled") true
  publicHost := json.text "mtproxy_public_host"
  transportMode := json.text "mtproxy_transport_mode"
  tlsDomain := json.text "mtproxy_tls_domain"
  additionalSecrets := readSecrets (json.value "mtproxy_additional_secrets")
  workersMode := json.text "mtproxy_workers_mode"
  workers := json.text "mtproxy_workers"
  natEnabled := (json.value "mtproxy_nat_enabled").toBool
  natInternalIp := json.text "mtproxy_nat_internal_ip"
  natExternalIp := json.text "mtproxy_nat_external_ip"

def TelemtProtocolConfig.fromJson (json : Object) : TelemtProtocolConfig where
  port := json.text "port"
  secret := json.text "telemt_secret"
  tag := json.text "telemt_tag"
  tgLink := json.text "telemt_tg_link"
  tmeLink := json.text "telemt_tme_link"
  isEnabled := boolOr (json.value "telemt_is_enabled") true
  publicHost := json.text "telemt_public_host"
  transportMode := json.text "telemt_transport_mode"
  tlsDomain := json.text "telemt_tls_domain"
  maskEnabled := boolOr (json.value "telemt_mask_enabled") true
  tlsEmulation := (json.value "telemt_tls_emulation").toBool
  useMiddleProxy := boolOr (json.value "telemt_use_middle_proxy") true
  userName := json.text "telemt_user_name"
  additionalSecrets := readSecrets (json.value "telemt_additional_secrets")
  workersMode := json.text "telemt_workers_mode"
  workers := json.text "telemt_workers"
  natEnabled := (json.value "telemt_nat_enabled").toBool
  natInternalIp := json.text "telemt_nat_internal_ip"
  natExternalIp := json.text "telemt_nat_external_ip"

def noAwgConfig : AwgProtocolConfig.Config := ⟨AwgProtocolConfig.ServerConfig.fromJson [], none⟩

section Reading

variable (codec : Codec)

def readLastConfig {Client : Type} (read : Object → Client) (json : Object) : Option Client :=
  let lastConfigStr := json.text "last_config"
  if lastConfigStr = "" then none
  else (XrayProtocolConfig.document codec lastConfigStr).map read

def ProtocolConfig.fromJson (json : Object) : Proto → ProtocolConfig
  | .awg => .awg (AwgProtocolConfig.Config.fromJson codec json)
  | .wireGuard => .wireGuard ⟨WireGuardServerConfig.fromJson json,
      readLastConfig codec WireGuardClientConfig.fromJson json⟩
  | .openVpn => .openVpn ⟨OpenVpnServerConfig.fromJson json,
      readLastConfig codec OpenVpnClientConfig.fromJson json⟩
  | .xray | .ssXray => .xray (XrayProtocolConfig.Config.fromJson codec json)
  | .sftp => .sftp (SftpProtocolConfig.fromJson json)
  | .socks5Proxy => .socks5Proxy (Socks5ProxyProtocolConfig.fromJson json)
  | .ikev2 => .ikev2 ⟨Ikev2ServerConfig.fromJson json,
      readLastConfig codec Ikev2ClientConfig.fromJson json⟩
  | .torWebSite => .tor (json.text "site")
  | .dns => .dns
  | .mtProxy => .mtProxy (MtProxyProtocolConfig.fromJson json)
  | .telemt => .telemt (TelemtProtocolConfig.fromJson json)
  | .unknown => .awg noAwgConfig

def protocolJson : AdminServerConfig.ProtocolJson ProtocolConfig :=
  ⟨ProtocolConfig.toJson codec, ProtocolConfig.fromJson codec⟩

end Reading

namespace ProtocolConfig

def hasClientConfig : ProtocolConfig → Bool
  | .awg config => config.clientConfig.isSome
  | .wireGuard config => config.clientConfig.isSome
  | .openVpn config => config.clientConfig.isSome
  | .xray config => config.clientConfig.isSome
  | .ikev2 config => config.clientConfig.isSome
  | _ => false

def clearClientConfig : ProtocolConfig → ProtocolConfig
  | .awg config => .awg { config with clientConfig := none }
  | .wireGuard config => .wireGuard { config with clientConfig := none }
  | .openVpn config => .openVpn { config with clientConfig := none }
  | .xray config => .xray { config with clientConfig := none }
  | .ikev2 config => .ikev2 { config with clientConfig := none }
  | other => other

def isThirdPartyConfig : ProtocolConfig → Bool
  | .awg config => config.serverConfig.isThirdPartyConfig
  | .wireGuard config => config.serverConfig.isThirdPartyConfig
  | .openVpn config => config.serverConfig.isThirdPartyConfig
  | .xray config => config.serverConfig.isThirdPartyConfig
  | .ikev2 config => config.serverConfig.isThirdPartyConfig
  | _ => false

end ProtocolConfig

structure Marked (json : Object) (profile mark : Bool) : Prop where
  lastConfig : json.contains "last_config" = profile
  isThirdParty : (json.value "isThirdPartyConfig").toBool = mark

lemma Marked.of_fields {fields : Fields} {mark : Bool} {value : Option Value}
    (distinct : (fields.map Prod.fst).Nodup) (absent : "last_config" ∉ fields.map Prod.fst)
    (member : ("isThirdPartyConfig", value) ∈ fields)
    (written : (value.getD .undefined).toBool = mark) : Marked (ofFields fields) false mark := by
  constructor
  · rw [Object.contains, lookup_absent absent]
    rfl
  · rw [value_of_mem distinct member, written]

lemma Marked.plain {fields : Fields} (no_profile : "last_config" ∉ fields.map Prod.fst)
    (no_mark : "isThirdPartyConfig" ∉ fields.map Prod.fst) :
    Marked (ofFields fields) false false := by
  constructor
  · rw [Object.contains, lookup_absent no_profile]
    rfl
  · rw [Object.value, lookup_absent no_mark]
    rfl

lemma Marked.put {json : Object} {profile mark : Bool} (marked : Marked json profile mark)
    (text : String) : Marked (put json "last_config" (.string text)) true mark := by
  constructor
  · exact contains_put_self _ _ _
  · rw [value_put_other _ _ _ _ (by decide)]
    exact marked.isThirdParty

lemma Marked.withLastConfig {Client : Type} {json : Object} {mark : Bool}
    (marked : Marked json false mark) (codec : Codec) (client : Option Client)
    (fields : Client → Fields) :
    Marked (withLastConfig codec json (client.map fun held => ofFields (fields held))) client.isSome
      mark := by
  cases client with
  | none => exact marked
  | some client => exact marked.put _

section Servers

lemma awg_marked (config : AwgProtocolConfig.ServerConfig) :
    Marked config.toJson false config.isThirdPartyConfig := by
  apply Marked.of_fields config.distinct _ _ (flag_read _)
  · rw [config.keys]
    decide +kernel
  · simp [AwgProtocolConfig.ServerConfig.fields]

lemma xray_marked (config : XrayProtocolConfig.ServerConfig) :
    Marked config.toJson false config.isThirdPartyConfig := by
  constructor
  · have absent : "last_config" ∉ XrayProtocolConfig.ServerConfig.keys := by decide
    have missing : (ofFields config.fields).lookup "last_config" = none := lookup_absent absent
    rw [Object.contains, XrayProtocolConfig.ServerConfig.toJson, missing]
    rfl
  · exact config.third_toJson

lemma wireGuard_marked (config : WireGuardServerConfig) :
    Marked (ofFields config.fields) false config.isThirdPartyConfig := by
  apply Marked.of_fields _ _ _ (flag_read _) <;> simp [WireGuardServerConfig.fields, nonEmpty]

lemma openVpn_marked (config : OpenVpnServerConfig) :
    Marked (ofFields config.fields) false config.isThirdPartyConfig := by
  apply Marked.of_fields _ _ _ (flag_read _) <;> simp [OpenVpnServerConfig.fields, nonEmpty]

lemma ikev2_marked (config : Ikev2ServerConfig) :
    Marked (ofFields config.fields) false config.isThirdPartyConfig := by
  apply Marked.of_fields _ _ _ (flag_read _) <;> simp [Ikev2ServerConfig.fields]

end Servers

namespace ProtocolConfig

variable (codec : Codec)

/-- A profile is saved exactly where there is one, and the mark is saved as it is. -/
lemma toJson_marked (config : ProtocolConfig) :
    Marked (config.toJson codec) config.hasClientConfig config.isThirdPartyConfig := by
  cases config with
  | awg config =>
    obtain ⟨server, _ | client⟩ := config
    · exact awg_marked server
    · exact (awg_marked server).put _
  | xray config =>
    obtain ⟨server, _ | client, hydration⟩ := config
    · exact xray_marked server
    · exact (xray_marked server).put _
  | wireGuard config =>
    exact (wireGuard_marked config.serverConfig).withLastConfig codec config.clientConfig _
  | openVpn config =>
    exact (openVpn_marked config.serverConfig).withLastConfig codec config.clientConfig _
  | ikev2 config =>
    exact (ikev2_marked config.serverConfig).withLastConfig codec config.clientConfig _
  | sftp config => apply Marked.plain <;> simp [SftpProtocolConfig.fields, nonEmpty]
  | socks5Proxy config => apply Marked.plain <;> simp [Socks5ProxyProtocolConfig.fields, nonEmpty]
  | mtProxy config => apply Marked.plain <;> simp [MtProxyProtocolConfig.fields, nonEmpty]
  | telemt config => apply Marked.plain <;> simp [TelemtProtocolConfig.fields, nonEmpty]
  | tor site => apply Marked.plain <;> simp
  | dns => exact ⟨rfl, rfl⟩

end ProtocolConfig

section Hydration

open XrayProtocolConfig

variable (srv : ServerConfig) (object : Object)

lemma withServer_third :
    (withServer object srv).isThirdPartyConfig = srv.isThirdPartyConfig := by
  rw [withServer]
  split <;> rfl

lemma withReality_third :
    (withReality object srv).isThirdPartyConfig = srv.isThirdPartyConfig := by
  rw [withReality]
  split <;> rfl

lemma withTls_third : (withTls object srv).isThirdPartyConfig = srv.isThirdPartyConfig := by
  rw [withTls]
  split <;> rfl

lemma withXhttp_third : (withXhttp object srv).isThirdPartyConfig = srv.isThirdPartyConfig := by
  rw [withXhttp]
  split <;> rfl

lemma withMkcp_third : (withMkcp object srv).isThirdPartyConfig = srv.isThirdPartyConfig := by
  rw [withMkcp]
  split <;> rfl

variable {srv}

lemma hydrate_third {codec : Codec} {client : ClientConfig} {after : ServerConfig}
    (read : hydrate codec srv client = some after) :
    after.isThirdPartyConfig = srv.isThirdPartyConfig := by
  unfold hydrate at read
  split at read
  · cases read
  · obtain ⟨root, -, hydration⟩ := Option.bind_eq_some_iff.mp read
    unfold hydrated at hydration
    split at hydration
    · cases hydration
    · split at hydration
      · cases hydration
      · rw [← Option.some.inj hydration, withOutbound, withMkcp_third, withXhttp_third, withTls_third,
          withReality_third]
        exact withServer_third srv _

lemma xray_third (codec : Codec) (json : Object) :
    (Config.fromJson codec json).serverConfig.isThirdPartyConfig =
      (json.value "isThirdPartyConfig").toBool := by
  rw [Config.fromJson]
  split
  · rfl
  · split
    · split
      · next read => exact hydrate_third read
      · rfl
    · rfl

end Hydration

/-- A config that is read has a mark only if the object has one. -/
lemma ProtocolConfig.fromJson_third (codec : Codec) (json : Object) (proto : Proto)
    (marked : (ProtocolConfig.fromJson codec json proto).isThirdPartyConfig = true) :
    (json.value "isThirdPartyConfig").toBool = true := by
  cases proto with
  | xray | ssXray => exact (xray_third codec json).symm.trans marked
  | awg | wireGuard | openVpn | ikev2 => exact marked
  | sftp | socks5Proxy | torWebSite | dns | mtProxy | telemt | unknown => cases marked

end AbstractumVpn.ContainerProtocols
