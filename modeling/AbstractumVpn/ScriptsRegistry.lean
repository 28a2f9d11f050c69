import AbstractumVpn.AwgProtocolConfig
import AbstractumVpn.ContainerUtils
import AbstractumVpn.XrayServerConfig

/-!
`scriptsRegistry`: the variables that the scripts of a container are filled
with, and `isUpdateDockerContainerRequired`, which decides whether they have to
be run again. The configs have the fields that one of the two reads.
-/

namespace AbstractumVpn.ScriptsRegistry

open ContainerUtils SiteRoutes XrayServerConfig

structure OpenVpnServerConfig where
  port : String
  transportProto : String
  subnetAddress : String
  subnetMask : String
  subnetCidr : String
  cipher : String
  hash : String
  ncpDisable : Bool
  tlsAuth : Bool
  additionalClientConfig : String
  additionalServerConfig : String

structure WireGuardServerConfig where
  port : String := ""
  subnetAddress : String := ""
  subnetCidr : String := ""

structure SftpProtocolConfig where
  port : String
  userName : String
  password : String

structure Socks5ProxyProtocolConfig where
  port : String
  userName : String
  password : String

structure MtProxyProtocolConfig where
  port : String
  secret : String
  tag : String
  isEnabled : Bool
  publicHost : String
  transportMode : String
  tlsDomain : String
  additionalSecrets : List String
  workersMode : String
  workers : String
  natEnabled : Bool
  natInternalIp : String
  natExternalIp : String

structure TelemtProtocolConfig where
  port : String
  secret : String
  tag : String
  isEnabled : Bool
  publicHost : String
  transportMode : String
  tlsDomain : String
  maskEnabled : Bool
  tlsEmulation : Bool
  useMiddleProxy : Bool
  userName : String
  additionalSecrets : List String
  workersMode : String
  workers : String
  natEnabled : Bool
  natInternalIp : String
  natExternalIp : String

inductive ProtocolConfig where
  | awg (serverConfig : AwgProtocolConfig.ServerConfig)
  | wireGuard (serverConfig : WireGuardServerConfig)
  | openVpn (serverConfig : OpenVpnServerConfig)
  | xray (serverConfig : XrayServerConfig.Config)
  | sftp (config : SftpProtocolConfig)
  | socks5Proxy (config : Socks5ProxyProtocolConfig)
  | mtProxy (config : MtProxyProtocolConfig)
  | telemt (config : TelemtProtocolConfig)
  | ikev2
  | tor
  | dns

abbrev ScriptVars := List (String × String)

def genOpenVpnVars : ProtocolConfig → ScriptVars
  | .openVpn config =>
    [("$OPENVPN_SUBNET_IP", orDefault config.subnetAddress "10.8.0.0"),
      ("$OPENVPN_SUBNET_CIDR", orDefault config.subnetCidr "24"),
      ("$OPENVPN_SUBNET_MASK", orDefault config.subnetMask "255.255.255.0"),
      ("$OPENVPN_PORT", orDefault config.port "1194"),
      ("$OPENVPN_TRANSPORT_PROTO", orDefault config.transportProto "udp"),
      ("$OPENVPN_NCP_DISABLE", if config.ncpDisable then "ncp-disable" else ""),
      ("$OPENVPN_CIPHER", orDefault config.cipher "AES-256-GCM"),
      ("$OPENVPN_HASH", orDefault config.hash "SHA512"),
      ("$OPENVPN_TLS_AUTH",
        if config.tlsAuth then "tls-auth /opt/amnezia/openvpn/ta.key 0" else "")] ++
      (if config.tlsAuth then [] else [("$OPENVPN_TA_KEY", "")]) ++
      [("$OPENVPN_ADDITIONAL_CLIENT_CONFIG", config.additionalClientConfig),
        ("$OPENVPN_ADDITIONAL_SERVER_CONFIG", config.additionalServerConfig)]
  | _ => []

def genXrayVars : ProtocolConfig → ScriptVars
  | .xray config =>
    [("$XRAY_SITE_NAME", orDefault config.site defaultSite),
      ("$XRAY_SERVER_PORT", orDefault config.port defaultPort)]
  | _ => []

def genWireGuardVars : ProtocolConfig → ScriptVars
  | .wireGuard config =>
    [("$WIREGUARD_SUBNET_IP", orDefault config.subnetAddress "10.8.1.0"),
      ("$WIREGUARD_SUBNET_CIDR", orDefault config.subnetCidr "24"),
      ("$WIREGUARD_SERVER_PORT", orDefault config.port "51820")]
  | _ => []

def genAwgVars : ProtocolConfig → ScriptVars
  | .awg config =>
    [("$AWG_SUBNET_IP", orDefault config.subnetAddress "10.8.1.0"),
      ("$WIREGUARD_SUBNET_CIDR", orDefault config.subnetCidr "24"),
      ("$AWG_SERVER_PORT", orDefault config.port "55424"),
      ("$JUNK_PACKET_COUNT", config.junkPacketCount),
      ("$JUNK_PACKET_MIN_SIZE", config.junkPacketMinSize),
      ("$JUNK_PACKET_MAX_SIZE", config.junkPacketMaxSize),
      ("$INIT_PACKET_JUNK_SIZE", config.initPacketJunkSize),
      ("$RESPONSE_PACKET_JUNK_SIZE", config.responsePacketJunkSize),
      ("$INIT_PACKET_MAGIC_HEADER", config.initPacketMagicHeader),
      ("$RESPONSE_PACKET_MAGIC_HEADER", config.responsePacketMagicHeader),
      ("$UNDERLOAD_PACKET_MAGIC_HEADER", config.underloadPacketMagicHeader),
      ("$TRANSPORT_PACKET_MAGIC_HEADER", config.transportPacketMagicHeader),
      ("$COOKIE_REPLY_PACKET_JUNK_SIZE", config.cookieReplyPacketJunkSize),
      ("$TRANSPORT_PACKET_JUNK_SIZE", config.transportPacketJunkSize),
      ("$SPECIAL_JUNK_1", config.specialJunk1),
      ("$SPECIAL_JUNK_2", config.specialJunk2),
      ("$SPECIAL_JUNK_3", config.specialJunk3),
      ("$SPECIAL_JUNK_4", config.specialJunk4),
      ("$SPECIAL_JUNK_5", config.specialJunk5)]
  | _ => []

def genSftpVars : ProtocolConfig → ScriptVars
  | .sftp config =>
    [("$SFTP_PORT", orDefault config.port "222"), ("$SFTP_USER", config.userName),
      ("$SFTP_PASSWORD", config.password)]
  | _ => []

def genSocks5ProxyVars : ProtocolConfig → ScriptVars
  | .socks5Proxy config =>
    let socks5user :=
      if config.userName ≠ "" && config.password ≠ "" then
        "users " ++ config.userName ++ ":CL:" ++ config.password
      else ""
    [("$SOCKS5_PROXY_PORT", orDefault config.port "38080"), ("$SOCKS5_USER", socks5user),
      ("$SOCKS5_AUTH_TYPE", if socks5user = "" then "none" else "strong")]
  | _ => []

def flag (value : Bool) : String := if value then "1" else "0"

def tomlBool (value : Bool) : String := if value then "true" else "false"

def joinedSecrets (secrets : List String) : String := ",".intercalate (secrets.filter (· ≠ ""))

def genMtProxyVars : ProtocolConfig → ScriptVars
  | .mtProxy c =>
    let transportMode := orDefault c.transportMode "standard"
    let workers :=
      if orDefault c.workersMode "auto" = "manual" then orDefault c.workers "2"
      else if transportMode = "faketls" then "0" else "2"
    [("$MTPROXY_PORT", orDefault c.port "443"), ("$MTPROXY_SECRET", c.secret),
      ("$MTPROXY_REGENERATE_SECRET", flag (c.secret = "")), ("$MTPROXY_TAG", c.tag),
      ("$MTPROXY_TRANSPORT_MODE", transportMode),
      ("$MTPROXY_TLS_DOMAIN", orDefault c.tlsDomain "googletagmanager.com"),
      ("$MTPROXY_PUBLIC_HOST", c.publicHost),
      ("$MTPROXY_ADDITIONAL_SECRETS", joinedSecrets c.additionalSecrets),
      ("$MTPROXY_WORKERS", workers), ("$MTPROXY_NAT_ENABLED", flag c.natEnabled),
      ("$MTPROXY_NAT_INTERNAL_IP", c.natInternalIp),
      ("$MTPROXY_NAT_EXTERNAL_IP", c.natExternalIp)]
  | _ => []

def genTelemtVars : ProtocolConfig → ScriptVars
  | .telemt c =>
    let faketls := decide (orDefault c.transportMode "standard" = "faketls")
    [("$TELEMT_TOML_SECURE", tomlBool !faketls), ("$TELEMT_TOML_TLS", tomlBool faketls),
      ("$TELEMT_PORT", orDefault c.port "443"), ("$TELEMT_SECRET", c.secret),
      ("$TELEMT_REGENERATE_SECRET", flag (c.secret = "")), ("$TELEMT_TAG", c.tag),
      ("$TELEMT_TLS_DOMAIN", orDefault c.tlsDomain "googletagmanager.com"),
      ("$TELEMT_PUBLIC_HOST", c.publicHost),
      ("$TELEMT_USER_NAME", orDefault c.userName "amnezia"),
      ("$TELEMT_USE_MIDDLE_PROXY", tomlBool c.useMiddleProxy),
      ("$TELEMT_MASK", tomlBool c.maskEnabled),
      ("$TELEMT_TLS_EMULATION", tomlBool c.tlsEmulation),
      ("$TELEMT_ADDITIONAL_SECRETS", joinedSecrets c.additionalSecrets)]
  | _ => []

def genProtocolVarsForContainer (container : DockerContainer) (config : ProtocolConfig) :
    ScriptVars :=
  match defaultProtocol container with
  | .openVpn => genOpenVpnVars config
  | .xray => genXrayVars config
  | .wireGuard => genWireGuardVars config
  | .awg => genAwgVars config
  | .sftp => genSftpVars config
  | .socks5Proxy => genSocks5ProxyVars config
  | .mtProxy => genMtProxyVars config
  | .telemt => genTelemtVars config
  | _ => []

def WireGuardServerConfig.hasEqualServerSettings (config other : WireGuardServerConfig) : Bool :=
  config.subnetAddress = other.subnetAddress && config.port = other.port

def sortedSecrets (secrets : List String) : List String :=
  (secrets.filter (· ≠ "")).mergeSort (fun secret other => decide (secret ≤ other))

def MtProxyProtocolConfig.equalsDockerDeploymentSettings (config other : MtProxyProtocolConfig) :
    Bool :=
  orDefault config.port "443" = orDefault other.port "443" &&
    orDefault config.transportMode "standard" = orDefault other.transportMode "standard" &&
    config.tlsDomain = other.tlsDomain && config.secret = other.secret && config.tag = other.tag &&
    config.publicHost = other.publicHost &&
    orDefault config.workersMode "auto" = orDefault other.workersMode "auto" &&
    config.workers = other.workers && config.natEnabled = other.natEnabled &&
    config.natInternalIp = other.natInternalIp && config.natExternalIp = other.natExternalIp &&
    config.isEnabled = other.isEnabled &&
    sortedSecrets config.additionalSecrets = sortedSecrets other.additionalSecrets

def TelemtProtocolConfig.equalsDockerDeploymentSettings (config other : TelemtProtocolConfig) :
    Bool :=
  orDefault config.port "443" = orDefault other.port "443" &&
    orDefault config.transportMode "standard" = orDefault other.transportMode "standard" &&
    config.tlsDomain = other.tlsDomain && config.secret = other.secret && config.tag = other.tag &&
    config.publicHost = other.publicHost && config.maskEnabled = other.maskEnabled &&
    config.tlsEmulation = other.tlsEmulation && config.useMiddleProxy = other.useMiddleProxy &&
    config.userName = other.userName &&
    orDefault config.workersMode "auto" = orDefault other.workersMode "auto" &&
    config.workers = other.workers && config.natEnabled = other.natEnabled &&
    config.natInternalIp = other.natInternalIp && config.natExternalIp = other.natExternalIp &&
    config.isEnabled = other.isEnabled &&
    sortedSecrets config.additionalSecrets = sortedSecrets other.additionalSecrets

def isUpdateDockerContainerRequired (container : DockerContainer)
    (oldConfig newConfig : ProtocolConfig) : Bool :=
  if isAwgContainer container then
    match oldConfig, newConfig with
    | .awg old, .awg new => !old.hasEqualServerSettings new
    | _, _ => true
  else if container = .wireGuard then
    match oldConfig, newConfig with
    | .wireGuard old, .wireGuard new => !old.hasEqualServerSettings new
    | _, _ => true
  else if container = .mtProxy then
    match oldConfig, newConfig with
    | .mtProxy old, .mtProxy new => !old.equalsDockerDeploymentSettings new
    | _, _ => true
  else if container = .telemt then
    match oldConfig, newConfig with
    | .telemt old, .telemt new => !old.equalsDockerDeploymentSettings new
    | _, _ => true
  else true

/-- An update is skipped for configs of the container's own protocol that count as equal. -/
lemma skipped_cases {container : DockerContainer} {oldConfig newConfig : ProtocolConfig}
    (skipped : isUpdateDockerContainerRequired container oldConfig newConfig = false) :
    (∃ old new, defaultProtocol container = .awg ∧ oldConfig = .awg old ∧ newConfig = .awg new ∧
      old.hasEqualServerSettings new = true) ∨
    (∃ old new, defaultProtocol container = .wireGuard ∧ oldConfig = .wireGuard old ∧
      newConfig = .wireGuard new ∧ old.hasEqualServerSettings new = true) ∨
    (∃ old new, defaultProtocol container = .mtProxy ∧ oldConfig = .mtProxy old ∧
      newConfig = .mtProxy new ∧ old.equalsDockerDeploymentSettings new = true) ∨
    (∃ old new, defaultProtocol container = .telemt ∧ oldConfig = .telemt old ∧
      newConfig = .telemt new ∧ old.equalsDockerDeploymentSettings new = true) := by
  unfold isUpdateDockerContainerRequired at skipped
  split_ifs at skipped with awg wireGuard mtProxy telemt
  · split at skipped
    case h_1 old new =>
      left
      have protocol : defaultProtocol container = .awg := by
        cases container <;> simp_all [isAwgContainer] <;> rfl
      exact ⟨old, new, protocol, rfl, rfl, by simpa using skipped⟩
    case h_2 => cases skipped
  · split at skipped
    case h_1 old new =>
      right; left
      exact ⟨old, new, by rw [wireGuard]; rfl, rfl, rfl, by simpa using skipped⟩
    case h_2 => cases skipped
  · split at skipped
    case h_1 old new =>
      right; right; left
      exact ⟨old, new, by rw [mtProxy]; rfl, rfl, rfl, by simpa using skipped⟩
    case h_2 => cases skipped
  · split at skipped
    case h_1 old new =>
      right; right; right
      exact ⟨old, new, by rw [telemt]; rfl, rfl, rfl, by simpa using skipped⟩
    case h_2 => cases skipped

def additionalSecrets : ProtocolConfig → List String
  | .mtProxy config => config.additionalSecrets
  | .telemt config => config.additionalSecrets
  | _ => []

def withSecrets (secrets : List String) : ProtocolConfig → ProtocolConfig
  | .mtProxy config => .mtProxy { config with additionalSecrets := secrets }
  | .telemt config => .telemt { config with additionalSecrets := secrets }
  | config => config

def SameVars (container : DockerContainer) (oldConfig newConfig : ProtocolConfig) : Prop :=
  ∃ order : List String, order.Perm (additionalSecrets newConfig) ∧
    genProtocolVarsForContainer container oldConfig =
      genProtocolVarsForContainer container (withSecrets order newConfig)

/-- What the comparison of the settings does not look at. -/
def Covered : ProtocolConfig → ProtocolConfig → Prop
  | .awg old, .awg new =>
    orDefault old.subnetCidr "24" = orDefault new.subnetCidr "24" ∧
      (old.protocolVersion ≠ "2" →
        old.cookieReplyPacketJunkSize = new.cookieReplyPacketJunkSize ∧
          old.transportPacketJunkSize = new.transportPacketJunkSize)
  | .wireGuard old, .wireGuard new => orDefault old.subnetCidr "24" = orDefault new.subnetCidr "24"
  | _, _ => True

lemma sameVars_of_no_secrets {container : DockerContainer} {oldConfig newConfig : ProtocolConfig}
    (none : additionalSecrets newConfig = [])
    (kept : ∀ order, withSecrets order newConfig = newConfig) :
    SameVars container oldConfig newConfig ↔
      genProtocolVarsForContainer container oldConfig =
        genProtocolVarsForContainer container newConfig := by
  constructor
  · rintro ⟨order, _, same⟩
    rw [same, kept]
  · intro same
    exact ⟨[], by rw [none], by rw [same, kept]⟩

lemma wireGuardVars_iff {old new : WireGuardServerConfig}
    (equal : old.hasEqualServerSettings new = true) :
    genWireGuardVars (.wireGuard old) = genWireGuardVars (.wireGuard new) ↔
      Covered (.wireGuard old) (.wireGuard new) := by
  obtain ⟨address, port⟩ : old.subnetAddress = new.subnetAddress ∧ old.port = new.port := by
    simpa [WireGuardServerConfig.hasEqualServerSettings] using equal
  simp [genWireGuardVars, Covered, address, port]

lemma awgVars_iff {old new : AwgProtocolConfig.ServerConfig}
    (equal : old.hasEqualServerSettings new = true) :
    genAwgVars (.awg old) = genAwgVars (.awg new) ↔ Covered (.awg old) (.awg new) := by
  have sizes := AwgProtocolConfig.ServerConfig.equal_sizes equal
  simp only [AwgProtocolConfig.ServerConfig.hasEqualServerSettings, Bool.and_eq_true,
    decide_eq_true_eq] at equal
  simp only [genAwgVars, equal, List.cons.injEq, Prod.mk.injEq, true_and, and_true]
  constructor
  · rintro ⟨cidr, cookie, transport⟩
    exact ⟨cidr, fun _ => ⟨cookie, transport⟩⟩
  · rintro ⟨cidr, others⟩
    by_cases version : old.protocolVersion = "2"
    · exact ⟨cidr, sizes version⟩
    · exact ⟨cidr, others version⟩

/-- Secrets that are equal once sorted can be put in the old order. -/
lemma secrets_perm {old new : List String} (equal : sortedSecrets old = sortedSecrets new) :
    ∃ order : List String, order.Perm new ∧ joinedSecrets old = joinedSecrets order := by
  have given : (old.filter (· ≠ "")).Perm (new.filter (· ≠ "")) :=
    calc (old.filter (· ≠ "")).Perm (sortedSecrets old) := (List.mergeSort_perm _ _).symm
      List.Perm _ (sortedSecrets new) := by rw [equal]
      List.Perm _ (new.filter (· ≠ "")) := List.mergeSort_perm _ _
  -- the empty secrets go to the end, where the script does not see them
  refine ⟨old.filter (· ≠ "") ++ new.filter (fun secret => !decide (secret ≠ "")), ?_, ?_⟩
  · exact (given.append_right _).trans (List.filter_append_perm _ _)
  · simp [joinedSecrets]

lemma mtProxyVars_same {old new : MtProxyProtocolConfig}
    (equal : old.equalsDockerDeploymentSettings new = true) :
    ∃ order : List String, order.Perm new.additionalSecrets ∧
      genMtProxyVars (.mtProxy old) =
        genMtProxyVars (.mtProxy { new with additionalSecrets := order }) := by
  simp only [MtProxyProtocolConfig.equalsDockerDeploymentSettings, Bool.and_eq_true,
    decide_eq_true_eq] at equal
  obtain ⟨order, perm, joined⟩ := secrets_perm equal.2
  refine ⟨order, perm, ?_⟩
  simp [genMtProxyVars, equal, joined]

lemma telemtVars_same {old new : TelemtProtocolConfig}
    (equal : old.equalsDockerDeploymentSettings new = true) :
    ∃ order : List String, order.Perm new.additionalSecrets ∧
      genTelemtVars (.telemt old) =
        genTelemtVars (.telemt { new with additionalSecrets := order }) := by
  simp only [TelemtProtocolConfig.equalsDockerDeploymentSettings, Bool.and_eq_true,
    decide_eq_true_eq] at equal
  obtain ⟨order, perm, joined⟩ := secrets_perm equal.2
  refine ⟨order, perm, ?_⟩
  simp [genTelemtVars, equal, joined]

/-- A skipped update leaves the server with the variables of the saved config, but for the size
of the subnet and, before the second version of the protocol, two sizes of AmneziaWG. -/
theorem skipped_update_iff (container : DockerContainer) (oldConfig newConfig : ProtocolConfig)
    (skipped : isUpdateDockerContainerRequired container oldConfig newConfig = false) :
    SameVars container oldConfig newConfig ↔ Covered oldConfig newConfig := by
  obtain ⟨old, new, protocol, rfl, rfl, equal⟩ | ⟨old, new, protocol, rfl, rfl, equal⟩ |
    ⟨old, new, protocol, rfl, rfl, equal⟩ | ⟨old, new, protocol, rfl, rfl, equal⟩ :=
    skipped_cases skipped
  · rw [sameVars_of_no_secrets rfl (fun _ => rfl)]
    simp only [genProtocolVarsForContainer, protocol]
    exact awgVars_iff equal
  · rw [sameVars_of_no_secrets rfl (fun _ => rfl)]
    simp only [genProtocolVarsForContainer, protocol]
    exact wireGuardVars_iff equal
  · simp only [SameVars, genProtocolVarsForContainer, protocol, Covered, iff_true]
    exact mtProxyVars_same equal
  · simp only [SameVars, genProtocolVarsForContainer, protocol, Covered, iff_true]
    exact telemtVars_same equal

def proxyWith (additionalSecrets : List String) : MtProxyProtocolConfig where
  port := "8443"
  secret := "00112233445566778899aabbccddeeff"
  tag := "tag"
  isEnabled := true
  publicHost := "proxy.example.net"
  transportMode := "faketls"
  tlsDomain := "www.example.org"
  additionalSecrets := additionalSecrets
  workersMode := "manual"
  workers := "4"
  natEnabled := true
  natInternalIp := "10.0.0.5"
  natExternalIp := "203.0.113.5"

lemma sortedSecrets_perm {old new : List String}
    (given : (old.filter (· ≠ "")).Perm (new.filter (· ≠ ""))) :
    sortedSecrets old = sortedSecrets new := by
  have sorted (secrets : List String) : (sortedSecrets secrets).Pairwise (· ≤ ·) := by
    have pairs := @List.pairwise_mergeSort String (fun secret other => decide (secret ≤ other))
      (by simpa using fun _ _ _ => String.le_trans) (by simpa using String.le_total)
      (secrets.filter (· ≠ ""))
    simpa [sortedSecrets] using pairs
  have perm : (sortedSecrets old).Perm (sortedSecrets new) :=
    ((List.mergeSort_perm _ _).trans given).trans (List.mergeSort_perm _ _).symm
  exact perm.eq_of_pairwise (fun _ _ _ _ => String.le_antisymm) (sorted old) (sorted new)

/-- A subnet that is written out, and secrets in another order. -/
theorem written_subnet_same :
    SameVars .wireGuard (.wireGuard { port := "51820", subnetAddress := "10.9.0.0" })
        (.wireGuard { port := "51820", subnetAddress := "10.9.0.0", subnetCidr := "24" }) ∧
      SameVars .mtProxy (.mtProxy (proxyWith ["aa", "bb"])) (.mtProxy (proxyWith ["bb", "", "aa"])) :=
  ⟨(skipped_update_iff .wireGuard _ _ (by decide)).mpr rfl,
    (skipped_update_iff .mtProxy _ _ (by
      have secrets : sortedSecrets ["aa", "bb"] = sortedSecrets ["bb", "", "aa"] :=
        sortedSecrets_perm (by decide)
      simp [isUpdateDockerContainerRequired, isAwgContainer,
        MtProxyProtocolConfig.equalsDockerDeploymentSettings, proxyWith, secrets])).mpr trivial⟩

/-- A smaller subnet is saved and the server keeps the old one. -/
theorem smaller_subnet_skipped :
    let old : ProtocolConfig := .wireGuard {}
    let new : ProtocolConfig := .wireGuard { subnetCidr := "28" }
    isUpdateDockerContainerRequired .wireGuard old new = false ∧ ¬SameVars .wireGuard old new := by
  constructor
  · decide
  · rw [sameVars_of_no_secrets rfl (fun _ => rfl)]
    decide

end AbstractumVpn.ScriptsRegistry
