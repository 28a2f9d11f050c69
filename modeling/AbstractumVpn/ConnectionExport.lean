import AbstractumVpn.AdminServerConfig
import AbstractumVpn.JsonFields
import AbstractumVpn.QrSeries

/-!
`ExportController::generateConnectionConfig`: the link by which a server is
shared, without the credentials of the administrator. Who imports it gets a
server of which nothing can be changed.
-/

namespace AbstractumVpn.ExportController

open AdminServerConfig ContainerUtils ImportController Json QrImport QrSeries
open SiteRoutes (DockerContainer)

variable {Protocol : Type}

/-! ## Export -/

inductive ErrorCode where
  | noError
  | internalError
  | configurator (code : Nat)
  deriving DecidableEq

structure DnsSettings where
  primaryDns : String
  secondaryDns : String

/-- What the export asks of the other parts of the application: the settings, the empty config
of a container that is missing, and the configurator of a protocol. -/
structure Services (Protocol : Type) where
  qt : Qt
  useAmneziaDns : Bool
  dnsSettings : DnsSettings
  emptyConfig : ContainerConfig Protocol
  createConfig : ServerCredentials → DockerContainer → ContainerConfig Protocol → DnsSettings →
    Except ErrorCode Protocol
  clientId : Protocol → String

structure ExportResult where
  errorCode : ErrorCode := .noError
  config : String := ""
  qrCodes : List String := []

structure ClientRequest where
  clientId : String
  clientName : String
  container : DockerContainer

def containerConfig (services : Services Protocol) (adminConfig : Config Protocol)
    (container : DockerContainer) : ContainerConfig Protocol :=
  (adminConfig.containers container).getD services.emptyConfig

def sharedContainer (services : Services Protocol) (adminConfig : Config Protocol)
    (container : DockerContainer) : Except ErrorCode (ContainerConfig Protocol) :=
  let held := containerConfig services adminConfig container
  if containerService container ≠ .other then
    (services.createConfig adminConfig.credentials container held services.dnsSettings).map
      fun created => { held with protocolConfig := created }
  else .ok held

def clientRequest (services : Services Protocol) (container : DockerContainer) (clientName : String)
    (shared : ContainerConfig Protocol) : Option ClientRequest :=
  if containerService container ≠ .other && services.clientId shared.protocolConfig ≠ "" then
    some ⟨services.clientId shared.protocolConfig, clientName, container⟩
  else none

def dnsPair (services : Services Protocol) (adminConfig : Config Protocol) : String × String :=
  adminConfig.getDnsPair services.qt services.useAmneziaDns services.dnsSettings.primaryDns
    services.dnsSettings.secondaryDns

def connectionConfig (services : Services Protocol) (adminConfig : Config Protocol)
    (container : DockerContainer) (shared : ContainerConfig Protocol) : Config Protocol :=
  { adminConfig with
    containers := ContainerMap.insert (fun _ => none) container shared
    defaultContainer := container
    userName := ""
    password := ""
    port := 0
    dns1 := (dnsPair services adminConfig).1
    dns2 := (dnsPair services adminConfig).2 }

section Export

variable (codec : Codec) (packing : Packing codec) (imaging : Imaging)
  (protocols : ProtocolJson Protocol) (services : Services Protocol)

def jsonText (config : Config Protocol) : String := codec.toJson (.object (config.toJson protocols))

def generateVpnUrl (compressedConfig : Bytes) : String :=
  "vpn://" ++ packing.toBase64 compressedConfig

def exportConfig (config : Config Protocol) : ExportResult :=
  let compressedConfig := packing.qCompress (codec.toUtf8 (jsonText codec protocols config))
  { config := generateVpnUrl codec packing compressedConfig
    qrCodes := generateQrCodeImageSeries packing imaging compressedConfig }

def generateConnectionConfig (adminConfig : Option (Config Protocol)) (container : DockerContainer)
    (clientName : String) : ExportResult × Option ClientRequest :=
  match adminConfig with
  | none => ({ errorCode := .internalError }, none)
  | some adminConfig =>
    if !adminConfig.credentials.isValid then ({ errorCode := .internalError }, none)
    else
      match sharedContainer services adminConfig container with
      | .error errorCode => ({ errorCode }, none)
      | .ok shared =>
        (exportConfig codec packing imaging protocols
          (connectionConfig services adminConfig container shared),
          clientRequest services container clientName shared)

end Export

/-! ## Two administrators -/

def SameServer (adminConfig other : Config Protocol) : Prop :=
  other = { adminConfig with
    userName := other.userName, password := other.password, port := other.port }

section Administrators

variable {services : Services Protocol} {adminConfig other : Config Protocol}
  {container : DockerContainer}

lemma connectionConfig_same (same : SameServer adminConfig other)
    (shared : ContainerConfig Protocol) :
    connectionConfig services adminConfig container shared =
      connectionConfig services other container shared := by
  rw [same]
  rfl

def SameClient (services : Services Protocol) (adminConfig other : Config Protocol)
    (container : DockerContainer) : Prop :=
  services.createConfig adminConfig.credentials container
      (containerConfig services adminConfig container) services.dnsSettings =
    services.createConfig other.credentials container
      (containerConfig services other container) services.dnsSettings

lemma sharedContainer_same (same : SameServer adminConfig other)
    (client : SameClient services adminConfig other container) :
    sharedContainer services adminConfig container = sharedContainer services other container := by
  have held : containerConfig services adminConfig container =
      containerConfig services other container := by
    rw [same]
    rfl
  rw [sharedContainer, sharedContainer, client, held]

lemma connection_same (codec : Codec) (packing : Packing codec) (imaging : Imaging)
    (protocols : ProtocolJson Protocol) (same : SameServer adminConfig other)
    (client : SameClient services adminConfig other container)
    (valid : adminConfig.credentials.isValid = true) (otherValid : other.credentials.isValid = true)
    (clientName : String) :
    generateConnectionConfig codec packing imaging protocols services (some adminConfig) container
        clientName =
      generateConnectionConfig codec packing imaging protocols services (some other) container
        clientName := by
  simp [generateConnectionConfig, valid, otherValid, sharedContainer_same same client,
    connectionConfig_same same]

end Administrators

/-! ## What is written -/

lemma single_keys {Config : Type} (container : DockerContainer) (config : Config) :
    (ContainerMap.insert (fun _ => none) container config).keys = [container] := by
  cases container <;> rfl

def textField (text : String) : Option Value := if text ≠ "" then some (.string text) else none

section Written

variable (protocols : ProtocolJson Protocol)

def configFields (config : Config Protocol) : Fields :=
  [("containers", if config.containersArray protocols ≠ [] then
      some (.array (config.containersArray protocols)) else none),
    ("defaultContainer", if config.defaultContainer ≠ .none then
      some (.string (containerToString config.defaultContainer)) else none),
    ("description", textField config.description), ("dns1", textField config.dns1),
    ("dns2", textField config.dns2), ("hostName", textField config.hostName),
    ("password", textField config.password),
    ("port", if config.port > 0 then some (.double config.port) else none),
    ("userName", textField config.userName)]

lemma toJson_fields (config : Config Protocol) :
    config.toJson protocols = ofFields (configFields protocols config) := by
  have piece (key : String) (present : Prop) [Decidable present] (value : Value) :
      (if present then [(key, value)] else []) =
        ofFields [(key, if present then some value else none)] := by
    split <;> rfl
  have text (key held : String) : textEntry key held = ofFields [(key, textField held)] :=
    piece key _ (.string held)
  rw [Config.toJson]
  simp only [piece, text]
  simp only [ofFields, AssocList.present, ← List.filterMap_append]
  rfl

lemma value_toJson (config : Config Protocol) (key : String) :
    Object.value (config.toJson protocols) key =
      (((configFields protocols config).lookup key).join).getD .undefined := by
  have distinct : ((configFields protocols config).map Prod.fst).Nodup := by
    change ["containers", "defaultContainer", "description", "dns1", "dns2", "hostName", "password",
      "port", "userName"].Nodup
    decide
  rw [toJson_fields, value_ofFields distinct]

lemma text_toJson {config : Config Protocol} {key text : String}
    (held : (configFields protocols config).lookup key = some (textField text)) :
    (Object.value (config.toJson protocols) key).toString = text := by
  rw [value_toJson, held, Option.join_some, textField]
  split
  · rfl
  · rename_i empty
    exact (not_not.mp empty).symm

section Connection

variable (services : Services Protocol) (adminConfig : Config Protocol)
  (container : DockerContainer) (shared : ContainerConfig Protocol)

def connectionJson : Object :=
  (connectionConfig services adminConfig container shared).toJson protocols

lemma connection_containers :
    Object.value (connectionJson protocols services adminConfig container shared) "containers" =
      .array [.object (shared.toJson protocols)] := by
  have array : (connectionConfig services adminConfig container shared).containersArray protocols =
      [.object (shared.toJson protocols)] := by
    rw [Config.containersArray, connectionConfig, single_keys]
    simp [ContainerMap.insert]
  rw [connectionJson, value_toJson, configFields, array]
  rfl

lemma connection_defaultContainer :
    containerFromString (Object.value
      (connectionJson protocols services adminConfig container shared)
      "defaultContainer").toString = container := by
  rw [connectionJson, value_toJson]
  change containerFromString ((if container ≠ .none then
    some (Value.string (containerToString container)) else none).getD .undefined).toString =
      container
  split
  · exact containerFromString_toString container
  · rename_i none
    exact (not_not.mp none).symm

lemma connection_hostName :
    (Object.value (connectionJson protocols services adminConfig container shared)
      "hostName").toString = adminConfig.hostName := by
  exact text_toJson protocols rfl

lemma connection_dns1 :
    (Object.value (connectionJson protocols services adminConfig container shared)
      "dns1").toString = (dnsPair services adminConfig).1 := by
  exact text_toJson protocols rfl

lemma connection_dns2 :
    (Object.value (connectionJson protocols services adminConfig container shared)
      "dns2").toString = (dnsPair services adminConfig).2 := by
  exact text_toJson protocols rfl

lemma connection_userName :
    Object.value (connectionJson protocols services adminConfig container shared) "userName" =
      .undefined := by
  rw [connectionJson, value_toJson]
  rfl

lemma connection_configVersion :
    Object.value (connectionJson protocols services adminConfig container shared)
      "config_version" = .undefined := by
  rw [connectionJson, value_toJson]
  rfl

end Connection

end Written

/-! ## Import -/

structure UserConfig (Protocol : Type) where
  description : String
  hostName : String
  containers : ContainerMap (ContainerConfig Protocol)
  defaultContainer : DockerContainer
  dns1 : String
  dns2 : String

def UserConfig.fromJson (protocols : ProtocolJson Protocol) (json : Object) :
    UserConfig Protocol where
  description := (json.value "description").toString
  hostName := (json.value "hostName").toString
  containers := readContainers protocols (json.value "containers").toArray
  defaultContainer := containerFromString (json.value "defaultContainer").toString
  dns1 := (json.value "dns1").toString
  dns2 := (json.value "dns2").toString

section Import

variable (codec : Codec) (parts : Parts)

/-- A container as it was, but for the MTU that the import gives the clients of WireGuard. -/
def SameContainer (exported imported : Object) : Prop :=
  imported = exported ∨
    isWireguardContainer exported = true ∧ withDefaultMtu codec parts exported = some imported

/-- What the import of a link should give: a server of a user, with the shared container. -/
structure Shared (protocols : ProtocolJson Protocol) (services : Services Protocol)
    (adminConfig : Config Protocol) (container : DockerContainer)
    (shared : ContainerConfig Protocol) (result : ImportResult) : Prop where
  accepted : result.errorCode = .noError
  kind : ServersRepository.configTypeFromJson result.config = .selfHostedUser
  only : ∃ imported, Object.value result.config "containers" = .array [.object imported] ∧
    SameContainer codec parts (shared.toJson protocols) imported
  keys : (UserConfig.fromJson protocols result.config).containers.keys = [container]
  defaultContainer : (UserConfig.fromJson protocols result.config).defaultContainer = container
  hostName : (UserConfig.fromJson protocols result.config).hostName = adminConfig.hostName
  dns : ((UserConfig.fromJson protocols result.config).dns1,
    (UserConfig.fromJson protocols result.config).dns2) = dnsPair services adminConfig

/-- The import touches the only container of a config, or nothing. -/
lemma processed_cases {config exported : Object}
    (containers : Object.value config "containers" = .array [.object exported]) :
    processAmneziaConfig codec parts config = config ∨
      ∃ imported, SameContainer codec parts exported imported ∧
        processAmneziaConfig codec parts config =
          put config "containers" (.array [.object imported]) := by
  rw [processAmneziaConfig, containers, Value.toArray]
  by_cases wireguard : isWireguardContainer exported = true
  · cases changed : withDefaultMtu codec parts exported with
    | none =>
      simp [processContainers, Value.toObject, changed]
    | some imported =>
      right
      refine ⟨imported, Or.inr ⟨wireguard, changed⟩, ?_⟩
      simp [processContainers, Value.toObject, wireguard, changed]
  · simp [processContainers, Value.toObject, wireguard]

lemma withDefaultMtu_some {container imported : Object}
    (changed : withDefaultMtu codec parts container = some imported) :
    ∃ text, imported = put container
      (protocolString (containerFromString (container.value "container").toString))
      (.object (put (container.value (protocolString (containerFromString
        (container.value "container").toString))).toObject "last_config" (.string text))) := by
  rw [withDefaultMtu] at changed
  split at changed
  · cases changed
  · exact ⟨_, (Option.some.inj changed).symm⟩

lemma value_second (first held : Value) {name : String} (other : name ≠ "container") :
    Object.value [("container", first), (name, held)] name = held := by
  rw [Object.value, AssocList.lookup_cons_other _ _ other]
  simp

lemma put_second (first held value : Value) {name : String} (other : name ≠ "container") :
    put [("container", first), (name, held)] name value =
      [("container", first), (name, value)] := by
  have found : Object.contains [("container", first), (name, held)] name = true := by
    rw [Object.contains, AssocList.lookup_cons_other _ _ other]
    simp
  rw [put, if_pos found]
  simp [other.symm]

lemma protoToString_other (container : DockerContainer) :
    protoToString (defaultProtocol container) ≠ "container" := by
  cases container <;> decide

lemma protocolString_wireguard {container : DockerContainer}
    (wireguard : (SiteRoutes.isAwgContainer container || container = .wireGuard) = true) :
    protocolString container = protoToString (defaultProtocol container) := by
  cases container <;> first | rfl | cases wireguard

lemma imported_entries {protocols : ProtocolJson Protocol} {shared : ContainerConfig Protocol}
    {imported : Object} (same : SameContainer codec parts (shared.toJson protocols) imported) :
    ∃ protocolJson : Object,
      imported = [("container", .string (containerToString shared.container)),
        (protoToString (defaultProtocol shared.container), .object protocolJson)] ∧
      Object.value protocolJson "isThirdPartyConfig" =
        Object.value (protocols.toJson shared.protocolConfig) "isThirdPartyConfig" := by
  rcases same with rfl | ⟨wireguard, changed⟩
  · exact ⟨_, rfl, rfl⟩
  · have kind : containerFromString (Object.value (shared.toJson protocols) "container").toString =
        shared.container := containerFromString_toString shared.container
    rw [isWireguardContainer, kind] at wireguard
    obtain ⟨text, rfl⟩ := withDefaultMtu_some codec parts changed
    have other := protoToString_other shared.container
    rw [kind, protocolString_wireguard wireguard, ContainerConfig.toJson, put_second _ _ _ other,
      value_second _ _ other]
    refine ⟨_, rfl, ?_⟩
    -- the last config has a key of its own
    rw [value_put_other _ _ _ _ (by decide), Value.toObject]

section Result

variable {protocols : ProtocolJson Protocol} {services : Services Protocol}
  {adminConfig : Config Protocol} {container : DockerContainer} {shared : ContainerConfig Protocol}

lemma shared_of_fields {result : ImportResult} {imported : Object}
    (keyed : shared.container = container)
    (own : (Object.value (protocols.toJson shared.protocolConfig) "isThirdPartyConfig").toBool =
      false)
    (accepted : result.errorCode = .noError)
    (same : SameContainer codec parts (shared.toJson protocols) imported)
    (containers : Object.value result.config "containers" = .array [.object imported])
    (others : ∀ key, key ≠ "containers" → Object.value result.config key =
      Object.value (connectionJson protocols services adminConfig container shared) key) :
    Shared codec parts protocols services adminConfig container shared result := by
  obtain ⟨protocolJson, rfl, mark⟩ := imported_entries codec parts same
  constructor
  · exact accepted
  · have own_server : ServersRepository.isServerFromApi result.config = false := by
      rw [ServersRepository.isServerFromApi, others _ (by decide), connection_configVersion]
      rfl
    have own_configs : ServersRepository.hasThirdPartyConfig result.config = false := by
      rw [ServersRepository.hasThirdPartyConfig, containers]
      simp [Value.toArray, Value.toObject, mark, own]
    have no_admin : ServersRepository.hasCredentials result.config = false := by
      rw [ServersRepository.hasCredentials, others "userName" (by decide), connection_userName]
      rfl
    simp [ServersRepository.configTypeFromJson, own_server, own_configs, no_admin]
  · exact ⟨_, containers, same⟩
  · have read : (UserConfig.fromJson protocols result.config).containers =
        ContainerMap.insert (fun _ => none) container (ContainerConfig.fromJson protocols
          [("container", .string (containerToString shared.container)),
            (protoToString (defaultProtocol shared.container), .object protocolJson)]) := by
      rw [UserConfig.fromJson, containers]
      change ContainerMap.insert _ (containerFromString (containerToString shared.container)) _ = _
      rw [containerFromString_toString, keyed]
      rfl
    rw [read, single_keys]
  · change containerFromString (Object.value result.config "defaultContainer").toString = container
    rw [others "defaultContainer" (by decide), connection_defaultContainer]
  · change (Object.value result.config "hostName").toString = adminConfig.hostName
    rw [others "hostName" (by decide), connection_hostName]
  · change ((Object.value result.config "dns1").toString,
      (Object.value result.config "dns2").toString) = dnsPair services adminConfig
    rw [others "dns1" (by decide), others "dns2" (by decide), connection_dns1, connection_dns2]

lemma import_shared {json : String} (keyed : shared.container = container)
    (own : (Object.value (protocols.toJson shared.protocolConfig) "isThirdPartyConfig").toBool =
      false)
    (read : server codec json = connectionJson protocols services adminConfig container shared) :
    Shared codec parts protocols services adminConfig container shared
      (importAs codec parts .amnezia json "") := by
  have containers := connection_containers protocols services adminConfig container shared
  have own_server : ServersRepository.isServerFromApi
      (connectionJson protocols services adminConfig container shared) = false := by
    rw [ServersRepository.isServerFromApi, connection_configVersion]
    rfl
  have some_entry : connectionJson protocols services adminConfig container shared ≠ [] := by
    intro none
    rw [none] at containers
    cases containers
  have processed_some : processAmneziaConfig codec parts
      (connectionJson protocols services adminConfig container shared) ≠ [] :=
    (process_nil_iff _).not.mpr some_entry
  rw [import_amnezia_eq, read, if_neg (by simp [own_server]), if_pos processed_some]
  rcases processed_cases codec parts containers with kept | ⟨imported, same, changed⟩
  · apply shared_of_fields codec parts keyed own rfl (Or.inl rfl)
    · rw [kept]
      exact containers
    · intro key _
      rw [kept]
  · apply shared_of_fields codec parts keyed own rfl same
    · rw [changed, value_put_self]
    · intro key other
      rw [changed, value_put_other _ _ _ _ other]

/-! ## Links that are taken for a config -/

/-- The alphabet of URLs, and that a link is no JSON text. -/
structure UrlEncoding {codec : Codec} (packing : Packing codec) : Prop where
  letters : ∀ bytes, ∀ c ∈ (packing.toBase64 bytes).toList, c.isAlphanum = true ∨ c = '-' ∨ c = '_'
  no_json : ∀ bytes, codec.object (codec.toUtf8 ("vpn://" ++ packing.toBase64 bytes)) = []

structure Written (object : Object) : Prop where
  reads : codec.object (codec.toUtf8 (codec.toJson (.object object))) = object
  named : Object.contains object "containers" = true →
    contains (codec.toJson (.object object)) "containers" = true

variable {codec} {packing : Packing codec}

lemma link_letters (url : UrlEncoding packing) (bytes : Bytes) {mark : Char}
    (outside : mark ∉ "vpn://".toList)
    (other : ¬(mark.isAlphanum = true ∨ mark = '-' ∨ mark = '_')) :
    mark ∉ ("vpn://" ++ packing.toBase64 bytes).toList := by
  rw [String.toList_append, List.mem_append]
  rintro (scheme | letter)
  · exact outside scheme
  · exact other (url.letters bytes mark letter)

/-- The words of WireGuard and OpenVPN configs have characters that no link has. -/
lemma link_kinds (url : UrlEncoding packing) (bytes : Bytes) :
    let kind := checkConfigFormat ("vpn://" ++ packing.toBase64 bytes)
    kind = .backup ∨ kind = .amnezia ∨ kind = .xray ∨ kind = .invalid := by
  intro kind
  have section_mark : '[' ∉ ("vpn://" ++ packing.toBase64 bytes).toList :=
    link_letters url bytes (by decide) (by decide)
  have space : ' ' ∉ ("vpn://" ++ packing.toBase64 bytes).toList :=
    link_letters url bytes (by decide) (by decide)
  have interface := contains_false "[Interface]" (by decide) section_mark
  have tun := contains_false "dev tun" (by decide) space
  have tap := contains_false "dev tap" (by decide) space
  simp only [kind, checkConfigFormat, interface, tun, tap]
  split
  · exact Or.inl rfl
  · split
    · exact Or.inr (Or.inl rfl)
    · rw [Bool.false_and, if_neg (by decide)]
      split
      · exact Or.inr (Or.inr (Or.inl rfl))
      · simp

variable (codec) in
lemma xray_native (data : String) : ServersRepository.configTypeFromJson
    (extractXrayConfig codec parts data .xray "") = .native := rfl

/-- A link that is taken for a config of another kind is refused, or imported as a config of a
third party. -/
lemma not_shared (url : UrlEncoding packing) (bytes : Bytes)
    (taken : checkConfigFormat ("vpn://" ++ packing.toBase64 bytes) ≠ .invalid) :
    ¬Shared codec parts protocols services adminConfig container shared
      (importAs codec parts (checkConfigFormat ("vpn://" ++ packing.toBase64 bytes))
        ("vpn://" ++ packing.toBase64 bytes) "") := by
  intro good
  rcases link_kinds url bytes with kind | kind | kind | kind
  · rw [kind] at good
    cases good.accepted
  · rw [kind, import_amnezia_eq, server, url.no_json bytes] at good
    cases good.accepted
  · rw [kind] at good
    have native : ServersRepository.configTypeFromJson
        (extractXrayConfig codec parts ("vpn://" ++ packing.toBase64 bytes) .xray "") =
        .selfHostedUser := good.kind
    rw [xray_native] at native
    cases native
  · exact taken kind

/-- A text with the word for containers is one of an Amnezia config, or taken for a backup. -/
lemma named_kind {json : String} (named : contains json "containers" = true) :
    checkConfigFormat json = .backup ∨ checkConfigFormat json = .amnezia := by
  rw [checkConfigFormat]
  split
  · exact Or.inl rfl
  · simp [named]

/-- A link can be imported if and only if neither the link is taken for a config itself nor the
config in it for a backup. -/
lemma link_shared_iff (url : UrlEncoding packing) (keyed : shared.container = container)
    (own : (Object.value (protocols.toJson shared.protocolConfig) "isThirdPartyConfig").toBool =
      false)
    (written : Written codec (connectionJson protocols services adminConfig container shared)) :
    let json := jsonText codec protocols (connectionConfig services adminConfig container shared)
    Shared codec parts protocols services adminConfig container shared
        (extractConfigFromData codec parts (vpnText codec packing json) "") ↔
      checkConfigFormat (vpnText codec packing json) = .invalid ∧
        checkConfigFormat json ≠ .backup := by
  intro json
  have held : Object.contains (connectionJson protocols services adminConfig container shared)
      "containers" = true := by
    apply contains_of_value
    rw [connection_containers]
    exact nofun
  have named : contains json "containers" = true := written.named held
  have some_text : json ≠ "" := by
    intro none
    rw [none] at named
    exact absurd named (by decide)
  rw [packed_import packing some_text]
  by_cases plain : checkConfigFormat (vpnText codec packing json) = .invalid
  · rw [if_pos plain]
    rcases named_kind named with backup | amnezia
    · rw [backup]
      constructor
      · intro good
        cases good.accepted
      · rintro ⟨-, other⟩
        exact absurd rfl other
    · rw [amnezia]
      constructor
      · intro _
        exact ⟨plain, nofun⟩
      · intro _
        exact import_shared codec parts keyed own written.reads
  · rw [if_neg plain]
    constructor
    · intro good
      exact absurd good (not_shared parts url _ plain)
    · rintro ⟨invalid, -⟩
      exact absurd invalid plain

lemma sharedContainer_kind (keyed : Keyed adminConfig.containers)
    (installed : (adminConfig.containers container).isSome = true)
    (made : sharedContainer services adminConfig container = .ok shared) :
    shared.container = container := by
  obtain ⟨held, found⟩ := Option.isSome_iff_exists.mp installed
  have kind : (containerConfig services adminConfig container).container = container := by
    rw [containerConfig, found]
    exact keyed container held found
  rw [sharedContainer] at made
  split at made
  · cases result : services.createConfig adminConfig.credentials container
        (containerConfig services adminConfig container) services.dnsSettings with
    | error errorCode =>
      rw [result] at made
      cases made
    | ok created =>
      rw [result] at made
      cases made
      exact kind
  · cases made
    exact kind

end Result

end Import

/-- The link does not depend on the credentials of the administrator. It is imported as the
server of a user if and only if neither the link is taken for a config itself nor the config in
it for a backup. -/
theorem connection_link_iff (codec : Codec) (parts : Parts) (packing : Packing codec)
    (url : UrlEncoding packing) (imaging : Imaging) (protocols : ProtocolJson Protocol)
    (services : Services Protocol) (adminConfig other : Config Protocol)
    (same : SameServer adminConfig other) (valid : adminConfig.credentials.isValid = true)
    (otherValid : other.credentials.isValid = true) (container : DockerContainer)
    (keyed : Keyed adminConfig.containers)
    (installed : (adminConfig.containers container).isSome = true)
    (client : SameClient services adminConfig other container) (shared : ContainerConfig Protocol)
    (made : sharedContainer services adminConfig container = .ok shared)
    (own : (Object.value (protocols.toJson shared.protocolConfig) "isThirdPartyConfig").toBool =
      false)
    (written : Written codec (connectionJson protocols services adminConfig container shared))
    (clientName : String) :
    let result := generateConnectionConfig codec packing imaging protocols services
      (some adminConfig) container clientName
    result = generateConnectionConfig codec packing imaging protocols services (some other)
        container clientName ∧
      (Shared codec parts protocols services adminConfig container shared
          (extractConfigFromData codec parts result.1.config "") ↔
        checkConfigFormat result.1.config = .invalid ∧
          checkConfigFormat (jsonText codec protocols
            (connectionConfig services adminConfig container shared)) ≠ .backup) := by
  intro result
  have link : result.1.config = vpnText codec packing (jsonText codec protocols
      (connectionConfig services adminConfig container shared)) := by
    simp only [result, generateConnectionConfig, valid, made]
    rfl
  constructor
  · exact connection_same codec packing imaging protocols same client valid otherValid clientName
  · rw [link]
    exact link_shared_iff parts url (sharedContainer_kind keyed installed made) own written

/-! ## Two servers -/

def half (number : Nat) : Char := Char.ofNat (65 + number)

lemma half_toNat : ∀ number < 16, (half number).toNat = 65 + number := by decide

def halves (bytes : Bytes) : List Char :=
  bytes.flatMap fun byte => [half (byte.toNat / 16), half (byte.toNat % 16)]

def readHalves : List Char → Bytes
  | high :: low :: rest =>
    UInt8.ofNat ((high.toNat - 65) * 16 + (low.toNat - 65)) :: readHalves rest
  | _ => []

lemma read_halves (bytes : Bytes) : readHalves (halves bytes) = bytes := by
  induction bytes with
  | nil => rfl
  | cons byte rest ih =>
    have small := byte.toNat_lt
    have high := half_toNat (byte.toNat / 16) (by omega)
    have low := half_toNat (byte.toNat % 16) (by omega)
    change UInt8.ofNat (((half (byte.toNat / 16)).toNat - 65) * 16 +
      ((half (byte.toNat % 16)).toNat - 65)) :: readHalves (halves rest) = byte :: rest
    congr 1
    apply UInt8.toNat_inj.mp
    rw [UInt8.toNat_ofNat']
    omega

lemma half_letter : ∀ number < 16, (half number).isAlphanum = true := by decide

lemma halves_cases {bytes : Bytes} {c : Char} (letter : c ∈ halves bytes) :
    ∃ number < 16, c = half number := by
  obtain ⟨byte, -, letter⟩ := List.mem_flatMap.mp letter
  have small := byte.toNat_lt
  simp only [List.mem_cons, List.not_mem_nil, or_false] at letter
  rcases letter with high | low
  · exact ⟨byte.toNat / 16, by omega, high⟩
  · exact ⟨byte.toNat % 16, by omega, low⟩

lemma halves_letters {bytes : Bytes} {c : Char} (letter : c ∈ halves bytes) :
    65 ≤ c.toNat ∧ c.toNat ≤ 80 := by
  obtain ⟨number, small, rfl⟩ := halves_cases letter
  rw [half_toNat number small]
  omega

def linkCodec (json : String) (object : Object) : Codec :=
  { sampleCodec json object with
    fromBase64 := fun bytes => readHalves (readChars bytes)
    toJson := fun _ => json }

section Link

variable (json : String) (object : Object)

lemma link_utf8 (text : String) :
    (linkCodec json object).fromUtf8 ((linkCodec json object).toUtf8 text) = text :=
  (samplePacking json object).utf8 text

lemma link_empty : (linkCodec json object).toUtf8 "" = [] := rfl

lemma link_unpacks (bytes : Bytes) (_ : bytes ≠ []) :
    (linkCodec json object).qUncompress (1 :: bytes) = bytes := rfl

lemma link_decodes (bytes : Bytes) : (linkCodec json object).fromBase64
    ((linkCodec json object).toUtf8 (String.ofList (halves bytes))) = bytes := by
  change readHalves (readChars ((String.ofList (halves bytes)).toList.flatMap charBytes)) = bytes
  rw [read_chars, String.toList_ofList, read_halves]

lemma link_alphabet (bytes : Bytes) : ':' ∉ (String.ofList (halves bytes)).toList := by
  rw [String.toList_ofList]
  intro letter
  exact absurd (halves_letters letter).1 (by decide)

def linkPacking : Packing (linkCodec json object) where
  qCompress bytes := 1 :: bytes
  toBase64 bytes := String.ofList (halves bytes)
  utf8 := link_utf8 json object
  empty := link_empty json object
  unpacks := link_unpacks json object
  decodes := link_decodes json object
  alphabet := link_alphabet

end Link

lemma link_written {json : String} (object : Object)
    (named : contains json "containers" = true) : Written (linkCodec json object) object := by
  constructor
  · have parsed : (linkCodec json object).fromJson ((linkCodec json object).toUtf8 json) =
        some (.object object) := if_pos rfl
    change (linkCodec json object).object ((linkCodec json object).toUtf8 json) = object
    rw [Codec.object, parsed]
    rfl
  · intro _
    exact named

lemma linkPacking_url {json : String} (object : Object)
    (brace : json.toList.head? = some '\x7b') : UrlEncoding (linkPacking json object) := by
  constructor
  · intro bytes c letter
    obtain ⟨number, small, rfl⟩ := halves_cases (String.toList_ofList ▸ letter)
    exact Or.inl (half_letter number small)
  · intro bytes
    have none : (linkCodec json object).fromJson ((linkCodec json object).toUtf8
        ("vpn://" ++ (linkPacking json object).toBase64 bytes)) = none := by
      apply if_neg
      intro same
      have texts := congrArg readChars same
      change readChars (("vpn://" ++ _).toList.flatMap charBytes) = _ at texts
      rw [read_chars, read_chars] at texts
      rw [← texts, String.toList_append] at brace
      exact absurd brace (by simp)
    rw [Codec.object, none]
    rfl

lemma link_plain (json : String) (object : Object) (text : String) :
    checkConfigFormat (vpnText _ (linkPacking json object) text) = .invalid := by
  have absent {mark : Char} (scheme : mark ∉ "vpn://".toList) (high : 80 < mark.toNat) :
      mark ∉ (vpnText _ (linkPacking json object) text).toList := by
    rw [vpnText, String.toList_append, List.mem_append]
    rintro (inside | letter)
    · exact scheme inside
    · have small := (halves_letters (String.toList_ofList ▸ letter)).2
      omega
  exact format_invalid (absent (by decide) (by decide)) (absent (by decide) (by decide))
    (absent (by decide) (by decide))

def sampleLines (description : String) : List String :=
  ["\x7b\n", "    \"containers\": [\n", "        \x7b\n",
    "            \"container\": \"amnezia-openvpn\",\n", "            \"openvpn\": \x7b\n",
    "                \"last_config\": \"\x7b\x7d\"\n", "            \x7d\n", "        \x7d\n",
    "    ],\n", "    \"defaultContainer\": \"amnezia-openvpn\",\n", "    \"description\": \"",
    description, "\",\n", "    \"dns1\": \"1.1.1.1\",\n", "    \"dns2\": \"1.0.0.1\",\n",
    "    \"hostName\": \"203.0.113.7\"\n", "\x7d\n"]

def sampleText (description : String) : String := String.join (sampleLines description)

def sampleShared : ContainerConfig Object := ⟨.openVpn, [("last_config", .string "\x7b\x7d")]⟩

def sampleProtocols : ProtocolJson Object := ⟨id, fun json _ => json⟩

def sampleServices : Services Object where
  qt := ⟨fun _ => .null, fun _ => (.null, 0)⟩
  useAmneziaDns := false
  dnsSettings := ⟨"1.1.1.1", "1.0.0.1"⟩
  emptyConfig := ⟨.none, []⟩
  createConfig _ _ _ _ := .ok sampleShared.protocolConfig
  clientId _ := ""

def sampleAdmin (description userName : String) : Config Object where
  description := description
  hostName := "203.0.113.7"
  containers := ContainerMap.insert (fun _ => none) .openVpn ⟨.openVpn, []⟩
  defaultContainer := .openVpn
  dns1 := ""
  dns2 := ""
  userName := userName
  password := "secret"
  port := 22

def sampleJson (description : String) : Object :=
  connectionJson sampleProtocols sampleServices (sampleAdmin description "root") .openVpn
    sampleShared

lemma sample_keyed (description userName : String) :
    Keyed (sampleAdmin description userName).containers := by
  intro container config found
  change ContainerMap.insert (fun _ => none) .openVpn _ container = _ at found
  rw [ContainerMap.insert_apply] at found
  split at found
  · rename_i same
    rw [same, ← Option.some.inj found]
  · cases found

lemma sample_brace (description : String) :
    (sampleText description).toList.head? = some '\x7b' := by
  rw [sampleText, String.toList_join]
  rfl

def sampleConnection (description userName : String) : ExportResult × Option ClientRequest :=
  generateConnectionConfig _ (linkPacking (sampleText description) (sampleJson description))
    plainImaging sampleProtocols sampleServices (some (sampleAdmin description userName)) .openVpn
    "phone"

def sampleImport (description : String) : ImportResult :=
  extractConfigFromData (linkCodec (sampleText description) (sampleJson description)) sampleParts
    (sampleConnection description "root").1.config ""

theorem home_link_shared :
    sampleConnection "home" "root" = sampleConnection "home" "admin" ∧
      Shared (linkCodec (sampleText "home") (sampleJson "home")) sampleParts sampleProtocols
        sampleServices (sampleAdmin "home" "root") .openVpn sampleShared (sampleImport "home") := by
  have named : contains (sampleText "home") "containers" = true := by
    rw [contains, sampleText, String.toList_join]
    decide +kernel
  have no_backup : checkConfigFormat (sampleText "home") ≠ .backup := by
    simp only [checkConfigFormat, contains, sampleText, String.toList_join]
    decide +kernel
  obtain ⟨same, shared⟩ := connection_link_iff _ sampleParts _
    (linkPacking_url (sampleJson "home") (sample_brace "home")) plainImaging
    sampleProtocols sampleServices (sampleAdmin "home" "root") (sampleAdmin "home" "admin") rfl
    (by decide) (by decide) .openVpn (sample_keyed "home" "root") rfl rfl sampleShared rfl rfl
    (link_written _ named) "phone"
  exact ⟨same, shared.mpr ⟨link_plain _ _ _, no_backup⟩⟩

/-- A server with the name of a settings group is exported, and its link is refused. -/
theorem named_as_backup_refused :
    (sampleConnection "Servers/serversList" "root").1.errorCode = .noError ∧
      (sampleImport "Servers/serversList").errorCode = .importBackupFileUseRestoreInstead ∧
      ¬Shared (linkCodec (sampleText "Servers/serversList") (sampleJson "Servers/serversList"))
        sampleParts sampleProtocols sampleServices (sampleAdmin "Servers/serversList" "root")
        .openVpn sampleShared (sampleImport "Servers/serversList") := by
  have backup : checkConfigFormat (sampleText "Servers/serversList") = .backup := by
    simp only [checkConfigFormat, contains, sampleText, String.toList_join]
    decide +kernel
  have some_text : sampleText "Servers/serversList" ≠ "" := by
    intro none
    rw [none] at backup
    exact absurd backup (by decide)
  have refused : sampleImport "Servers/serversList" =
      { errorCode := .importBackupFileUseRestoreInstead, configType := .backup } := by
    change extractConfigFromData _ sampleParts (vpnText _ (linkPacking _ _) (sampleText _)) "" = _
    rw [packed_import _ some_text, if_pos (link_plain _ _ _), backup]
    rfl
  rw [refused]
  refine ⟨rfl, rfl, ?_⟩
  intro shared
  cases shared.accepted

end AbstractumVpn.ExportController
