import AbstractumVpn.ConnectionExport
import AbstractumVpn.ContainerProtocols
import AbstractumVpn.ServersConsistency

/-!
`InstallController::updateServerConfig`: the config of a container is changed.
If the settings of the server changed, the container is installed again, and
`clearCachedProfile` takes the profile of this device out of the stored config;
after that the config that was read before all of this is stored with the new
one in it.

What the server answers is given. Revoking the old profile can lead back to
`clearCachedProfile`; the clients at the server are not modelled.
-/

namespace AbstractumVpn.ContainerUpdate

open AdminServerConfig ContainerProtocols ContainerUtils ImportController Json ExportController
open ServersRepository (State Storage Consistent configTypeFromJson editServer embedStorageServerId hasCredentials
  hasThirdPartyConfig isServerFromApi storageServerId withoutStorageServerId)
open SiteRoutes (DockerContainer isAwgContainer)

/-! ## Settings that count as equal -/

def OpenVpn.hasEqualServerSettings (config other : OpenVpnServerConfig) : Bool :=
  config.subnetAddress = other.subnetAddress && config.port = other.port &&
    config.transportProto = other.transportProto && config.cipher = other.cipher &&
    config.hash = other.hash && config.ncpDisable = other.ncpDisable &&
    config.tlsAuth = other.tlsAuth &&
    config.additionalServerConfig = other.additionalServerConfig

def settings : ProtocolConfig → ScriptsRegistry.ProtocolConfig
  | .awg config => .awg config.serverConfig
  | .wireGuard config => .wireGuard config.serverConfig.toWireGuardServerConfig
  | .openVpn config => .openVpn config.serverConfig.toOpenVpnServerConfig
  | .xray config => .xray config.serverConfig.toConfig
  | .sftp config => .sftp config
  | .socks5Proxy config => .socks5Proxy config
  | .mtProxy config => .mtProxy config.toMtProxyProtocolConfig
  | .telemt config => .telemt config.toTelemtProtocolConfig
  | .ikev2 _ => .ikev2
  | .tor _ => .tor
  | .dns => .dns

def isReinstallContainerRequired (container : DockerContainer)
    (oldConfig newConfig : ProtocolConfig) : Bool :=
  if container = .openVpn then
    match oldConfig, newConfig with
    | .openVpn old, .openVpn new =>
      !OpenVpn.hasEqualServerSettings old.serverConfig new.serverConfig
    | _, _ => false
  else if isAwgContainer container then
    match oldConfig, newConfig with
    | .awg old, .awg new =>
      !old.serverConfig.hasEqualServerSettings new.serverConfig
    | _, _ => false
  else if container = .wireGuard then
    match oldConfig, newConfig with
    | .wireGuard old, .wireGuard new =>
      !old.serverConfig.toWireGuardServerConfig.hasEqualServerSettings
        new.serverConfig.toWireGuardServerConfig
    | _, _ => false
  else if container = .xray ∨ container = .ssXray then
    match oldConfig, newConfig with
    | .xray old, .xray new => !old.serverConfig.hasEqualServerSettings new.serverConfig
    | _, _ => false
  else if container = .mtProxy then
    match oldConfig, newConfig with
    | .mtProxy old, .mtProxy new =>
      XrayServerConfig.orDefault old.port "443" ≠ XrayServerConfig.orDefault new.port "443"
    | _, _ => false
  else if container = .telemt then
    match oldConfig, newConfig with
    | .telemt old, .telemt new =>
      XrayServerConfig.orDefault old.port "443" ≠ XrayServerConfig.orDefault new.port "443"
    | _, _ => false
  else container = .socks5Proxy

def isUpdateDockerContainerRequired (container : DockerContainer)
    (oldConfig newConfig : ProtocolConfig) : Bool :=
  ScriptsRegistry.isUpdateDockerContainerRequired container (settings oldConfig)
    (settings newConfig)

/-- A container is never installed again without its scripts being run again. -/
lemma reinstall_updates {container : DockerContainer} {oldConfig newConfig : ProtocolConfig}
    (required : isReinstallContainerRequired container oldConfig newConfig = true) :
    isUpdateDockerContainerRequired container oldConfig newConfig = true := by
  by_contra skipped
  rw [Bool.not_eq_true] at skipped
  rcases ScriptsRegistry.skipped_cases skipped with
    ⟨old, new, protocol, old_eq, new_eq, equal⟩ | ⟨old, new, protocol, old_eq, new_eq, equal⟩ |
    ⟨old, new, protocol, old_eq, new_eq, equal⟩ | ⟨old, new, protocol, old_eq, new_eq, equal⟩
  all_goals
    cases oldConfig <;> cases old_eq
    cases newConfig <;> cases new_eq
    cases container <;> cases protocol
  · simp [isReinstallContainerRequired, equal] at required
  · simp [isReinstallContainerRequired, equal] at required
  · simp [isReinstallContainerRequired, equal] at required
  · simp only [ScriptsRegistry.MtProxyProtocolConfig.equalsDockerDeploymentSettings,
      Bool.and_eq_true] at equal
    simp [isReinstallContainerRequired, equal] at required
  · simp only [ScriptsRegistry.TelemtProtocolConfig.equalsDockerDeploymentSettings,
      Bool.and_eq_true] at equal
    simp [isReinstallContainerRequired, equal] at required

/-! ## The repository -/

variable (codec : Codec)

def selfHostedAdminConfig (s : State) (serverId : String) : Option (Config ProtocolConfig) :=
  (s.serverJsonById serverId).bind fun json =>
    let strippedJson := withoutStorageServerId json
    if configTypeFromJson strippedJson ≠ .selfHostedAdmin then none
    else some (Config.fromJson (protocolJson codec) strippedJson)

def noContainerConfig : ContainerConfig ProtocolConfig := ⟨.none, .awg noAwgConfig⟩

def containerConfig (config : Config ProtocolConfig) (container : DockerContainer) :
    ContainerConfig ProtocolConfig :=
  (config.containers container).getD noContainerConfig

def updateContainerConfig (config : Config ProtocolConfig) (container : DockerContainer)
    (newConfig : ContainerConfig ProtocolConfig) : Config ProtocolConfig :=
  { config with containers := config.containers.insert container newConfig }

def clearCachedClientProfile (config : Config ProtocolConfig) (container : DockerContainer) :
    Config ProtocolConfig :=
  if containerService container = .other then config
  else
    let held := containerConfig config container
    updateContainerConfig config container
      { held with protocolConfig := held.protocolConfig.clearClientConfig }

def store (s : State) (serverId : String) (config : Config ProtocolConfig) : State :=
  editServer s serverId (config.toJson (protocolJson codec)) .selfHostedAdmin

def clearCachedProfile (serverId : String) (container : DockerContainer) (s : State) : State :=
  if containerService container = .other then s
  else
    match selfHostedAdminConfig codec s serverId with
    | none => s
    | some adminConfig =>
      store codec s serverId (clearCachedClientProfile adminConfig container)

/-! ## The update -/

inductive ErrorCode where
  | noError
  | internalError
  | server (code : Nat)
  deriving DecidableEq

/-- What the scripts do at the server: they end in an error, or the one that configures the
container has an output. -/
structure Remote where
  setupContainer : Except Nat String
  configureContainerWorker : Except Nat String
  startupContainerWorker : Except Nat Unit
  restart : Except Nat Unit
  /-- How often a revocation leads back to `clearCachedProfile`. -/
  revocations : Nat
  -- the first match of each expression in the output
  secret : String → Option String
  tgLink : String → Option String
  tmeLink : String → Option String

def updateContainerConfigAfterInstallation (remote : Remote) (container : DockerContainer)
    (config : ProtocolConfig) (stdOut : String) : ProtocolConfig :=
  match container, config with
  | .torWebSite, .tor _ => .tor (String.ofList (stdOut.toList.filter (· ≠ '\n')))
  | .mtProxy, .mtProxy mtProxy =>
    .mtProxy
      { mtProxy with
        secret := (remote.secret stdOut).getD mtProxy.secret
        tgLink := (remote.tgLink stdOut).getD mtProxy.tgLink
        tmeLink := (remote.tmeLink stdOut).getD mtProxy.tmeLink }
  | .telemt, .telemt telemt =>
    .telemt
      { telemt with
        secret := (remote.secret stdOut).getD telemt.secret
        tgLink := (remote.tgLink stdOut).getD telemt.tgLink
        tmeLink := (remote.tmeLink stdOut).getD telemt.tmeLink }
  | _, config => config

def configured (remote : Remote) (container : DockerContainer) (reinstallRequired : Bool)
    (newConfig : ContainerConfig ProtocolConfig) :
    Except Nat (ContainerConfig ProtocolConfig) := do
  let after (stdOut : String) : ContainerConfig ProtocolConfig :=
    { newConfig with
      protocolConfig := updateContainerConfigAfterInstallation remote container
        newConfig.protocolConfig stdOut }
  if reinstallRequired then
    return after (← remote.setupContainer)
  else
    let newConfig := after (← remote.configureContainerWorker)
    remote.startupContainerWorker
    if container = .mtProxy ∨ container = .telemt then
      remote.restart
    return newConfig

structure Updated where
  errorCode : ErrorCode
  repository : State
  newConfig : ContainerConfig ProtocolConfig

def updateServerConfig (remote : Remote) (s : State) (serverId : String)
    (container : DockerContainer) (oldConfig newConfig : ContainerConfig ProtocolConfig) :
    Updated :=
  match selfHostedAdminConfig codec s serverId with
  | none => ⟨.internalError, s, newConfig⟩
  | some adminConfig =>
    if !isUpdateDockerContainerRequired container oldConfig.protocolConfig
        newConfig.protocolConfig then
      ⟨.noError, store codec s serverId (updateContainerConfig adminConfig container newConfig),
        newConfig⟩
    else if !adminConfig.credentials.isValid then ⟨.internalError, s, newConfig⟩
    else
      let reinstallRequired := isReinstallContainerRequired container
        oldConfig.protocolConfig newConfig.protocolConfig
      match configured remote container reinstallRequired newConfig with
      | .error code => ⟨.server code, s, newConfig⟩
      | .ok newConfig =>
        let cleared :=
          if reinstallRequired then
            (clearCachedProfile codec serverId container)^[remote.revocations + 1] s
          else s
        ⟨.noError,
          store codec cleared serverId (updateContainerConfig adminConfig container newConfig),
          newConfig⟩

/-! ## Stored servers -/

lemma value_withoutStorageServerId (json : Object) {key : String}
    (other : key ≠ storageServerId) :
    Object.value (withoutStorageServerId json) key = json.value key := by
  rw [withoutStorageServerId, Object.remove, Object.value, AssocList.lookup_filter, if_neg other,
    Object.value]

structure Own (config : Config ProtocolConfig) : Prop where
  credentials : config.userName ≠ "" ∧ config.password ≠ "" ∧ 0 < config.port
  int : IsInt config.port
  unmarked : ∀ container held, config.containers container = some held →
    held.protocolConfig.isThirdPartyConfig = false

variable {json : Object} {s : State} (config : Config ProtocolConfig)

lemma item_unmarked (own : hasThirdPartyConfig json = false) {item : Value}
    (member : item ∈ (json.value "containers").toArray) {name : String} (other : name ≠ "container") :
    (Object.value (item.toObject.value name).toObject "isThirdPartyConfig").toBool = false := by
  cases found : item.toObject.lookup name with
  | none =>
    rw [Object.value, Object.value, found]
    rfl
  | some held =>
    obtain ⟨front, back, split, -⟩ := List.lookup_eq_some_iff.mp found
    have entry : (name, held) ∈ item.toObject := by simp [split]
    rw [hasThirdPartyConfig, List.any_eq_false] at own
    have entries := own item member
    rw [Bool.not_eq_true, List.any_eq_false] at entries
    have read : item.toObject.value name = held := by rw [Object.value, found, Option.getD_some]
    simpa [read, other] using entries (name, held) entry

lemma readContainers_item (items : List Value) :
    ∀ container held, readContainers (protocolJson codec) items container = some held →
      ∃ item ∈ items, held = ContainerConfig.fromJson (protocolJson codec) item.toObject := by
  refine List.foldlRecOn (motive := fun read : ContainerMap (ContainerConfig ProtocolConfig) =>
    ∀ container held, read container = some held →
      ∃ item ∈ items, held = ContainerConfig.fromJson (protocolJson codec) item.toObject)
    items _ (fun _ _ found => nomatch found) ?_
  intro read from_items item member container held found
  rw [readContainer, ContainerMap.insert_apply] at found
  split at found
  · exact ⟨item, member, (Option.some.inj found).symm⟩
  · exact from_items container held found

lemma admin_parts (admin : configTypeFromJson json = .selfHostedAdmin) :
    hasThirdPartyConfig json = false ∧
      hasCredentials json = true := by
  unfold configTypeFromJson at admin
  split at admin
  · cases admin
  · split at admin
    · cases admin
    · next own =>
      split at admin
      · next known => exact ⟨Bool.not_eq_true _ ▸ own, known⟩
      · cases admin

lemma toInt_int (value : Value) : IsInt value.toInt := by
  have zero : IsInt 0 := ⟨by decide, by decide⟩
  cases value with
  | double number =>
    rw [Value.toInt]
    split
    · next held => exact held.2
    · exact zero
  | _ => exact zero

lemma own_of_read (admin : configTypeFromJson json = .selfHostedAdmin) :
    Own (Config.fromJson (protocolJson codec) json) := by
  obtain ⟨unmarked, credentials⟩ := admin_parts admin
  simp only [hasCredentials, Bool.and_eq_true, Bool.not_eq_true',
    String.isEmpty_eq_false_iff, decide_eq_true_eq] at credentials
  obtain ⟨⟨userName, password⟩, port⟩ := credentials
  have port_read : (Config.fromJson (protocolJson codec) json).port =
      (json.value "port").toInt := by
    change (if json.contains "port" then (json.value "port").toInt else 0) = _
    split
    · rfl
    · next absent =>
        have missing : json.lookup "port" = none := Option.not_isSome_iff_eq_none.mp absent
        rw [Object.value, missing]
        rfl
  constructor
  · exact ⟨userName, password, port_read ▸ port⟩
  · exact port_read ▸ toInt_int _
  · intro container held found
    obtain ⟨item, member, rfl⟩ := readContainers_item codec _ container held found
    by_contra marked
    rw [Bool.not_eq_false] at marked
    have read := ProtocolConfig.fromJson_third codec _ _ marked
    rw [item_unmarked unmarked member (protoToString_other _)] at read
    cases read

/-! ### Writing -/

lemma mem_containersArray (item : Value) :
    item ∈ config.containersArray (protocolJson codec) ↔
      ∃ container held, config.containers container = some held ∧
        item = .object (held.toJson (protocolJson codec)) := by
  simp only [Config.containersArray, List.mem_filterMap, Option.map_eq_some_iff]
  constructor
  · rintro ⟨container, -, held, found, rfl⟩
    exact ⟨container, held, found, rfl⟩
  · rintro ⟨container, held, found, rfl⟩
    refine ⟨container, ?_, held, found, rfl⟩
    rw [ContainerMap.mem_keys, found]
    rfl

lemma containers_toJson :
    (Object.value (config.toJson (protocolJson codec)) "containers").toArray =
      config.containersArray (protocolJson codec) := by
  rw [value_toJson]
  change ((if config.containersArray (protocolJson codec) ≠ [] then
    some (Value.array (config.containersArray (protocolJson codec))) else none).getD
      .undefined).toArray = _
  split
  · rfl
  · next empty => exact (not_not.mp empty).symm

lemma hasThirdParty_toJson :
    hasThirdPartyConfig
        (withoutStorageServerId (config.toJson (protocolJson codec))) = true ↔
      ∃ container held, config.containers container = some held ∧
        held.protocolConfig.isThirdPartyConfig = true := by
  rw [hasThirdPartyConfig, value_withoutStorageServerId _ (by decide),
    containers_toJson, List.any_eq_true]
  have item_marked (held : ContainerConfig ProtocolConfig) :
      ((Value.object (held.toJson (protocolJson codec))).toObject.any fun entry =>
        entry.1 != "container" &&
          (Object.value entry.2.toObject "isThirdPartyConfig").toBool) =
        held.protocolConfig.isThirdPartyConfig := by
    have other := protoToString_other held.container
    rw [← (held.protocolConfig.toJson_marked codec).isThirdParty]
    simp [Value.toObject, ContainerConfig.toJson, other, protocolJson]
  constructor
  · rintro ⟨item, member, marked⟩
    obtain ⟨container, held, found, rfl⟩ := (mem_containersArray codec config item).mp member
    exact ⟨container, held, found, (item_marked held) ▸ marked⟩
  · rintro ⟨container, held, found, marked⟩
    refine ⟨_, (mem_containersArray codec config _).mpr ⟨container, held, found, rfl⟩, ?_⟩
    rw [item_marked, marked]


lemma hasCredentials_toJson {config : Config ProtocolConfig} (own : Own config) :
    hasCredentials
      (withoutStorageServerId (config.toJson (protocolJson codec))) = true := by
  obtain ⟨userName, password, port⟩ := own.credentials
  have port_value : Object.value (config.toJson (protocolJson codec)) "port" =
      .double config.port := by
    rw [value_toJson]
    change ((if config.port > 0 then some (Value.double config.port) else none).getD
      .undefined) = _
    rw [if_pos port]
    rfl
  rw [hasCredentials, value_withoutStorageServerId _ (by decide),
    value_withoutStorageServerId _ (by decide), value_withoutStorageServerId _ (by decide),
    text_toJson (protocolJson codec) rfl,
    text_toJson (protocolJson codec) rfl, port_value, toInt_double own.int]
  simp [userName, password, port]

lemma isServerFromApi_toJson :
    isServerFromApi
      (withoutStorageServerId (config.toJson (protocolJson codec))) = false := by
  have absent : Object.value (config.toJson (protocolJson codec)) "config_version" =
      .undefined := by
    rw [value_toJson]
    rfl
  rw [isServerFromApi, value_withoutStorageServerId _ (by decide), absent]
  rfl

/-- With a new config for a container, a server stays one of the administrator unless the new
config is marked. -/
lemma updated_kind {config : Config ProtocolConfig} (own : Own config)
    (container : DockerContainer) (newConfig : ContainerConfig ProtocolConfig) :
    configTypeFromJson (withoutStorageServerId
        ((updateContainerConfig config container newConfig).toJson (protocolJson codec))) =
        .selfHostedAdmin ↔
      newConfig.protocolConfig.isThirdPartyConfig = false := by
  let updated := updateContainerConfig config container newConfig
  rw [configTypeFromJson, isServerFromApi_toJson]
  cases mark : newConfig.protocolConfig.isThirdPartyConfig with
  | true =>
    have marked := (hasThirdParty_toJson codec updated).mpr
      ⟨container, newConfig, by simp [updated, updateContainerConfig, ContainerMap.insert], mark⟩
    simp [updated, marked]
  | false =>
    have updated_own : Own updated := by
      refine ⟨own.credentials, own.int, ?_⟩
      intro other held found
      rw [show updated.containers = config.containers.insert container newConfig from rfl,
        ContainerMap.insert_apply] at found
      split at found
      · rw [← Option.some.inj found, mark]
      · exact own.unmarked other held found
    have unmarked : hasThirdPartyConfig (withoutStorageServerId
        (updated.toJson (protocolJson codec))) = false := by
      by_contra marked
      obtain ⟨other, held, found, third⟩ :=
        (hasThirdParty_toJson codec updated).mp (Bool.not_eq_false _ ▸ marked)
      rw [updated_own.unmarked other held found] at third
      cases third
    simp [updated, unmarked, hasCredentials_toJson codec updated_own]

/-! ### Edits -/

def AdminAt (s : State) (serverId : String) : Prop :=
  ∃ json, s.serverJsonById serverId = some json ∧
    configTypeFromJson (withoutStorageServerId json) = .selfHostedAdmin

variable {serverId : String}

lemma store_cases (consistent : Consistent s) (admin : AdminAt s serverId)
    (config : Config ProtocolConfig) :
    let json := withoutStorageServerId (config.toJson (protocolJson codec))
    (configTypeFromJson json ≠ .selfHostedAdmin ∧ store codec s serverId config = s) ∨
      (configTypeFromJson json = .selfHostedAdmin ∧
        (store codec s serverId config).serverJsonById serverId =
          some (embedStorageServerId serverId json)) := by
  intro json
  obtain ⟨old, found, -⟩ := admin
  have listed : serverId ∈ s.orderedServerIds := by
    rw [← consistent.keyed.keys, ServersRepository.contains, found]
    rfl
  by_cases kind : configTypeFromJson json = .selfHostedAdmin
  · right
    refine ⟨kind, ?_⟩
    rw [store, editServer, if_neg (by simp [listed])]
    simp only [found]
    rw [if_neg (not_not.mpr kind)]
    exact Function.update_self ..
  · left
    exact ⟨kind, ServersRepository.edit_refused s consistent.keyed serverId _ _
      (Or.inr (Or.inr kind))⟩

lemma strip_embed (id : String) (json : Object) :
    withoutStorageServerId (embedStorageServerId id
      (withoutStorageServerId json)) = withoutStorageServerId json := by
  simp [embedStorageServerId, withoutStorageServerId, Object.insert,
    Object.remove]

lemma store_admin (consistent : Consistent s) (admin : AdminAt s serverId)
    (config : Config ProtocolConfig) : AdminAt (store codec s serverId config) serverId := by
  rcases store_cases codec consistent admin config with ⟨-, same⟩ | ⟨kind, stored⟩
  · rwa [same]
  · refine ⟨_, stored, ?_⟩
    rw [strip_embed]
    exact kind

lemma cleared_admin (serverId : String) (container : DockerContainer)
    (held : Consistent s ∧ AdminAt s serverId) :
    Consistent (clearCachedProfile codec serverId container s) ∧
      AdminAt (clearCachedProfile codec serverId container s) serverId := by
  obtain ⟨consistent, admin⟩ := held
  unfold clearCachedProfile
  split
  · exact ⟨consistent, admin⟩
  · split
    · exact ⟨consistent, admin⟩
    · exact ⟨ServersRepository.edit_consistent s _ _ _ consistent,
        store_admin codec consistent admin _⟩

lemma cleared_again_admin (serverId : String) (container : DockerContainer)
    (held : Consistent s ∧ AdminAt s serverId) (calls : Nat) :
    Consistent ((clearCachedProfile codec serverId container)^[calls] s) ∧
      AdminAt ((clearCachedProfile codec serverId container)^[calls] s) serverId := by
  induction calls generalizing s with
  | zero => exact held
  | succ calls ih => exact ih (cleared_admin codec serverId container held)

/-! ## What is stored -/

/-- The protocol of a container in a stored config. Of several items for the container the last
one is read. -/
def storedProtocol (s : State) (serverId : String) (container : DockerContainer) :
    Option Object :=
  (s.serverJsonById serverId).bind fun json =>
    ((json.value "containers").toArray.reverse.find? fun item =>
      containerFromString (item.toObject.value "container").toString = container).map fun item =>
        (item.toObject.value (protoToString (defaultProtocol container))).toObject

def Forgotten (s : State) (serverId : String) (container : DockerContainer)
    (newConfig : ProtocolConfig) : Prop :=
  ∃ json, storedProtocol s serverId container = some json ∧
    json.contains "last_config" = false ∧
    ∀ key, key ≠ "last_config" → json.value key = (newConfig.toJson codec).value key

lemma stored_unmarked (admin : AdminAt s serverId) {container : DockerContainer} {json : Object}
    (stored : storedProtocol s serverId container = some json) :
    (json.value "isThirdPartyConfig").toBool = false := by
  obtain ⟨held, found, kind⟩ := admin
  rw [storedProtocol, found, Option.bind_some, Option.map_eq_some_iff] at stored
  obtain ⟨item, last, rfl⟩ := stored
  have member := List.mem_of_find?_eq_some last
  rw [List.mem_reverse, ← value_withoutStorageServerId held (by decide)] at member
  exact item_unmarked (admin_parts kind).1 member (protoToString_other _)

lemma find_unique {Item : Type} {items : List Item} {p : Item → Bool} {item : Item}
    (member : item ∈ items) (holds : p item = true)
    (unique : ∀ other ∈ items, p other = true → other = item) : items.find? p = some item := by
  cases found : items.find? p with
  | none => exact absurd holds (List.find?_eq_none.mp found item member)
  | some other =>
    rw [unique other (List.mem_of_find?_eq_some found) (List.find?_some found)]

lemma stored_updated {config : Config ProtocolConfig} (keyed : Keyed config.containers)
    (container : DockerContainer) (newConfig : ProtocolConfig)
    (stored : s.serverJsonById serverId = some (embedStorageServerId serverId
      (withoutStorageServerId ((updateContainerConfig config container
        ⟨container, newConfig⟩).toJson (protocolJson codec))))) :
    storedProtocol s serverId container = some (newConfig.toJson codec) := by
  rw [storedProtocol, stored, Option.bind_some, embedStorageServerId,
    Object.value_insert_other _ _ _ _ (by decide), value_withoutStorageServerId _ (by decide),
    containers_toJson]
  have own_name (held : ContainerConfig ProtocolConfig) :
      containerFromString (Object.value (held.toJson (protocolJson codec)) "container").toString =
        held.container := containerFromString_toString held.container
  have item : ((updateContainerConfig config container ⟨container, newConfig⟩).containersArray
      (protocolJson codec)).reverse.find? (fun item =>
        containerFromString (item.toObject.value "container").toString = container) =
      some (.object (ContainerConfig.toJson (protocolJson codec) ⟨container, newConfig⟩)) := by
    apply find_unique
    · rw [List.mem_reverse, mem_containersArray]
      exact ⟨container, _, if_pos rfl, rfl⟩
    · exact decide_eq_true (own_name _)
    · intro other member named
      rw [List.mem_reverse, mem_containersArray] at member
      obtain ⟨kind, held, found, rfl⟩ := member
      have same : held.container = container :=
        (own_name held).symm.trans (of_decide_eq_true named)
      -- every container is stored under its own kind, so this one is the new one
      change config.containers.insert container ⟨container, newConfig⟩ kind = some held at found
      rw [ContainerMap.insert_apply] at found
      split at found
      · rw [← Option.some.inj found]
      · next differs => exact absurd ((keyed kind held found).symm.trans same) differs
  rw [item, Option.map_some]
  exact congrArg (fun value => some value.toObject)
    (value_second _ _ (protoToString_other container))

/-! ## The profile behind a reinstallation -/

lemma installed_marks (remote : Remote) (container : DockerContainer) (config : ProtocolConfig)
    (stdOut : String) :
    (updateContainerConfigAfterInstallation remote container config stdOut).hasClientConfig =
        config.hasClientConfig ∧
      (updateContainerConfigAfterInstallation remote container config stdOut).isThirdPartyConfig =
        config.isThirdPartyConfig := by
  unfold updateContainerConfigAfterInstallation
  split <;> exact ⟨rfl, rfl⟩

lemma reinstalled {remote : Remote} {s : State} {container : DockerContainer}
    {oldConfig newConfig : ProtocolConfig}
    (required : isReinstallContainerRequired container oldConfig newConfig = true)
    (succeeded : (updateServerConfig codec remote s serverId container ⟨container, oldConfig⟩
      ⟨container, newConfig⟩).errorCode = .noError) :
    ∃ json adminConfig stdOut, s.serverJsonById serverId = some json ∧
      configTypeFromJson (withoutStorageServerId json) = .selfHostedAdmin ∧
      adminConfig = Config.fromJson (protocolJson codec) (withoutStorageServerId json) ∧
      let after := updateContainerConfigAfterInstallation remote container newConfig stdOut
      updateServerConfig codec remote s serverId container ⟨container, oldConfig⟩
          ⟨container, newConfig⟩ =
        ⟨.noError, store codec
          ((clearCachedProfile codec serverId container)^[remote.revocations + 1] s) serverId
          (updateContainerConfig adminConfig container ⟨container, after⟩), ⟨container, after⟩⟩ := by
  unfold updateServerConfig at succeeded ⊢
  cases admin : selfHostedAdminConfig codec s serverId with
  | none =>
    rw [admin] at succeeded
    cases succeeded
  | some adminConfig =>
    obtain ⟨json, found, read⟩ := Option.bind_eq_some_iff.mp admin
    dsimp only at read
    split at read
    · cases read
    · next kind =>
        simp only [admin, reinstall_updates required, required] at succeeded ⊢
        cases valid : adminConfig.credentials.isValid with
        | false => simp [valid] at succeeded
        | true =>
          cases setup : remote.setupContainer with
          | error code => simp [valid, configured, setup] at succeeded
          | ok stdOut =>
            refine ⟨json, adminConfig, stdOut, found, not_not.mp kind,
              (Option.some.inj read).symm, ?_⟩
            simp [configured, setup, bind, Except.bind, pure, Except.pure]

lemma stored_forgets_iff (consistent : Consistent s) (admin : AdminAt s serverId)
    {config : Config ProtocolConfig} (own : Own config) (keyed : Keyed config.containers)
    (container : DockerContainer) (newConfig : ProtocolConfig) :
    Forgotten codec (store codec s serverId (updateContainerConfig config container
        ⟨container, newConfig⟩)) serverId container newConfig ↔
      newConfig.hasClientConfig = false ∧ newConfig.isThirdPartyConfig = false := by
  have written := newConfig.toJson_marked codec
  have kind := updated_kind codec own container ⟨container, newConfig⟩
  rcases store_cases codec consistent admin (updateContainerConfig config container
    ⟨container, newConfig⟩) with ⟨refused, same⟩ | ⟨accepted, stored⟩
  · -- a marked config is refused, and none of the stored ones is marked
    rw [same]
    apply iff_of_false
    · rintro ⟨json, stored, -, settings⟩
      have unmarked := stored_unmarked admin stored
      rw [settings _ (by decide), written.isThirdParty] at unmarked
      exact refused (kind.mpr unmarked)
    · rintro ⟨-, unmarked⟩
      exact refused (kind.mpr unmarked)
  · have item := stored_updated codec keyed container newConfig stored
    constructor
    · rintro ⟨json, found, no_profile, -⟩
      rw [item] at found
      obtain rfl := Option.some.inj found
      exact ⟨written.lastConfig.symm.trans no_profile, kind.mp accepted⟩
    · rintro ⟨no_profile, -⟩
      exact ⟨_, item, written.lastConfig.trans no_profile, fun _ _ => rfl⟩

/-- After an update that installs the container again, the stored config has no profile and the
settings of the new config if and only if the new config came without a profile and is not marked
as one of another provider. -/
theorem reinstall_forgets_iff (uuid : Nat → String) (storage : ServersRepository.Storage)
    (calls : List ServersRepository.Call) (remote : Remote) (serverId : String)
    (container : DockerContainer) (oldConfig newConfig : ProtocolConfig)
    (required : isReinstallContainerRequired container oldConfig newConfig = true) :
    let s := Runs.run (ServersRepository.step uuid) (ServersRepository.created uuid storage) calls
    let updated := updateServerConfig codec remote s serverId container ⟨container, oldConfig⟩
      ⟨container, newConfig⟩
    updated.errorCode = .noError →
      (Forgotten codec updated.repository serverId container updated.newConfig.protocolConfig ↔
        newConfig.hasClientConfig = false ∧ newConfig.isThirdPartyConfig = false) := by
  intro s updated succeeded
  have consistent : Consistent s :=
    Runs.run_invariant (ServersRepository.step_consistent uuid) _ calls
      (ServersRepository.created_consistent uuid storage)
  obtain ⟨json, adminConfig, stdOut, found, kind, rfl, done⟩ :=
    reinstalled codec required succeeded
  obtain ⟨client, mark⟩ := installed_marks remote container newConfig stdOut
  obtain ⟨cleared_consistent, cleared⟩ := cleared_again_admin codec serverId container
    ⟨consistent, json, found, kind⟩ (remote.revocations + 1)
  have stored := stored_forgets_iff codec cleared_consistent cleared (own_of_read codec kind)
    (readContainers_keyed (protocolJson codec) _) container
    (updateContainerConfigAfterInstallation remote container newConfig stdOut)
  rw [client, mark] at stored
  change Forgotten codec (updateServerConfig codec remote s serverId container
    ⟨container, oldConfig⟩ ⟨container, newConfig⟩).repository serverId container
      (updateServerConfig codec remote s serverId container ⟨container, oldConfig⟩
        ⟨container, newConfig⟩).newConfig.protocolConfig ↔ _
  rw [done]
  exact stored

/-! A WireGuard server whose port is changed. -/

def profile : WireGuardClientConfig := { clientId := "key", clientPrivateKey := "secret" }

def profileCodec : Codec := documentCodec [ofFields profile.fields]

def wireGuardConfig (port : String) (client : Option WireGuardClientConfig) : ProtocolConfig :=
  .wireGuard ⟨{ port }, client⟩

def vpnServer : Config ProtocolConfig where
  description := ""
  hostName := "192.0.2.1"
  containers := ContainerMap.insert (fun _ => none) .wireGuard
    ⟨.wireGuard, wireGuardConfig "51820" (some profile)⟩
  defaultContainer := .wireGuard
  dns1 := ""
  dns2 := ""
  userName := "root"
  password := "secret"
  port := 22

def vpnStorage : Storage :=
  ⟨[.object (("storageServerId", .string "a") ::
    vpnServer.toJson (protocolJson profileCodec))], "a", 0⟩

def goodServer : Remote where
  setupContainer := .ok ""
  configureContainerWorker := .ok ""
  startupContainerWorker := .ok ()
  restart := .ok ()
  revocations := 0
  secret _ := none
  tgLink _ := none
  tmeLink _ := none

def portChanged (client : Option WireGuardClientConfig) : Updated :=
  updateServerConfig profileCodec goodServer
    (Runs.run (ServersRepository.step fun _ => "")
      (ServersRepository.created (fun _ => "") vpnStorage) []) "a" .wireGuard
    ⟨.wireGuard, wireGuardConfig "51820" (some profile)⟩ ⟨.wireGuard, wireGuardConfig "443" client⟩

theorem changed_without_profile :
    (portChanged none).errorCode = .noError ∧
      Forgotten profileCodec (portChanged none).repository "a" .wireGuard
        (portChanged none).newConfig.protocolConfig := by
  have succeeded : (portChanged none).errorCode = .noError := by decide +kernel
  exact ⟨succeeded, (reinstall_forgets_iff profileCodec (fun _ => "") vpnStorage []
    goodServer "a" .wireGuard (wireGuardConfig "51820" (some profile)) (wireGuardConfig "443" none)
    (by decide +kernel) succeeded).mpr ⟨rfl, rfl⟩⟩

/-- The new config comes with the profile that was made for the old server, and this one is
stored. -/
theorem changed_with_profile :
    isReinstallContainerRequired .wireGuard (wireGuardConfig "51820" (some profile))
        (wireGuardConfig "443" (some profile)) = true ∧
      (portChanged (some profile)).errorCode = .noError ∧
      (storedProtocol (portChanged (some profile)).repository "a" .wireGuard).map
        (fun json => (json.value "port").toString) = some "443" ∧
      (storedProtocol (portChanged (some profile)).repository "a" .wireGuard).map
        (fun json => json.contains "last_config") = some true ∧
      ¬ Forgotten profileCodec (portChanged (some profile)).repository "a"
        .wireGuard (portChanged (some profile)).newConfig.protocolConfig := by
  have kept : (storedProtocol (portChanged (some profile)).repository "a" .wireGuard).map
      (fun json => json.contains "last_config") = some true := by decide +kernel
  refine ⟨by decide +kernel, by decide +kernel, by decide +kernel, kept, ?_⟩
  rintro ⟨json, stored, forgotten, -⟩
  rw [stored, Option.map_some, forgotten] at kept
  cases kept

end AbstractumVpn.ContainerUpdate
