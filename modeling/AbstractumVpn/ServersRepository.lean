import AbstractumVpn.Json
import AbstractumVpn.QtText
import AbstractumVpn.Runs
import Mathlib.Logic.Function.Basic

/-!
`SecureServersRepository`: the servers of the client, kept in memory as a map
from ids to configs with a list that gives their order, and written to the
settings as one JSON array. `uuid n` is the `n`-th identifier that `QUuid`
creates. The signals to the user interface are left out.
-/

namespace AbstractumVpn.ServersRepository

inductive ConfigType where
  | unsupportedSubscription
  | selfHostedAdmin
  | selfHostedUser
  | native
  | invalid
  deriving DecidableEq

def isServerFromApi (json : Json.Object) : Bool :=
  let configVersion := (json.value "config_version").toInt
  configVersion == 1 || configVersion == 2

def hasThirdPartyConfig (json : Json.Object) : Bool :=
  (json.value "containers").toArray.any fun container =>
    container.toObject.any fun entry =>
      entry.1 != "container" && (Json.Object.value entry.2.toObject "isThirdPartyConfig").toBool

def hasCredentials (json : Json.Object) : Bool :=
  !(json.value "userName").toString.isEmpty && !(json.value "password").toString.isEmpty &&
    decide ((json.value "port").toInt > 0)

def configTypeFromJson (json : Json.Object) : ConfigType :=
  if isServerFromApi json then .unsupportedSubscription
  else if hasThirdPartyConfig json then .native
  else if hasCredentials json then .selfHostedAdmin
  else .selfHostedUser

def storageServerId : String := "storageServerId"

def trimmed (text : String) : String := String.ofList (QtText.trimmed text.toList)

def readStorageServerId (json : Json.Object) : String :=
  trimmed (json.value storageServerId).toString

def withoutStorageServerId (json : Json.Object) : Json.Object := json.remove storageServerId

def embedStorageServerId (serverId : String) (payload : Json.Object) : Json.Object :=
  payload.insert storageServerId (.string serverId)

structure Storage where
  serversList : List Json.Value
  defaultServerId : String
  defaultServerIndex : Int

structure State where
  storage : Storage
  serverJsonById : String → Option Json.Object
  orderedServerIds : List String
  defaultServerId : String
  uuids : Nat

variable (uuid : Nat → String)

def contains (s : State) (serverId : String) : Bool := (s.serverJsonById serverId).isSome

/-- The id and the number of identifiers created so far. -/
def normalizedOrGeneratedServerId (s : State) (candidateId : String) : String × Nat :=
  let id := trimmed candidateId
  if !id.isEmpty && !contains s id then (id, s.uuids) else (uuid s.uuids, s.uuids + 1)

def storedDefault (storage : Storage) (contained : String → Bool) (ids : List String) : String :=
  let index := storage.defaultServerIndex
  if !storage.defaultServerId.isEmpty && contained storage.defaultServerId then
    storage.defaultServerId
  else if 0 ≤ index ∧ index < ids.length then ids.getD index.toNat ""
  else ids.headD ""

def updateDefaultServerFromStorage (s : State) : State :=
  { s with defaultServerId := storedDefault s.storage (contains s) s.orderedServerIds }

def persistDefaultServerFields (s : State) : State :=
  let defaultServerId :=
    if s.orderedServerIds.isEmpty then ""
    else if s.defaultServerId ∉ s.orderedServerIds then s.orderedServerIds.headD ""
    else s.defaultServerId
  { s with defaultServerId, storage := { s.storage with defaultServerId } }

def putServer (s : State) (serverId : String) (stripped : Json.Object) : State :=
  { s with serverJsonById :=
      Function.update s.serverJsonById serverId (some (embedStorageServerId serverId stripped)) }

def loadEntry (s : State) (entry : Json.Value) : State :=
  let json := entry.toObject
  let id := normalizedOrGeneratedServerId uuid s (readStorageServerId json)
  let s := { s with uuids := id.2 }
  let stripped := withoutStorageServerId json
  if contains s id.1 ∨ configTypeFromJson stripped = .invalid then s
  else { putServer s id.1 stripped with orderedServerIds := s.orderedServerIds ++ [id.1] }

def clearServerStateMaps (s : State) : State :=
  { s with serverJsonById := fun _ => none, orderedServerIds := [] }

def loadFromStorage (s : State) : State :=
  updateDefaultServerFromStorage
    (s.storage.serversList.foldl (loadEntry uuid) (clearServerStateMaps s))

def syncToStorage (s : State) : State :=
  let serversList := s.orderedServerIds.filterMap fun id => (s.serverJsonById id).map Json.Value.object
  persistDefaultServerFields { s with storage := { s.storage with serversList } }

def created (storage : Storage) : State :=
  persistDefaultServerFields (loadFromStorage uuid
    { storage, serverJsonById := fun _ => none, orderedServerIds := [], defaultServerId := ""
      uuids := 0 })

def clearServers (s : State) : State :=
  syncToStorage { clearServerStateMaps s with defaultServerId := "" }

def addServer (s : State) (serverId : String) (serverJson : Json.Object) (kind : ConfigType) :
    State × String :=
  let id := normalizedOrGeneratedServerId uuid s serverId
  let s := { s with uuids := id.2 }
  let stripped := withoutStorageServerId serverJson
  if contains s id.1 ∨ kind = .invalid then (s, id.1)
  else if configTypeFromJson stripped ≠ kind then (s, id.1)
  else
    let s := putServer s id.1 stripped
    let s := { s with orderedServerIds := s.orderedServerIds ++ [id.1] }
    let s := if s.defaultServerId.isEmpty then { s with defaultServerId := id.1 } else s
    (syncToStorage s, id.1)

def editServer (s : State) (serverId : String) (serverJson : Json.Object) (kind : ConfigType) :
    State :=
  if serverId ∉ s.orderedServerIds ∨ kind = .invalid then s
  else
    match s.serverJsonById serverId with
    | none => s
    | some oldJson =>
      let strippedOld := withoutStorageServerId oldJson
      let oldKind := configTypeFromJson strippedOld
      let strippedNew := withoutStorageServerId serverJson
      let removed :=
        { s with serverJsonById := Function.update s.serverJsonById serverId none }
      if configTypeFromJson strippedNew ≠ kind then
        -- the old config is put back
        if oldKind ≠ .invalid ∧ configTypeFromJson strippedOld = oldKind then
          putServer removed serverId strippedOld
        else removed
      else syncToStorage (putServer removed serverId strippedNew)

def removeServer (s : State) (serverId : String) : State :=
  if serverId ∉ s.orderedServerIds ∨ !contains s serverId then s
  else
    let removedIndex := s.orderedServerIds.idxOf serverId
    let ids := s.orderedServerIds.eraseIdx removedIndex
    let defaultServerId :=
      if ids.isEmpty then ""
      else if s.defaultServerId = serverId then ids.getD (min removedIndex (ids.length - 1)) ""
      else if s.defaultServerId ∉ ids then ids.headD ""
      else s.defaultServerId
    syncToStorage
      { s with
        serverJsonById := Function.update s.serverJsonById serverId none
        orderedServerIds := ids
        defaultServerId }

def setDefaultServer (s : State) (serverId : String) : State :=
  if s.orderedServerIds.isEmpty ∨ !contains s serverId ∨ serverId ∉ s.orderedServerIds ∨
      s.defaultServerId = serverId then s
  else persistDefaultServerFields { s with defaultServerId := serverId }

inductive Call where
  | addServer (serverId : String) (serverJson : Json.Object) (kind : ConfigType)
  | editServer (serverId : String) (serverJson : Json.Object) (kind : ConfigType)
  | removeServer (serverId : String)
  | clearServers
  | setDefaultServer (serverId : String)
  | invalidateCache

def step (s : State) : Call → State
  | .addServer serverId serverJson kind =>
    (ServersRepository.addServer uuid s serverId serverJson kind).1
  | .editServer serverId serverJson kind => ServersRepository.editServer s serverId serverJson kind
  | .removeServer serverId => ServersRepository.removeServer s serverId
  | .clearServers => ServersRepository.clearServers s
  | .setDefaultServer serverId => ServersRepository.setDefaultServer s serverId
  | .invalidateCache => loadFromStorage uuid s

end AbstractumVpn.ServersRepository
