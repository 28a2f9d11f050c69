import AbstractumVpn.JsonFields

/-!
`UsersController`: the table of the clients of a container, kept in a file on
the server and in memory. An operation changes the table in memory and uploads
it; a revoked client is first taken out of the config of the server. Every
download, upload and script may fail, which leaves the file as it was.

There is one file for each server and container and one table in memory. The
config of a container is whatever the server answers. `revoked`, no field of the
source, lists the clients that a revoke took out of it and that have not been
added since, or found there again. The output of `wg show` is taken as it is
parsed.
-/

namespace AbstractumVpn.UsersController

open ImportController (put)
open Json SiteRoutes

structure Key where
  serverId : String
  container : DockerContainer
  deriving DecidableEq

structure TableFiles where
  Content : Type
  toJson : List Value → Content
  /-- `QJsonDocument::fromJson`, null where there is no document. -/
  fromJson : Content → Value
  /-- A comparison of the bytes. -/
  same : Content → Content → Bool
  read : ∀ table, fromJson (toJson table) = .array table
  same_eq : ∀ content other, same content other = true → content = other

structure State (files : TableFiles) where
  clientsTable : List Value
  stored : Key → files.Content
  revoked : Key → List String

inductive Outcome where
  | noError
  | failed
  | downloadFailed
  deriving DecidableEq

def clientId (entry : Value) : Option String :=
  if entry.toObject.contains "clientId" then some (entry.toObject.text "clientId") else none

def userData (entry : Value) : Object := (entry.toObject.value "userData").toObject

def clientName (entry : Value) : String := (userData entry).text "clientName"

def isClientExists (id : String) (clientsTable : List Value) : Bool :=
  clientsTable.any fun entry => clientId entry = some id

def clientIndexById (id : String) (clientsTable : List Value) : Option Nat :=
  clientsTable.findIdx? fun entry => clientId entry = some id

def newClient (id : String) (userData : Object) : Value :=
  .object [("clientId", .string id), ("userData", .object userData)]

def withUserData (entry : Value) (userData : Object) : Value :=
  .object (put entry.toObject "userData" (.object userData))

inductive Scan where
  | listed (found : List String)
  | failed
  | downloadFailed (found : List String)

structure ScanAnswers where
  issuedCertificates : Option String
  wireguardConfig : Option String
  xrayConfig : Option (Option Value)
  /-- The file with the default id at each reading: its text, or what came of it before an error. -/
  xrayUuid : Nat → String
  xrayUuidRead : Nat → Bool

def nonEmptyParts (text separator : String) : List String :=
  (QtText.split text separator).filter (· ≠ "")

def without (text part : String) : String := String.join (QtText.split text part)

def getOpenVpnClients (answers : ScanAnswers) : Scan :=
  match answers.issuedCertificates with
  | none => .failed
  | some stdOut => .listed
      (((nonEmptyParts stdOut "\n").filter (· ≠ "AmneziaReq.crt")).map (without · ".crt"))

def publicKey (line : String) : Option String :=
  let configPair := nonEmptyParts line " = "
  if configPair.head? = some "PublicKey" then configPair.getLast? else none

def wireguardKeys (config : String) : List String :=
  (nonEmptyParts config "\n").filterMap publicKey

def getWireGuardClients (answers : ScanAnswers) : Scan :=
  match answers.wireguardConfig with
  | none => .downloadFailed []
  | some config => .listed (wireguardKeys config)

def inboundClients (serverConfig : Value) : Option (List Value) :=
  match (serverConfig.toObject.value "inbounds").toArray with
  | [] => none
  | inbound :: _ =>
    let settings := (inbound.toObject.value "settings").toObject
    if inbound.toObject.contains "settings" && settings.contains "clients" then
      some (settings.value "clients").toArray
    else none

def xrayIds (clients : List Value) : List String :=
  (clients.filter fun client => client.toObject.contains "id").map
    fun client => client.toObject.text "id"

/-- The file with the default id is read again for each client, and the last reading counts. -/
def xrayClients (answers : ScanAnswers) (clients : List Value) : Scan :=
  let ids := xrayIds clients
  let isDefault (index : Nat) (id : String) : Bool :=
    id = without (answers.xrayUuid index) "\n"
  let found := (ids.zipIdx.filter fun id => !isDefault id.2 id.1).map Prod.fst
  if ids ≠ [] && !answers.xrayUuidRead (ids.length - 1) then .downloadFailed found
  else .listed found

def getXrayClients (answers : ScanAnswers) : Scan :=
  match answers.xrayConfig with
  | none => .downloadFailed []
  | some none => .failed
  | some (some serverConfig) =>
    match inboundClients serverConfig with
    | none => .failed
    | some clients => xrayClients answers clients

def scan (container : DockerContainer) (answers : ScanAnswers) : Scan :=
  if container = .openVpn then getOpenVpnClients answers
  else if container = .wireGuard || isAwgContainer container then getWireGuardClients answers
  else if container = .xray then getXrayClients answers
  else .listed []

def addClient (result : List Value × Nat) (id : String) : List Value × Nat :=
  if isClientExists id result.1 then result
  else (result.1 ++ [newClient id [("clientName", .string ("Client " ++ Nat.repr result.2))]],
    result.2 + 1)

def addFound (clientsTable : List Value) (found : List String) : List Value :=
  (found.foldl addClient (clientsTable, 0)).1

structure WgShowData where
  clientId : String
  latestHandshake : String
  dataReceived : String
  dataSent : String
  allowedIps : String

def putText (object : Object) (field : String × String) : Object :=
  if field.2 = "" then object else put object field.1 (.string field.2)

def showData (entry : Value) (data : WgShowData) : Value :=
  withUserData entry ([("latestHandshake", data.latestHandshake),
    ("dataReceived", data.dataReceived), ("dataSent", data.dataSent),
    ("allowed_ips", data.allowedIps)].foldl putText (userData entry))

def showClient (data : WgShowData) : List Value → List Value
  | [] => []
  | entry :: rest =>
    if clientId entry = some data.clientId then showData entry data :: rest
    else entry :: showClient data rest

def showAll (data : List WgShowData) (clientsTable : List Value) : List Value :=
  data.foldl (fun table item => showClient item table) clientsTable

/-- `wgShow` has nothing to say of other containers. -/
def shownData (container : DockerContainer) (data : List WgShowData) : List WgShowData :=
  if container = .wireGuard || isAwgContainer container then data else []

variable (files : TableFiles)

/-- A table of the old format, an object with the ids for keys. -/
def migration (content : files.Content) : List Value :=
  (files.fromJson content).toObject.map fun client =>
    let name := client.2.toObject.value "clientName"
    newClient client.1 (match name with
      | .undefined => []
      | name => [("clientName", name)])

def storedTable (content : files.Content) : List Value :=
  let table := (files.fromJson content).toArray
  if table.isEmpty then migration files content else table

structure UpdateAnswers where
  /-- The config of the server is known and its credentials are valid. -/
  admin : Bool
  tableRead : Bool
  scan : ScanAnswers
  uploaded : Bool
  wgShow : List WgShowData

variable {files}

namespace State

def load (table : List Value) (s : State files) : State files := { s with clientsTable := table }

def store (key : Key) (content : files.Content) (s : State files) : State files :=
  { s with stored := fun other => if other = key then content else s.stored other }

def upload (key : Key) (s : State files) : State files := s.store key (files.toJson s.clientsTable)

def present (key : Key) (found : List String) (s : State files) : State files :=
  { s with
    revoked := fun other =>
      if other = key then (s.revoked key).filter (· ∉ found) else s.revoked other }

def revoke (key : Key) (ids : List String) (s : State files) : State files :=
  { s with revoked := fun other => if other = key then ids ++ s.revoked key else s.revoked other }

lemma mem_revoked_present {key : Key} {found : List String} {s : State files} {id : String} :
    id ∈ (s.present key found).revoked key ↔ id ∈ s.revoked key ∧ id ∉ found := by
  simp [present]

lemma mem_revoked_revoke {key : Key} {ids : List String} {s : State files} {id : String} :
    id ∈ (s.revoke key ids).revoked key ↔ id ∈ ids ∨ id ∈ s.revoked key := by
  simp [revoke]

end State

def updateFrom (key : Key) (answers : UpdateAnswers) (s : State files) :
    Scan → State files × Outcome
  | .failed => (s.load (migration files (s.stored key)), .failed)
  | .downloadFailed found =>
    ((s.present key found).load (addFound (migration files (s.stored key)) found),
      .downloadFailed)
  | .listed found =>
    let table := addFound (migration files (s.stored key)) found
    let shown := showAll (shownData key.container answers.wgShow) table
    let s := s.present key found
    if files.same (s.stored key) (files.toJson table) then (s.load shown, .noError)
    else if answers.uploaded then ((s.store key (files.toJson table)).load shown, .noError)
    -- the error is returned, and the new table stays in memory
    else (s.load shown, .failed)

def updateClients (key : Key) (answers : UpdateAnswers) (s : State files) : State files × Outcome :=
  if !answers.admin then (s, .failed)
  else if !answers.tableRead then (s, .downloadFailed)
  else
    let table := (files.fromJson (s.stored key)).toArray
    if table.isEmpty then updateFrom key answers s (scan key.container answers.scan)
    else (s.load (showAll (shownData key.container answers.wgShow) table), .noError)

def uploadTable (key : Key) (uploaded : Bool) (s : State files) : State files × Outcome :=
  if uploaded then (s.upload key, .noError) else (s, .failed)

def renamed (clientName : String) (timeStamp : Option String) (entry : Value) : Value :=
  let named := put (userData entry) "clientName" (.string clientName)
  withUserData entry (match timeStamp with
    | some date => put named "creationDate" (.string date)
    | none => named)

def renameClient (key : Key) (row : Int) (clientName : String) (timeStamp : Option String)
    (admin uploaded : Bool) (s : State files) : State files × Outcome :=
  if row < 0 ∨ (s.clientsTable.length : Int) ≤ row then (s, .failed)
  else if !admin then (s, .failed)
  else uploadTable key uploaded
    (s.load (s.clientsTable.modify row.toNat (renamed clientName timeStamp)))

def appendLoaded (key : Key) (id clientName creationDate : String) (uploaded : Bool)
    (s : State files) : State files × Outcome :=
  match clientIndexById id s.clientsTable with
  | some row => renameClient key row clientName (some creationDate) true uploaded s
  | none =>
    let client := newClient id
      [("clientName", .string clientName), ("creationDate", .string creationDate)]
    uploadTable key uploaded ((s.present key [id]).load (s.clientsTable ++ [client]))

def afterUpdate (next : State files → State files × Outcome) (updated : State files × Outcome) :
    State files × Outcome :=
  if updated.2 = .noError then next updated.1 else updated

def appendClient (key : Key) (id clientName creationDate : String) (update : UpdateAnswers)
    (uploaded : Bool) (s : State files) : State files × Outcome :=
  if !update.admin then (s, .failed)
  else afterUpdate (appendLoaded key id clientName creationDate uploaded)
    (updateClients key update s)

structure RevokeAnswers where
  /-- What `easyrsa revoke` did, whatever becomes of the rest of its script. -/
  certificateRevoked : Bool
  wireguardConfig : Option String
  xrayConfig : Option (Option Value)
  configUploaded : Bool
  tableUploaded : Bool
  /-- The script of `easyrsa`, the one that syncs the interface, or the restart. -/
  scriptSucceeds : Bool

def rowObject (row : Nat) (s : State files) : Object :=
  ((s.clientsTable[row]?).getD .undefined).toObject

def rowId (row : Nat) (s : State files) : String := (rowObject row s).text "clientId"

def removeRow (row : Nat) (s : State files) : State files :=
  s.load (s.clientsTable.eraseIdx row)

def lost (before after : List String) : List String := before.filter (· ∉ after)

def withoutSection (config id : String) : String :=
  "[" ++ "[".intercalate
    ((nonEmptyParts config "[").eraseP fun part => ImportController.contains part id)

def wireguardRemoval (id : String) (answers : RevokeAnswers) : Except Outcome (List String) :=
  match answers.wireguardConfig with
  | none => .error .downloadFailed
  | some config =>
    if !answers.configUploaded then .error .failed
    else .ok (lost (wireguardKeys config) (wireguardKeys (withoutSection config id)))

def withoutXrayClient (clients : List Value) (id : String) : List Value :=
  clients.eraseP fun client =>
    client.toObject.contains "id" && client.toObject.text "id" = id

def xrayRemoval (id : String) (answers : RevokeAnswers) : Except Outcome (List String) :=
  match answers.xrayConfig with
  | none => .error .downloadFailed
  | some none => .error .failed
  | some (some serverConfig) =>
    match inboundClients serverConfig with
    | none => .error .failed
    | some [] => .error .failed
    | some clients =>
      if !answers.configUploaded then .error .failed
      else .ok (lost (xrayIds clients) (xrayIds (withoutXrayClient clients id)))

def certificateRemoval (id : String) (answers : RevokeAnswers) : List String :=
  if answers.certificateRevoked then [id] else []

def revokeOpenVpn (key : Key) (row : Nat) (answers : RevokeAnswers) (s : State files) :
    State files × Outcome :=
  -- the commands of the script go on after one that fails
  let s := s.revoke key (certificateRemoval (rowId row s) answers)
  if !answers.scriptSucceeds then (s, .failed)
  else uploadTable key answers.tableUploaded (removeRow row s)

def dropRow (key : Key) (row : Nat) (tableUploaded : Bool) (removed : List String)
    (s : State files) : State files × Outcome :=
  uploadTable key tableUploaded (removeRow row (s.revoke key removed))

def revokeWireGuard (key : Key) (row : Nat) (answers : RevokeAnswers) (s : State files) :
    State files × Outcome :=
  match wireguardRemoval (rowId row s) answers with
  | .error outcome => (s, outcome)
  | .ok removed =>
    let result := dropRow key row answers.tableUploaded removed s
    if result.2 ≠ .noError then result
    else (result.1, if answers.scriptSucceeds then .noError else .failed)

/-- The error of the upload is overwritten by that of the restart. -/
def revokeXray (key : Key) (row : Nat) (answers : RevokeAnswers) (s : State files) :
    State files × Outcome :=
  match xrayRemoval (rowId row s) answers with
  | .error outcome => (s, outcome)
  | .ok removed =>
    let result := dropRow key row answers.tableUploaded removed s
    (result.1, if answers.scriptSucceeds then .noError else .failed)

def revokeRow (key : Key) (row : Nat) (answers : RevokeAnswers) (s : State files) :
    State files × Outcome :=
  if key.container = .openVpn then revokeOpenVpn key row answers s
  else if key.container = .wireGuard || isAwgContainer key.container then
    revokeWireGuard key row answers s
  else if key.container = .xray then revokeXray key row answers s
  else (s, .failed)

def revokeIndex (key : Key) (index : Int) (admin : Bool) (answers : RevokeAnswers)
    (s : State files) : State files × Outcome :=
  if index < 0 ∨ (s.clientsTable.length : Int) ≤ index then (s, .failed)
  else if !admin then (s, .failed)
  else revokeRow key index.toNat answers s

def isRevocable (container : DockerContainer) : Bool :=
  container = .openVpn || container = .wireGuard || isAwgContainer container || container = .xray

def revokeLoaded (key : Key) (id : String) (answers : RevokeAnswers) (s : State files) :
    State files × Outcome :=
  if isRevocable key.container then
    match clientIndexById id s.clientsTable with
    | some row => revokeRow key row answers s
    | none => (s, .noError)
  else (s, .failed)

def revokeConfig (key : Key) (id : String) (update : UpdateAnswers) (answers : RevokeAnswers)
    (s : State files) : State files × Outcome :=
  if !update.admin then (s, .failed)
  else afterUpdate (revokeLoaded key id answers) (updateClients key update s)

inductive Operation where
  | updateClients (answers : UpdateAnswers)
  | appendClient (id clientName creationDate : String) (update : UpdateAnswers) (uploaded : Bool)
  | renameClient (row : Int) (clientName : String) (timeStamp : Option String)
      (admin uploaded : Bool)
  | revokeIndex (index : Int) (admin : Bool) (answers : RevokeAnswers)
  | revokeConfig (id : String) (update : UpdateAnswers) (answers : RevokeAnswers)

def perform (s : State files) (call : Key × Operation) : State files × Outcome :=
  match call.2 with
  | .updateClients answers => updateClients call.1 answers s
  | .appendClient id clientName creationDate update uploaded =>
    appendClient call.1 id clientName creationDate update uploaded s
  | .renameClient row clientName timeStamp admin uploaded =>
    renameClient call.1 row clientName timeStamp admin uploaded s
  | .revokeIndex index admin answers => revokeIndex call.1 index admin answers s
  | .revokeConfig id update answers => revokeConfig call.1 id update answers s

def step (s : State files) (call : Key × Operation) : State files := (perform s call).1

end AbstractumVpn.UsersController
