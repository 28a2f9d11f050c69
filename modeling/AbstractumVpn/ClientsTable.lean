import AbstractumVpn.UsersController

/-!
The clients table in memory and the file on the server have the same ids and
names after every operation that does not end with a failed download, and no
revoked client, as long as no upload fails.
-/

namespace AbstractumVpn.UsersController

open ImportController (put)
open Json SiteRoutes

variable {files : TableFiles}

/-! ## Ids and names -/

def ids (table : List Value) : List String := table.filterMap clientId

def summary (table : List Value) : List (Option String × String) :=
  table.map fun entry => (clientId entry, clientName entry)

section Table

variable (id : String) (entry : Value) (data : WgShowData) (table : List Value)
    (found : List String) {key : Key} {s s' : State files} {row : Nat} {answers : RevokeAnswers}

lemma ids_eq_summary : ids table = (summary table).filterMap Prod.fst := by
  rw [ids, summary, List.filterMap_map]
  rfl

lemma ids_congr {table other : List Value} (same : summary table = summary other) :
    ids table = ids other := by
  rw [ids_eq_summary, ids_eq_summary, same]

lemma mem_ids : id ∈ ids table ↔ ∃ entry ∈ table, clientId entry = some id :=
  List.mem_filterMap

lemma ids_cons (rest : List Value) :
    ids (entry :: rest) = (clientId entry).toList ++ ids rest := by
  cases named : clientId entry with
  | none => simp [ids, named]
  | some id => simp [ids, named]

lemma isClientExists_iff : isClientExists id table = true ↔ id ∈ ids table := by
  simp [isClientExists, mem_ids]

@[simp] lemma clientId_newClient (data : Object) : clientId (newClient id data) = some id := rfl

@[simp] lemma clientId_withUserData (data : Object) :
    clientId (withUserData entry data) = clientId entry := by
  have other : "clientId" ≠ "userData" := by decide
  have object : (withUserData entry data).toObject =
      put entry.toObject "userData" (.object data) := rfl
  rw [clientId, clientId, object, contains_put_other _ _ _ _ other, Object.text, Object.text,
    value_put_other _ _ _ _ other]

@[simp] lemma userData_withUserData (data : Object) :
    userData (withUserData entry data) = data := by
  have object : (withUserData entry data).toObject =
      put entry.toObject "userData" (.object data) := rfl
  rw [userData, object, value_put_self]
  rfl

lemma ids_addClient (result : List Value × Nat) (id : String) :
    ids (addClient result id).1 =
      if id ∈ ids result.1 then ids result.1 else ids result.1 ++ [id] := by
  rw [addClient]
  by_cases held : id ∈ ids result.1
  · rw [if_pos held, if_pos ((isClientExists_iff id result.1).mpr held)]
  · rw [if_neg held, if_neg (fun exists' => held ((isClientExists_iff id result.1).mp exists'))]
    simp [ids]

lemma ids_addClients (result : List Value × Nat) (distinct : (ids result.1).Nodup) :
    (ids (found.foldl addClient result).1).Nodup ∧
      ∀ id ∈ ids (found.foldl addClient result).1, id ∈ ids result.1 ∨ id ∈ found := by
  induction found generalizing result with
  | nil => exact ⟨distinct, fun id member => Or.inl member⟩
  | cons first rest ih =>
    have next : (ids (addClient result first).1).Nodup := by
      rw [ids_addClient]
      split
      · exact distinct
      · next missing => exact List.nodup_append.mpr ⟨distinct, List.nodup_singleton first, by grind⟩
    obtain ⟨nodup, members⟩ := ih (addClient result first) next
    constructor
    · exact nodup
    · intro id member
      rcases members id member with earlier | later
      · rw [ids_addClient] at earlier
        grind
      · exact Or.inr (List.mem_cons_of_mem first later)

lemma ids_addFound (distinct : (ids table).Nodup) :
    (ids (addFound table found)).Nodup ∧
      ∀ id ∈ ids (addFound table found), id ∈ ids table ∨ id ∈ found :=
  ids_addClients found (table, 0) distinct

/-- Statistics are put under keys of their own. -/
lemma clientName_putTexts (fields : List (String × String))
    (others : ∀ field ∈ fields, "clientName" ≠ field.1) (object : Object) :
    (fields.foldl putText object).text "clientName" = object.text "clientName" := by
  induction fields generalizing object with
  | nil => rfl
  | cons field rest ih =>
    have kept : (putText object field).text "clientName" = object.text "clientName" := by
      rw [putText]
      split
      · rfl
      · rw [Object.text, Object.text,
          value_put_other _ _ _ _ (others field List.mem_cons_self)]
    rw [List.foldl_cons, ← kept]
    exact ih (fun later member => others later (List.mem_cons_of_mem field member)) _

lemma clientName_showData : clientName (showData entry data) = clientName entry := by
  rw [clientName, showData, userData_withUserData, clientName]
  apply clientName_putTexts
  simp

lemma clientId_showData : clientId (showData entry data) = clientId entry :=
  clientId_withUserData entry _

lemma summary_showClient : summary (showClient data table) = summary table := by
  induction table with
  | nil => rfl
  | cons entry rest ih =>
    rw [showClient]
    split
    · simp [summary, clientName_showData, clientId_showData]
    · simpa [summary] using ih

lemma summary_showAll (data : List WgShowData) (table : List Value) :
    summary (showAll data table) = summary table := by
  induction data generalizing table with
  | nil => rfl
  | cons first rest ih => exact (ih (showClient first table)).trans (summary_showClient first table)

lemma ids_renamed (clientName : String) (timeStamp : Option String) (table : List Value)
    (row : Nat) : ids (table.modify row (renamed clientName timeStamp)) = ids table := by
  induction table generalizing row with
  | nil => simp
  | cons entry rest ih =>
    cases row with
    | zero => simp [ids_cons, renamed]
    | succ row => rw [List.modify_succ_cons, ids_cons, ids_cons, ih]

lemma ids_eraseIdx_sublist (row : Nat) : (ids (table.eraseIdx row)).Sublist (ids table) :=
  (List.eraseIdx_sublist table row).filterMap clientId

/-- With distinct ids, that of a row leaves the table with the row. -/
lemma not_mem_ids_eraseIdx {table : List Value} (distinct : (ids table).Nodup) {row : Nat}
    {id : String} (own : (table[row]?).bind clientId = some id) :
    id ∉ ids (table.eraseIdx row) := by
  induction table generalizing row with
  | nil => simp at own
  | cons entry rest ih =>
    cases row with
    | zero =>
      have named : clientId entry = some id := by simpa using own
      rw [ids_cons, named] at distinct
      exact (List.nodup_cons.mp distinct).1
    | succ row =>
      have later : (rest[row]?).bind clientId = some id := by simpa using own
      obtain ⟨held, found, client⟩ := Option.bind_eq_some_iff.mp later
      have inRest : id ∈ ids rest :=
        (mem_ids id rest).mpr ⟨held, List.mem_of_getElem? found, client⟩
      rw [ids_cons, List.nodup_append] at distinct
      rw [List.eraseIdx_cons_succ, ids_cons, List.mem_append]
      rintro (first | member)
      · exact distinct.2.2 id first id inRest rfl
      · exact ih distinct.2.1 later member

/-! ## The tables agree -/

/-- Each id stands in the table once, and none of a revoked client does. -/
def Proper (table : List Value) (revoked : List String) : Prop :=
  (ids table).Nodup ∧ ∀ id ∈ revoked, id ∉ ids table

lemma proper_congr {table other : List Value} {revoked : List String}
    (same : summary table = summary other) :
    Proper table revoked ↔ Proper other revoked := by
  rw [Proper, Proper, ids_congr same]

def Consistent (s : State files) : Prop :=
  ∀ key, Proper (storedTable files (s.stored key)) (s.revoked key)

def Mirrored (key : Key) (s : State files) : Prop :=
  summary s.clientsTable = summary (storedTable files (s.stored key))

instance (key : Key) (s : State files) : Decidable (Mirrored key s) :=
  inferInstanceAs (Decidable (_ = _))

def Mirrors (s : State files) (call : Key × Operation) : Prop :=
  (perform s call).2 ≠ .downloadFailed →
    Mirrored call.1 (step s call) ∧
      ∀ id ∈ (step s call).revoked call.1,
        id ∉ ids (step s call).clientsTable ∧
          id ∉ ids (storedTable files ((step s call).stored call.1))

instance (s : State files) (call : Key × Operation) : Decidable (Mirrors s call) :=
  inferInstanceAs (Decidable (_ → _ ∧ _))

/-- No upload of the table fails. Without credentials nothing is read, so that
the table has to be in memory already. -/
def Updates (key : Key) (answers : UpdateAnswers) (s : State files) : Prop :=
  answers.uploaded = true ∧ (answers.admin = false → Mirrored key s)

instance (key : Key) (answers : UpdateAnswers) (s : State files) :
    Decidable (Updates key answers s) :=
  inferInstanceAs (Decidable (_ ∧ (_ → _)))

def removed (container : DockerContainer) (id : String) (answers : RevokeAnswers) : List String :=
  if container = .openVpn then certificateRemoval id answers
  else if container = .wireGuard || isAwgContainer container then
    (wireguardRemoval id answers).toOption.getD []
  else if container = .xray then (xrayRemoval id answers).toOption.getD []
  else []

/-- The upload of the table succeeds, a script that fails has not revoked the
certificate, and only the client of the row leaves the server. -/
def Revokes (key : Key) (row : Nat) (answers : RevokeAnswers) (s : State files) : Prop :=
  answers.tableUploaded = true ∧
    (key.container = .openVpn → answers.scriptSucceeds = false →
      answers.certificateRevoked = false) ∧
    ∀ id ∈ removed key.container (rowId row s) answers,
      (s.clientsTable[row]?).bind clientId = some id

instance (key : Key) (row : Nat) (answers : RevokeAnswers) (s : State files) :
    Decidable (Revokes key row answers s) :=
  inferInstanceAs (Decidable (_ ∧ _ ∧ _))

def RevokesLoaded (key : Key) (id : String) (answers : RevokeAnswers) (s : State files) : Prop :=
  ∀ row ∈ clientIndexById id s.clientsTable, Revokes key row answers s

instance (key : Key) (id : String) (answers : RevokeAnswers) (s : State files) :
    Decidable (RevokesLoaded key id answers s) :=
  inferInstanceAs (Decidable (∀ row ∈ _, _))

/-- The condition under which an operation keeps the tables equal. -/
def Safe (s : State files) (call : Key × Operation) : Prop :=
  match call.2 with
  | .updateClients answers => Updates call.1 answers s
  | .appendClient _ _ _ update uploaded => Updates call.1 update s ∧ uploaded = true
  | .renameClient _ _ _ _ uploaded => Mirrored call.1 s ∧ uploaded = true
  | .revokeIndex index _ answers => Mirrored call.1 s ∧ Revokes call.1 index.toNat answers s
  | .revokeConfig id update answers =>
    Updates call.1 update s ∧
      RevokesLoaded call.1 id answers (updateClients call.1 update s).1

instance decidableSafe (s : State files) : ∀ call : Key × Operation, Decidable (Safe s call)
  | (_, .updateClients _) => inferInstanceAs (Decidable (Updates _ _ s))
  | (_, .appendClient ..) => inferInstanceAs (Decidable (Updates _ _ s ∧ _))
  | (_, .renameClient ..) => inferInstanceAs (Decidable (Mirrored _ s ∧ _))
  | (_, .revokeIndex ..) => inferInstanceAs (Decidable (Mirrored _ s ∧ Revokes _ _ _ s))
  | (_, .revokeConfig ..) =>
    inferInstanceAs (Decidable (Updates _ _ s ∧ RevokesLoaded _ _ _ _))

structure Good (key : Key) (result : State files × Outcome) : Prop where
  consistent : Consistent result.1
  mirrored : result.2 ≠ .downloadFailed → Mirrored key result.1

lemma Good.mirrors {call : Key × Operation} (good : Good call.1 (perform s call)) :
    Mirrors s call := by
  intro returned
  have same := good.mirrored returned
  have gone := (good.consistent call.1).2
  constructor
  · exact same
  · intro id member
    have absent := gone id member
    exact ⟨ids_congr same ▸ absent, absent⟩

lemma storedTable_toJson : storedTable files (files.toJson table) = table := by
  cases table with
  | nil => simp [storedTable, migration, files.read, Value.toArray, Value.toObject]
  | cons first rest => simp [storedTable, files.read, Value.toArray]

lemma good_of_mirrored {outcome : Outcome} (consistent : Consistent s) (same : Mirrored key s) :
    Good key (s, outcome) :=
  ⟨consistent, fun _ => same⟩

lemma load_good {table : List Value} {outcome : Outcome} (consistent : Consistent s)
    (same : summary table = summary (storedTable files (s.stored key))) :
    Good key (s.load table, outcome) :=
  ⟨consistent, fun _ => same⟩

structure ChangedAt (key : Key) (s s' : State files) : Prop where
  stored : ∀ other, other ≠ key → s'.stored other = s.stored other
  revoked : ∀ other, other ≠ key → s'.revoked other = s.revoked other

lemma consistent_of_changedAt (changed : ChangedAt key s s') (consistent : Consistent s)
    (proper : Proper (storedTable files (s'.stored key)) (s'.revoked key)) : Consistent s' := by
  intro other
  by_cases same : other = key
  · rw [same]
    exact proper
  · rw [changed.stored other same, changed.revoked other same]
    exact consistent other

lemma ChangedAt.store (changed : ChangedAt key s s') (content : files.Content) :
    ChangedAt key s (s'.store key content) := by
  constructor
  · intro other different
    rw [← changed.stored other different]
    exact if_neg different
  · exact changed.revoked

lemma ChangedAt.load (changed : ChangedAt key s s') (table : List Value) :
    ChangedAt key s (s'.load table) :=
  ⟨changed.stored, changed.revoked⟩

lemma changedAt_refl (key : Key) (s : State files) : ChangedAt key s s :=
  ⟨fun _ _ => rfl, fun _ _ => rfl⟩

lemma changedAt_present (key : Key) (found : List String) (s : State files) :
    ChangedAt key s (s.present key found) :=
  ⟨fun _ _ => rfl, fun _ different => if_neg different⟩

lemma changedAt_revoke (key : Key) (removed : List String) (s : State files) :
    ChangedAt key s (s.revoke key removed) :=
  ⟨fun _ _ => rfl, fun _ different => if_neg different⟩

lemma store_self (key : Key) (content : files.Content) (s : State files) :
    (s.store key content).stored key = content := if_pos rfl

/-- A table is uploaded that has the ids and names of the one in memory. -/
lemma store_good {table shown : List Value} {outcome : Outcome} (changed : ChangedAt key s s')
    (consistent : Consistent s) (proper : Proper table (s'.revoked key))
    (same : summary shown = summary table) :
    Good key ((s'.store key (files.toJson table)).load shown, outcome) := by
  have read : storedTable files ((s'.store key (files.toJson table)).stored key) = table := by
    rw [store_self, storedTable_toJson]
  constructor
  · apply consistent_of_changedAt (changed.store (files.toJson table)) consistent
    rw [read]
    exact proper
  · intro _
    exact same.trans (congrArg summary read.symm)

lemma uploadTable_good (changed : ChangedAt key s s') (consistent : Consistent s)
    (proper : Proper s'.clientsTable (s'.revoked key)) : Good key (uploadTable key true s') :=
  store_good changed consistent proper rfl

/-! ## Each operation -/

lemma present_consistent {found : List String} {s : State files} (consistent : Consistent s) :
    Consistent (s.present key found) := by
  apply consistent_of_changedAt (changedAt_present key found s) consistent
  constructor
  · exact (consistent key).1
  · intro id member
    exact (consistent key).2 id (State.mem_revoked_present.mp member).1

lemma updateFrom_good {answers : UpdateAnswers} {s : State files} (consistent : Consistent s)
    (uploaded : answers.uploaded = true)
    (empty : (files.fromJson (s.stored key)).toArray.isEmpty = true) (result : Scan) :
    Good key (updateFrom key answers s result) := by
  have migrated : storedTable files (s.stored key) = migration files (s.stored key) := by
    simp [storedTable, empty]
  have before : Proper (migration files (s.stored key)) (s.revoked key) :=
    migrated ▸ consistent key
  cases result with
  | failed => exact load_good consistent (congrArg summary migrated.symm)
  | downloadFailed found =>
    constructor
    · exact present_consistent consistent
    · intro returned
      exact absurd rfl returned
  | listed found =>
    -- a client in the new table was in the old one or is one that was found
    have added := ids_addFound (migration files (s.stored key)) found before.1
    have proper : Proper (addFound (migration files (s.stored key)) found)
        ((s.present key found).revoked key) := by
      constructor
      · exact added.1
      · intro id member held
        obtain ⟨wasRevoked, missing⟩ := State.mem_revoked_present.mp member
        rcases added.2 id held with old | new
        · exact before.2 id wasRevoked old
        · exact missing new
    have shown := summary_showAll (shownData key.container answers.wgShow)
      (addFound (migration files (s.stored key)) found)
    simp only [updateFrom]
    split
    · next same =>
      -- the file already has the new table
      have written : s.stored key =
          files.toJson (addFound (migration files (s.stored key)) found) :=
        files.same_eq _ _ same
      have read : storedTable files (s.stored key) =
          addFound (migration files (s.stored key)) found := by
        conv => lhs; rw [written]
        exact storedTable_toJson _
      exact load_good (present_consistent consistent) (shown.trans (congrArg summary read.symm))
    · exact store_good (changedAt_present key found s) consistent proper shown

lemma updateClients_good {answers : UpdateAnswers} {s : State files} (consistent : Consistent s)
    (safe : Updates key answers s) : Good key (updateClients key answers s) := by
  obtain ⟨uploaded, loaded⟩ := safe
  simp only [updateClients]
  split
  · next unknown => exact good_of_mirrored consistent (loaded (by simpa using unknown))
  · split
    · exact ⟨consistent, fun returned => absurd rfl returned⟩
    · split
      · next empty => exact updateFrom_good consistent uploaded empty _
      · next filled =>
        have read : storedTable files (s.stored key) =
            (files.fromJson (s.stored key)).toArray := by
          simp [storedTable, filled]
        exact load_good consistent ((summary_showAll _ _).trans (congrArg summary read.symm))

/-- The table in memory is proper when it mirrors the file. -/
lemma memory_proper (consistent : Consistent s) (same : Mirrored key s) :
    Proper s.clientsTable (s.revoked key) :=
  (proper_congr same).mpr (consistent key)

lemma renameClient_good {row : Int} {clientName : String} {timeStamp : Option String}
    {admin : Bool} {s : State files} (consistent : Consistent s) (same : Mirrored key s) :
    Good key (renameClient key row clientName timeStamp admin true s) := by
  rw [renameClient]
  split
  · exact good_of_mirrored consistent same
  · split
    · exact good_of_mirrored consistent same
    · apply uploadTable_good ((changedAt_refl key s).load _) consistent
      rw [Proper, State.load, ids_renamed]
      exact memory_proper consistent same

lemma clientIndexById_none {id : String} {table : List Value}
    (missing : clientIndexById id table = none) : id ∉ ids table := by
  intro member
  obtain ⟨entry, held, named⟩ := (mem_ids id table).mp member
  have different := List.findIdx?_eq_none_iff.mp missing entry held
  simp [named] at different

lemma appendLoaded_good {id clientName creationDate : String} {s : State files}
    (consistent : Consistent s) (same : Mirrored key s) :
    Good key (appendLoaded key id clientName creationDate true s) := by
  have memory := memory_proper consistent same
  rw [appendLoaded]
  split
  · exact renameClient_good consistent same
  · next missing =>
    have absent := clientIndexById_none missing
    apply uploadTable_good ((changedAt_present key [id] s).load _) consistent
    have appended (data : Object) :
        ids (s.clientsTable ++ [newClient id data]) = ids s.clientsTable ++ [id] := by
      simp [ids]
    rw [State.load, Proper, appended]
    constructor
    · rw [List.nodup_append]
      exact ⟨memory.1, List.nodup_singleton id, by grind⟩
    · intro other member
      obtain ⟨wasRevoked, different⟩ := State.mem_revoked_present.mp member
      rw [List.mem_append]
      rintro (old | new)
      · exact memory.2 other wasRevoked old
      · exact different new

lemma afterUpdate_good {next : State files → State files × Outcome}
    {updated : State files × Outcome} (good : Good key updated)
    (continued : Mirrored key updated.1 → Good key (next updated.1)) :
    Good key (afterUpdate next updated) := by
  rw [afterUpdate]
  split
  · next succeeded =>
    apply continued
    apply good.mirrored
    rw [succeeded]
    intro other
    cases other
  · exact good

/-! ## Revokes -/

lemma dropRow_good {uploaded : Bool} {removed : List String} {s : State files}
    (consistent : Consistent s) (same : Mirrored key s) (succeeds : uploaded = true)
    (own : ∀ id ∈ removed, (s.clientsTable[row]?).bind clientId = some id) :
    Good key (dropRow key row uploaded removed s) := by
  subst succeeds
  have memory := memory_proper consistent same
  apply uploadTable_good ((changedAt_revoke key removed s).load _) consistent
  constructor
  · exact memory.1.sublist (ids_eraseIdx_sublist s.clientsTable row)
  · -- the client of the row, which goes with it, or one revoked before
    intro id member
    rcases State.mem_revoked_revoke.mp member with now | before
    · exact not_mem_ids_eraseIdx memory.1 (own id now)
    · intro held
      exact memory.2 id before ((ids_eraseIdx_sublist s.clientsTable row).subset held)

/-- What the script returns does not matter for the tables. -/
lemma Good.outcome {result : State files × Outcome} {outcome : Outcome} (good : Good key result)
    (returned : result.2 ≠ .downloadFailed) : Good key (result.1, outcome) :=
  ⟨good.consistent, fun _ => good.mirrored returned⟩

lemma dropRow_returned (key : Key) (row : Nat) (uploaded : Bool) (removed : List String)
    (s : State files) : (dropRow key row uploaded removed s).2 ≠ .downloadFailed := by
  rw [dropRow, uploadTable]
  split
  · intro other
    cases other
  · intro other
    cases other

lemma revoke_nothing (key : Key) (s : State files) : s.revoke key [] = s := by
  have same : (s.revoke key []).revoked = s.revoked := by
    funext other
    by_cases here : other = key
    · simp [State.revoke, here]
    · simp [State.revoke, here]
  cases s
  simp_all [State.revoke]

section

variable {s : State files} (consistent : Consistent s) (same : Mirrored key s)

include consistent same

lemma revokeOpenVpn_good (uploaded : answers.tableUploaded = true)
    (whole : answers.scriptSucceeds = false → answers.certificateRevoked = false)
    (own : ∀ id ∈ certificateRemoval (rowId row s) answers,
      (s.clientsTable[row]?).bind clientId = some id) :
    Good key (revokeOpenVpn key row answers s) := by
  simp only [revokeOpenVpn]
  split
  · next fails =>
    have untouched : certificateRemoval (rowId row s) answers = [] := by
      rw [certificateRemoval, whole (by simpa using fails)]
      rfl
    rw [untouched, revoke_nothing]
    exact good_of_mirrored consistent same
  · exact dropRow_good consistent same uploaded own

lemma revokeWireGuard_good (uploaded : answers.tableUploaded = true)
    (own : ∀ id ∈ (wireguardRemoval (rowId row s) answers).toOption.getD [],
      (s.clientsTable[row]?).bind clientId = some id) :
    Good key (revokeWireGuard key row answers s) := by
  rw [revokeWireGuard]
  cases removal : wireguardRemoval (rowId row s) answers with
  | error outcome => exact good_of_mirrored consistent same
  | ok removed =>
    rw [removal] at own
    have good := dropRow_good consistent same uploaded own
    dsimp only
    split
    · exact good
    · exact good.outcome (dropRow_returned key row _ removed s)

lemma revokeXray_good (uploaded : answers.tableUploaded = true)
    (own : ∀ id ∈ (xrayRemoval (rowId row s) answers).toOption.getD [],
      (s.clientsTable[row]?).bind clientId = some id) :
    Good key (revokeXray key row answers s) := by
  rw [revokeXray]
  cases removal : xrayRemoval (rowId row s) answers with
  | error outcome => exact good_of_mirrored consistent same
  | ok removed =>
    rw [removal] at own
    have good := dropRow_good consistent same uploaded own
    exact good.outcome (dropRow_returned key row _ removed s)

lemma revokeRow_good (safe : Revokes key row answers s) : Good key (revokeRow key row answers s) := by
  obtain ⟨uploaded, whole, own⟩ := safe
  rw [revokeRow]
  rw [removed] at own
  split
  · next openVpn =>
    rw [if_pos openVpn] at own
    exact revokeOpenVpn_good consistent same uploaded (whole openVpn) own
  · next notOpenVpn =>
    rw [if_neg notOpenVpn] at own
    split
    · next wireGuard =>
      rw [if_pos wireGuard] at own
      exact revokeWireGuard_good consistent same uploaded own
    · next notWireGuard =>
      rw [if_neg notWireGuard] at own
      split
      · next xray =>
        rw [if_pos xray] at own
        exact revokeXray_good consistent same uploaded own
      · exact good_of_mirrored consistent same

end

lemma revokeIndex_good {index : Int} {admin : Bool} {answers : RevokeAnswers} {s : State files}
    (consistent : Consistent s) (same : Mirrored key s) (safe : Revokes key index.toNat answers s) :
    Good key (revokeIndex key index admin answers s) := by
  rw [revokeIndex]
  split
  · exact good_of_mirrored consistent same
  · split
    · exact good_of_mirrored consistent same
    · exact revokeRow_good consistent same safe

lemma revokeLoaded_good {id : String} {answers : RevokeAnswers} {s : State files}
    (consistent : Consistent s) (same : Mirrored key s) (safe : RevokesLoaded key id answers s) :
    Good key (revokeLoaded key id answers s) := by
  rw [revokeLoaded]
  split
  · split
    · next row found => exact revokeRow_good consistent same (safe row found)
    · exact good_of_mirrored consistent same
  · exact good_of_mirrored consistent same

/-! ## Runs -/

lemma perform_good {call : Key × Operation} (consistent : Consistent s) (safe : Safe s call) :
    Good call.1 (perform s call) := by
  obtain ⟨key, operation⟩ := call
  cases operation with
  | updateClients answers => exact updateClients_good consistent safe
  | appendClient id clientName creationDate update uploaded =>
    obtain ⟨updates, rfl⟩ := safe
    have good := updateClients_good consistent updates
    simp only [perform, appendClient]
    split
    · next unknown => exact good_of_mirrored consistent (updates.2 (by simpa using unknown))
    · exact afterUpdate_good good fun same => appendLoaded_good good.consistent same
  | renameClient row clientName timeStamp admin uploaded =>
    obtain ⟨same, rfl⟩ := safe
    exact renameClient_good consistent same
  | revokeIndex index admin answers => exact revokeIndex_good consistent safe.1 safe.2
  | revokeConfig id update answers =>
    obtain ⟨updates, revokes⟩ := safe
    have good := updateClients_good consistent updates
    simp only [perform, revokeConfig]
    split
    · next unknown => exact good_of_mirrored consistent (updates.2 (by simpa using unknown))
    · exact afterUpdate_good good fun same => revokeLoaded_good good.consistent same revokes

/-- In a run of safe operations, each one that returns from anything but a
failed download leaves the ids and names of the file in memory, and no revoked
client in either table. -/
theorem clients_mirrored (start : State files) (consistent : Consistent start)
    (calls : List (Key × Operation)) (safe : Runs.Guarded step Safe start calls) :
    Runs.Guarded step Mirrors start calls := by
  -- every safe call keeps the state consistent
  induction calls generalizing start with
  | nil => trivial
  | cons call rest ih =>
    have good := perform_good consistent safe.1
    exact ⟨good.mirrors, ih (step start call) good.consistent safe.2⟩

end Table

def valueFiles : TableFiles where
  Content := Value
  toJson := .array
  fromJson := id
  same _ _ := false
  read _ := rfl
  same_eq _ _ never := Bool.noConfusion never

def xrayServer : Key := ⟨"server", .xray⟩

def configWith (clients : List Value) : Value :=
  .object [("inbounds", .array [.object [("settings", .object [("clients", .array clients)])]])]

def phoneUpdate : UpdateAnswers where
  admin := true
  tableRead := true
  scan := ⟨none, none, some (some (configWith [])), fun _ => "", fun _ => true⟩
  uploaded := true
  wgShow := []

def phoneRevoke (tableUploaded : Bool) : RevokeAnswers where
  certificateRevoked := false
  wireguardConfig := none
  xrayConfig := some (some (configWith [.object [("id", .string "phone")]]))
  configUploaded := true
  tableUploaded := tableUploaded
  scriptSucceeds := true

def newServer : State valueFiles := ⟨[], fun _ => .null, fun _ => []⟩

def lifeOfPhone : List (Key × Operation) :=
  [(xrayServer, .updateClients phoneUpdate),
    (xrayServer, .appendClient "phone" "Phone" "today" phoneUpdate true),
    (xrayServer, .renameClient 0 "Old phone" none true true),
    (xrayServer, .revokeConfig "phone" phoneUpdate (phoneRevoke true))]

lemma newServer_consistent : Consistent newServer := by
  intro key
  constructor
  · exact List.nodup_nil
  · intro id member
    cases member

/-- A client that is added, renamed and revoked without an error. -/
theorem phone_mirrored :
    Runs.Guarded step Safe newServer lifeOfPhone ∧
      Runs.Guarded step Mirrors newServer lifeOfPhone :=
  have safe : Runs.Guarded step Safe newServer lifeOfPhone := by decide
  ⟨safe, clients_mirrored newServer newServer_consistent lifeOfPhone safe⟩

def phone : Value := newClient "phone" [("clientName", .string "Phone")]

def onePhone : State valueFiles := ⟨[phone], fun _ => .array [phone], fun _ => []⟩

/-- A name stays in memory after its upload failed, and a revoked client of Xray
stays in the file while the revoke reports no error. -/
theorem failed_upload_kept :
    let renamed : Key × Operation := (xrayServer, .renameClient 0 "New phone" none true false)
    let revoked : Key × Operation := (xrayServer, .revokeIndex 0 true (phoneRevoke false))
    Consistent onePhone ∧ Mirrored xrayServer onePhone ∧
      ¬ Runs.Guarded step Mirrors onePhone [renamed] ∧
      (perform onePhone revoked).2 = .noError ∧
      ¬ Runs.Guarded step Mirrors onePhone [revoked] := by
  have consistent : Consistent onePhone := by
    intro key
    constructor
    · exact List.nodup_singleton "phone"
    · intro id member
      cases member
  exact ⟨consistent, by decide, by decide, by decide, by decide⟩

end AbstractumVpn.UsersController
