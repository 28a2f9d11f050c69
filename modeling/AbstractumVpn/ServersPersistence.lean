import AbstractumVpn.ServersConsistency

/-!
What the repository reads back. `syncToStorage` writes every server with its id.
Ids that loading has to make up are not written until the next change of the
list, so until then every load makes up others.
-/

namespace AbstractumVpn.ServersRepository

open Runs

variable (uuid : Nat → String)

def Proper (id : String) : Prop := trimmed id = id ∧ id ≠ ""

instance (id : String) : Decidable (Proper id) := inferInstanceAs (Decidable (_ ∧ _))

def storedId (entry : Json.Value) : String := readStorageServerId entry.toObject

structure Owned (entries : List Json.Value) : Prop where
  named : ∀ entry ∈ entries, storedId entry ≠ ""
  distinct : (entries.map storedId).Nodup

lemma trimmed_idempotent (text : String) : trimmed (trimmed text) = trimmed text := by
  simp [trimmed, QtText.trimmed_trimmed]

variable (s : State)

lemma normalized_own (candidate : String) (named : trimmed candidate ≠ "")
    (free : contains s (trimmed candidate) = false) :
    normalizedOrGeneratedServerId uuid s candidate = (trimmed candidate, s.uuids) := by
  have filled : (trimmed candidate).isEmpty = false := by simpa using named
  simp [normalizedOrGeneratedServerId, filled, free]

lemma normalized_proper (proper : ∀ n, Proper (uuid n)) (s : State) (candidate : String) :
    Proper (normalizedOrGeneratedServerId uuid s candidate).1 := by
  unfold normalizedOrGeneratedServerId
  dsimp only
  split_ifs with own
  · simp only [Bool.and_eq_true] at own
    exact ⟨trimmed_idempotent candidate, by simpa using own.1⟩
  · exact proper s.uuids

lemma proper_append {ids : List String} {id : String} (proper : ∀ id ∈ ids, Proper id)
    (own : Proper id) : ∀ other ∈ ids ++ [id], Proper other := by
  intro other member
  rcases List.mem_append.mp member with earlier | last
  · exact proper other earlier
  · rw [List.mem_singleton.mp last]
    exact own

lemma storedId_embedded (id : String) (json : Json.Object)
    (embedded : embedStorageServerId id (withoutStorageServerId json) = json) :
    storedId (.object json) = trimmed id := by
  rw [storedId, ← embedded]
  simp [readStorageServerId, Json.Value.toObject, embedStorageServerId, Json.Object.insert,
    Json.Object.value, Json.Value.toString, Json.Value.toString?]

lemma loadEntry_own (entry : Json.Value) (keyed : Keyed s) (named : storedId entry ≠ "")
    (free : storedId entry ∉ s.orderedServerIds) :
    (loadEntry uuid s entry).orderedServerIds = s.orderedServerIds ++ [storedId entry] := by
  have absent : contains s (storedId entry) = false := by
    by_contra held
    exact free ((keyed.keys _).mp (by simpa using held))
  have same : trimmed (storedId entry) = storedId entry := trimmed_idempotent _
  have own := normalized_own uuid s (storedId entry) (by rwa [same]) (by rwa [same])
  rw [same] at own
  obtain ⟨id, uuids, chosen, outcome⟩ := loadEntry_cases uuid s entry
  obtain ⟨rfl, -⟩ := Prod.mk.inj (chosen.symm.trans own)
  rcases outcome with ⟨held, -⟩ | ⟨-, taken⟩
  · rw [absent] at held
    cases held
  · rw [taken]

lemma load_owned (entries : List Json.Value) (s : State) (keyed : Keyed s) (owned : Owned entries)
    (free : ∀ entry ∈ entries, storedId entry ∉ s.orderedServerIds) :
    (entries.foldl (loadEntry uuid) s).orderedServerIds =
      s.orderedServerIds ++ entries.map storedId := by
  induction entries generalizing s with
  | nil => simp
  | cons entry rest ih =>
    obtain ⟨first, later⟩ := List.nodup_cons.mp owned.distinct
    have grown := loadEntry_own uuid s entry keyed (owned.named entry List.mem_cons_self)
      (free entry List.mem_cons_self)
    have rest_owned : Owned rest :=
      ⟨fun other member => owned.named other (List.mem_cons_of_mem entry member), later⟩
    rw [List.foldl_cons, ih _ (loadEntry_keyed uuid s entry keyed) rest_owned ?_, grown]
    · simp
    · intro other member
      rw [grown, List.mem_append, List.mem_singleton]
      rintro (held | same)
      · exact free other (List.mem_cons_of_mem entry member) held
      · exact first (same ▸ List.mem_map_of_mem member)

def readDefault (storage : Storage) (ids : List String) : String :=
  storedDefault storage (fun id => decide (id ∈ ids)) ids

structure Backed (s : State) : Prop where
  consistent : Consistent s
  proper : ∀ id ∈ s.orderedServerIds, Proper id
  ids : Owned s.storage.serversList → s.storage.serversList.map storedId = s.orderedServerIds
  default : Owned s.storage.serversList →
    readDefault s.storage s.orderedServerIds = s.defaultServerId

lemma load_ids (owned : Owned s.storage.serversList) :
    (loadFromStorage uuid s).orderedServerIds = s.storage.serversList.map storedId :=
  load_owned uuid s.storage.serversList (clearServerStateMaps s) (clear_keyed s) owned
    (by simp [clearServerStateMaps])

lemma load_storage : (loadFromStorage uuid s).storage = s.storage := by
  refine load_kept uuid (fun t => t.storage = s.storage) (fun t entry same => ?_) s rfl
  obtain ⟨id, uuids, -, ⟨-, skipped⟩ | ⟨-, taken⟩⟩ := loadEntry_cases uuid t entry
  · rw [skipped]
    exact same
  · rw [taken]
    exact same

lemma load_default :
    (loadFromStorage uuid s).defaultServerId =
      readDefault s.storage (loadFromStorage uuid s).orderedServerIds := by
  have keyed := (load_consistent uuid s).keyed
  have same : contains (loadFromStorage uuid s) =
      fun id => decide (id ∈ (loadFromStorage uuid s).orderedServerIds) := by
    funext id
    rw [Bool.eq_iff_iff, keyed.keys id, decide_eq_true_iff]
  rw [readDefault, ← same, ← load_storage uuid s]
  rfl

lemma load_proper (proper : ∀ n, Proper (uuid n)) (s : State) :
    ∀ id ∈ (loadFromStorage uuid s).orderedServerIds, Proper id := by
  refine load_kept uuid (fun t => ∀ id ∈ t.orderedServerIds, Proper id)
    (fun t entry held => ?_) s (by simp [clearServerStateMaps])
  obtain ⟨id, uuids, chosen, ⟨-, skipped⟩ | ⟨-, taken⟩⟩ := loadEntry_cases uuid t entry
  · rw [skipped]
    exact held
  · have own := normalized_proper uuid proper t (readStorageServerId entry.toObject)
    rw [chosen] at own
    rw [taken]
    exact proper_append held own

lemma load_backed (proper : ∀ n, Proper (uuid n)) (s : State) :
    Backed (loadFromStorage uuid s) where
  consistent := load_consistent uuid s
  proper := load_proper uuid proper s
  ids owned := by
    rw [load_storage] at owned ⊢
    exact (load_ids uuid s owned).symm
  default _ := by
    rw [load_storage]
    exact (load_default uuid s).symm

lemma persist_backed (keyed : Keyed s) (proper : ∀ id ∈ s.orderedServerIds, Proper id)
    (ids : Owned s.storage.serversList → s.storage.serversList.map storedId = s.orderedServerIds) :
    Backed (persistDefaultServerFields s) where
  consistent := persist_consistent s keyed
  proper := proper
  ids := ids
  default _ := by
    have listed := (persist_consistent s keyed).default
    have written : (persistDefaultServerFields s).storage.defaultServerId =
        (persistDefaultServerFields s).defaultServerId := rfl
    have same : (persistDefaultServerFields s).orderedServerIds = s.orderedServerIds := rfl
    generalize persistDefaultServerFields s = after at listed written same
    rw [readDefault, storedDefault, written]
    cases ids : after.orderedServerIds with
    | nil =>
      have cleared := listed.2 ids
      simp only [cleared]
      rw [if_neg (by simp), if_neg (by simp)]
      rfl
    | cons id rest =>
      have member := listed.1 (by simp [ids])
      have filled : after.defaultServerId.isEmpty = false := by
        simpa using (proper _ (same ▸ member)).2
      rw [ids] at member
      simp [filled, List.mem_cons.mp member]

lemma sync_ids (keyed : Keyed s) (proper : ∀ id ∈ s.orderedServerIds, Proper id) :
    (syncToStorage s).storage.serversList.map storedId = s.orderedServerIds := by
  have written : ∀ id ∈ s.orderedServerIds,
      ((s.serverJsonById id).map Json.Value.object).map storedId = some id := by
    intro id member
    have held := (keyed.keys id).mpr member
    obtain ⟨json, found⟩ := Option.isSome_iff_exists.mp held
    rw [found]
    simp [storedId_embedded id json (keyed.embedded id json found),
      (proper id member).1]
  have list : (syncToStorage s).storage.serversList =
      s.orderedServerIds.filterMap fun id => (s.serverJsonById id).map Json.Value.object := rfl
  rw [list, List.map_filterMap, List.filterMap_congr written, List.filterMap_some]

lemma owned_of_ids {entries : List Json.Value} {ids : List String}
    (same : entries.map storedId = ids) (distinct : ids.Nodup) (proper : ∀ id ∈ ids, Proper id) :
    Owned entries where
  named _ member := (proper _ (same ▸ List.mem_map_of_mem member)).2
  distinct := same ▸ distinct

lemma sync_backed (keyed : Keyed s) (proper : ∀ id ∈ s.orderedServerIds, Proper id) :
    Backed (syncToStorage s) ∧ Owned (syncToStorage s).storage.serversList := by
  have ids := sync_ids s keyed proper
  exact ⟨persist_backed _ (keyed.of_same rfl rfl) proper fun _ => ids,
    owned_of_ids ids keyed.distinct proper⟩

def writes (s : State) : Call → Bool
  | .addServer serverId json kind =>
    !contains s (normalizedOrGeneratedServerId uuid s serverId).1 && kind != .invalid &&
      configTypeFromJson (withoutStorageServerId json) == kind
  | .editServer serverId json kind =>
    decide (serverId ∈ s.orderedServerIds) && kind != .invalid &&
      configTypeFromJson (withoutStorageServerId json) == kind
  | .removeServer serverId => decide (serverId ∈ s.orderedServerIds)
  | .clearServers => true
  | .setDefaultServer _ | .invalidateCache => false

/-- A step leaves the settings readable, and the list in them has its own ids
once it had them or is written. -/
def Kept (s after : State) (written : Bool) : Prop :=
  Backed after ∧ (Owned s.storage.serversList ∨ written = true → Owned after.storage.serversList)

lemma kept_written {s after : State} (keyed : Keyed after)
    (proper : ∀ id ∈ after.orderedServerIds, Proper id) (written : Bool) :
    Kept s (syncToStorage after) written :=
  ⟨(sync_backed after keyed proper).1, fun _ => (sync_backed after keyed proper).2⟩

lemma kept_unwritten {s after : State} (backed : Backed after)
    (same : after.storage.serversList = s.storage.serversList) : Kept s after false :=
  ⟨backed, fun owned => by simpa [same] using owned⟩

lemma add_kept (proper : ∀ n, Proper (uuid n)) (s : State) (backed : Backed s)
    (serverId : String) (json : Json.Object) (kind : ConfigType) :
    Kept s (addServer uuid s serverId json kind).1 (writes uuid s (.addServer serverId json kind)) := by
  have keyed := backed.consistent.keyed
  have own := normalized_proper uuid proper s serverId
  obtain ⟨id, uuids, chosen, ⟨reason, refused⟩ | ⟨fresh, defaultServerId, added⟩⟩ :=
    add_cases uuid s serverId json kind
  · have unwritten : writes uuid s (.addServer serverId json kind) = false := by
      simp only [writes]
      grind
    rw [refused, unwritten]
    exact kept_unwritten ⟨⟨keyed.of_same rfl rfl, backed.consistent.default⟩, backed.proper,
      backed.ids, backed.default⟩ rfl
  · rw [chosen] at own
    rw [added]
    have grown := keyed.append id (withoutStorageServerId json) fresh
    refine kept_written ?_ (proper_append backed.proper own) _
    exact grown.of_same rfl rfl

lemma edit_kept (backed : Backed s) (serverId : String) (json : Json.Object) (kind : ConfigType) :
    Kept s (editServer s serverId json kind) (writes uuid s (.editServer serverId json kind)) := by
  have keyed := backed.consistent.keyed
  by_cases refused : serverId ∉ s.orderedServerIds ∨ kind = .invalid ∨
      configTypeFromJson (withoutStorageServerId json) ≠ kind
  · rw [edit_refused s keyed serverId json kind refused]
    have unwritten : writes uuid s (.editServer serverId json kind) = false := by
      simp only [writes]
      grind
    rw [unwritten]
    exact kept_unwritten backed rfl
  · simp only [not_or, not_not] at refused
    obtain ⟨listed, valid, same⟩ := refused
    obtain ⟨old, found⟩ := Option.isSome_iff_exists.mp ((keyed.keys serverId).mpr listed)
    have body : editServer s serverId json kind = syncToStorage (putServer
        { s with serverJsonById := Function.update s.serverJsonById serverId none } serverId
        (withoutStorageServerId json)) := by
      unfold editServer
      rw [if_neg (by simp [listed, valid]), found]
      simp [same]
    rw [body]
    exact kept_written (keyed.replace serverId _ listed) backed.proper _

lemma remove_kept (backed : Backed s) (serverId : String) :
    Kept s (removeServer s serverId) (writes uuid s (.removeServer serverId)) := by
  have keyed := backed.consistent.keyed
  unfold removeServer
  by_cases listed : serverId ∈ s.orderedServerIds
  · have known := (keyed.keys serverId).mpr listed
    rw [if_neg (by simp [listed, known])]
    refine kept_written (keyed.erase serverId _) ?_ _
    intro id member
    exact backed.proper id (List.mem_of_mem_eraseIdx member)
  · simpa [writes, listed] using kept_unwritten (s := s) backed rfl

lemma set_default_kept (backed : Backed s) (serverId : String) :
    Kept s (setDefaultServer s serverId) false := by
  unfold setDefaultServer
  split_ifs with refused
  · exact kept_unwritten backed rfl
  · exact kept_unwritten
      (persist_backed _ (backed.consistent.keyed.of_same rfl rfl) backed.proper backed.ids) rfl

lemma step_kept (proper : ∀ n, Proper (uuid n)) (s : State) (backed : Backed s) (call : Call) :
    Kept s (step uuid s call) (writes uuid s call) := by
  cases call with
  | addServer serverId json kind => exact add_kept uuid proper s backed serverId json kind
  | editServer serverId json kind => exact edit_kept uuid s backed serverId json kind
  | removeServer serverId => exact remove_kept uuid s backed serverId
  | clearServers =>
    exact kept_written ((clear_keyed s).of_same rfl rfl) (by simp [clearServerStateMaps]) true
  | setDefaultServer serverId => exact set_default_kept s backed serverId
  | invalidateCache =>
    exact kept_unwritten (load_backed uuid proper s)
      (congrArg Storage.serversList (load_storage uuid s))

lemma created_backed (proper : ∀ n, Proper (uuid n)) (storage : Storage) :
    Backed (created uuid storage) := by
  have loaded := load_backed uuid proper
    { storage, serverJsonById := fun _ => none, orderedServerIds := [], defaultServerId := ""
      uuids := 0 }
  exact persist_backed _ loaded.consistent.keyed loaded.proper loaded.ids

lemma run_owned (proper : ∀ n, Proper (uuid n)) (calls : List Call) (s : State)
    (backed : Backed s) (owned : Owned s.storage.serversList) :
    Owned (run (step uuid) s calls).storage.serversList := by
  induction calls generalizing s with
  | nil => exact owned
  | cons call rest ih =>
    have kept := step_kept uuid proper s backed call
    exact ih _ kept.1 (kept.2 (Or.inl owned))

lemma run_backed (proper : ∀ n, Proper (uuid n)) (storage : Storage) (calls : List Call) :
    Backed (run (step uuid) (created uuid storage) calls) :=
  run_invariant (fun s call backed => (step_kept uuid proper s backed call).1) _ calls
    (created_backed uuid proper storage)

/-- From the first write of the list on, and from the start when the stored
servers all have ids of their own, a load gives back the servers in memory. -/
theorem reload_restores_servers (proper : ∀ n, Proper (uuid n)) (storage : Storage)
    (calls : List Call)
    (written : Owned storage.serversList ∨ ∃ front call back, calls = front ++ call :: back ∧
      writes uuid (run (step uuid) (created uuid storage) front) call = true)
    (again : Nat → String) :
    let s := run (step uuid) (created uuid storage) calls
    (loadFromStorage again s).orderedServerIds = s.orderedServerIds ∧
      (loadFromStorage again s).defaultServerId = s.defaultServerId := by
  intro s
  have backed : Backed s := run_backed uuid proper storage calls
  have owned : Owned s.storage.serversList := by
    rcases written with start | ⟨front, call, back, split, writes⟩
    · refine run_owned uuid proper calls _ (created_backed uuid proper storage) ?_
      -- creating the repository writes the default server only
      have same := congrArg Storage.serversList (load_storage uuid
        { storage, serverJsonById := fun _ => none, orderedServerIds := [], defaultServerId := ""
          uuids := 0 })
      exact same ▸ start
    · have kept := step_kept uuid proper _ (run_backed uuid proper storage front) call
      have after := run_owned uuid proper back _ kept.1 (kept.2 (Or.inr writes))
      have whole : s = run (step uuid)
          (step uuid (run (step uuid) (created uuid storage) front) call) back := by
        simp [s, split]
      rwa [whole]
  have ids := (load_ids again s owned).trans (backed.ids owned)
  exact ⟨ids, by rw [load_default, ids, backed.default owned]⟩

def someUuids (n : Nat) : String :=
  if n = 0 then "5a1c2f60-3b1e-4c0e-9d55-0f4f5f0c9a01" else "c7d0b7b2-91f4-4f2b-8a39-6f1f0d1e2b02"

def legacyStored : Storage := ⟨[.object [("hostName", .string "203.0.113.5")]], "", 0⟩

def addCall : Call :=
  .addServer "b" [("hostName", .string "203.0.113.6")] .selfHostedUser

def changes : List Call :=
  [.setDefaultServer "b", .editServer (someUuids 0) [("hostName", .string "203.0.113.7")] .selfHostedUser]

/-- A server stored without an id, then a second one is added and made the default,
and the first one is edited. -/
theorem changed_servers_restored :
    let s := run (step someUuids) (created someUuids legacyStored) (addCall :: changes)
    let reloaded := loadFromStorage (fun n => someUuids (n + 1)) s
    (reloaded.orderedServerIds = [someUuids 0, "b"] ∧ reloaded.defaultServerId = "b") ∧
      reloaded.orderedServerIds = s.orderedServerIds ∧
      reloaded.defaultServerId = s.defaultServerId := by
  have proper : ∀ n, Proper (someUuids n) := by
    intro n
    unfold someUuids
    split_ifs <;> decide
  have restored := reload_restores_servers someUuids proper legacyStored (addCall :: changes)
    (Or.inr ⟨[], addCall, changes, rfl, by decide⟩) (fun n => someUuids (n + 1))
  exact ⟨by decide +kernel, restored⟩

/-- A server stored without an id gets another one with every load. -/
theorem legacy_ids_change :
    let s := created someUuids legacyStored
    (loadFromStorage someUuids s).orderedServerIds ≠ s.orderedServerIds ∧
      (loadFromStorage someUuids s).defaultServerId ≠ s.defaultServerId := by
  decide

end AbstractumVpn.ServersRepository
