import AbstractumVpn.ServersRepository

/-!
The order list, the id map and the default server fit together in every state of
the repository, whatever the settings held when it was created. `Keyed` is the
part about the list and the map.
-/

namespace AbstractumVpn.ServersRepository

open Runs

variable (uuid : Nat → String)

structure Keyed (s : State) : Prop where
  distinct : s.orderedServerIds.Nodup
  keys : ∀ id, contains s id = true ↔ id ∈ s.orderedServerIds
  embedded : ∀ id json, s.serverJsonById id = some json →
    embedStorageServerId id (withoutStorageServerId json) = json

def DefaultListed (s : State) : Prop :=
  (s.orderedServerIds ≠ [] → s.defaultServerId ∈ s.orderedServerIds) ∧
    (s.orderedServerIds = [] → s.defaultServerId = "")

structure Consistent (s : State) : Prop where
  keyed : Keyed s
  default : DefaultListed s

lemma embed_strip (id : String) (json : Json.Object) :
    embedStorageServerId id (withoutStorageServerId (embedStorageServerId id json)) =
      embedStorageServerId id json := by
  simp [embedStorageServerId, withoutStorageServerId, Json.Object.insert, Json.Object.remove]

variable (s : State) (serverId : String) (json : Json.Object)

lemma contains_put (id other : String) (json : Json.Object) :
    contains (putServer s id json) other = (decide (other = id) || contains s other) := by
  by_cases same : other = id <;> simp [contains, putServer, same]

lemma Keyed.of_same {s other : State} (keyed : Keyed s)
    (ids : other.orderedServerIds = s.orderedServerIds)
    (map : other.serverJsonById = s.serverJsonById) : Keyed other where
  distinct := ids ▸ keyed.distinct
  keys id := by
    simpa only [contains, ids, map] using keyed.keys id
  embedded id json found := keyed.embedded id json (map ▸ found)

lemma Keyed.append {s : State} (keyed : Keyed s) (id : String) (json : Json.Object)
    (fresh : contains s id = false) :
    Keyed { putServer s id json with orderedServerIds := s.orderedServerIds ++ [id] } where
  distinct := by
    have absent : id ∉ s.orderedServerIds := fun member => by
      simp [(keyed.keys id).mpr member] at fresh
    refine List.nodup_append.mpr ⟨keyed.distinct, by simp, ?_⟩
    intro other member last listed same
    rw [same, List.mem_singleton.mp listed] at member
    exact absent member
  keys other := by
    have put := contains_put s id other json
    simp only [contains] at put ⊢
    rw [put]
    have known := keyed.keys other
    simp only [contains] at known
    simp [known, or_comm]
  embedded other stored found := by
    simp only [putServer, Function.update_apply] at found
    split at found
    · next same =>
        cases found
        rw [same]
        exact embed_strip id json
    · exact keyed.embedded other stored found

lemma Keyed.replace {s : State} (keyed : Keyed s) (id : String) (json : Json.Object)
    (present : id ∈ s.orderedServerIds) :
    Keyed (putServer { s with serverJsonById := Function.update s.serverJsonById id none } id json) where
  distinct := keyed.distinct
  keys other := by
    by_cases same : other = id
    · simp [contains, putServer, same, present]
    · have known := keyed.keys other
      simpa [contains, putServer, same] using known
  embedded other stored found := by
    by_cases same : other = id
    · subst same
      simp only [putServer, Function.update_self, Option.some.injEq] at found
      rw [← found]
      exact embed_strip other json
    · simp only [putServer, Function.update_apply, if_neg same] at found
      exact keyed.embedded other stored found

lemma Keyed.erase {s : State} (keyed : Keyed s) (id : String) (defaultServerId : String) :
    Keyed { s with
      serverJsonById := Function.update s.serverJsonById id none
      orderedServerIds := s.orderedServerIds.eraseIdx (s.orderedServerIds.idxOf id)
      defaultServerId } where
  distinct := keyed.distinct.eraseIdx _
  keys other := by
    have known := keyed.keys other
    by_cases same : other = id
    · simp [contains, same, keyed.distinct.not_mem_erase]
    · simpa [contains, same] using known
  embedded other stored found := by
    by_cases same : other = id
    · simp [same] at found
    · simp only [Function.update_apply, if_neg same] at found
      exact keyed.embedded other stored found

lemma configType_valid : configTypeFromJson json ≠ .invalid := by
  unfold configTypeFromJson
  split_ifs <;> simp

lemma loadEntry_cases (entry : Json.Value) :
    ∃ id uuids,
      normalizedOrGeneratedServerId uuid s (readStorageServerId entry.toObject) = (id, uuids) ∧
      ((contains s id = true ∧ loadEntry uuid s entry = { s with uuids }) ∨
        (contains s id = false ∧ loadEntry uuid s entry =
          { putServer s id (withoutStorageServerId entry.toObject) with
            orderedServerIds := s.orderedServerIds ++ [id], uuids })) := by
  unfold loadEntry
  dsimp only
  generalize normalizedOrGeneratedServerId uuid s (readStorageServerId entry.toObject) = id
  refine ⟨id.1, id.2, rfl, ?_⟩
  cases held : contains s id.1 with
  | true => exact Or.inl ⟨rfl, if_pos (Or.inl held)⟩
  | false =>
    refine Or.inr ⟨rfl, if_neg ?_⟩
    rintro (other | invalid)
    · have same : contains s id.1 = true := other
      rw [held] at same
      cases same
    · exact configType_valid _ invalid

lemma loadEntry_keyed (entry : Json.Value) (keyed : Keyed s) :
    Keyed (loadEntry uuid s entry) := by
  obtain ⟨id, uuids, -, ⟨-, skipped⟩ | ⟨fresh, taken⟩⟩ := loadEntry_cases uuid s entry
  · rw [skipped]
    exact keyed.of_same rfl rfl
  · rw [taken]
    exact (keyed.append id _ fresh).of_same rfl rfl

lemma clear_keyed : Keyed (clearServerStateMaps s) where
  distinct := List.nodup_nil
  keys id := by simp [contains, clearServerStateMaps]
  embedded id json found := by simp [clearServerStateMaps] at found

lemma load_kept (kept : State → Prop)
    (entry_kept : ∀ s entry, kept s → kept (loadEntry uuid s entry)) (s : State)
    (cleared : kept (clearServerStateMaps s)) :
    kept (s.storage.serversList.foldl (loadEntry uuid) (clearServerStateMaps s)) :=
  run_invariant entry_kept (clearServerStateMaps s) s.storage.serversList cleared

lemma headD_mem {ids : List String} (filled : ids ≠ []) : ids.headD "" ∈ ids := by
  cases ids with
  | nil => exact absurd rfl filled
  | cons id rest => simp

lemma getD_mem {ids : List String} {index : Nat} (bound : index < ids.length) :
    ids.getD index "" ∈ ids := by
  rw [List.getD_eq_getElem?_getD, List.getElem?_eq_getElem bound]
  exact List.getElem_mem bound

lemma load_consistent : Consistent (loadFromStorage uuid s) := by
  have keyed := load_kept uuid Keyed (loadEntry_keyed uuid) s (clear_keyed s)
  refine ⟨keyed.of_same rfl rfl, ?_, ?_⟩
  · intro filled
    simp only [loadFromStorage, updateDefaultServerFromStorage, storedDefault] at filled ⊢
    split_ifs with stored index
    · simp only [Bool.and_eq_true] at stored
      exact (keyed.keys _).mp stored.2
    · exact getD_mem (by omega)
    · exact headD_mem filled
  · intro empty
    simp only [loadFromStorage, updateDefaultServerFromStorage, storedDefault] at empty ⊢
    rw [empty]
    split_ifs with stored index
    · -- an id in the map would be in the list
      simp only [Bool.and_eq_true] at stored
      have member := (keyed.keys _).mp stored.2
      simp [empty] at member
    · simp at index
      omega
    · rfl

lemma persist_consistent (keyed : Keyed s) : Consistent (persistDefaultServerFields s) := by
  refine ⟨keyed.of_same rfl rfl, ?_, ?_⟩
  · intro filled
    simp only [persistDefaultServerFields] at filled ⊢
    split_ifs with empty absent
    · exact absurd (List.isEmpty_iff.mp empty) filled
    · exact absent
    · exact headD_mem filled
  · intro empty
    simp only [persistDefaultServerFields] at empty ⊢
    simp [empty]

lemma sync_consistent (keyed : Keyed s) : Consistent (syncToStorage s) :=
  persist_consistent _ (keyed.of_same rfl rfl)

lemma created_consistent (storage : Storage) : Consistent (created uuid storage) :=
  persist_consistent _ (load_consistent uuid _).keyed

lemma add_cases (s : State) (serverId : String) (json : Json.Object) (kind : ConfigType) :
    let stripped := withoutStorageServerId json
    let after := (addServer uuid s serverId json kind).1
    ∃ id uuids, normalizedOrGeneratedServerId uuid s serverId = (id, uuids) ∧
      (((contains s id = true ∨ kind = .invalid ∨ configTypeFromJson stripped ≠ kind) ∧
          after = { s with uuids }) ∨
        (contains s id = false ∧ ∃ defaultServerId, after = syncToStorage
          { putServer s id stripped with
            orderedServerIds := s.orderedServerIds ++ [id], defaultServerId, uuids })) := by
  unfold addServer
  dsimp only
  generalize normalizedOrGeneratedServerId uuid s serverId = id
  refine ⟨id.1, id.2, rfl, ?_⟩
  have same : contains { s with uuids := id.2 } id.1 = contains s id.1 := rfl
  rw [same]
  by_cases refused : contains s id.1 = true ∨ kind = .invalid
  · rw [if_pos refused]
    exact Or.inl ⟨refused.imp_right Or.inl, rfl⟩
  · rw [if_neg refused]
    by_cases other : configTypeFromJson (withoutStorageServerId json) = kind
    · rw [if_neg (not_not.mpr other)]
      refine Or.inr ⟨by simpa using (not_or.mp refused).1, ?_⟩
      split_ifs
      · exact ⟨id.1, rfl⟩
      · exact ⟨s.defaultServerId, rfl⟩
    · rw [if_pos other]
      exact Or.inl ⟨Or.inr (Or.inr other), rfl⟩

lemma add_consistent (kind : ConfigType) (consistent : Consistent s) :
    Consistent (addServer uuid s serverId json kind).1 := by
  have keyed := consistent.keyed
  obtain ⟨id, uuids, -, ⟨-, refused⟩ | ⟨fresh, defaultServerId, added⟩⟩ :=
    add_cases uuid s serverId json kind
  · rw [refused]
    exact ⟨keyed.of_same rfl rfl, consistent.default⟩
  · rw [added]
    exact sync_consistent _ ((keyed.append id _ fresh).of_same rfl rfl)

/-- An edit that does not go through puts the old config back. -/
lemma edit_refused (keyed : Keyed s) (serverId : String) (json : Json.Object) (kind : ConfigType)
    (refused : serverId ∉ s.orderedServerIds ∨ kind = .invalid ∨
      configTypeFromJson (withoutStorageServerId json) ≠ kind) :
    editServer s serverId json kind = s := by
  unfold editServer
  split_ifs with unknown
  · rfl
  · obtain ⟨listed, valid⟩ := not_or.mp unknown
    have other : configTypeFromJson (withoutStorageServerId json) ≠ kind := by
      rcases refused with absent | invalid | other
      · exact absurd absent listed
      · exact absurd invalid valid
      · exact other
    cases found : s.serverJsonById serverId with
    | none => rfl
    | some old =>
      have put_back := keyed.embedded serverId old found
      simp only [if_pos other, configType_valid, ne_eq, not_false_eq_true, and_self, if_true,
        putServer, put_back, Function.update_idem]
      rw [← found, Function.update_eq_self]

lemma edit_consistent (kind : ConfigType) (consistent : Consistent s) :
    Consistent (editServer s serverId json kind) := by
  by_cases refused : serverId ∉ s.orderedServerIds ∨ kind = .invalid ∨
      configTypeFromJson (withoutStorageServerId json) ≠ kind
  · rwa [edit_refused s consistent.keyed serverId json kind refused]
  · simp only [not_or, not_not] at refused
    obtain ⟨listed, valid, same⟩ := refused
    unfold editServer
    rw [if_neg (by simp [listed, valid])]
    cases found : s.serverJsonById serverId with
    | none => exact consistent
    | some old =>
      simp only [same, ne_eq, not_true_eq_false]
      exact sync_consistent _ (consistent.keyed.replace serverId _ listed)

lemma remove_consistent (consistent : Consistent s) : Consistent (removeServer s serverId) := by
  unfold removeServer
  by_cases unknown : serverId ∉ s.orderedServerIds ∨ !contains s serverId
  · rwa [if_pos unknown]
  · rw [if_neg unknown]
    exact sync_consistent _ (consistent.keyed.erase serverId _)

lemma set_default_consistent (consistent : Consistent s) :
    Consistent (setDefaultServer s serverId) := by
  have keyed := consistent.keyed
  unfold setDefaultServer
  split_ifs with refused
  · exact consistent
  · exact persist_consistent _ (keyed.of_same rfl rfl)

lemma step_consistent (call : Call) (consistent : Consistent s) :
    Consistent (step uuid s call) := by
  cases call with
  | addServer serverId json kind => exact add_consistent uuid s serverId json kind consistent
  | editServer serverId json kind => exact edit_consistent s serverId json kind consistent
  | removeServer serverId => exact remove_consistent s serverId consistent
  | clearServers => exact sync_consistent _ ((clear_keyed s).of_same rfl rfl)
  | setDefaultServer serverId => exact set_default_consistent s serverId consistent
  | invalidateCache => exact load_consistent uuid s

/-- In every state: distinct ids, a map with exactly these ids, a default server
among them, and edits of unknown servers or with a config that is not of the
kind the call names change nothing. -/
theorem servers_fit_together (storage : Storage) (calls : List Call) :
    let s := run (step uuid) (created uuid storage) calls
    s.orderedServerIds.Nodup ∧
      (∀ id, contains s id = true ↔ id ∈ s.orderedServerIds) ∧
      (s.orderedServerIds ≠ [] → s.defaultServerId ∈ s.orderedServerIds) ∧
      (s.orderedServerIds = [] → s.defaultServerId = "") ∧
      ∀ serverId json kind,
        (serverId ∉ s.orderedServerIds ∨ kind = .invalid ∨
          configTypeFromJson (withoutStorageServerId json) ≠ kind) →
        editServer s serverId json kind = s := by
  intro s
  have consistent : Consistent s :=
    run_invariant (step_consistent uuid) _ calls (created_consistent uuid storage)
  have keyed := consistent.keyed
  exact ⟨keyed.distinct, keyed.keys, consistent.default.1, consistent.default.2,
    fun serverId json kind refused => edit_refused s keyed serverId json kind refused⟩

def adminServer : Json.Object :=
  [("storageServerId", .string "a"), ("hostName", .string "203.0.113.5"),
    ("userName", .string "root"), ("password", .string "secret"), ("port", .double 22)]

def adminStored : Storage := ⟨[.object adminServer], "a", 0⟩

/-- A config of another kind replaces the stored one when the call names its
kind. -/
theorem edit_changes_kind :
    let s := created (fun _ => "") adminStored
    let after := editServer s "a" [("hostName", .string "203.0.113.5")] .selfHostedUser
    (s.serverJsonById "a").map configTypeFromJson = some .selfHostedAdmin ∧
      (after.serverJsonById "a").map configTypeFromJson = some .selfHostedUser := by
  decide

end AbstractumVpn.ServersRepository
