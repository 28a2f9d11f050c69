import AbstractumVpn.DaemonFrames
import AbstractumVpn.Runs

/-!
The kill switch of WireGuard connections. Only the creation and the deletion of
the interface touch the filter, so the rules in force are those of the config
that created the running interface, whichever configs were activated since.
-/

namespace AbstractumVpn.Daemon

open WireguardUtilsLinux LinuxFirewall Frames

variable (ok : Nat → Bool) (qt : Qt)

def filter (s : State) : KillSwitch.State × Bool × Option InterfaceConfig := filterView s.system

lemma filter_blind : BlindToRouting filter where
  beside kept := fun s => congrArg Prod.fst (kept s.system)
  outcome ok :=
    (keeps_request ok (fun _ _ => rfl) fun _ => rfl).within (fun _ => rfl) (fun _ _ => rfl)
  system kept := kept.within (fun _ => rfl) (fun _ _ => rfl)
  exclusions _ _ := rfl
  resolvers _ _ := rfl

variable (config : InterfaceConfig)

lemma keeps_store : Keeps filter (storeConnection config) :=
  keeps_update_then_true fun _ => rfl

lemma keeps_handshake : Keeps filter startHandshake :=
  keeps_update_then_true fun _ => rfl

lemma keeps_bring_up : Keeps filter (bringUp ok qt config) := by
  apply Keeps.untilFalse
  simp only [List.forall_mem_cons]
  exact ⟨keeps_interface_ips ok filter_blind.toBlindToResolvers, filter_blind.outcome ok,
    keeps_exclude ok qt filter_blind.toBlindToExclusions config,
    keeps_daemon_peer ok qt filter_blind.toBlindToExclusions config,
    keeps_resolvers ok qt filter_blind.toBlindToResolvers config,
    keeps_routes ok filter_blind config, keeps_store config, keeps_handshake, by simp⟩

lemma keeps_switch (last : InterfaceConfig) : Keeps filter (switchServer ok qt config last) := by
  apply Keeps.untilFalse
  simp only [List.forall_mem_cons]
  exact ⟨keeps_exclude ok qt filter_blind.toBlindToExclusions config,
    keeps_daemon_peer ok qt filter_blind.toBlindToExclusions config,
    keeps_then_true (keeps_discard (keeps_routes ok filter_blind config)),
    keeps_release ok qt filter_blind config last, keeps_store config, by simp⟩

lemma keeps_replace (last : InterfaceConfig) :
    Keeps filter (replaceServer ok qt config last) := by
  apply Keeps.untilFalse
  simp only [List.forall_mem_cons]
  exact ⟨keeps_switch ok qt config last, keeps_restore filter_blind.toBlindToResolvers,
    keeps_resolvers ok qt filter_blind.toBlindToResolvers config, keeps_store config,
    keeps_handshake, by simp⟩

lemma keeps_clean_up (emitSignals : Bool) : Keeps filter (cleanUp ok qt emitSignals) := by
  refine Keeps.bind (keeps_modify filter _ fun _ => rfl) fun _ => ?_
  refine Keeps.bind (keeps_modify filter _ fun _ => rfl) fun _ => ?_
  refine (keeps_discard (keeps_restore filter_blind.toBlindToResolvers)).bind fun _ =>
    (keeps_get filter).bind fun _ => ?_
  refine (Keeps.forM (keeps_remove ok qt filter_blind) _).bind fun _ =>
    (keeps_get filter).bind fun _ => ?_
  exact (keeps_release_exclusions ok filter_blind.toBlindToExclusions _).bind fun _ =>
    keeps_modify filter _ fun _ => rfl

lemma deactivate_filter (emitSignals : Bool) (s : State) :
    (perform (deactivate ok qt emitSignals) s).1 = s.system.tunnelRunning ∧
      filter (perform (deactivate ok qt emitSignals) s).2 =
        if s.system.tunnelRunning
        then (KillSwitch.disableKillSwitch s.system.killSwitch, false, none) else filter s := by
  have kept := keeps_clean_up ok qt emitSignals s
  obtain ⟨result, view⟩ :=
    delete_interface_view (perform (cleanUp ok qt emitSignals) s).2.system
  simp only [filter, filterView, Prod.mk.injEq] at kept
  obtain ⟨same, running, device⟩ := kept
  rw [running] at result view
  simp only [filterView, same, running, device] at view
  exact ⟨result, view⟩

lemma guarded_result (action : StateM State Bool) (s : State) :
    (perform (guarded action) s).1 = (perform action s).1 ∧
      filter (perform (guarded action) s).2 = filter (perform action s).2 := by
  by_cases succeeds : (perform action s).1 = true
  · simp [guarded, succeeds]
  · simp [guarded, succeeds, filter]

lemma establish_cases (config : InterfaceConfig) (s : State) :
    let after := perform (establish ok qt config) s
    (s.system.tunnelRunning = true ∧ filter after.2 = filter s) ∨
      (s.system.tunnelRunning = false ∧
        filter after.2 = (written config s.system.killSwitch, true, some config)) ∨
      (after.1 = false ∧ (filter after.2 = filter s ∨ after.2.system.device = none)) := by
  cases running : s.system.tunnelRunning with
  | true =>
    left
    have present := create_existing ok config running
    refine ⟨rfl, ?_⟩
    rw [establish_created ok qt config (by rw [present]), present]
    exact keeps_bring_up ok qt config s
  | false =>
    right
    have created := create_missing ok config running
    rcases add_interface_cases ok config s.system with ⟨-, result, view⟩ | ⟨result, view⟩
    · left
      have added : (perform (createInterface ok config) s).1 = true := by
        rw [created]; exact result
      refine ⟨rfl, ?_⟩
      rw [establish_created ok qt config added, keeps_bring_up, created]
      exact view
    · right
      have failed : (perform (createInterface ok config) s).1 = false := by
        rw [created]; exact result
      rw [establish_refused ok qt config failed, created]
      exact ⟨rfl, view⟩

def createsInterface (s : State) (config : InterfaceConfig) : Bool :=
  match s.connections config.hopType with
  | some current => !supportServerSwitching current.config config
  | none => !s.system.tunnelRunning

lemma activate_hop_cases (config : InterfaceConfig) (s : State) :
    let after := perform (activateHop ok qt config) s
    (createsInterface s config = false ∧ filter after.2 = filter s) ∨
      (createsInterface s config = true ∧
        ∃ before, filter after.2 = (written config before, true, some config)) ∨
      (after.1 = false ∧ (filter after.2 = filter s ∨ after.2.system.device = none)) := by
  cases active : s.connections config.hopType with
  | none =>
    rw [activate_fresh ok qt active]
    rcases establish_cases ok qt config s with ⟨running, view⟩ | ⟨idle, view⟩ | failed
    · exact Or.inl ⟨by simp [createsInterface, active, running], view⟩
    · exact Or.inr (Or.inl ⟨by simp [createsInterface, active, idle], _, view⟩)
    · exact Or.inr (Or.inr failed)
  | some current =>
    cases switching : supportServerSwitching current.config config with
    | true =>
      rw [activate_switch ok qt active switching]
      exact Or.inl ⟨by simp [createsInterface, active, switching],
        keeps_replace ok qt config current.config s⟩
    | false =>
      obtain ⟨stopped, view⟩ := deactivate_filter ok qt false s
      rw [activate_rebuild ok qt active switching]
      cases running : s.system.tunnelRunning with
      | false =>
        -- `deactivate` fails without a tunnel, and the activation with it
        rw [running] at stopped view
        rw [stopped]
        exact Or.inr (Or.inr ⟨rfl, Or.inl (by simpa using view)⟩)
      | true =>
        rw [running] at stopped view
        obtain ⟨result, same⟩ := guarded_result (establish ok qt config)
          (perform (deactivate ok qt false) s).2
        simp only [filter, filterView, if_true, Prod.mk.injEq] at view
        rw [stopped, if_pos rfl]
        rcases establish_cases ok qt config (perform (deactivate ok qt false) s).2 with
          ⟨still, -⟩ | ⟨-, fresh⟩ | ⟨failed, device⟩
        · -- the tunnel has just been taken down
          rw [view.2.1] at still
          cases still
        · exact Or.inr (Or.inl ⟨by simp [createsInterface, active, switching], _,
            same.trans fresh⟩)
        · refine Or.inr (Or.inr ⟨result.trans failed, Or.inr ?_⟩)
          have gone := congrArg (·.2.2) same
          rcases device with kept | absent
          · exact gone.trans ((congrArg (·.2.2) kept).trans view.2.2)
          · exact gone.trans absent

lemma activate_cases (config : InterfaceConfig) (s : State) :
    let after := perform (activate ok qt config) s
    (createsInterface s config = false ∧ filter after.2 = filter s) ∨
      (createsInterface s config = true ∧
        ∃ before, filter after.2 = (written config before, true, some config)) ∨
      (after.1 = false ∧ (filter after.2 = filter s ∨ (filter after.2).2.2 = none)) := by
  obtain ⟨result, same⟩ := guarded_result (activateHop ok qt config) s
  simp only [activate, result, same]
  exact activate_hop_cases ok qt config s

/-- The filter belongs to the config that set up the running interface. -/
def Settled (view : KillSwitch.State × Bool × Option InterfaceConfig) : Prop :=
  view.2.2 = none ∨ ∃ config before, view = (written config before, true, some config)

lemma step_settled (s : State) (call : Call) (settled : Settled (filter s)) :
    Settled (filter (step ok qt s call)) := by
  cases call with
  | activate config =>
    simp only [step]
    rcases activate_cases ok qt config s with ⟨-, same⟩ | ⟨-, before, view⟩ | ⟨-, same | absent⟩
    · rwa [same]
    · exact Or.inr ⟨config, before, view⟩
    · rwa [same]
    · exact Or.inl absent
  | deactivate emitSignals =>
    simp only [step, (deactivate_filter ok qt emitSignals s).2]
    split
    · exact Or.inl rfl
    · exact settled

/-- After a successful activation the rules are those of the activated config,
if it created the interface, and otherwise those of the config that did. -/
lemma activate_rules (start : State) (calls : List Call) (config : InterfaceConfig)
    (fresh : start.system.device = none) :
    let s := Runs.run (step ok qt) start calls
    (perform (activate ok qt config) s).1 = true →
    ∀ owner, owner.killSwitchEnabled = true →
    (if createsInterface s config then owner = config else s.system.device = some owner) →
    ∃ before, (perform (activate ok qt config) s).2.system.killSwitch.firewall =
      applyFirewallRules before (firewallParams owner) := by
  intro s succeeded owner on owns
  have settled : Settled (filter s) :=
    Runs.run_invariant (step_settled ok qt) start calls (Or.inl fresh)
  rcases activate_cases ok qt config s with ⟨kept, same⟩ | ⟨created, before, view⟩ | ⟨failed, -⟩
  · -- no new interface: the rules are those of the config that made the present one
    rw [kept] at owns
    rcases settled with absent | ⟨other, before, view⟩
    · have device : s.system.device = none := absent
      rw [device] at owns
      cases owns
    · have written_view := same.trans view
      have device : s.system.device = some other := congrArg (·.2.2) view
      rw [device] at owns
      obtain rfl : other = owner := Option.some.inj owns
      have state := congrArg (·.1.firewall) written_view
      exact ⟨before.firewall, by simpa [filter, filterView, written, on] using state⟩
  · rw [created, if_pos rfl] at owns
    subst owns
    have state := congrArg (·.1.firewall) view
    exact ⟨before.firewall, by simpa [filter, filterView, written, on] using state⟩
  · rw [failed] at succeeded
    cases succeeded

end AbstractumVpn.Daemon
