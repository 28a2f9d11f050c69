import AbstractumVpn.Daemon

/-!
Steps of the daemon seen from a part of its state: a step keeps every view that
is blind to what it changes, the resolvers, the exclusions or all of the
routing.
-/

namespace AbstractumVpn.Daemon

open WireguardUtilsLinux Frames

variable (ok : Nat → Bool) (qt : Qt)

structure BlindToResolvers {View : Type} (view : State → View) : Prop where
  outcome : ∀ ok, Keeps view (onSystem (request ok id))
  resolvers : ∀ s resolvers, view { s with resolvers } = view s

def besideExclusions (s : System) :
    (KillSwitch.State × Bool × Option InterfaceConfig) × Bool × List IPAddress :=
  (filterView s, s.rtmonitor, s.tunnelRoutes)

structure BlindToExclusions {View : Type} (view : State → View) : Prop
    extends BlindToResolvers view where
  beside : ∀ {α : Type} {action : StateM System α},
    Keeps besideExclusions action → Keeps view (onSystem action)
  exclusions : ∀ s excludedAddrSet, view { s with excludedAddrSet } = view s

structure BlindToRouting {View : Type} (view : State → View) : Prop
    extends BlindToExclusions view where
  system : ∀ {α : Type} {action : StateM System α},
    Keeps filterView action → Keeps view (onSystem action)

variable {View : Type} {view : State → View}

lemma keeps_discard {α : Type} {action : StateM State α} (kept : Keeps view action) :
    Keeps view (discard action) :=
  kept.bind fun _ => keeps_pure view ()

lemma keeps_then_true {action : StateM State Unit} (kept : Keeps view action) :
    Keeps view (do action; return true) :=
  kept.bind fun _ => keeps_pure view true

lemma keeps_update_then_true {update : State → State} (same : ∀ s, view (update s) = view s) :
    Keeps view (do modify update; return true) :=
  keeps_then_true (keeps_modify view update same)

section Outcomes

variable (blind : BlindToResolvers view)

include blind

lemma keeps_restore : Keeps view restoreResolvers :=
  keeps_update_then_true fun s => blind.resolvers s none

lemma keeps_resolvers (config : InterfaceConfig) :
    Keeps view (maybeUpdateResolvers ok qt config) :=
  (keeps_pure view true).ite <| (blind.outcome ok).bind fun _ =>
    Keeps.ite (keeps_update_then_true fun s => blind.resolvers s _) (keeps_pure view false)

lemma keeps_interface_ips : Keeps view (addInterfaceIPs ok) :=
  (blind.outcome ok).bind fun _ => (keeps_discard (blind.outcome ok)).bind fun _ =>
    keeps_pure view _

end Outcomes

section Exclusions

variable (blind : BlindToExclusions view)

include blind

lemma keeps_add_daemon_exclusion (range : IPAddress) :
    Keeps view (addExclusionRoute ok range) := by
  refine (keeps_get view).bind fun s => ?_
  split
  · exact keeps_update_then_true fun s => blind.exclusions s _
  · have asked := blind.beside (keeps_add_exclusion ok (fun _ _ => rfl) (fun _ _ => rfl) range)
    exact asked.bind fun _ =>
      Keeps.ite (keeps_update_then_true fun s => blind.exclusions s _) (keeps_pure view false)

lemma keeps_del_daemon_exclusion (range : IPAddress) :
    Keeps view (delExclusionRoute ok range) := by
  refine (keeps_get view).bind fun _ => Keeps.ite ?_ ?_
  · exact keeps_update_then_true fun s => blind.exclusions s _
  · exact (keeps_modify view _ fun s => blind.exclusions s _).bind fun _ =>
      blind.beside (keeps_delete_exclusion ok (fun _ _ => rfl) (fun _ _ => rfl) range)

variable (config : InterfaceConfig)

lemma keeps_exclude : Keeps view (excludeAddresses ok qt config) :=
  keeps_then_true <| Keeps.forM (fun _ => keeps_discard (keeps_add_daemon_exclusion ok blind _)) _

lemma keeps_release_loop (last : InterfaceConfig) :
    Keeps view (last.excludedAddresses.forM fun text =>
      discard (delExclusionRoute ok (IPAddress.ofHostAddress (qt.hostAddress text)))) :=
  Keeps.forM (fun _ => keeps_discard (keeps_del_daemon_exclusion ok blind _)) _

lemma keeps_daemon_peer : Keeps view (onSystem (updatePeer ok qt config)) :=
  blind.beside (keeps_update_peer ok qt (fun _ _ => rfl) (fun _ _ => rfl) (fun _ _ => rfl) config)

lemma keeps_drop_peer : Keeps view (onSystem (deletePeer ok qt config)) :=
  blind.beside (keeps_delete_peer ok qt (fun _ _ => rfl) (fun _ _ => rfl) (fun _ _ => rfl) config)

lemma keeps_release_exclusions (entries : List (IPAddress × Nat)) :
    Keeps view (entries.forM fun entry =>
      discard (onSystem (WireguardUtilsLinux.deleteExclusionRoute ok entry.1))) := by
  refine Keeps.forM (fun entry => keeps_discard ?_) _
  exact blind.beside (keeps_delete_exclusion ok (fun _ _ => rfl) (fun _ _ => rfl) entry.1)

end Exclusions

section Routing

variable (blind : BlindToRouting view)

include blind

lemma keeps_routes (config : InterfaceConfig) :
    Keeps view (onSystem (untilFalse (updateRoutePrefix ok) config.allowedIPAddressRanges)) :=
  blind.system (Keeps.untilFalse fun range _ =>
    keeps_prefix_update ok (fun _ _ => rfl) (fun _ _ => rfl) range)

lemma keeps_drop_route (range : IPAddress) :
    Keeps view (discard (onSystem (deleteRoutePrefix ok range))) :=
  keeps_discard (blind.system (keeps_prefix_delete ok (fun _ _ => rfl) (fun _ _ => rfl) range))

lemma keeps_release (config last : InterfaceConfig) :
    Keeps view (releaseConfig ok qt config last) :=
  (keeps_release_loop ok qt blind.toBlindToExclusions last).bind fun _ =>
    (Keeps.forM (fun range => (keeps_pure view ()).ite (keeps_drop_route ok blind range)) _).bind
      fun _ => (keeps_pure view true).ite (keeps_drop_peer ok qt blind.toBlindToExclusions last)

lemma keeps_remove (state : ConnectionState) : Keeps view (removeConnection ok qt state) := by
  refine Keeps.bind (Keeps.forM (keeps_drop_route ok blind) _) fun _ => ?_
  exact keeps_discard (keeps_drop_peer ok qt blind.toBlindToExclusions state.config)

end Routing

lemma connections_blind : BlindToRouting State.connections where
  outcome _ := fun _ => rfl
  resolvers _ _ := rfl
  beside _ := fun _ => rfl
  exclusions _ _ := rfl
  system _ := fun _ => rfl

section Interfaces

variable (config : InterfaceConfig) {s : State}

lemma create_existing (running : s.system.tunnelRunning = true) :
    perform (createInterface ok config) s = (true, s) := by
  simp [createInterface, interfaceExists, running]

lemma create_missing (stopped : s.system.tunnelRunning = false) :
    perform (createInterface ok config) s = perform (onSystem (addInterface ok config)) s := by
  simp [createInterface, interfaceExists, stopped]

lemma establish_created (made : (perform (createInterface ok config) s).1 = true) :
    perform (establish ok qt config) s =
      perform (bringUp ok qt config) (perform (createInterface ok config) s).2 := by
  simp [establish, made]

lemma establish_refused (failed : (perform (createInterface ok config) s).1 = false) :
    perform (establish ok qt config) s = (false, (perform (createInterface ok config) s).2) := by
  simp [establish, failed]

end Interfaces

section Ways

variable {config : InterfaceConfig} {s : State}

lemma activate_fresh (idle : s.connections config.hopType = none) :
    perform (activateHop ok qt config) s = perform (establish ok qt config) s := by
  simp [activateHop, idle]

variable {current : ConnectionState} (active : s.connections config.hopType = some current)

include active

lemma activate_switch (switches : supportServerSwitching current.config config = true) :
    perform (activateHop ok qt config) s =
      perform (replaceServer ok qt config current.config) s := by
  simp [activateHop, active, switches]

lemma activate_rebuild (other : supportServerSwitching current.config config = false) :
    perform (activateHop ok qt config) s =
      if (perform (deactivate ok qt false) s).1 then
        perform (guarded (establish ok qt config)) (perform (deactivate ok qt false) s).2
      else (false, (perform (deactivate ok qt false) s).2) := by
  simp [activateHop, active, other]

end Ways

def switchedFrom (s : State) (config : InterfaceConfig) : Option InterfaceConfig :=
  match s.connections config.hopType with
  | some current => if supportServerSwitching current.config config then some current.config else none
  | none => none

def rebuildsInterface (s : State) (config : InterfaceConfig) : Bool :=
  match s.connections config.hopType with
  | some current => !supportServerSwitching current.config config
  | none => false

/-- What holds after a call because each of its three ways keeps it. -/
lemma activate_keeps (inv : State → Prop) (config : InterfaceConfig) (s : State)
    (signalled : ∀ t, inv t → inv { t with signals := t.signals ++ [.activationFailure] })
    (fresh : ∀ t, t.connections config.hopType = none → inv t →
      inv (perform (establish ok qt config) t).2)
    (down : rebuildsInterface s config = true → inv (perform (deactivate ok qt false) s).2)
    (switched : ∀ current, s.connections config.hopType = some current →
      supportServerSwitching current.config config = true →
        inv (perform (replaceServer ok qt config current.config) s).2)
    (holds : inv s) : inv (step ok qt s (.activate config)) := by
  have guards : ∀ (action : StateM State Bool) t, inv (perform action t).2 →
      inv (perform (guarded action) t).2 := by
    intro action t kept
    cases outcome : (perform action t).1 with
    | true => simpa [guarded, outcome] using kept
    | false => simpa [guarded, outcome] using signalled _ kept
  refine guards (activateHop ok qt config) s ?_
  cases active : s.connections config.hopType with
  | none =>
    rw [activate_fresh ok qt active]
    exact fresh s active holds
  | some current =>
    cases switches : supportServerSwitching current.config config with
    | true =>
      rw [activate_switch ok qt active switches]
      exact switched current active switches
    | false =>
      have stopped := down (by simp [rebuildsInterface, active, switches])
      rw [activate_rebuild ok qt active switches]
      split
      · exact guards _ _ (fresh _ rfl stopped)
      · exact stopped

end AbstractumVpn.Daemon
