import AbstractumVpn.Runs
import AbstractumVpn.Session

/-!
The kill switch over a sequence of retries. The clean-up both protocols do when
they are stopped, which OpenVPN repeats when it is started, disables it: it
stays on as long as no clean-up reaches the service once it has been enabled.
-/

namespace AbstractumVpn.Session

open LinuxFirewall VpnConnection Runs KillSwitch

def RulesOn (s : State) : Prop :=
  s.killSwitch.firewall.installed = true ∧
    ((KillSwitch.tunnelPlan s.config).blockAll = true →
      ∀ family, s.killSwitch.firewall.enabled family .blockAll = true)

/-- Until `connected` is reached, a kill switch that was enabled is on. -/
def Protected (s : State) : Prop :=
  s.armed = true → s.connection.connectionState ≠ .connected → RulesOn s

def Restart.cleansUp (restart : Restart) (kind : Kind) : Bool :=
  restart.stopServed || (kind == .openVpn && restart.startServed)

def stops (s : State) : XrayEvent → Bool
  | .failedBefore | .failedAfter => true
  | .ready => false
  | .finished resourceBusy =>
    decide (¬ (resourceBusy = true ∧ s.tun2socksRetryCount < maxTun2SocksRetries))
  | .retried ok => !ok

def disables (s : State) : Event → Bool
  | .networkChange restart => accepts s.connection && restart.cleansUp s.kind
  | .timerFired restart => timerActs s && restart.cleansUp s.kind
  | .openVpn _ => false
  | .xray event stopServed => s.kind == .xray && stopServed && stops s event

def arms (s : State) : Event → Bool
  | .xray .failedAfter _ => killSwitchOption s
  | _ => false

/-- No clean-up reaches the service once the kill switch has been enabled. -/
def Harmless (s : State) (event : Event) : Prop :=
  disables s event = true → s.armed = false ∧ arms s event = false

instance (s : State) (event : Event) : Decidable (Harmless s event) :=
  inferInstanceAs (Decidable (_ → _))

section Calls

variable (s : State)

variable (config : Json.Object) (served : Bool) (ranges : List String)

lemma plan_blockAll (other : Json.Object)
    (same : KillSwitch.splitTunnelType config = KillSwitch.splitTunnelType other) :
    (tunnelPlan config).blockAll = (tunnelPlan other).blockAll := by
  unfold tunnelPlan
  rw [same]
  split_ifs <;> rfl

lemma plan_server (server : String) :
    (tunnelPlan (config.insert "vpnServer" (.string server))).blockAll =
      (tunnelPlan config).blockAll := by
  apply plan_blockAll
  rw [KillSwitch.splitTunnelType, Json.Object.value_insert_other _ _ _ _ (by decide),
    KillSwitch.splitTunnelType]

lemma enable_rules
    (same : (tunnelPlan config).blockAll = (tunnelPlan s.config).blockAll) :
    RulesOn (enableKillSwitch s config) := by
  refine ⟨enable_installed s.killSwitch config, fun required family => ?_⟩
  have planned : (tunnelPlan config).blockAll = true := same.trans required
  cases family with
  | ipv4 => exact (enable_ipv4 s.killSwitch config .blockAll rfl).trans planned
  | ipv6 => exact (enable_ipv6 s.killSwitch config .blockAll rfl).trans planned

lemma gateway_rules (resolved : String) (on : killSwitchOption s = true) :
    RulesOn (updateVpnGateway s resolved) := by
  rw [updateVpnGateway, if_pos on]
  exact enable_rules _ _ rfl

lemma routing_rules (on : killSwitchOption s = true) : RulesOn (setupRouting s) := by
  rw [setupRouting, if_pos on]
  exact enable_rules s _ (plan_server s.config s.remoteAddress)

lemma range_rules (on : RulesOn s) : RulesOn (addAllowedRange s served ranges) := by
  cases served with
  | false => exact on
  | true =>
    simpa [RulesOn, addAllowedRange, KillSwitch.addAllowedRange, resetAllowedRange,
      set_enabled] using on

@[simp] lemma disable_armed : (disableKillSwitch s served).armed = s.armed := by
  cases served <;> rfl

@[simp] lemma disable_strict :
    (disableKillSwitch s served).killSwitch.strict = s.killSwitch.strict := by
  cases served <;> rfl

@[simp] lemma disable_kind : (disableKillSwitch s served).kind = s.kind := by
  cases served <;> rfl

@[simp] lemma disable_connection : (disableKillSwitch s served).connection = s.connection := by
  cases served <;> rfl

lemma disable_installed (lenient : s.killSwitch.strict = false) :
    (disableKillSwitch s served).killSwitch.firewall.installed =
      (!served && s.killSwitch.firewall.installed) := by
  cases served with
  | false => rfl
  | true => simp [disableKillSwitch, KillSwitch.disableKillSwitch, lenient, uninstall]

@[simp] lemma range_armed : (addAllowedRange s served ranges).armed = s.armed := by
  cases served <;> rfl

@[simp] lemma range_strict :
    (addAllowedRange s served ranges).killSwitch.strict = s.killSwitch.strict := by
  cases served <;> rfl

@[simp] lemma range_connection : (addAllowedRange s served ranges).connection = s.connection := by
  cases served <;> rfl

@[simp] lemma range_installed :
    (addAllowedRange s served ranges).killSwitch.firewall.installed =
      s.killSwitch.firewall.installed := by
  cases served with
  | false => rfl
  | true => simp [addAllowedRange, KillSwitch.addAllowedRange, resetAllowedRange]

lemma routing_armed : (setupRouting s).armed = (s.armed || killSwitchOption s) := by
  unfold setupRouting
  split <;> simp_all [enableKillSwitch]

lemma routing_strict : (setupRouting s).killSwitch.strict = s.killSwitch.strict := by
  unfold setupRouting
  split <;> rfl

/-- Every way through `stop` and `start` keeps these fields. -/
lemma restart_fields (restart : Restart) :
    (restartCalls s restart).armed = s.armed ∧
      (restartCalls s restart).connection = s.connection := by
  simp only [restartCalls, disable_kind]
  cases s.kind with
  | xray => simp
  | openVpn =>
    simp only
    split <;> simp

lemma restart_uninstalls (restart : Restart) (lenient : s.killSwitch.strict = false)
    (cleaned : restart.cleansUp s.kind = true) :
    (restartCalls s restart).killSwitch.firewall.installed = false := by
  unfold restartCalls
  cases kind : s.kind with
  | xray =>
    have served : restart.stopServed = true := by simpa [Restart.cleansUp, kind] using cleaned
    simp [kind, disable_installed s _ lenient, served]
  | openVpn =>
    have served : restart.stopServed = true ∨ restart.startServed = true := by
      simpa [Restart.cleansUp, kind] using cleaned
    have first := disable_installed s restart.stopServed lenient
    have second := disable_installed (disableKillSwitch s restart.stopServed)
      restart.startServed (by simpa using lenient)
    have down : (disableKillSwitch (disableKillSwitch s restart.stopServed)
        restart.startServed).killSwitch.firewall.installed = false := by
      rw [second, first]
      rcases served with served | served <;> simp [served]
    simp only [disable_kind, kind]
    split <;> simp [down]

end Calls

lemma settle_connected (current : ConnectionState) (reports : List ConnectionState)
    (up : settle current reports = .connected) : current = .connected ∨ .connected ∈ reports := by
  induction reports generalizing current with
  | nil => exact Or.inl up
  | cons report rest ih =>
    rcases ih (next current report) up with here | later
    · unfold next at here
      split at here
      · exact Or.inl here
      · exact Or.inr (by simp [here])
    · exact Or.inr (List.mem_cons_of_mem report later)

lemma changes_reports (current : ConnectionState) (states : List ConnectionState)
    (report : ConnectionState) (reported : report ∈ (changes current states).2) :
    report ∈ states := by
  induction states generalizing current with
  | nil => exact reported
  | cons new rest ih =>
    rcases List.mem_append.mp reported with first | later
    · have same : report = new := by
        unfold change at first
        split_ifs at first <;> simp_all
      simp [same]
    · exact List.mem_cons_of_mem new (ih _ later)

lemma attempt_not_connected (s : State) (failure : Option Failure) :
    ConnectionState.connected ∉
      (attempt s failure).1.stopReports ++ (attempt s failure).1.startReports := by
  intro reported
  rcases List.mem_append.mp reported with stopping | starting
  · have set := changes_reports _ _ _ stopping
    unfold stopStates at set
    split at set
    · split_ifs at set <;> simp at set
    · simp at set
  · have set := changes_reports _ _ _ starting
    unfold startStates at set
    split at set <;> simp at set

lemma retry_not_connected (s : State) (failure : Option Failure) (connection : VpnConnection.State)
    (accepted : accepts connection = true) :
    (reconnectToVpn connection (attempt s failure).1).connectionState ≠ .connected := by
  rw [reconnect_state connection _ accepted]
  intro up
  rcases settle_connected _ _ up with start | reported
  · cases start
  · exact attempt_not_connected s failure reported

lemma stopped_state (s : State) : (report s .disconnected).protocolState = .disconnected := by
  by_cases already : s.protocolState = .disconnected <;> simp [report, change, already]

lemma give_up_state (s : State) (served : Bool) :
    (giveUp s served).connection.connectionState = .error := by
  have stopped := stopped_state (disableKillSwitch s served)
  rw [giveUp, report, stopped]
  simp [change, receive, set_state, next]

structure Intact (s : State) : Prop where
  lenient : s.killSwitch.strict = false
  rules : s.armed = true → RulesOn s

section

variable {s : State} (intact : Intact s)

include intact

lemma Intact.report (new : ConnectionState) : Intact (report s new) :=
  ⟨intact.lenient, intact.rules⟩

lemma Intact.gateway (resolved : String) : Intact (updateVpnGateway s resolved) := by
  by_cases on : killSwitchOption s = true
  · refine ⟨?_, fun _ => gateway_rules s resolved on⟩
    rw [updateVpnGateway, if_pos on]
    exact intact.lenient
  · rwa [updateVpnGateway, if_neg on]

lemma Intact.routing : Intact (setupRouting s) := by
  refine ⟨(routing_strict s).trans intact.lenient, fun armed => ?_⟩
  by_cases on : killSwitchOption s = true
  · exact routing_rules s on
  · rw [setupRouting, if_neg on] at armed ⊢
    exact intact.rules armed

lemma Intact.disable (served : Bool)
    (unarmed : served = true → s.armed = false) : Intact (disableKillSwitch s served) := by
  cases served with
  | false => exact intact
  | true =>
    refine ⟨(disable_strict s true).trans intact.lenient, fun armed => ?_⟩
    rw [disable_armed, unarmed rfl] at armed
    cases armed

lemma Intact.range (served : Bool) (ranges : List String) :
    Intact (addAllowedRange s served ranges) := by
  refine ⟨(range_strict s served ranges).trans intact.lenient, fun armed => ?_⟩
  rw [range_armed] at armed
  exact range_rules s served ranges (intact.rules armed)

lemma Intact.restart (restart : Restart)
    (unarmed : restart.cleansUp s.kind = true → s.armed = false) :
    Intact (restartCalls s restart) := by
  have stopped := intact.disable restart.stopServed fun served =>
    unarmed (by simp [Restart.cleansUp, served])
  unfold restartCalls
  cases kind : s.kind with
  | xray => simpa [kind] using stopped
  | openVpn =>
    have started := stopped.disable restart.startServed fun served => by
      rw [disable_armed]
      exact unarmed (by simp [Restart.cleansUp, kind, served])
    simp only [disable_kind, kind]
    split
    · exact started
    · exact started.range restart.rangeServed [restart.resolved]

lemma Intact.trigger (acts : Bool) (restart : Restart) (event : Attempt → VpnConnection.Event)
    (unarmed : acts = true → restart.cleansUp s.kind = true → s.armed = false) :
    Intact (trigger s acts restart event) := by
  have moved : ∀ connection, Intact { s with connection := connection } :=
    fun _ => ⟨intact.lenient, intact.rules⟩
  cases acts with
  | false => exact moved _
  | true =>
    have called := (moved (VpnConnection.step s.connection
      (event (attempt s restart.failure).1))).restart restart (unarmed rfl)
    exact ⟨called.lenient, called.rules⟩

lemma Intact.giveUp (served : Bool)
    (unarmed : served = true → s.armed = false) : Intact (giveUp s served) :=
  ((intact.disable served unarmed).report .disconnected).report .error

lemma Intact.openVpn (event : OpenVpnEvent) : Intact (openVpnEvent s event) := by
  cases event with
  | pushReply resolved => exact intact.gateway resolved
  | connected => exact intact.report .connected
  | exiting => exact intact.report .disconnecting
  | reconnecting => exact intact.report .reconnecting
  | finished => exact intact.report .disconnected

lemma Intact.xray (event : XrayEvent) (served : Bool)
    (unarmed : stops s event = true → served = true →
      s.armed = false ∧ arms s (.xray event served) = false) :
    Intact (xrayEvent s served event) := by
  cases event with
  | failedBefore => exact intact.giveUp served fun reached => (unarmed rfl reached).1
  | failedAfter =>
    -- the kill switch is enabled and, with the failure that follows, disabled again
    refine intact.routing.giveUp served fun reached => ?_
    have off := unarmed rfl reached
    rw [routing_armed, off.1]
    exact off.2
  | ready => exact intact.routing.report .connected
  | finished resourceBusy =>
    by_cases again : resourceBusy = true ∧ s.tun2socksRetryCount < maxTun2SocksRetries
    · rw [xrayEvent, if_pos again]
      exact ⟨intact.lenient, intact.rules⟩
    · rw [xrayEvent, if_neg again]
      have reset : Intact { s with tun2socksRetryCount := 0 } := ⟨intact.lenient, intact.rules⟩
      exact reset.giveUp served fun reached => (unarmed (decide_eq_true again) reached).1
  | retried ok =>
    cases ok with
    | true => exact intact
    | false => exact intact.giveUp served fun reached => (unarmed rfl reached).1

end

lemma step_intact (s : State) (event : Event) (intact : Intact s)
    (harmless : Harmless s event) : Intact (step s event) := by
  cases event with
  | networkChange restart =>
    exact intact.trigger _ restart _ fun acts cleaned =>
      (harmless (by simp [disables, acts, cleaned])).1
  | timerFired restart =>
    exact intact.trigger _ restart _ fun acts cleaned =>
      (harmless (by simp [disables, acts, cleaned])).1
  | openVpn event =>
    by_cases kind : s.kind = .openVpn
    · rw [step, if_pos kind]
      exact intact.openVpn event
    · rwa [step, if_neg kind]
  | xray event served =>
    by_cases kind : s.kind = .xray
    · rw [step, if_pos kind]
      exact intact.xray event served fun stopped reached =>
        harmless (by simp [disables, kind, stopped, reached])
    · rwa [step, if_neg kind]

structure TakenDown (s : State) (armed : Bool) : Prop where
  uninstalled : s.killSwitch.firewall.installed = false
  armed : s.armed = armed
  down : s.connection.connectionState ≠ .connected

lemma trigger_taken_down (s : State) (restart : Restart)
    (event : Attempt → VpnConnection.Event) (lenient : s.killSwitch.strict = false)
    (cleaned : restart.cleansUp s.kind = true)
    (down : (VpnConnection.step s.connection
      (event (attempt s restart.failure).1)).connectionState ≠ .connected) :
    TakenDown (trigger s true restart event) s.armed := by
  have fields := restart_fields { s with
    connection := VpnConnection.step s.connection (event (attempt s restart.failure).1) } restart
  refine ⟨restart_uninstalls _ restart lenient cleaned, fields.1, ?_⟩
  -- the calls leave the connection as its own step left it
  have same : (trigger s true restart event).connection =
      VpnConnection.step s.connection (event (attempt s restart.failure).1) := fields.2
  rwa [same]

lemma give_up_taken_down (s : State) (lenient : s.killSwitch.strict = false) :
    TakenDown (giveUp s true) s.armed := by
  refine ⟨disable_installed s true lenient, rfl, ?_⟩
  rw [give_up_state]
  decide

lemma xray_taken_down (s : State) (event : XrayEvent) (lenient : s.killSwitch.strict = false)
    (stopped : stops s event = true) :
    TakenDown (xrayEvent s true event) (s.armed || arms s (.xray event true)) := by
  cases event with
  | failedBefore => simpa [arms, xrayEvent] using give_up_taken_down s lenient
  | failedAfter =>
    have given := give_up_taken_down (setupRouting s) ((routing_strict s).trans lenient)
    rwa [routing_armed] at given
  | ready => cases stopped
  | finished resourceBusy =>
    rw [xrayEvent, if_neg (of_decide_eq_true stopped)]
    simpa [arms] using give_up_taken_down { s with tun2socksRetryCount := 0 } lenient
  | retried ok =>
    cases ok with
    | true => cases stopped
    | false => simpa [arms, xrayEvent] using give_up_taken_down s lenient

lemma step_taken_down (s : State) (event : Event) (lenient : s.killSwitch.strict = false)
    (disabled : disables s event = true) :
    TakenDown (step s event) (s.armed || arms s event) := by
  cases event with
  | networkChange restart =>
    obtain ⟨accepted, cleaned⟩ := Bool.and_eq_true_iff.mp disabled
    rw [step, accepted]
    simpa [arms] using trigger_taken_down s restart .networkChange lenient cleaned
      (retry_not_connected s restart.failure s.connection accepted)
  | timerFired restart =>
    obtain ⟨acts, cleaned⟩ := Bool.and_eq_true_iff.mp disabled
    obtain ⟨running, accepted⟩ := Bool.and_eq_true_iff.mp acts
    obtain ⟨delay, timer⟩ := Option.isSome_iff_exists.mp running
    rw [step, acts]
    have down := retry_not_connected s restart.failure
      { s.connection with reconnectTimer := none } accepted
    simpa [arms] using trigger_taken_down s restart .timerFired lenient cleaned
      (by simpa [VpnConnection.step, timerFired, timer] using down)
  | openVpn event => cases disabled
  | xray event served =>
    simp only [disables, Bool.and_eq_true, beq_iff_eq] at disabled
    obtain ⟨⟨kind, served⟩, stopped⟩ := disabled
    rw [step, if_pos kind, served]
    exact xray_taken_down s event lenient stopped

lemma protected_harmless (s : State) (event : Event) (intact : Intact s)
    (safe : Protected (step s event)) : Harmless s event := by
  intro disabled
  have taken := step_taken_down s event intact.lenient disabled
  have unarmed : (s.armed || arms s event) = false := by
    refine Bool.eq_false_iff.mpr fun armed => ?_
    have on := safe (taken.armed.trans armed) taken.down
    rw [RulesOn, taken.uninstalled] at on
    exact Bool.false_ne_true on.1
  exact Bool.or_eq_false_iff.mp unarmed

/-- In a run that starts with strict mode off, the rules stay until the
connection is back exactly when no clean-up reaches the service after the kill
switch was enabled. -/
theorem kill_switch_survives_iff (start : State) (events : List Event)
    (lenient : start.killSwitch.strict = false) (rules : start.armed = true → RulesOn start) :
    (∀ s, Visits step start events s → Protected s) ↔ Guarded step Harmless start events :=
  visits_property_iff (fun _ intact armed _ => intact.rules armed) step_intact protected_harmless
    start events ⟨lenient, rules⟩

def opened (kind : Kind) : State where
  kind := kind
  config := [("killSwitchOption", .string "true"), ("splitTunnelType", .double 0)]
  remoteAddress := "203.0.113.5"
  protocolState := .connecting
  tun2socksRetryCount := 0
  connection := VpnConnection.step (created .disconnected false)
    (.connectToVpn ⟨true, [], true, [.connecting], true⟩)
  killSwitch := ⟨uninstall, false, []⟩
  armed := false

def servedRestart : Restart := ⟨true, true, true, "203.0.113.5", none⟩

/-- A retry before the kill switch is enabled, and one afterwards whose calls
do not reach the service. -/
def lostCalls : List Event :=
  [.networkChange servedRestart, .openVpn (.pushReply "203.0.113.5"), .openVpn .connected,
    .networkChange ⟨false, false, false, "", some .rangeRefused⟩]

theorem lost_calls_survive :
    (run step (opened .openVpn) lostCalls).armed = true ∧
      Protected (run step (opened .openVpn) lostCalls) :=
  ⟨by decide, (kill_switch_survives_iff (opened .openVpn) lostCalls rfl
    (fun armed => nomatch armed)).mpr (by decide) _ (visits_last step _ _)⟩

/-- The network changes under a connection that is up. The retry starts
OpenVPN again and leaves the filter table without any rule. -/
theorem network_change_unprotects :
    ∃ s, Visits step (opened .openVpn)
        [.openVpn (.pushReply "203.0.113.5"), .openVpn .connected, .networkChange servedRestart] s ∧
      s.armed = true ∧ s.connection.connectionState = .connecting ∧
        s.killSwitch.firewall.installed = false :=
  ⟨_, visits_last step _ _, by decide, by decide, by decide⟩

end AbstractumVpn.Session
