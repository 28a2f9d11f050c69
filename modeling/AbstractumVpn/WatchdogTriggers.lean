import AbstractumVpn.Watchdog

/-!
What sets the watchdog off. A connection without a handshake is out of its reach
as long as no call activates a hop while the liveness timer runs. A tunnel on
which nothing moves is left alone as long as its last handshake is not stale.
-/

namespace AbstractumVpn.Daemon

open WireguardUtilsLinux Frames Runs

variable (ok : Nat → Bool) (qt : Qt)

/-! ## Connections without a handshake -/

def Unrecovered (c : ConnectionState) : Prop :=
  ∀ outcome ∈ c.samples, outcome = .grew ∨ outcome = .silent

def HandshakeFirst (s : State) : Prop := AllConnections (fun c => c.date = none → Unrecovered c) s

/-- A hop is activated only while the liveness timer is stopped, or with the
interface rebuilt. -/
def TimerStopped (s : State) : Event → Prop
  | .call (.activate config) => s.livenessTimer = false ∨ rebuildsInterface s config = true
  | _ => True

instance (s : State) : ∀ event, Decidable (TimerStopped s event)
  | .call (.activate _) => inferInstanceAs (Decidable (_ ∨ _))
  | .call (.deactivate _) | .handshakePoll _ | .livenessPoll _ _ => isTrue trivial

/-- The watchdog has seen no connection without a handshake, and runs only when
there is none. -/
structure Gated (s : State) : Prop where
  unseen : AllConnections (fun c => c.date = none → c.samples = []) s
  dated : s.livenessTimer = true → AllConnections (fun c => c.date.isSome = true) s

lemma greet_dated (c : ConnectionState) (status : PeerStatus) (dated : c.date.isSome = true) :
    (greet c status).1.date.isSome = true := by
  simp only [greet]
  split
  · exact dated
  · rfl

lemma greet_unseen (c : ConnectionState) (status : PeerStatus)
    (unseen : c.date = none → c.samples = []) :
    (greet c status).1.date = none → (greet c status).1.samples = [] := by
  simp only [greet]
  split
  · exact unseen
  · intro undated
    cases undated

lemma activate_stops (s : State) (config : InterfaceConfig)
    (stopped : TimerStopped s (.call (.activate config))) :
    (step ok qt s (.activate config)).livenessTimer = false := by
  have storable : Storable fun view => view.2 = false := fun _ _ held => held
  rcases stopped with off | rebuilt
  · exact step_watched ok qt storable rfl s (.activate config) off
  · cases held : s.connections config.hopType with
    | none => simp [rebuildsInterface, held] at rebuilt
    | some current =>
      simp only [rebuildsInterface, held, Bool.not_eq_true'] at rebuilt
      exact replaced_interface_unwatched ok qt s config current held rebuilt

variable {s : State}

lemma awaiting_dated (settled : hops.any (awaiting s) = false) :
    AllConnections (fun c => c.date.isSome = true) s := by
  intro hop c held
  have member : hop ∈ hops := by cases hop <;> decide
  have waits := (List.any_eq_false.mp settled) hop member
  simpa [awaiting, held, Option.isSome_iff_ne_none] using waits

lemma greet_hops_timer (peers : List PeerStatus) (s : State) :
    (greetHops peers s).livenessTimer = s.livenessTimer := by
  have one : ∀ t hop, (greetHop peers t hop).livenessTimer = t.livenessTimer := by
    intro t hop
    simp only [greetHop]
    split
    · rfl
    · split <;> rfl
  exact List.foldlRecOn (motive := fun t : State => t.livenessTimer = s.livenessTimer) hops _ rfl
    fun t same hop _ => (one t hop).trans same

lemma handshake_timers (peers : List PeerStatus) (s : State) :
    let t := greetHops peers s
    checkHandshake peers s =
      if hops.any (awaiting t) then { t with handshakeTimer := true }
      else if hops.any fun hop => (t.connections hop).isSome then { t with livenessTimer := true }
      else t := rfl

lemma handshake_gated (peers : List PeerStatus) (s : State) (gated : Gated s) :
    Gated (checkHandshake peers s) := by
  refine ⟨handshake_good greet_unseen peers s gated.unseen, ?_⟩
  have earlier : s.livenessTimer = true →
      AllConnections (fun c => c.date.isSome = true) (greetHops peers s) :=
    fun runs => greet_hops_good greet_dated peers s (gated.dated runs)
  have timer := greet_hops_timer peers s
  rw [handshake_timers]
  generalize greetHops peers s = t at earlier timer
  by_cases waiting : hops.any (awaiting t) = true
  · rw [if_pos waiting]
    exact fun runs => earlier (timer.symm.trans runs)
  · have dated : AllConnections (fun c => c.date.isSome = true) t :=
      awaiting_dated (Bool.eq_false_iff.mpr waiting)
    split_ifs <;> exact fun _ => dated

variable {c next : ConnectionState}

lemma sampled_date {now : Int} {status : PeerStatus} (one : Sampled now status c next) :
    next.date = c.date := by
  have kept := judge_date now status c
  cases one with
  | grew found | silent found | recovered found _ =>
    rw [found] at kept
    exact kept

lemma last_date {now : Int} {status : PeerStatus} (last : LastSample now status c next) :
    next.date = c.date := by
  have kept := judge_date now status c
  cases last with
  | exhausted found _ | updateFailed found _ =>
    rw [found] at kept
    exact kept

lemma poll_dated (now : Int) (peers : List PeerStatus) (s : State)
    (dated : AllConnections (fun c => c.date.isSome = true) s) :
    AllConnections (fun c => c.date.isSome = true)
      (perform (checkLiveness ok qt now peers) s).2 := by
  have sampled : ∀ now status c next, Sampled now status c next →
      c.date.isSome = true → next.date.isSome = true := by
    intro now status c next one held
    rwa [sampled_date one]
  rcases poll_outcome ok qt sampled now peers s dated with
    ⟨-, kept⟩ | ⟨-, hop, status, c, next, held, last, stored, others⟩
  · exact kept
  · intro other found present
    by_cases same : other = hop
    · rw [same, stored, Option.some.injEq] at present
      rw [← present, last_date last]
      exact held
    · exact others other found same present

lemma react_gated (s : State) (event : Event) (gated : Gated s) (stopped : TimerStopped s event) :
    Gated (react ok qt s event) := by
  cases event with
  | call call =>
    refine ⟨call_good ok qt (fun _ _ => rfl) s call gated.unseen, ?_⟩
    intro runs
    cases call with
    | deactivate emitSignals =>
      have off := congrArg Prod.snd (deactivate_watch ok qt emitSignals s)
      exact absurd (off.symm.trans runs) (by simp)
    | activate config =>
      have off := activate_stops ok qt s config stopped
      exact absurd (off.symm.trans runs) (by simp)
  | handshakePoll peers =>
    simp only [react]
    split
    · exact handshake_gated peers s gated
    · exact gated
  | livenessPoll now peers =>
    simp only [react]
    split
    · rename_i runs
      have dated := poll_dated ok qt now peers s (gated.dated runs)
      refine ⟨fun hop c held undated => ?_, fun _ => dated⟩
      have some := dated hop c held
      simp [undated] at some
    · exact gated

/-- When no hop is activated under a running liveness timer, the watchdog tries
nothing for a connection that waits for its handshake. -/
theorem watchdog_waits_for_handshake (killSwitch : KillSwitch.State) (events : List Event)
    (stopped : Guarded (react ok qt) TimerStopped (created killSwitch) events) (s : State)
    (visited : Visits (react ok qt) (created killSwitch) events s) : HandshakeFirst s := by
  have start : Gated (created killSwitch) :=
    ⟨by simp [AllConnections, created], by simp [created]⟩
  have gated := guarded_invariant (react_gated ok qt) _ events start stopped s visited
  intro hop c held undated outcome member
  rw [gated.unseen hop c held undated] at member
  cases member

/-! Two servers of one account: same keys and device addresses, so the daemon
switches between them. -/

def accountServer (key address : String) : InterfaceConfig :=
  { serverPublicKey := key, serverIpv4AddrIn := some address }

def firstConnected : List Event :=
  [.call (.activate (accountServer "first" "203.0.113.5")), .handshakePoll [⟨"first", 1000, 0, 0⟩]]

theorem stopped_watchdog_waits :
    HandshakeFirst (run (react (fun _ => true) noAddresses) (created noKillSwitch)
      (firstConnected ++ [.call (.deactivate true),
        .call (.activate (accountServer "second" "198.51.100.9")),
        .livenessPoll 6000 [⟨"second", 0, 0, 148⟩]])) :=
  watchdog_waits_for_handshake (fun _ => true) noAddresses noKillSwitch _ (by decide) _
    (visits_last _ _ _)

/-- The switch leaves the timer of the first connection running. -/
theorem switched_server_recovered_early :
    ∃ c, (run (react (fun _ => true) noAddresses) (created noKillSwitch)
        (firstConnected ++ [.call (.activate (accountServer "second" "198.51.100.9")),
          .livenessPoll 6000 [⟨"second", 0, 0, 148⟩]])).connections .singleHop = some c ∧
      c.config.serverPublicKey = "second" ∧ c.date = none ∧ c.samples = [.recovered] :=
  ⟨_, rfl, rfl, rfl, rfl⟩

/-! ## Tunnels on which nothing moves -/

structure Established (start : State) : Prop where
  watched : start.livenessTimer = true
  interface : interfaceExists start.system = true
  connected : ∃ hop c, start.connections hop = some c
  limits : AllConnections (fun c => c.stalledSamples < blackholeSamples) start

structure IdlePoll (start : State) where
  now : Int
  peers : List PeerStatus
  unchanged : ∀ status ∈ peers, ∀ hop c, start.connections hop = some c →
    status.pubkey = c.config.serverPublicKey →
      status.txBytes = c.lastTxBytes ∧ status.rxBytes = c.lastRxBytes

/-- The last handshake of the peer of this hop is recent enough, if the status
is about that peer. -/
def RecentFor (start : State) (now : Int) (hop : HopType) (status : PeerStatus) : Prop :=
  ∀ c, start.connections hop = some c → status.pubkey = c.config.serverPublicKey →
    handshakeStale now status = false

def IdlePoll.Recent {start : State} (poll : IdlePoll start) : Prop :=
  ∀ hop ∈ hops, ∀ status ∈ poll.peers, RecentFor start poll.now hop status

def poll {start : State} (s : State) (poll : IdlePoll start) : State :=
  react ok qt s (.livenessPoll poll.now poll.peers)

def silentFor (n : Nat) (c : ConnectionState) : ConnectionState :=
  { c with samples := List.replicate n .silent ++ c.samples }

/-- No signal since `start`, and no sample that was more than silent. -/
def LeftAlone (start s : State) : Prop :=
  s.signals = start.signals ∧ ∀ hop c, s.connections hop = some c →
    ∃ before n, start.connections hop = some before ∧
      c.samples = List.replicate n .silent ++ before.samples

structure Resting (start s : State) : Prop where
  signals : s.signals = start.signals
  watched : s.livenessTimer = true
  interface : interfaceExists s.system = true
  connections : ∀ hop, ∃ n, s.connections hop = (start.connections hop).map (silentFor n)

def Disturbed (start s : State) : Prop :=
  ∃ hop c before newer, s.connections hop = some c ∧ start.connections hop = some before ∧
    c.samples = newer ++ before.samples ∧ ∃ outcome ∈ newer, outcome ≠ .silent

lemma disturbed_not_alone {start : State} (disturbed : Disturbed start s) :
    ¬ LeftAlone start s := by
  rintro ⟨-, alone⟩
  obtain ⟨hop, c, before, newer, held, first, log, outcome, member, loud⟩ := disturbed
  obtain ⟨_, n, same, silent⟩ := alone hop c held
  obtain rfl := Option.some.inj (first.symm.trans same)
  rw [log, List.append_cancel_right_eq] at silent
  rw [silent] at member
  exact loud (List.eq_of_mem_replicate member)

section Idle

variable {start : State}

lemma Resting.silent (resting : Resting start s) {hop : HopType}
    (held : s.connections hop = some c) :
    ∃ before n, start.connections hop = some before ∧ c = silentFor n before := by
  obtain ⟨n, same⟩ := resting.connections hop
  rw [same] at held
  obtain ⟨before, first, rfl⟩ := Option.map_eq_some_iff.mp held
  exact ⟨before, n, first, rfl⟩

lemma resting_alone (resting : Resting start s) : LeftAlone start s := by
  refine ⟨resting.signals, fun hop c held => ?_⟩
  obtain ⟨before, n, first, rfl⟩ := resting.silent held
  exact ⟨before, n, first, rfl⟩

lemma judge_idle (now : Int) (status : PeerStatus) (c : ConnectionState)
    (sent : status.txBytes = c.lastTxBytes) (received : status.rxBytes = c.lastRxBytes)
    (limit : c.stalledSamples < blackholeSamples) :
    judge now status c = (c, if handshakeStale now status then .dead else .quiet) := by
  cases stale : handshakeStale now status <;> simp [judge, sent, received, limit, stale]

lemma sampled_log {now : Int} {status : PeerStatus} (one : Sampled now status c next) :
    ∃ outcome, next.samples = outcome :: c.samples := by
  have kept := judge_samples now status c
  cases one with
  | grew found | silent found | recovered found _ =>
    rw [found] at kept
    exact ⟨_, congrArg (List.cons _) kept⟩

lemma last_log {now : Int} {status : PeerStatus} (last : LastSample now status c next) :
    ∃ outcome, outcome ≠ .silent ∧ next.samples = outcome :: c.samples := by
  have kept := judge_samples now status c
  cases last with
  | exhausted found _ | updateFailed found _ =>
    rw [found] at kept
    exact ⟨_, by decide, congrArg (List.cons _) kept⟩

lemma sample_logs (now : Int) (hop : HopType) (status : PeerStatus) (s : State) (other : HopType)
    (c : ConnectionState) (held : s.connections other = some c) :
    ∃ next newer, (perform (sample ok qt now hop status) s).2.connections other = some next ∧
      next.samples = newer ++ c.samples := by
  obtain ⟨-, result⟩ | ⟨sampled, own, -, next, system, -, outcome⟩ :=
    sample_cases ok qt now hop status s
  · exact ⟨c, [], by rw [result, held], rfl⟩
  · by_cases same : other = hop
    · subst same
      obtain rfl := Option.some.inj (held.symm.trans own)
      rcases outcome with ⟨one, result⟩ | ⟨last, result⟩
      · obtain ⟨added, log⟩ := sampled_log one
        exact ⟨next, [added], by simp [result, putConnection], log⟩
      · obtain ⟨added, -, log⟩ := last_log last
        exact ⟨next, [added], by simp [result, putConnection, giveUp], log⟩
    · rcases outcome with ⟨-, result⟩ | ⟨-, result⟩ <;>
        exact ⟨c, [], by simp [result, putConnection, giveUp, same, held], rfl⟩

lemma disturbed_stays (now : Int) (hop : HopType) (status : PeerStatus) :
    Preserves (Disturbed start) (sample ok qt now hop status) := by
  rintro s ⟨other, c, before, newer, held, first, log, outcome, member, loud⟩
  obtain ⟨next, added, stored, grown⟩ := sample_logs ok qt now hop status s other c held
  refine ⟨other, next, before, added ++ newer, stored, first, ?_, outcome,
    List.mem_append_right added member, loud⟩
  rw [grown, log, List.append_assoc]

lemma resting_connection (established : Established start) (p : IdlePoll start)
    (resting : Resting start s) {hop : HopType} {status : PeerStatus} (listed : status ∈ p.peers)
    (held : s.connections hop = some c) (own : status.pubkey = c.config.serverPublicKey) :
    ∃ before n, start.connections hop = some before ∧ c = silentFor n before ∧
      status.pubkey = before.config.serverPublicKey ∧
      judge p.now status c = (c, if handshakeStale p.now status then .dead else .quiet) := by
  obtain ⟨before, n, first, rfl⟩ := resting.silent held
  obtain ⟨sent, received⟩ := p.unchanged status listed hop before first own
  exact ⟨before, n, first, rfl, own,
    judge_idle p.now status _ sent received (established.limits hop before first)⟩

variable (established : Established start) (p : IdlePoll start)

include established

lemma recent_sample (hop : HopType) (status : PeerStatus) (listed : status ∈ p.peers)
    (recent : RecentFor start p.now hop status) :
    Triple (Resting start) (sample ok qt p.now hop status)
      (onward (Resting start) fun _ => False) := by
  intro s resting
  obtain ⟨-, result⟩ | ⟨c, held, own, next, system, kept, outcome⟩ :=
    sample_cases ok qt p.now hop status s
  · rw [result]
    exact resting
  · obtain ⟨before, n, first, same, ours, found⟩ :=
      resting_connection established p resting listed held own
    rw [recent before first ours] at found
    rcases outcome with ⟨one, result⟩ | ⟨last, -⟩
    · cases one with
      | grew other | recovered other _ => rw [found] at other; cases other
      | silent other =>
        rw [found] at other
        cases other
        rw [result]
        refine ⟨resting.signals, resting.watched, ?_, fun other => ?_⟩
        · exact (congrArg (fun view => view.2.1) kept).trans resting.interface
        · by_cases here : other = hop
          · refine ⟨n + 1, ?_⟩
            simp [here, putConnection, first, same, silentFor, logSample, List.replicate_succ]
          · simpa [putConnection, here] using resting.connections other
    · cases last with
      | exhausted other _ | updateFailed other _ => rw [found] at other; cases other

lemma stale_sample (hop : HopType) (status : PeerStatus) (listed : status ∈ p.peers)
    (stale : ¬ RecentFor start p.now hop status) :
    Triple (Resting start) (sample ok qt p.now hop status) fun _ => Disturbed start := by
  intro s resting
  simp only [RecentFor, not_forall, Bool.not_eq_false] at stale
  obtain ⟨before, first, ours, old⟩ := stale
  obtain ⟨n, same⟩ := resting.connections hop
  rw [first, Option.map_some] at same
  obtain ⟨other, -⟩ | ⟨c, held, own, next, system, -, outcome⟩ :=
    sample_cases ok qt p.now hop status s
  · exact (other _ same ours).elim
  · obtain ⟨_, _, -, -, -, found⟩ := resting_connection established p resting listed held own
    obtain rfl := Option.some.inj (held.symm.trans same)
    rw [old, if_pos rfl] at found
    have logged : ∃ added, added ≠ .silent ∧ next.samples = added :: (silentFor n before).samples := by
      rcases outcome with ⟨one, -⟩ | ⟨last, -⟩
      · cases one with
        | grew other | silent other => rw [found] at other; cases other
        | recovered other _ =>
          rw [found] at other
          cases other
          exact ⟨.recovered, by decide, rfl⟩
      · exact last_log last
    obtain ⟨added, loud, log⟩ := logged
    have stored : (perform (sample ok qt p.now hop status) s).2.connections hop = some next := by
      rcases outcome with ⟨-, result⟩ | ⟨-, result⟩ <;> simp [result, putConnection, giveUp]
    exact ⟨hop, next, before, added :: List.replicate n .silent, stored, first, log, added,
      List.mem_cons_self, loud⟩

lemma poll_loops (resting : Resting start s) :
    poll ok qt s p =
      (perform (untilFalse (fun hop => untilFalse (sample ok qt p.now hop) p.peers) hops) s).2 := by
  have connected : (hops.all fun hop => (s.connections hop).isNone) = false := by
    obtain ⟨hop, c, held⟩ := established.connected
    obtain ⟨n, same⟩ := resting.connections hop
    have member : hop ∈ hops := by cases hop <;> decide
    simp only [List.all_eq_false]
    exact ⟨hop, member, by simp [same, held]⟩
  simp only [poll, react, resting.watched, checkLiveness, perform_bind, perform_get,
    connected, resting.interface]
  rfl

lemma recent_poll (resting : Resting start s) (recent : p.Recent) :
    Resting start (poll ok qt s p) := by
  rw [poll_loops ok qt established p resting]
  have loops := Triple.untilFalse fun hop member => Triple.untilFalse fun status listed =>
    recent_sample ok qt established p hop status listed (recent hop member status listed)
  have outcome := loops s resting
  revert outcome
  cases (perform (untilFalse (fun hop => untilFalse (sample ok qt p.now hop) p.peers) hops) s).1 with
  | true => exact id
  | false => exact False.elim

lemma stale_poll (resting : Resting start s) (stale : ¬ p.Recent) :
    Disturbed start (poll ok qt s p) := by
  rw [poll_loops ok qt established p resting]
  let fine hop := ∀ status ∈ p.peers, RecentFor start p.now hop status
  have stays : ∀ hop, Preserves (Disturbed start) (untilFalse (sample ok qt p.now hop) p.peers) :=
    fun hop => Preserves.untilFalse fun status _ => disturbed_stays ok qt p.now hop status
  have recent : ∀ hop, fine hop → Triple (Resting start)
      (untilFalse (sample ok qt p.now hop) p.peers) (onward (Resting start) fun _ => False) :=
    fun hop recent => Triple.untilFalse fun status listed =>
      recent_sample ok qt established p hop status listed (recent status listed)
  have disturbs : ∀ hop, ¬ fine hop → Triple (Resting start)
      (untilFalse (sample ok qt p.now hop) p.peers) fun _ => Disturbed start := by
    intro hop unfit
    simp only [fine, not_forall] at unfit
    obtain ⟨status, listed, old⟩ := unfit
    exact Triple.untilFalse_lost (recent_sample ok qt established p hop)
      (stale_sample ok qt established p hop) (fun status _ => disturbed_stays ok qt p.now hop status)
      ⟨status, listed, old⟩
  have some : ∃ hop ∈ hops, ¬ fine hop := by
    simpa only [fine, IdlePoll.Recent, not_forall, exists_prop] using stale
  exact Triple.untilFalse_lost (fun hop _ => recent hop) (fun hop _ => disturbs hop)
    (fun hop _ => stays hop) some s resting

end Idle

/-- The watchdog leaves a tunnel alone on which nothing moves if and only if no
poll finds its last handshake stale. -/
theorem idle_tunnel_left_alone_iff (start : State) (established : Established start)
    (polls : List (IdlePoll start)) :
    (∀ s, Visits (poll ok qt) start polls s → LeftAlone start s) ↔ ∀ p ∈ polls, p.Recent := by
  have rests : Resting start start :=
    ⟨rfl, established.watched, established.interface, fun hop => ⟨0, by
      cases start.connections hop <;> rfl⟩⟩
  rw [← guarded_forall (poll ok qt) IdlePoll.Recent start polls]
  have kept : ∀ s (p : IdlePoll start), Resting start s → p.Recent → Resting start (poll ok qt s p) :=
    fun s p => recent_poll ok qt established p
  have forced : ∀ s (p : IdlePoll start), Resting start s → LeftAlone start (poll ok qt s p) →
      p.Recent := by
    intro s p resting alone
    by_contra stale
    exact disturbed_not_alone (stale_poll ok qt established p resting stale) alone
  exact visits_property_iff (fun _ => resting_alone) kept forced start polls rests

/-! The first server after its handshake, with an idle user. -/

def afterHandshake : State := run (react (fun _ => true) noAddresses) (created noKillSwitch) firstConnected

def idlePoll (now : Int) : IdlePoll afterHandshake where
  now := now
  peers := [⟨"first", 1000, 0, 0⟩]
  unchanged := by
    intro status listed hop c held _
    obtain rfl := List.mem_singleton.mp listed
    cases hop with
    | singleHop =>
      obtain rfl := Option.some.inj held
      exact ⟨rfl, rfl⟩
    | multiHopEntry => cases held
    | multiHopExit => cases held

theorem fresh_tunnel_left_alone :
    LeftAlone afterHandshake (run (poll (fun _ => true) noAddresses) afterHandshake
      [idlePoll 6000, idlePoll 151000]) := by
  have established : Established afterHandshake := by
    refine ⟨rfl, rfl, ⟨.singleHop, _, rfl⟩, fun hop c held => ?_⟩
    cases hop with
    | singleHop =>
      obtain rfl := Option.some.inj held
      decide
    | multiHopEntry => cases held
    | multiHopExit => cases held
  refine (idle_tunnel_left_alone_iff (fun _ => true) noAddresses afterHandshake established
    [idlePoll 6000, idlePoll 151000]).mpr ?_ _ (visits_last _ _ _)
  simp only [List.forall_mem_cons, List.not_mem_nil, false_imp_iff, implies_true, and_true]
  constructor
  all_goals
    intro hop _ status listed c _ _
    obtain rfl := List.mem_singleton.mp listed
    decide

/-- Four polls of a tunnel whose counters never move, with its handshake 151
seconds old: three recoveries, then the handover. -/
theorem idle_tunnel_declared_dead :
    (run (poll (fun _ => true) noAddresses) afterHandshake
        (List.replicate 4 (idlePoll 152000))).signals =
      afterHandshake.signals ++ [.disconnected] ∧
    ((run (poll (fun _ => true) noAddresses) afterHandshake
        (List.replicate 4 (idlePoll 152000))).connections .singleHop).map ConnectionState.samples =
      some [.exhausted, .recovered, .recovered, .recovered] := by
  decide +kernel

end AbstractumVpn.Daemon
