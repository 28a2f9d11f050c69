import AbstractumVpn.DaemonFrames
import AbstractumVpn.Liveness
import AbstractumVpn.Triples

/-!
What the liveness watchdog does over any history of the daemon. Of a call only
two things matter to it: connections are stored fresh or removed, and the
liveness timer is never started. `Tracked` ties the two counters of a connection
to the log of its samples.
-/

namespace AbstractumVpn.Daemon

open WireguardUtilsLinux Frames Runs

variable (ok : Nat → Bool) (qt : Qt)

/-! ## What calls do to the watchdog -/

def watch (s : State) : (HopType → Option ConnectionState) × Bool := (s.connections, s.livenessTimer)

lemma watch_blind : BlindToRouting watch where
  outcome _ := fun _ => rfl
  beside _ := fun _ => rfl
  system _ := fun _ => rfl
  exclusions _ _ := rfl
  resolvers _ _ := rfl

lemma start_watched : Keeps watch startHandshake := fun _ => rfl

lemma guarded_watch (action : StateM State Bool) (s : State) :
    watch (perform (guarded action) s).2 = watch (perform action s).2 := by
  cases result : (perform action s).1 <;> simp [guarded, result, watch]

section Calls

variable {inv : (HopType → Option ConnectionState) × Bool → Prop}

lemma guarded_watched {action : StateM State Bool}
    (kept : Preserves (fun s => inv (watch s)) action) :
    Preserves (fun s => inv (watch s)) (guarded action) := by
  intro s holds
  rw [guarded_watch]
  exact kept s holds

def Storable (inv : (HopType → Option ConnectionState) × Bool → Prop) : Prop :=
  ∀ view config, inv view →
    inv (fun hop => if hop = config.hopType then some { config } else view.1 hop, view.2)

variable (storable : Storable inv)

include storable

lemma store_watched (config : InterfaceConfig) :
    Preserves (fun s => inv (watch s)) (storeConnection config) :=
  Preserves.bind (Preserves.modify fun s holds => storable (watch s) config holds)
    fun _ => Preserves.pure true

lemma bring_up_watched (config : InterfaceConfig) :
    Preserves (fun s => inv (watch s)) (bringUp ok qt config) := by
  apply Preserves.untilFalse
  simp only [List.forall_mem_cons]
  exact ⟨(keeps_interface_ips ok watch_blind.toBlindToResolvers).preserves inv,
    (watch_blind.outcome ok).preserves inv,
    (keeps_exclude ok qt watch_blind.toBlindToExclusions config).preserves inv,
    (keeps_daemon_peer ok qt watch_blind.toBlindToExclusions config).preserves inv,
    (keeps_resolvers ok qt watch_blind.toBlindToResolvers config).preserves inv,
    (keeps_routes ok watch_blind config).preserves inv, store_watched storable config,
    start_watched.preserves inv, by simp⟩

lemma establish_watched (config : InterfaceConfig) :
    Preserves (fun s => inv (watch s)) (establish ok qt config) := by
  have created : Keeps watch (createInterface ok config) :=
    (keeps_get watch).bind fun _ => (keeps_pure watch true).ite fun _ => rfl
  exact Preserves.bind (created.preserves inv) fun _ =>
    Preserves.ite (bring_up_watched ok qt storable config) (Preserves.pure false)

lemma replace_watched (config last : InterfaceConfig) :
    Preserves (fun s => inv (watch s)) (replaceServer ok qt config last) := by
  have switched : Preserves (fun s => inv (watch s)) (switchServer ok qt config last) := by
    apply Preserves.untilFalse
    simp only [List.forall_mem_cons]
    exact ⟨(keeps_exclude ok qt watch_blind.toBlindToExclusions config).preserves inv,
      (keeps_daemon_peer ok qt watch_blind.toBlindToExclusions config).preserves inv,
      (keeps_then_true (keeps_discard (keeps_routes ok watch_blind config))).preserves inv,
      (keeps_release ok qt watch_blind config last).preserves inv,
      store_watched storable config, by simp⟩
  apply Preserves.untilFalse
  simp only [List.forall_mem_cons]
  exact ⟨switched, (keeps_restore watch_blind.toBlindToResolvers).preserves inv,
    (keeps_resolvers ok qt watch_blind.toBlindToResolvers config).preserves inv,
    store_watched storable config, start_watched.preserves inv, by simp⟩

end Calls

lemma clean_up_watch (emitSignals : Bool) :
    Triple (fun _ => True) (cleanUp ok qt emitSignals)
      fun _ s => watch s = (fun _ => none, false) := by
  -- the timer is stopped first, and nothing in between starts it again
  let stopped : (HopType → Option ConnectionState) × Bool → Prop := fun view => view.2 = false
  refine Triple.bind (fun _ s => stopped (watch s)) (Triple.modify fun _ _ => rfl) fun _ => ?_
  refine Triple.bind (fun _ s => stopped (watch s)) (Triple.modify fun _ held => held) fun _ => ?_
  have restored := keeps_discard (keeps_restore watch_blind.toBlindToResolvers)
  refine Triple.bind _ (restored.preserves stopped) fun _ => ?_
  refine Triple.bind _ ((keeps_get watch).preserves stopped) fun _ => ?_
  have removed := fun states => Keeps.forM (keeps_remove ok qt watch_blind) states
  refine Triple.bind _ ((removed _).preserves stopped) fun _ => ?_
  refine Triple.bind _ ((keeps_get watch).preserves stopped) fun _ => ?_
  have released := keeps_release_exclusions ok watch_blind.toBlindToExclusions
  refine Triple.bind _ ((released _).preserves stopped) fun _ => ?_
  exact Triple.modify fun s held => by
    change ((fun _ => none, s.livenessTimer) : (HopType → Option ConnectionState) × Bool) = _
    rw [show s.livenessTimer = false from held]

lemma deactivate_watch (emitSignals : Bool) (s : State) :
    watch (perform (deactivate ok qt emitSignals) s).2 = (fun _ => none, false) :=
  clean_up_watch ok qt emitSignals s trivial

/-- What a call leaves to the watchdog: what it found, nothing at all, or either
of these with fresh connections added. -/
lemma step_watched {inv : (HopType → Option ConnectionState) × Bool → Prop}
    (storable : Storable inv) (cleared : inv (fun _ => none, false)) (s : State) (call : Call)
    (holds : inv (watch s)) : inv (watch (step ok qt s call)) := by
  cases call with
  | deactivate emitSignals =>
    simp only [step, deactivate_watch]
    exact cleared
  | activate config =>
    refine activate_keeps ok qt (fun s => inv (watch s)) config s (fun _ held => held)
      (fun t _ => establish_watched ok qt storable config t) (fun _ => ?_)
      (fun current _ _ => replace_watched ok qt storable config current.config s holds) holds
    rw [deactivate_watch]
    exact cleared

/-- An activation that has to take the old interface down stops the watchdog. -/
lemma replaced_interface_unwatched (s : State) (config : InterfaceConfig)
    (current : ConnectionState) (active : s.connections config.hopType = some current)
    (other : supportServerSwitching current.config config = false) :
    (step ok qt s (.activate config)).livenessTimer = false := by
  let stopped : (HopType → Option ConnectionState) × Bool → Prop := fun view => view.2 = false
  have storable : Storable stopped := fun _ _ held => held
  have off : stopped (watch (perform (deactivate ok qt false) s).2) := by
    rw [deactivate_watch]
  have body : stopped (watch (perform (activateHop ok qt config) s).2) := by
    rw [activate_rebuild ok qt active other]
    split
    · exact guarded_watched (establish_watched ok qt storable config) _ off
    · exact off
  have guard := guarded_watch (activateHop ok qt config) s
  exact (congrArg Prod.snd guard).trans body

section Judge

variable (now : Int) (status : PeerStatus) (c : ConnectionState)

@[simp] lemma judge_config : (judge now status c).1.config = c.config := by
  simp only [judge]
  split_ifs <;> rfl

@[simp] lemma judge_date : (judge now status c).1.date = c.date := by
  simp only [judge]
  split_ifs <;> rfl

@[simp] lemma judge_samples : (judge now status c).1.samples = c.samples := by
  simp only [judge]
  split_ifs <;> rfl

lemma judge_growth (growth : c.lastRxBytes < status.rxBytes) :
    (judge now status c).2 = .alive ∧ (judge now status c).1.stalledSamples = 0 ∧
      (judge now status c).1.quickRecoveryAttempts = 0 := by
  simp [judge, growth]

/-- Without growth the recoveries stay as they are, and a quiet sample leaves
fewer silent samples than make a black hole. -/
lemma judge_no_growth (none : ¬ c.lastRxBytes < status.rxBytes) :
    (judge now status c).2 ≠ .alive ∧
      (judge now status c).1.quickRecoveryAttempts = c.quickRecoveryAttempts ∧
      ((judge now status c).2 = .quiet → (judge now status c).1.stalledSamples < blackholeSamples) := by
  by_cases sent : c.lastTxBytes < status.txBytes
  all_goals
    simp only [judge, Int.sub_pos, none, sent, if_true, if_false]
    split <;> simp_all

end Judge

inductive Sampled (now : Int) (status : PeerStatus) (c : ConnectionState) : ConnectionState → Prop
  | grew {next : ConnectionState} (found : judge now status c = (next, .alive)) :
      Sampled now status c (logSample next .grew)
  | silent {next : ConnectionState} (found : judge now status c = (next, .quiet)) :
      Sampled now status c (logSample next .silent)
  | recovered {next : ConnectionState} (found : judge now status c = (next, .dead))
      (left : next.quickRecoveryAttempts < quickRecoveryAttemptLimit) :
      Sampled now status c (logSample
        { next with quickRecoveryAttempts := next.quickRecoveryAttempts + 1, stalledSamples := 0 }
        .recovered)

inductive LastSample (now : Int) (status : PeerStatus) (c : ConnectionState) :
    ConnectionState → Prop
  | exhausted {next : ConnectionState} (found : judge now status c = (next, .dead))
      (spent : quickRecoveryAttemptLimit ≤ next.quickRecoveryAttempts) :
      LastSample now status c (logSample next .exhausted)
  | updateFailed {next : ConnectionState} (found : judge now status c = (next, .dead))
      (left : next.quickRecoveryAttempts < quickRecoveryAttemptLimit) :
      LastSample now status c (logSample next .updateFailed)

lemma recovery_outcome (config : InterfaceConfig) (attempt : Nat) (s : State) :
    ∃ system, filterView system = filterView s.system ∧
      (perform (tryQuickRecovery ok qt config attempt) s).2 = { s with system } ∧
      (quickRecoveryAttemptLimit ≤ attempt →
        (perform (tryQuickRecovery ok qt config attempt) s).1 = false) := by
  by_cases spent : quickRecoveryAttemptLimit ≤ attempt
  · exact ⟨s.system, rfl, by simp [tryQuickRecovery, spent], by simp [tryQuickRecovery, spent]⟩
  · have asked : Keeps filterView (updatePeer ok qt config) :=
      keeps_update_peer ok qt (fun _ _ => rfl) (fun _ _ => rfl) (fun _ _ => rfl) config
    refine ⟨(perform (updatePeer ok qt config) s.system).2, asked s.system, ?_,
      fun limit => absurd limit spent⟩
    simp only [tryQuickRecovery, spent]
    rfl

lemma sample_cases (now : Int) (hop : HopType) (status : PeerStatus) (s : State) :
    ((∀ c, s.connections hop = some c → status.pubkey ≠ c.config.serverPublicKey) ∧
        perform (sample ok qt now hop status) s = (true, s)) ∨
      ∃ c, s.connections hop = some c ∧ status.pubkey = c.config.serverPublicKey ∧
        ∃ next system, filterView system = filterView s.system ∧
          (Sampled now status c next ∧ perform (sample ok qt now hop status) s =
              (true, putConnection { s with system } hop next) ∨
            LastSample now status c next ∧ perform (sample ok qt now hop status) s =
              (false, giveUp (putConnection { s with system } hop next))) := by
  cases held : s.connections hop with
  | none => exact Or.inl ⟨by simp, by simp [sample, held]⟩
  | some c =>
    by_cases other : status.pubkey = c.config.serverPublicKey
    · refine Or.inr ⟨c, rfl, other, ?_⟩
      cases found : judge now status c with
      | mk next finding =>
        cases finding with
        | alive =>
          exact ⟨_, s.system, rfl, Or.inl ⟨.grew found, by simp [sample, held, other, found]⟩⟩
        | quiet =>
          exact ⟨_, s.system, rfl, Or.inl ⟨.silent found, by simp [sample, held, other, found]⟩⟩
        | dead =>
          obtain ⟨system, kept, after, refused⟩ :=
            recovery_outcome ok qt next.config next.quickRecoveryAttempts s
          by_cases spent : quickRecoveryAttemptLimit ≤ next.quickRecoveryAttempts
          · refine ⟨_, system, kept, Or.inr ⟨.exhausted found spent, ?_⟩⟩
            simp [sample, held, other, found, after, refused spent, spent]
          · have left := Nat.lt_of_not_le spent
            cases outcome : (perform
              (tryQuickRecovery ok qt next.config next.quickRecoveryAttempts) s).1 with
            | true =>
              refine ⟨_, system, kept, Or.inl ⟨.recovered found left, ?_⟩⟩
              simp [sample, held, other, found, after, outcome]
            | false =>
              refine ⟨_, system, kept, Or.inr ⟨.updateFailed found left, ?_⟩⟩
              simp [sample, held, other, found, after, outcome, spent]
    · exact Or.inl ⟨by simp [other], by simp [sample, held, other]⟩

/-! ## Whole polls -/

def AllConnections (good : ConnectionState → Prop) (s : State) : Prop :=
  ∀ hop c, s.connections hop = some c → good c

section Polls

variable {good : ConnectionState → Prop}

lemma put_connections {s : State} {hop : HopType} {next : ConnectionState} (system : System)
    (held : AllConnections good s) (fits : good next) :
    AllConnections good (putConnection { s with system } hop next) := by
  intro other c found
  by_cases same : other = hop
  · simp only [putConnection, same, if_true, Option.some.injEq] at found
    exact found ▸ fits
  · simp only [putConnection, same] at found
    exact held other c found

def Ended (good : ConnectionState → Prop) (now : Int) (signals : List Signal) (s : State) : Prop :=
  s.signals = signals ++ [.disconnected] ∧ ∃ hop status c next, good c ∧ LastSample now status c next ∧
    s.connections hop = some next ∧
    ∀ other held, other ≠ hop → s.connections other = some held → good held

variable (sampled : ∀ now status c next, Sampled now status c next → good c → good next)

include sampled

lemma sample_onward (now : Int) (signals : List Signal) (hop : HopType) (status : PeerStatus) :
    Triple (fun s => s.signals = signals ∧ AllConnections good s) (sample ok qt now hop status)
      (onward (fun s => s.signals = signals ∧ AllConnections good s) (Ended good now signals)) := by
  rintro s ⟨silent, all⟩
  obtain ⟨-, result⟩ | ⟨c, held, -, next, system, -, ⟨one, result⟩ | ⟨last, result⟩⟩ :=
    sample_cases ok qt now hop status s
  · rw [result]
    exact ⟨silent, all⟩
  · rw [result]
    exact ⟨silent, put_connections system all (sampled now status c next one (all hop c held))⟩
  · rw [result]
    refine ⟨by simp [giveUp, putConnection, silent], hop, status, c, next, all hop c held, last, ?_, ?_⟩
    · simp [giveUp, putConnection]
    · intro other found away stored
      simp only [giveUp, putConnection, away] at stored
      exact all other found stored

lemma poll_outcome (now : Int) (peers : List PeerStatus) (s : State) (all : AllConnections good s) :
    let after := (perform (checkLiveness ok qt now peers) s).2
    after.signals = s.signals ∧ AllConnections good after ∨ Ended good now s.signals after := by
  have loop : Triple (fun t => t.signals = s.signals ∧ AllConnections good t)
      (untilFalse (fun hop => untilFalse (sample ok qt now hop) peers) hops)
      (onward (fun t => t.signals = s.signals ∧ AllConnections good t) (Ended good now s.signals)) :=
    Triple.untilFalse fun hop _ => Triple.untilFalse fun status _ =>
      sample_onward ok qt sampled now s.signals hop status
  intro after
  by_cases nothing : ((hops.all fun hop => (s.connections hop).isNone) ||
      !interfaceExists s.system) = true
  · have result : after = { s with livenessTimer := false } := by
      simp only [after, checkLiveness, perform_bind, perform_get, nothing, if_true, perform_modify]
    rw [result]
    exact Or.inl ⟨rfl, all⟩
  · have result : after =
        (perform (untilFalse (fun hop => untilFalse (sample ok qt now hop) peers) hops) s).2 := by
      simp only [after, checkLiveness, perform_bind, perform_get, nothing]
      rfl
    have outcome := loop s ⟨rfl, all⟩
    rw [← result] at outcome
    revert outcome
    cases (perform (untilFalse (fun hop => untilFalse (sample ok qt now hop) peers) hops) s).1 with
    | true => exact Or.inl
    | false => exact Or.inr

end Polls

/-! ## Whole runs -/

/-- What holds of a fresh connection and survives handshakes and samples, the
last sample of a poll that hands over apart. -/
structure Lasting (good : ConnectionState → Prop) : Prop where
  fresh : ∀ config, good { config }
  greeted : ∀ c status, good c → good (greet c status).1
  sampled : ∀ now status c next, Sampled now status c next → good c → good next

section Reactions

variable {good : ConnectionState → Prop}

lemma greet_all_good (greeted : ∀ c status, good c → good (greet c status).1)
    (peers : List PeerStatus) (c : ConnectionState) (fits : good c) : good (greetAll peers c).1 :=
  List.foldlRecOn (motive := fun found : ConnectionState × List Signal => good found.1) peers _ fits
    fun found held status _ => greeted found.1 status held

lemma greet_hop_good (greeted : ∀ c status, good c → good (greet c status).1)
    (peers : List PeerStatus) (s : State) (hop : HopType) (all : AllConnections good s) :
    AllConnections good (greetHop peers s hop) := by
  cases held : s.connections hop with
  | none => simpa only [greetHop, held] using all
  | some c =>
    cases dated : c.date.isSome with
    | true => simpa only [greetHop, held, dated, if_true] using all
    | false =>
      simp only [greetHop, held, dated]
      exact put_connections s.system all (greet_all_good greeted peers c (all hop c held))

def greetHops (peers : List PeerStatus) (s : State) : State :=
  hops.foldl (greetHop peers) { s with handshakeTimer := false }

lemma greet_hops_good (greeted : ∀ c status, good c → good (greet c status).1)
    (peers : List PeerStatus) (s : State) (all : AllConnections good s) :
    AllConnections good (greetHops peers s) :=
  run_invariant (greet_hop_good greeted peers) _ hops all

lemma handshake_good (greeted : ∀ c status, good c → good (greet c status).1)
    (peers : List PeerStatus) (s : State) (all : AllConnections good s) :
    AllConnections good (checkHandshake peers s) := by
  have kept : AllConnections good (greetHops peers s) := greet_hops_good greeted peers s all
  simp only [checkHandshake]
  split_ifs <;> exact kept

lemma call_good (fresh : ∀ config, good { config }) (s : State) (call : Call)
    (all : AllConnections good s) : AllConnections good (step ok qt s call) := by
  have storable : Storable fun view => ∀ hop c, view.1 hop = some c → good c := by
    intro view config held hop c found
    by_cases same : hop = config.hopType
    · simp only [same, if_true, Option.some.injEq] at found
      exact found ▸ fresh config
    · simp only [same] at found
      exact held hop c found
  exact step_watched ok qt storable (by simp) s call all

lemma react_good (lasting : Lasting good) (s : State) (event : Event) (all : AllConnections good s) :
    AllConnections good (react ok qt s event) ∨
      ∃ now peers, event = .livenessPoll now peers ∧
        Ended good now s.signals (react ok qt s event) := by
  cases event with
  | call call => exact Or.inl (call_good ok qt lasting.fresh s call all)
  | handshakePoll peers =>
    left
    simp only [react]
    split
    · exact handshake_good lasting.greeted peers s all
    · exact all
  | livenessPoll now peers =>
    simp only [react]
    split
    · rcases poll_outcome ok qt lasting.sampled now peers s all with ⟨-, kept⟩ | ended
      · exact Or.inl kept
      · exact Or.inr ⟨now, peers, rfl, ended⟩
    · exact Or.inl all

end Reactions

/-! ## When the watchdog gives up -/

def recoveriesSinceGrowth (samples : List Outcome) : Nat :=
  (samples.takeWhile (· ≠ .grew)).count .recovered

/-- A log that ends in a failed peer update, or in a sample for which no recovery
was left after three in a row. -/
def GaveUp : List Outcome → Prop
  | .updateFailed :: _ => True
  | .exhausted :: older => 3 ≤ recoveriesSinceGrowth older
  | _ => False

def Tracked (c : ConnectionState) : Prop :=
  c.quickRecoveryAttempts ≤ recoveriesSinceGrowth c.samples

def WithinLimits (c : ConnectionState) : Prop :=
  c.stalledSamples < blackholeSamples ∧ c.quickRecoveryAttempts ≤ quickRecoveryAttemptLimit

lemma judge_cases (now : Int) (status : PeerStatus) (c next : ConnectionState) (finding : Finding)
    (found : judge now status c = (next, finding)) :
    next.samples = c.samples ∧
      match finding with
      | .alive => next.stalledSamples = 0 ∧ next.quickRecoveryAttempts = 0
      | .quiet => next.stalledSamples < blackholeSamples ∧
          next.quickRecoveryAttempts = c.quickRecoveryAttempts
      | .dead => next.quickRecoveryAttempts = c.quickRecoveryAttempts := by
  have samples := judge_samples now status c
  rw [found] at samples
  refine ⟨samples, ?_⟩
  by_cases growth : c.lastRxBytes < status.rxBytes
  · have grown := judge_growth now status c growth
    rw [found] at grown
    obtain ⟨rfl, stalled, attempts⟩ := grown
    exact ⟨stalled, attempts⟩
  · obtain ⟨silent, attempts, limit⟩ := judge_no_growth now status c growth
    rw [found] at silent attempts limit
    cases finding with
    | alive => exact absurd rfl silent
    | quiet => exact ⟨limit rfl, attempts⟩
    | dead => exact attempts

lemma tracked_lasting : Lasting Tracked where
  fresh _ := Nat.zero_le _
  greeted c status held := by
    simp only [greet]
    split
    · exact held
    · exact Nat.zero_le _
  sampled now status c next one held := by
    simp only [Tracked] at held ⊢
    cases one with
    | grew found =>
      obtain ⟨-, -, attempts⟩ := judge_cases now status c _ _ found
      simp [logSample, attempts]
    | silent found =>
      obtain ⟨samples, -, attempts⟩ := judge_cases now status c _ _ found
      simpa [logSample, samples, attempts, recoveriesSinceGrowth] using held
    | recovered found left =>
      obtain ⟨samples, attempts⟩ := judge_cases now status c _ _ found
      simpa [logSample, samples, attempts, recoveriesSinceGrowth] using held

lemma tracked_last {now : Int} {status : PeerStatus} {c next : ConnectionState}
    (held : Tracked c) (last : LastSample now status c next) : GaveUp next.samples ∧ Tracked next := by
  simp only [Tracked] at held ⊢
  cases last with
  | exhausted found spent =>
    obtain ⟨samples, attempts⟩ := judge_cases now status c _ _ found
    refine ⟨?_, by simpa [logSample, samples, attempts, recoveriesSinceGrowth] using held⟩
    simp only [logSample, samples]
    rw [attempts] at spent
    exact spent.trans held
  | updateFailed found left =>
    obtain ⟨samples, attempts⟩ := judge_cases now status c _ _ found
    exact ⟨trivial, by simpa [logSample, samples, attempts, recoveriesSinceGrowth] using held⟩

lemma limits_lasting : Lasting WithinLimits where
  fresh _ := by simp [WithinLimits, blackholeSamples]
  greeted c status held := by
    simp only [greet]
    split
    · exact held
    · simp [WithinLimits, blackholeSamples]
  sampled now status c next one held := by
    cases one with
    | grew found =>
      obtain ⟨-, stalled, attempts⟩ := judge_cases now status c _ _ found
      simp [WithinLimits, logSample, stalled, attempts, blackholeSamples]
    | silent found =>
      obtain ⟨-, stalled, attempts⟩ := judge_cases now status c _ _ found
      exact ⟨stalled, attempts.trans_le held.2⟩
    | recovered found left => exact ⟨by simp [logSample, blackholeSamples], left⟩

lemma run_tracked (killSwitch : KillSwitch.State) (events : List Event) :
    AllConnections Tracked (run (react ok qt) (created killSwitch) events) := by
  refine run_invariant (fun s event all => ?_) _ events (by simp [AllConnections, created])
  rcases react_good ok qt tracked_lasting s event all with kept | ⟨now, peers, -, -, hop, status, c,
    next, held, last, stored, others⟩
  · exact kept
  · intro other found present
    by_cases same : other = hop
    · rw [same, stored, Option.some.injEq] at present
      exact present ▸ (tracked_last held last).2
    · exact others other found same present

def NoHandover (s : State) : Event → Prop
  | .livenessPoll now peers => (react ok qt s (.livenessPoll now peers)).signals = s.signals
  | _ => True

lemma limits_kept (s : State) (event : Event) (all : AllConnections WithinLimits s)
    (quiet : NoHandover ok qt s event) : AllConnections WithinLimits (react ok qt s event) := by
  rcases react_good ok qt limits_lasting s event all with kept | ⟨now, peers, rfl, emitted, -⟩
  · exact kept
  · have same : s.signals ++ [.disconnected] = s.signals := emitted.symm.trans quiet
    simp at same

/-- A liveness check hands over only after three recoveries without growth or
after a failed update, growth resets both counters of a connection, and until a
handover the counters stay within their limits. -/
theorem watchdog_hands_over_last (killSwitch : KillSwitch.State) (events : List Event) :
    let s := run (react ok qt) (created killSwitch) events
    (∀ now peers, let after := react ok qt s (.livenessPoll now peers)
      after.signals = s.signals ∨ after.signals = s.signals ++ [.disconnected] ∧
        ∃ hop c, after.connections hop = some c ∧ GaveUp c.samples) ∧
    (∀ hop c now status, s.connections hop = some c → status.pubkey = c.config.serverPublicKey →
      c.lastRxBytes < status.rxBytes →
        ∃ next, (perform (sample ok qt now hop status) s).2.connections hop = some next ∧
          next.stalledSamples = 0 ∧ next.quickRecoveryAttempts = 0) ∧
    (Guarded (react ok qt) (NoHandover ok qt) (created killSwitch) events →
      ∀ hop c, s.connections hop = some c →
        c.stalledSamples ≤ 3 ∧ c.quickRecoveryAttempts ≤ 3) := by
  intro s
  have tracked : AllConnections Tracked s := run_tracked ok qt killSwitch events
  refine ⟨?_, ?_, ?_⟩
  · intro now peers
    by_cases running : s.livenessTimer = true
    · simp only [react, running]
      rcases poll_outcome ok qt tracked_lasting.sampled now peers s tracked with
        ⟨same, -⟩ | ⟨emitted, hop, status, c, next, held, last, stored, -⟩
      · exact Or.inl same
      · exact Or.inr ⟨emitted, hop, next, stored, (tracked_last held last).1⟩
    · simp [react, running]
  · intro hop c now status held own growth
    obtain ⟨alive, stalled, attempts⟩ := judge_growth now status c growth
    refine ⟨logSample (judge now status c).1 .grew, ?_, stalled, attempts⟩
    have found : judge now status c = ((judge now status c).1, .alive) := by rw [← alive]
    simp only [sample, perform_bind, perform_get, held, own]
    rw [found]
    simp [putConnection]
  · intro quiet hop c held
    have limits : AllConnections WithinLimits s :=
      guarded_invariant (limits_kept ok qt) _ events (by simp [AllConnections, created]) quiet s
        (visits_last (react ok qt) _ events)
    obtain ⟨stalled, attempts⟩ := limits hop c held
    exact ⟨Nat.le_of_lt stalled, attempts⟩

end AbstractumVpn.Daemon
