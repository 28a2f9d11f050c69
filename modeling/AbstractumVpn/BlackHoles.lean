import AbstractumVpn.EventLogs
import AbstractumVpn.WatchdogTriggers

/-!
What the samples of a connection showed before the watchdog acts on it: a log of
the growth, the stalled samples before and the outcome of each. The counter of
stalled samples counts the newest entries of that log, but a sample that finds
both byte counters unchanged neither counts nor clears it.
-/

namespace AbstractumVpn.Daemon

open WireguardUtilsLinux Frames Runs EventLogs

variable (ok : Nat → Bool) (qt : Qt)

inductive Growth where
  | received
  | sentOnly
  | neither
  deriving DecidableEq

def growth (status : PeerStatus) (c : ConnectionState) : Growth :=
  if c.lastRxBytes < status.rxBytes then .received
  else if c.lastTxBytes < status.txBytes then .sentOnly
  else .neither

structure Sight where
  growth : Growth
  stalledBefore : Nat
  outcome : Option Outcome
  deriving DecidableEq

def Sight.acted (sight : Sight) : Bool :=
  sight.outcome ∈ [some .recovered, some .updateFailed, some .exhausted]

structure Observed where
  daemon : State
  log : List Sight

def sights (hop : HopType) (status : PeerStatus) (before after : State) : List Sight :=
  match before.connections hop, after.connections hop with
  | some c, some next =>
    if status.pubkey = c.config.serverPublicKey then
      [⟨growth status c, c.stalledSamples, next.samples.head?⟩]
    else []
  | _, _ => []

def observe (watched : HopType) (now : Int) (hop : HopType) (status : PeerStatus) :
    StateM Observed Bool := do
  let before ← get
  let result := perform (sample ok qt now hop status) before.daemon
  let seen := if hop = watched then sights hop status before.daemon result.2 else []
  set (⟨result.2, seen ++ before.log⟩ : Observed)
  return result.1

structure Poll where
  now : Int
  peers : List PeerStatus

def observePoll (watched : HopType) (o : Observed) (poll : Poll) : Observed :=
  if (hops.all fun hop => (o.daemon.connections hop).isNone) || !interfaceExists o.daemon.system then
    { o with daemon := (perform (checkLiveness ok qt poll.now poll.peers) o.daemon).2 }
  else
    (perform (untilFalse (fun hop => untilFalse (observe ok qt watched poll.now hop) poll.peers) hops)
      o).2

lemma observe_daemon (watched : HopType) (now : Int) (hop : HopType) (status : PeerStatus) :
    Shows Observed.daemon (observe ok qt watched now hop status) (sample ok qt now hop status) :=
  fun _ => rfl

/-- Beside its log a poll does what `checkLiveness` does. -/
lemma observe_poll_daemon (watched : HopType) (o : Observed) (poll : Poll) :
    (observePoll ok qt watched o poll).daemon =
      (perform (checkLiveness ok qt poll.now poll.peers) o.daemon).2 := by
  by_cases nothing : ((hops.all fun hop => (o.daemon.connections hop).isNone) ||
      !interfaceExists o.daemon.system) = true
  · rw [observePoll, if_pos nothing]
  · rw [observePoll, if_neg nothing]
    have loops := Shows.untilFalse (fun hop =>
      Shows.untilFalse (observe_daemon ok qt watched poll.now hop) poll.peers) hops o
    simp only [checkLiveness, perform_bind, perform_get, nothing]
    exact congrArg Prod.snd loops

lemma observed_daemon (watched : HopType) (o : Observed) (polls : List Poll) :
    (run (observePoll ok qt watched) o polls).daemon =
      run (fun s poll => (perform (checkLiveness ok qt poll.now poll.peers) s).2) o.daemon polls := by
  induction polls generalizing o with
  | nil => rfl
  | cons poll rest ih =>
    rw [run_cons, run_cons, ih, observe_poll_daemon]

def ThirdOfSeries (sight : Sight) (before : List Sight) : Prop :=
  sight.acted = true →
    ((sight :: before).map Sight.growth).take blackholeSamples =
      List.replicate blackholeSamples .sentOnly

instance (sight : Sight) (before : List Sight) : Decidable (ThirdOfSeries sight before) :=
  inferInstanceAs (Decidable (_ → _))

/-- No sample found both byte counters unchanged with stalled samples counted. -/
def Uninterrupted (log : List Sight) : Prop :=
  ∀ sight ∈ log, sight.growth = .neither → sight.stalledBefore = 0

instance (log : List Sight) : Decidable (Uninterrupted log) :=
  inferInstanceAs (Decidable (∀ sight ∈ log, _ → _))

def InSeries (log : List Sight) (c : ConnectionState) : Prop :=
  (log.map Sight.growth).take c.stalledSamples = List.replicate c.stalledSamples .sentOnly

lemma in_series_cleared (log : List Sight) {c : ConnectionState} (cleared : c.stalledSamples = 0) :
    InSeries log c := by
  simp [InSeries, cleared]

/-- Once enough samples are stalled, the newest three are among them. -/
lemma in_series_third {log : List Sight} {c : ConnectionState} (series : InSeries log c)
    (enough : blackholeSamples ≤ c.stalledSamples) :
    (log.map Sight.growth).take blackholeSamples = List.replicate blackholeSamples .sentOnly := by
  have cut := congrArg (List.take blackholeSamples) series
  rwa [List.take_take, List.take_replicate, Nat.min_eq_left enough] at cut

section Samples

variable {now : Int} {status : PeerStatus} {c next : ConnectionState}

/-- What a sample with a recent handshake does to the counter, and when it is
found dead. -/
lemma judge_recent (recent : handshakeStale now status = false) :
    match growth status c with
    | .received => (judge now status c).2 = .alive ∧ (judge now status c).1.stalledSamples = 0
    | .sentOnly => (judge now status c).1.stalledSamples = c.stalledSamples + 1 ∧
        ((judge now status c).2 = .dead → blackholeSamples ≤ c.stalledSamples + 1)
    | .neither => (judge now status c).1.stalledSamples = c.stalledSamples ∧
        ((judge now status c).2 = .dead → blackholeSamples ≤ c.stalledSamples) := by
  by_cases received : c.lastRxBytes < status.rxBytes
  · simp [growth, judge, received]
  · by_cases sent : c.lastTxBytes < status.txBytes <;>
      simp [growth, judge, received, sent, recent]

/-- A sample leaves the counter as judged or cleared, and acts on a connection
that was found dead only. -/
lemma sample_reckoned (after : Sampled now status c next ∨ LastSample now status c next) :
    (next.stalledSamples = (judge now status c).1.stalledSamples ∨ next.stalledSamples = 0) ∧
      ∀ shown stalled, (Sight.mk shown stalled next.samples.head?).acted = true →
        (judge now status c).2 = .dead := by
  rcases after with one | last
  · cases one with
    | grew found | silent found =>
      rw [found]
      exact ⟨Or.inl rfl, fun _ _ acted => by cases acted⟩
    | recovered found =>
      rw [found]
      exact ⟨Or.inr rfl, fun _ _ _ => rfl⟩
  · cases last with
    | exhausted found | updateFailed found =>
      rw [found]
      exact ⟨Or.inl rfl, fun _ _ _ => rfl⟩

/-- When a sample without any growth finds nothing counted, the counter stays one
of the newest samples and the sample keeps the rule. -/
lemma series_step (log : List Sight) (series : InSeries log c)
    (recent : handshakeStale now status = false)
    (allowed : growth status c = .neither → c.stalledSamples = 0)
    (after : Sampled now status c next ∨ LastSample now status c next) :
    let sight : Sight := ⟨growth status c, c.stalledSamples, next.samples.head?⟩
    InSeries (sight :: log) next ∧ ThirdOfSeries sight log := by
  intro sight
  obtain ⟨counted, acts⟩ := sample_reckoned after
  have judged := judge_recent (c := c) recent
  have counts : InSeries (sight :: log) (judge now status c).1 ∧
      ((judge now status c).2 = .dead → blackholeSamples ≤ (judge now status c).1.stalledSamples) := by
    cases shown : growth status c with
    | received =>
      rw [shown] at judged
      exact ⟨in_series_cleared _ judged.2, fun dead => by rw [judged.1] at dead; cases dead⟩
    | sentOnly =>
      rw [shown] at judged
      refine ⟨?_, fun dead => by rw [judged.1]; exact judged.2 dead⟩
      have one_more : (sight :: log).map Sight.growth = .sentOnly :: log.map Sight.growth := by
        rw [List.map_cons, show sight.growth = .sentOnly from shown]
      rw [InSeries, judged.1, one_more, List.take_succ_cons, List.replicate_succ, series]
    | neither =>
      rw [shown] at judged
      have cleared := judged.1.trans (allowed shown)
      exact ⟨in_series_cleared _ cleared, fun dead => by rw [judged.1]; exact judged.2 dead⟩
  constructor
  · rcases counted with same | cleared
    · rw [InSeries, same]
      exact counts.1
    · exact in_series_cleared _ cleared
  · intro acted
    exact in_series_third counts.1 (counts.2 (acts _ _ acted))

end Samples

/-- The connection that is watched is still there, and as long as no sample
interrupted a series its counter counts the newest samples. -/
structure Watched (watched : HopType) (config : InterfaceConfig) (o : Observed) : Prop where
  held : ∃ c, o.daemon.connections watched = some c ∧ c.config = config ∧
    (Uninterrupted o.log → InSeries o.log c)
  thirds : Uninterrupted o.log → Follows ThirdOfSeries o.log

lemma sampled_config {now : Int} {status : PeerStatus} {c next : ConnectionState}
    (after : Sampled now status c next ∨ LastSample now status c next) : next.config = c.config := by
  have same := judge_config now status c
  rcases after with one | last
  · cases one with
    | grew found | silent found | recovered found => rwa [found] at same
  · cases last with
    | exhausted found | updateFailed found => rwa [found] at same

/-- What a status that was looked at leaves of the connections. -/
lemma sample_connections (now : Int) (hop : HopType) (status : PeerStatus) (s : State) :
    ((∀ c, s.connections hop = some c → status.pubkey ≠ c.config.serverPublicKey) ∧
        (perform (sample ok qt now hop status) s).2 = s) ∨
      ∃ c next, s.connections hop = some c ∧ status.pubkey = c.config.serverPublicKey ∧
        (Sampled now status c next ∨ LastSample now status c next) ∧
        ∀ other, (perform (sample ok qt now hop status) s).2.connections other =
          if other = hop then some next else s.connections other := by
  obtain ⟨other, result⟩ | ⟨c, held, own, next, system, -, ⟨one, result⟩ | ⟨last, result⟩⟩ :=
    sample_cases ok qt now hop status s
  · exact Or.inl ⟨other, by rw [result]⟩
  · exact Or.inr ⟨c, next, held, own, Or.inl one, fun _ => by rw [result]; rfl⟩
  · exact Or.inr ⟨c, next, held, own, Or.inr last, fun _ => by rw [result]; rfl⟩

section Polls

variable (watched : HopType) {config : InterfaceConfig}

lemma observe_watched {now : Int} {status : PeerStatus}
    (recent : status.pubkey = config.serverPublicKey → handshakeStale now status = false)
    (hop : HopType) : Preserves (Watched watched config) (observe ok qt watched now hop status) := by
  rintro o ⟨⟨c, held, own, series⟩, thirds⟩
  let after := (perform (sample ok qt now hop status) o.daemon).2
  let seen := if hop = watched then sights hop status o.daemon after else []
  change Watched watched config ⟨after, seen ++ o.log⟩
  obtain ⟨other, same⟩ | ⟨sampled, next, present, key, outcome, connections⟩ :=
    sample_connections ok qt now hop status o.daemon
  · -- the status is not about the connection that is looked at
    have nothing : seen = [] := by
      by_cases here : hop = watched
      · subst here
        simp [seen, sights, show after = o.daemon from same, held, other c held]
      · simp [seen, here]
    rw [nothing, show after = o.daemon from same]
    exact ⟨⟨c, held, own, series⟩, thirds⟩
  · by_cases here : hop = watched
    · subst here
      obtain rfl := Option.some.inj (held.symm.trans present)
      have kept : after.connections hop = some next := (connections hop).trans (if_pos rfl)
      have entry : seen = [⟨growth status c, c.stalledSamples, next.samples.head?⟩] := by
        simp [seen, sights, held, kept, key]
      have step : Uninterrupted (seen ++ o.log) → _ := fun quiet =>
        have before : Uninterrupted o.log := fun sight member =>
          quiet sight (List.mem_append_right _ member)
        series_step o.log (series before) (recent (by rw [key, own]))
          (fun shown => quiet _ (by rw [entry]; exact List.mem_cons_self) shown) outcome
      rw [entry] at step ⊢
      refine ⟨⟨next, kept, (sampled_config outcome).trans own, fun quiet => (step quiet).1⟩, ?_⟩
      intro quiet
      exact ⟨(step quiet).2, thirds fun sight member => quiet sight (List.mem_cons_of_mem _ member)⟩
    · have kept : after.connections watched = some c := by
        rw [show after.connections watched = _ from connections watched, if_neg (Ne.symm here), held]
      rw [show seen = [] from if_neg here]
      exact ⟨⟨c, kept, own, series⟩, thirds⟩

lemma observe_poll_watched (poll : Poll)
    (recent : ∀ status ∈ poll.peers, status.pubkey = config.serverPublicKey →
      handshakeStale poll.now status = false)
    (o : Observed) (holds : Watched watched config o) :
    Watched watched config (observePoll ok qt watched o poll) := by
  by_cases nothing : ((hops.all fun hop => (o.daemon.connections hop).isNone) ||
      !interfaceExists o.daemon.system) = true
  · -- the poll stops the timer and looks at nothing
    rw [observePoll, if_pos nothing]
    have stopped : (perform (checkLiveness ok qt poll.now poll.peers) o.daemon).2 =
        { o.daemon with livenessTimer := false } := by
      simp only [checkLiveness, perform_bind, perform_get, nothing, if_true, perform_modify]
    rw [stopped]
    exact ⟨holds.held, holds.thirds⟩
  · rw [observePoll, if_neg nothing]
    have loop : Preserves (Watched watched config)
        (untilFalse (fun hop => untilFalse (observe ok qt watched poll.now hop) poll.peers) hops) :=
      Preserves.untilFalse fun hop _ => Preserves.untilFalse fun status listed =>
        observe_watched ok qt watched (recent status listed) hop
    exact loop o holds

/-- Over every sequence of polls of a connection whose handshakes stay recent, and
in which no sample without growth of either counter finds stalled samples counted,
the watchdog acts on the connection only at the third of three samples in a row
with sent bytes and no received ones. -/
theorem black_holes_consecutive (start : State) (c : ConnectionState)
    (held : start.connections watched = some c) (begun : c.stalledSamples = 0) (polls : List Poll)
    (recent : ∀ poll ∈ polls, ∀ status ∈ poll.peers,
      status.pubkey = c.config.serverPublicKey → handshakeStale poll.now status = false)
    (o : Observed) (visited : Visits (observePoll ok qt watched) ⟨start, []⟩ polls o)
    (uninterrupted : Uninterrupted o.log) : Follows ThirdOfSeries o.log := by
  have first : Watched watched c.config ⟨start, []⟩ :=
    ⟨⟨c, held, rfl, fun _ => in_series_cleared [] begun⟩, fun _ => trivial⟩
  have guarded := (guarded_forall (observePoll ok qt watched)
    (fun poll => ∀ status ∈ poll.peers, status.pubkey = c.config.serverPublicKey →
      handshakeStale poll.now status = false) ⟨start, []⟩ polls).mpr recent
  have kept := guarded_invariant
    (fun o poll holds recent => observe_poll_watched ok qt watched poll recent o holds)
    _ polls first guarded o visited
  exact kept.thirds uninterrupted

end Polls

/-! The first server after its handshake, which sends 148 bytes where it sends. -/

def sentPolls (sent : List Int) : List Poll :=
  sent.map fun txBytes => ⟨6000, [⟨"first", 1000, 0, txBytes⟩]⟩

def observedAfter (sent : List Int) : Observed :=
  run (observePoll (fun _ => true) noAddresses .singleHop) ⟨afterHandshake, []⟩ (sentPolls sent)

theorem third_silent_sample_recovers :
    (observedAfter [148, 296, 444]).log.map Sight.acted = [true, false, false] ∧
      Follows ThirdOfSeries (observedAfter [148, 296, 444]).log := by
  constructor
  · decide +kernel
  · apply black_holes_consecutive (fun _ => true) noAddresses .singleHop afterHandshake _ rfl rfl
      (sentPolls [148, 296, 444]) ?_ _ (visits_last _ _ _)
    · decide +kernel
    · simp only [sentPolls, List.forall_mem_map]
      intro sent _ status listed _
      obtain rfl := List.mem_singleton.mp listed
      rfl

/-- The second of these four samples shows no growth at all, and the fourth still
counts as the third of a series. -/
theorem pause_does_not_interrupt :
    (∀ poll ∈ sentPolls [148, 148, 296, 444], ∀ status ∈ poll.peers,
        handshakeStale poll.now status = false) ∧
      (observedAfter [148, 148, 296, 444]).log =
        [⟨.sentOnly, 2, some .recovered⟩, ⟨.sentOnly, 1, some .silent⟩, ⟨.neither, 1, some .silent⟩,
          ⟨.sentOnly, 0, some .silent⟩] ∧
      ¬ Follows ThirdOfSeries (observedAfter [148, 148, 296, 444]).log := by
  decide +kernel

end AbstractumVpn.Daemon
