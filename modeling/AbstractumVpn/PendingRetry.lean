import AbstractumVpn.Runs
import AbstractumVpn.VpnConnection

/-!
A lost connection is to be waited for: while the user has not asked to
disconnect, a failed start or a reported loss leaves the reconnect timer running.
In the program the timer never runs, so that the promise holds as long as nothing
is lost: `Intact` says which events lose nothing.
-/

namespace AbstractumVpn.VpnConnection

def lost : List Effect → Bool
  | [] => false
  | .startFailed :: _ => true
  | .starting :: _ => false
  | .reported .disconnected :: _ => true
  | .reported .error :: _ => true
  | .reported .connected :: _ => false
  | _ :: earlier => lost earlier

def Attempts (s : State) (event : Event) : Prop := .attempted :: s.effects <:+ (step s event).effects

/-- A loss has a retry pending, and a pending retry is made when it is due. -/
def NeverWaits (s : State) : Prop :=
  s.hasProtocol = true → s.userInitiatedDisconnect = false →
    (lost s.effects = true → s.reconnectTimer.isSome = true) ∧
    (s.reconnectTimer.isSome = true → ∀ attempt, Attempts s (.timerFired attempt))

def loses (before : Bool) : ConnectionState → Bool
  | .disconnected | .error => true
  | .connected => false
  | .unknown | .preparing | .connecting | .disconnecting | .reconnecting => before

/-- A start succeeds, and what it reports does not end in a loss. -/
def Starts (reports : List ConnectionState) (ok : Bool) : Prop :=
  ok = true ∧ reports.foldl loses false = false

/-- A start that is made succeeds, and while there is a protocol it reports
neither `disconnected` nor `error`. -/
def Intact (s : State) : Event → Prop
  | .connectToVpn connect =>
    connect.repositories = true → connect.created = true → Starts connect.startReports connect.ok
  | .disconnectFromVpn _ => True
  | .protocolReport state => s.hasProtocol = true → loses false state = false
  | .networkChange attempt => accepts s = true → Starts attempt.startReports attempt.ok
  | .timerFired _ => True

/-- The timer is elsewhere and has not been started, and after a request to
disconnect there is no protocol. -/
structure Idle (s : State) : Prop where
  elsewhere : s.timerInThread = false
  stopped : s.reconnectTimer = none
  dismissed : s.userInitiatedDisconnect = true → s.hasProtocol = false

def Unbroken (s : State) : Prop := s.hasProtocol = true → lost s.effects = false

variable (s : State) (state : ConnectionState) (reports : List ConnectionState) (ok : Bool)

/-! What the parts of the operations do to the timer and to a loss. -/

def timer (s : State) : Bool × Option Nat := (s.timerInThread, s.reconnectTimer)

lemma schedule_idle (idle : timer s = (false, none)) :
    timer (scheduleReconnect s) = (false, none) := by
  obtain ⟨elsewhere, stopped⟩ := Prod.mk.inj idle
  unfold scheduleReconnect
  split
  · exact idle
  · simp [timer, log, elsewhere, stopped]

lemma set_idle (idle : timer s = (false, none)) :
    timer (setConnectionState s state) = (false, none) := by
  rcases set_cases s state with ⟨-, -, same⟩ | ⟨-, same⟩ | ⟨-, -, same⟩ | ⟨-, -, -, same⟩
  · rwa [same]
  · rw [same]
    exact Prod.ext (Prod.mk.inj idle).1 rfl
  · rw [same]
    exact schedule_idle _ idle
  · rw [same]
    exact idle

lemma deliver_idle (idle : timer s = (false, none)) : timer (deliver s reports) = (false, none) := by
  induction reports generalizing s with
  | nil => exact idle
  | cons report rest ih => exact ih _ (set_idle (log (.reported report) s) report idle)

lemma start_idle (idle : timer s = (false, none)) : timer (start s reports ok) = (false, none) := by
  have delivered := deliver_idle (log .starting s) reports idle
  cases ok <;> exact delivered

lemma schedule_lost : lost (scheduleReconnect s).effects = lost s.effects := by
  unfold scheduleReconnect
  split <;> rfl

lemma set_lost : lost (setConnectionState s state).effects = lost s.effects := by
  rcases set_cases s state with ⟨-, -, same⟩ | ⟨-, same⟩ | ⟨-, -, same⟩ | ⟨-, -, -, same⟩
  · rw [same]
  · rw [same]
    rfl
  · rw [same]
    exact schedule_lost { s with connectionState := state }
  · rw [same]

lemma receive_lost : lost (receive s state).effects = loses (lost s.effects) state := by
  rw [receive, set_lost]
  cases state <;> rfl

lemma deliver_lost : lost (deliver s reports).effects = reports.foldl loses (lost s.effects) := by
  induction reports generalizing s with
  | nil => rfl
  | cons report rest ih => rw [deliver_cons, ih, receive_lost, List.foldl_cons]

lemma start_lost : lost (start s reports ok).effects = false ↔ Starts reports ok := by
  have delivered : lost (deliver (log .starting s) reports).effects = reports.foldl loses false :=
    deliver_lost (log .starting s) reports
  cases ok with
  | true => simp [start, Starts, delivered]
  | false => simp [start, Starts, log, lost]

@[simp] lemma start_protocol : (start s reports ok).hasProtocol = s.hasProtocol := by
  cases ok <;> simp [start, log]

/-! The operations. -/

variable {s}

lemma Idle.of_timer {s : State} (still : timer s = (false, none))
    (dismissed : s.userInitiatedDisconnect = true → s.hasProtocol = false) : Idle s :=
  ⟨(Prod.mk.inj still).1, (Prod.mk.inj still).2, dismissed⟩

lemma Idle.timer (idle : Idle s) : timer s = (false, none) := Prod.ext idle.elsewhere idle.stopped

lemma reconnect_intact (attempt : Attempt) (idle : Idle s) (unbroken : Unbroken s) :
    Idle (reconnectToVpn s attempt) ∧
      (Unbroken (reconnectToVpn s attempt) ↔ Intact s (.networkChange attempt)) := by
  cases accepted : accepts s with
  | false =>
    rw [reconnect_refused s attempt accepted]
    exact ⟨idle, by simp [Intact, accepted, unbroken]⟩
  | true =>
    have free := accepts_free s accepted
    have present : s.hasProtocol = true := by
      simp only [accepts, Bool.and_eq_true] at accepted
      exact accepted.1.1
    have stopped := deliver_idle _ attempt.stopReports
      (set_idle (log .attempted { s with reconnectAttempt := s.reconnectAttempt + 1 }) .reconnecting
        idle.timer)
    have restarted := start_idle _ attempt.startReports attempt.ok stopped
    have loss := start_lost (deliver (setConnectionState
      (log .attempted { s with reconnectAttempt := s.reconnectAttempt + 1 }) .reconnecting)
      attempt.stopReports) attempt.startReports attempt.ok
    rw [reconnectToVpn, if_pos accepted]
    split
    · constructor
      · exact Idle.of_timer restarted (by simp [start_user, log, free])
      · simp only [Unbroken, Intact, accepted, forall_true_left, loss]
        simp [log, present]
    · constructor
      · exact Idle.of_timer (schedule_idle _ restarted) (by simp [start_user, log, free])
      · simp only [Unbroken, Intact, accepted, forall_true_left, schedule_lost, loss]
        simp [log, present]

lemma replace_intact (connect : Connect) (still : timer s = (false, none))
    (free : s.userInitiatedDisconnect = false) :
    Idle (replaceProtocol s connect) ∧
      (Unbroken (replaceProtocol s connect) ↔
        (connect.created = true → Starts connect.startReports connect.ok)) := by
  unfold replaceProtocol
  generalize after : (if s.hasProtocol then deliver s connect.oldReports else s) = stopped
  have idle : timer stopped = (false, none) ∧ stopped.userInitiatedDisconnect = false := by
    rw [← after]
    split
    · exact ⟨deliver_idle s connect.oldReports still, by simp [free]⟩
    · exact ⟨still, free⟩
  obtain ⟨idle, wanted⟩ := idle
  have restarted := start_idle { stopped with hasProtocol := true } connect.startReports connect.ok idle
  have loss := start_lost { stopped with hasProtocol := true } connect.startReports connect.ok
  dsimp only
  split
  · rename_i created
    split
    · constructor
      · exact Idle.of_timer restarted (by simp [start_user, wanted])
      · simp [Unbroken, created, loss]
    · constructor
      · exact Idle.of_timer (set_idle _ .error restarted) (by simp [start_user, wanted])
      · simp [Unbroken, created, set_lost, loss]
  · rename_i unknown
    constructor
    · exact Idle.of_timer (set_idle { stopped with hasProtocol := false } .error idle) (by simp)
    · simp [Unbroken, unknown]

lemma connect_intact (connect : Connect) (idle : Idle s) (unbroken : Unbroken s) :
    Idle (VpnConnection.connectToVpn s connect) ∧
      (Unbroken (VpnConnection.connectToVpn s connect) ↔ Intact s (.connectToVpn connect)) := by
  have fresh : timer (cancelReconnect (log .requested { s with userInitiatedDisconnect := false })) =
      (false, none) := Prod.ext idle.elsewhere rfl
  unfold VpnConnection.connectToVpn
  dsimp only
  split
  · rename_i repositories
    have replaced := replace_intact connect (set_idle _ .connecting fresh)
      (by simp [cancelReconnect, log])
    simpa only [Intact, repositories, forall_true_left] using replaced
  · rename_i missing
    constructor
    · exact Idle.of_timer (set_idle _ .error fresh) (by simp [cancelReconnect, log])
    · simp only [Unbroken, Intact, missing, set_lost, set_protocol]
      simpa [cancelReconnect, log, lost, Unbroken] using unbroken

lemma disconnect_intact (idle : Idle s) :
    Idle (VpnConnection.disconnectFromVpn s reports) ∧
      Unbroken (VpnConnection.disconnectFromVpn s reports) := by
  have cancelled : timer (cancelReconnect (log .dismissed { s with userInitiatedDisconnect := true })) =
      (false, none) := Prod.ext idle.elsewhere rfl
  unfold VpnConnection.disconnectFromVpn
  dsimp only
  split
  · have stopped := deliver_idle _ reports (set_idle _ .disconnecting cancelled)
    exact ⟨Idle.of_timer stopped fun _ => rfl, fun present => nomatch present⟩
  · rename_i absent
    have gone := set_protocol _ .disconnected ▸ eq_false_of_ne_true absent
    exact ⟨Idle.of_timer (set_idle _ .disconnected cancelled) fun _ => gone,
      fun present => absurd (gone.symm.trans present) (by simp)⟩

lemma step_intact (s : State) (event : Event) (idle : Idle s) (unbroken : Unbroken s) :
    Idle (step s event) ∧ (Unbroken (step s event) ↔ Intact s event) := by
  cases event with
  | connectToVpn connect => exact connect_intact connect idle unbroken
  | disconnectFromVpn reports =>
    obtain ⟨after, loss⟩ := disconnect_intact reports idle
    exact ⟨after, by simp [Intact, step, loss]⟩
  | protocolReport state =>
    constructor
    · exact Idle.of_timer (set_idle (log (.reported state) s) state idle.timer)
        (by simpa [step, receive, log] using idle.dismissed)
    · simp only [step, Unbroken, Intact, receive_lost]
      have present : (receive s state).hasProtocol = s.hasProtocol := by simp [receive, log]
      rw [present]
      exact forall_congr' fun there => by rw [unbroken there]
  | networkChange attempt => exact reconnect_intact attempt idle unbroken
  | timerFired attempt =>
    have same : step s (.timerFired attempt) = s := by
      simp [step, VpnConnection.timerFired, idle.stopped]
    rw [same]
    exact ⟨idle, by simp [Intact, unbroken]⟩

/-- No retry is ever pending, so that nothing may be lost. -/
lemma Idle.never_waits_iff (idle : Idle s) : NeverWaits s ↔ Unbroken s := by
  constructor
  · intro never present
    cases user : s.userInitiatedDisconnect with
    | true => exact absurd (idle.dismissed user) (by simp [present])
    | false =>
      by_contra loss
      have pending := (never present user).1 (eq_true_of_ne_false loss)
      simp [idle.stopped] at pending
  · intro unbroken present _
    exact ⟨fun loss => absurd loss (by simp [unbroken present]), by simp [idle.stopped]⟩

/-- With the timer in the other thread, no state of a run waits for nothing
exactly when no event of the run loses the connection. -/
theorem never_waits_iff_intact (initial : ConnectionState) (events : List Event) :
    (∀ s, Runs.Visits step (created initial false) events s → NeverWaits s) ↔
      Runs.Guarded step Intact (created initial false) events := by
  have implied : ∀ s : State, Idle s ∧ Unbroken s → NeverWaits s :=
    fun s ⟨idle, unbroken⟩ => idle.never_waits_iff.mpr unbroken
  refine Runs.visits_property_iff implied ?_ ?_ _ _ ?_
  · intro s event ⟨idle, unbroken⟩ intact
    obtain ⟨after, iff⟩ := step_intact s event idle unbroken
    exact ⟨after, iff.mpr intact⟩
  · intro s event ⟨idle, unbroken⟩ never
    obtain ⟨after, iff⟩ := step_intact s event idle unbroken
    exact iff.mp (after.never_waits_iff.mp never)
  · exact ⟨⟨rfl, rfl, fun user => nomatch user⟩, fun present => nomatch present⟩

def established : List Event :=
  [.connectToVpn ⟨true, [], true, [.connecting], true⟩, .protocolReport .connected]

/-- The tunnel goes down. The retry is announced, the timer is not started, and
nothing tries again until somebody else does. -/
theorem dropped_connection_strands :
    let s := Runs.run step (created .unknown false) (established ++ [.protocolReport .disconnected])
    ¬ NeverWaits s ∧ s.effects.head? = some (.scheduled 1000) ∧ s.reconnectTimer = none ∧
      ∀ attempt, step s (.timerFired attempt) = s := by
  refine ⟨fun never => ?_, by decide, by decide, fun _ => rfl⟩
  exact absurd ((never (by decide) (by decide)).1 (by decide)) (by decide)

end AbstractumVpn.VpnConnection
