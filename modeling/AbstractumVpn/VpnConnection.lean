import Mathlib.Data.List.Basic

/-!
`VpnConnection` on the desktop: connecting, disconnecting, the states the
protocol object reports, and automatic reconnection with its single-shot timer.
The reports that a call of the protocol's `stop` or `start` makes before it
returns, and the success of `start`, come with the event. The effects on routes
and DNS are not modelled here.

A `QTimer` is started only in its own thread; elsewhere the start is refused with
a warning. `timerInThread` says whether the reconnect timer belongs to the thread
the connection works in. In the program it does not: it is a member without a
parent, which `moveToThread` leaves in the thread of the user interface.
`timerInThread` and `effects` are no fields of the source. `effects` logs what the
connection did, newest first.
-/

namespace AbstractumVpn.VpnConnection

inductive ConnectionState where
  | unknown
  | disconnected
  | preparing
  | connecting
  | connected
  | disconnecting
  | reconnecting
  | error
  deriving DecidableEq

inductive Effect where
  | requested
  | dismissed
  | reported (state : ConnectionState)
  | starting
  | startFailed
  | attempted
  | scheduled (delay : Nat)
  deriving DecidableEq

structure State where
  connectionState : ConnectionState
  hasProtocol : Bool
  reconnectTimer : Option Nat
  reconnectAttempt : Nat
  userInitiatedDisconnect : Bool
  timerInThread : Bool
  effects : List Effect
  deriving DecidableEq

structure Attempt where
  stopReports : List ConnectionState
  startReports : List ConnectionState
  ok : Bool

/-- What `connectToVpn` meets: whether the repositories are set, the reports of
the previous protocol while it is stopped, whether the factory knows the
container, and the first `start`. -/
structure Connect where
  repositories : Bool
  oldReports : List ConnectionState
  created : Bool
  startReports : List ConnectionState
  ok : Bool

def log (effect : Effect) (s : State) : State := { s with effects := effect :: s.effects }

def delaysSec : List Nat := [1, 2, 5, 15, 30]

def reconnectDelayMsec (attempt : Nat) : Nat :=
  let index := if attempt < delaysSec.length then attempt else delaysSec.length - 1
  delaysSec.getD index 0 * 1000

def scheduleReconnect (s : State) : State :=
  if s.userInitiatedDisconnect then s
  else
    let delay := reconnectDelayMsec s.reconnectAttempt
    log (.scheduled delay)
      { s with reconnectTimer := if s.timerInThread then some delay else s.reconnectTimer }

def cancelReconnect (s : State) : State := { s with reconnectTimer := none, reconnectAttempt := 0 }

def setConnectionState (s : State) (state : ConnectionState) : State :=
  if state = .disconnected ∧ s.connectionState = .reconnecting then s
  else
    let previous := s.connectionState
    let s := { s with connectionState := state }
    if state = .connected then cancelReconnect s
    else if s.userInitiatedDisconnect then s
    else if state = .disconnected ∧ previous = .connected then scheduleReconnect s
    else if state = .error then scheduleReconnect s
    else s

def receive (s : State) (state : ConnectionState) : State :=
  setConnectionState (log (.reported state) s) state

def deliver (s : State) (reports : List ConnectionState) : State := reports.foldl receive s

def start (s : State) (reports : List ConnectionState) (ok : Bool) : State :=
  let s := deliver (log .starting s) reports
  if ok then s else log .startFailed s

def accepts (s : State) : Bool :=
  s.hasProtocol &&
    !(s.connectionState == .disconnecting || s.connectionState == .reconnecting) &&
    !s.userInitiatedDisconnect

def reconnectToVpn (s : State) (attempt : Attempt) : State :=
  if accepts s then
    let s := log .attempted { s with reconnectAttempt := s.reconnectAttempt + 1 }
    let s := setConnectionState s .reconnecting
    let s := deliver s attempt.stopReports
    let s := start s attempt.startReports attempt.ok
    if attempt.ok then s else scheduleReconnect s
  else s

def replaceProtocol (s : State) (connect : Connect) : State :=
  let s := if s.hasProtocol then deliver s connect.oldReports else s
  if connect.created then
    let s := start { s with hasProtocol := true } connect.startReports connect.ok
    if connect.ok then s else setConnectionState s .error
  else setConnectionState { s with hasProtocol := false } .error

def connectToVpn (s : State) (connect : Connect) : State :=
  let s := cancelReconnect (log .requested { s with userInitiatedDisconnect := false })
  if connect.repositories then replaceProtocol (setConnectionState s .connecting) connect
  else setConnectionState s .error

def disconnectFromVpn (s : State) (stopReports : List ConnectionState) : State :=
  let s := cancelReconnect (log .dismissed { s with userInitiatedDisconnect := true })
  if s.hasProtocol then
    let s := deliver (setConnectionState s .disconnecting) stopReports
    { s with hasProtocol := false }
  else setConnectionState s .disconnected

inductive Event where
  | connectToVpn (connect : Connect)
  | disconnectFromVpn (stopReports : List ConnectionState)
  | protocolReport (state : ConnectionState)
  | networkChange (attempt : Attempt)
  | timerFired (attempt : Attempt)

def timerFired (s : State) (attempt : Attempt) : State :=
  match s.reconnectTimer with
  | some _ => reconnectToVpn { s with reconnectTimer := none } attempt
  | none => s

def step (s : State) : Event → State
  | .connectToVpn connect => VpnConnection.connectToVpn s connect
  | .disconnectFromVpn stopReports => VpnConnection.disconnectFromVpn s stopReports
  | .protocolReport state => receive s state
  | .networkChange attempt => reconnectToVpn s attempt
  | .timerFired attempt => VpnConnection.timerFired s attempt

/-- A connection object nobody has used yet. The source does not initialise its
connection state. -/
def created (state : ConnectionState) (timerInThread : Bool) : State :=
  ⟨state, false, none, 0, false, timerInThread, []⟩

section Parts

variable (s : State) (state : ConnectionState) (reports : List ConnectionState)

@[simp] lemma schedule_state : (scheduleReconnect s).connectionState = s.connectionState := by
  unfold scheduleReconnect
  split <;> rfl

@[simp] lemma schedule_protocol : (scheduleReconnect s).hasProtocol = s.hasProtocol := by
  unfold scheduleReconnect
  split <;> rfl

@[simp] lemma schedule_user :
    (scheduleReconnect s).userInitiatedDisconnect = s.userInitiatedDisconnect := by
  unfold scheduleReconnect
  split <;> rfl

lemma set_cases :
    -- swallowed while reconnecting, connected, a retry is scheduled, or just noted
    (state = .disconnected ∧ s.connectionState = .reconnecting ∧ setConnectionState s state = s) ∨
    (state = .connected ∧
      setConnectionState s state = cancelReconnect { s with connectionState := .connected }) ∨
    (s.userInitiatedDisconnect = false ∧
      (state = .error ∨ (state = .disconnected ∧ s.connectionState = .connected)) ∧
      setConnectionState s state = scheduleReconnect { s with connectionState := state }) ∨
    (state ≠ .connected ∧ ¬ (state = .disconnected ∧ s.connectionState = .reconnecting) ∧
      (s.userInitiatedDisconnect = false →
        state ≠ .error ∧ ¬ (state = .disconnected ∧ s.connectionState = .connected)) ∧
      setConnectionState s state = { s with connectionState := state }) := by
  by_cases swallowed : state = .disconnected ∧ s.connectionState = .reconnecting
  · exact Or.inl ⟨swallowed.1, swallowed.2, by rw [setConnectionState, if_pos swallowed]⟩
  · by_cases up : state = .connected
    · subst up
      exact Or.inr (Or.inl ⟨rfl, by simp [setConnectionState]⟩)
    · cases user : s.userInitiatedDisconnect with
      | true => simp [setConnectionState, swallowed, up, user]
      | false =>
        by_cases down : state = .disconnected ∧ s.connectionState = .connected
        · simp [setConnectionState, down, user]
        · by_cases failed : state = .error
          · simp [setConnectionState, failed, user]
          · simp [setConnectionState, swallowed, up, user, down, failed]

@[simp] lemma set_protocol : (setConnectionState s state).hasProtocol = s.hasProtocol := by
  rcases set_cases s state with ⟨-, -, same⟩ | ⟨-, same⟩ | ⟨-, -, same⟩ | ⟨-, -, -, same⟩ <;>
    simp [same, cancelReconnect]

@[simp] lemma set_user :
    (setConnectionState s state).userInitiatedDisconnect = s.userInitiatedDisconnect := by
  rcases set_cases s state with ⟨-, -, same⟩ | ⟨-, same⟩ | ⟨-, -, same⟩ | ⟨-, -, -, same⟩ <;>
    simp [same, cancelReconnect]

def next (current report : ConnectionState) : ConnectionState :=
  if report = .disconnected ∧ current = .reconnecting then current else report

lemma set_state :
    (setConnectionState s state).connectionState = next s.connectionState state := by
  rcases set_cases s state with
    ⟨down, retrying, same⟩ | ⟨up, same⟩ | ⟨-, cause, same⟩ | ⟨-, plain, -, same⟩
  · rw [same]; simp [next, down, retrying]
  · rw [same]; simp [next, up, cancelReconnect]
  · rw [same]
    rcases cause with failed | ⟨down, was_up⟩
    · simp [next, failed]
    · simp [next, was_up]
  · rw [same]; simp [next, plain]

@[simp] lemma deliver_nil : deliver s [] = s := rfl

@[simp] lemma deliver_cons :
    deliver s (state :: reports) = deliver (receive s state) reports := rfl

@[simp] lemma deliver_protocol : (deliver s reports).hasProtocol = s.hasProtocol := by
  induction reports generalizing s with
  | nil => rfl
  | cons report rest ih => simp [ih, receive, log]

@[simp] lemma deliver_user :
    (deliver s reports).userInitiatedDisconnect = s.userInitiatedDisconnect := by
  induction reports generalizing s with
  | nil => rfl
  | cons report rest ih => simp [ih, receive, log]

def settle (current : ConnectionState) (reports : List ConnectionState) : ConnectionState :=
  reports.foldl next current

lemma deliver_state :
    (deliver s reports).connectionState = settle s.connectionState reports := by
  induction reports generalizing s with
  | nil => rfl
  | cons report rest ih => simp [ih, receive, set_state, settle, log]

lemma start_state (ok : Bool) :
    (start s reports ok).connectionState = settle s.connectionState reports := by
  cases ok <;> simp [start, log, deliver_state]

lemma start_user (ok : Bool) :
    (start s reports ok).userInitiatedDisconnect = s.userInitiatedDisconnect := by
  cases ok <;> simp [start, log]

lemma reconnect_state (attempt : Attempt) (accepted : accepts s = true) :
    (reconnectToVpn s attempt).connectionState =
      settle .reconnecting (attempt.stopReports ++ attempt.startReports) := by
  have reached : ∀ start : State, start.connectionState = .reconnecting →
      (VpnConnection.start (deliver start attempt.stopReports) attempt.startReports
        attempt.ok).connectionState =
        settle .reconnecting (attempt.stopReports ++ attempt.startReports) := by
    intro start retrying
    rw [start_state, deliver_state, retrying, settle, settle, settle, List.foldl_append]
  -- scheduling the next retry after a failure does not touch the state
  rw [reconnectToVpn, if_pos accepted]
  split
  · exact reached _ (by simp [set_state, next])
  · rw [schedule_state]
    exact reached _ (by simp [set_state, next])

lemma accepts_free (accepted : accepts s = true) : s.userInitiatedDisconnect = false := by
  simp only [accepts, Bool.and_eq_true, Bool.not_eq_true'] at accepted
  exact accepted.2

lemma reconnect_refused (attempt : Attempt) (refused : accepts s = false) :
    reconnectToVpn s attempt = s := by
  simp [reconnectToVpn, refused]

end Parts

end AbstractumVpn.VpnConnection
