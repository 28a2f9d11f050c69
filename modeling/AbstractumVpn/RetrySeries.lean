import AbstractumVpn.Runs
import AbstractumVpn.VpnConnection

/-!
Two promises about automatic reconnection, for any behaviour of the protocol.
After the user has asked to disconnect, nothing is retried until the next
`connectToVpn`. And the delays of one series of retries never shrink; a series
ends with `connected` or a new `connectToVpn`.
-/

namespace AbstractumVpn.VpnConnection

/-- Of the user's last two wishes in the log, newest first, the last was to
disconnect. -/
def dismissedLast : List Effect → Bool
  | [] => false
  | .dismissed :: _ => true
  | .requested :: _ => false
  | _ :: earlier => dismissedLast earlier

def lastDelay : List Effect → Nat
  | [] => 0
  | .scheduled delay :: _ => delay
  | .requested :: _ => 0
  | .reported .connected :: _ => 0
  | _ :: earlier => lastDelay earlier

def isRetry : Effect → Bool
  | .attempted | .scheduled _ => true
  | _ => false

/-- No retry while the user wants to stay disconnected, no delay below the one
before it. -/
def Orderly : List Effect → Prop
  | [] => True
  | effect :: earlier =>
    (isRetry effect = true → dismissedLast earlier = false) ∧
    (∀ delay, effect = .scheduled delay → lastDelay earlier ≤ delay) ∧ Orderly earlier

structure Inv (s : State) : Prop where
  user : s.userInitiatedDisconnect = dismissedLast s.effects
  quiet : s.userInitiatedDisconnect = true → s.reconnectTimer = none
  orderly : Orderly s.effects
  delay : s.userInitiatedDisconnect = false →
    lastDelay s.effects ≤ reconnectDelayMsec s.reconnectAttempt

lemma delay_step (attempt : Nat) :
    reconnectDelayMsec attempt ≤ reconnectDelayMsec (attempt + 1) := by
  by_cases held : attempt < 5
  · have early : ∀ n < 5, reconnectDelayMsec n ≤ reconnectDelayMsec (n + 1) := by decide
    exact early attempt held
  · -- past the table the last delay is held
    have still_held : ¬ attempt + 1 < 5 := by omega
    simp [reconnectDelayMsec, delaysSec, held, still_held]

def isNote : Effect → Bool
  | .reported _ | .starting | .startFailed => true
  | _ => false

variable (s : State) (reports : List ConnectionState)

lemma note_inv (effect : Effect) (note : isNote effect = true) (inv : Inv s) :
    Inv (log effect s) := by
  cases effect with
  | reported state =>
    refine ⟨inv.user, inv.quiet, ⟨by simp [isRetry], by simp, inv.orderly⟩, fun free => ?_⟩
    have kept := inv.delay free
    -- only `connected` starts a new series, with no delay to compare with
    cases state <;> simp_all [log, lastDelay]
  | starting | startFailed =>
    exact ⟨inv.user, inv.quiet, ⟨by simp [isRetry], by simp, inv.orderly⟩, inv.delay⟩
  | requested | dismissed | attempted | scheduled delay => simp [isNote] at note

lemma schedule_inv (inv : Inv s) : Inv (scheduleReconnect s) := by
  unfold scheduleReconnect
  split
  · exact inv
  · rename_i wanted
    have free : s.userInitiatedDisconnect = false := by simpa using wanted
    refine ⟨inv.user, fun stopped => absurd stopped wanted, ?_, fun _ => Nat.le_refl _⟩
    refine ⟨fun _ => inv.user ▸ free, fun delay same => ?_, inv.orderly⟩
    obtain rfl := Effect.scheduled.inj same
    exact inv.delay free

lemma cancel_inv (inv : Inv s)
    (ended : s.userInitiatedDisconnect = true ∨ lastDelay s.effects = 0) :
    Inv (cancelReconnect s) := by
  refine ⟨inv.user, fun _ => rfl, inv.orderly, fun free => ?_⟩
  rcases ended with stopped | none
  · exact absurd stopped (by simpa [cancelReconnect] using free)
  · simp [cancelReconnect, none]

variable (state : ConnectionState)

lemma state_inv (inv : Inv s) : Inv { s with connectionState := state } :=
  ⟨inv.user, inv.quiet, inv.orderly, inv.delay⟩

lemma protocol_inv (present : Bool) (inv : Inv s) : Inv { s with hasProtocol := present } :=
  ⟨inv.user, inv.quiet, inv.orderly, inv.delay⟩

lemma set_inv (inv : Inv s) (ended : state = .connected → lastDelay s.effects = 0) :
    Inv (setConnectionState s state) := by
  rcases set_cases s state with ⟨-, -, same⟩ | ⟨up, same⟩ | ⟨-, -, same⟩ | ⟨-, -, -, same⟩
  · rwa [same]
  · rw [same]
    exact cancel_inv _ (state_inv s .connected inv) (Or.inr (ended up))
  · rw [same]
    exact schedule_inv _ (state_inv s state inv)
  · rw [same]
    exact state_inv s state inv

lemma receive_inv (inv : Inv s) : Inv (receive s state) := by
  apply set_inv _ _ (note_inv s (.reported state) rfl inv)
  rintro rfl
  rfl

lemma deliver_inv (inv : Inv s) : Inv (deliver s reports) := by
  induction reports generalizing s with
  | nil => exact inv
  | cons report rest ih => exact ih (receive s report) (receive_inv s report inv)

lemma start_inv (ok : Bool) (inv : Inv s) : Inv (start s reports ok) := by
  have delivered := deliver_inv _ reports (note_inv s .starting rfl inv)
  unfold start
  split
  · exact delivered
  · exact note_inv _ .startFailed rfl delivered

lemma reconnect_inv (attempt : Attempt) (inv : Inv s) : Inv (reconnectToVpn s attempt) := by
  unfold reconnectToVpn
  split
  · rename_i accepted
    have free := accepts_free s accepted
    have began : Inv (log .attempted { s with reconnectAttempt := s.reconnectAttempt + 1 }) := by
      refine ⟨inv.user, inv.quiet, ⟨fun _ => inv.user ▸ free, by simp, inv.orderly⟩, fun _ => ?_⟩
      exact Nat.le_trans (inv.delay free) (delay_step s.reconnectAttempt)
    have started := start_inv _ attempt.startReports attempt.ok
      (deliver_inv _ attempt.stopReports (set_inv _ .reconnecting began (by simp)))
    split
    · exact started
    · exact schedule_inv _ started
  · exact inv

lemma replace_inv (connect : Connect) (inv : Inv s) : Inv (replaceProtocol s connect) := by
  have stopped : Inv (if s.hasProtocol then deliver s connect.oldReports else s) := by
    split
    · exact deliver_inv s connect.oldReports inv
    · exact inv
  unfold replaceProtocol
  dsimp only
  split
  · have started := start_inv _ connect.startReports connect.ok (protocol_inv _ true stopped)
    split
    · exact started
    · exact set_inv _ .error started (by simp)
  · exact set_inv _ .error (protocol_inv _ false stopped) (by simp)

lemma connect_inv (connect : Connect) (inv : Inv s) :
    Inv (VpnConnection.connectToVpn s connect) := by
  have fresh : Inv (cancelReconnect (log .requested { s with userInitiatedDisconnect := false })) :=
    ⟨rfl, by simp [cancelReconnect], ⟨by simp [isRetry], by simp, inv.orderly⟩,
      fun _ => Nat.zero_le _⟩
  unfold VpnConnection.connectToVpn
  split
  · exact replace_inv _ connect (set_inv _ .connecting fresh (by simp))
  · exact set_inv _ .error fresh (by simp)

lemma disconnect_inv (inv : Inv s) : Inv (VpnConnection.disconnectFromVpn s reports) := by
  have stopped : Inv (cancelReconnect (log .dismissed { s with userInitiatedDisconnect := true })) :=
    ⟨rfl, fun _ => rfl, ⟨by simp [isRetry], by simp, inv.orderly⟩, by simp [cancelReconnect, log]⟩
  unfold VpnConnection.disconnectFromVpn
  dsimp only
  split
  · have delivered := deliver_inv _ reports (set_inv _ .disconnecting stopped (by simp))
    exact protocol_inv _ false delivered
  · exact set_inv _ .disconnected stopped (by simp)

lemma step_inv (event : Event) (inv : Inv s) : Inv (step s event) := by
  cases event with
  | connectToVpn connect => exact connect_inv s connect inv
  | disconnectFromVpn reports => exact disconnect_inv s reports inv
  | protocolReport state => exact receive_inv s state inv
  | networkChange attempt => exact reconnect_inv s attempt inv
  | timerFired attempt =>
    simp only [step, VpnConnection.timerFired]
    split
    · exact reconnect_inv _ attempt ⟨inv.user, fun _ => rfl, inv.orderly, inv.delay⟩
    · exact inv

lemma orderly_suffix (later earlier : List Effect) (orderly : Orderly (later ++ earlier)) :
    Orderly earlier := by
  induction later with
  | nil => exact orderly
  | cons effect rest ih => exact ih orderly.2.2

lemma series_bound (between earlier : List Effect) (delay : Nat)
    (orderly : Orderly (between ++ .scheduled delay :: earlier))
    (open_series : ∀ effect ∈ between, effect ≠ .requested ∧ effect ≠ .reported .connected) :
    delay ≤ lastDelay (between ++ .scheduled delay :: earlier) := by
  induction between with
  | nil => exact Nat.le_refl delay
  | cons effect rest ih =>
    have bound := ih orderly.2.2 fun other member =>
      open_series other (List.mem_cons_of_mem effect member)
    have here := open_series effect List.mem_cons_self
    cases effect with
    | scheduled other => exact Nat.le_trans bound (orderly.2.1 other rfl)
    | requested => exact absurd rfl here.1
    | reported state =>
      cases state with
      | connected => exact absurd rfl here.2
      | unknown | disconnected | preparing | connecting | disconnecting | reconnecting | error =>
        exact bound
    | dismissed | starting | startFailed | attempted => exact bound

theorem retries_obey_user_and_delays (initial : ConnectionState) (timerInThread : Bool)
    (events : List Event) :
    let s := Runs.run step (created initial timerInThread) events
    (dismissedLast s.effects = true → s.reconnectTimer = none) ∧
      (∀ later effect earlier, s.effects = later ++ effect :: earlier → isRetry effect = true →
        dismissedLast earlier = false) ∧
      ∀ later next between delay earlier,
        s.effects = later ++ .scheduled next :: (between ++ .scheduled delay :: earlier) →
        (∀ effect ∈ between, effect ≠ .requested ∧ effect ≠ .reported .connected) →
        delay ≤ next := by
  intro s
  have inv : Inv s := Runs.run_invariant step_inv (created initial timerInThread) events
    ⟨rfl, fun _ => rfl, trivial, fun _ => Nat.zero_le _⟩
  refine ⟨fun stopped => inv.quiet (inv.user.trans stopped), ?_, ?_⟩
  · intro later effect earlier split retry
    have orderly := orderly_suffix later _ (split ▸ inv.orderly)
    exact orderly.1 retry
  · intro later next between delay earlier split open_series
    have orderly := orderly_suffix later _ (split ▸ inv.orderly)
    exact Nat.le_trans (series_bound between earlier delay orderly.2.2 open_series)
      (orderly.2.1 next rfl)

end AbstractumVpn.VpnConnection
