import AbstractumVpn.EventLoops
import AbstractumVpn.VpnConnection

/-!
The service's `networkChanged` and `wakeup` signals, and the handlers that
`createProtocolConnections` registers for them on the replica of the service,
which lives as long as the thread. They are queued connections: an emission
posts one message for each handler, which runs `reconnectToVpn` when the event
loop comes to it.

A change to `connected`, `disconnected` or `error` first waits for replies of the
service, if that is running. The nested loop handles what was posted before any
reply, so that such a wait ends with an empty queue. The operations are those of
`VpnConnection`, taken apart at the waits.

`attempts` is no field of the source: it logs, newest first, the numbers of the
emissions whose messages led to a `stop`/`start` of the protocol.
-/

namespace AbstractumVpn.NetworkEvents

open EventLoops Runs VpnConnection

open VpnConnection (ConnectionState Attempt Connect)

inductive Signal where
  | networkChanged
  | wakeup
  deriving DecidableEq

structure State where
  connection : VpnConnection.State
  serviceRunning : Bool
  handlers : List Signal
  queue : List Nat
  emissions : Nat
  attempts : List Nat

inductive Event where
  | connectToVpn (connect : Connect)
  | disconnectFromVpn (stopReports : List ConnectionState)
  | protocolReport (state : ConnectionState)
  | timerFired (attempt : Attempt)
  | serviceChanged (running : Bool)
  | emitted (signal : Signal)
  | delivered (attempt : Attempt)

/-- `assign` is `setConnectionState` after `onConnectionStateChanged`. `stopOld`,
`drop` and `create` replace the protocol object in `connectToVpn`. -/
inductive Operation where
  | wait
  | set (state : ConnectionState)
  | assign (state : ConnectionState)
  | report (state : ConnectionState)
  | starting
  | startFailed
  | schedule
  | stopOld (reports : List ConnectionState)
  | drop
  | create (connect : Connect)

/-- `setConnectionState`, which calls `onConnectionStateChanged` first. -/
def setState (s : State) (state : ConnectionState) : State × List Operation :=
  if s.serviceRunning && (state == .connected || state == .disconnected || state == .error) then
    (s, [.wait, .assign state])
  else ({ s with connection := setConnectionState s.connection state }, [])

def createProtocolConnections (handlers : List Signal) : List Signal :=
  handlers ++ [.networkChanged, .wakeup]

def start (reports : List ConnectionState) (ok : Bool) (failed : Operation) : List Operation :=
  .starting :: reports.map .report ++ if ok then [] else [.startFailed, failed]

def restart (attempt : Attempt) : List Operation :=
  .set .reconnecting :: attempt.stopReports.map .report ++
    start attempt.startReports attempt.ok .schedule

def begin (s : State) (change : VpnConnection.State → VpnConnection.State) : State :=
  { s with connection := change s.connection }

def reconnectToVpn (s : State) (attempt : Attempt) : State × List Operation :=
  if accepts s.connection then
    (begin s fun c => log .attempted { c with reconnectAttempt := c.reconnectAttempt + 1 },
      restart attempt)
  else (s, [])

def emit (s : State) (signal : Signal) : State :=
  { s with
    queue := s.queue ++ List.replicate (s.handlers.count signal) s.emissions
    emissions := s.emissions + 1 }

def deliver (s : State) (attempt : Attempt) : State × List Operation :=
  match s.queue with
  | [] => (s, [])
  | emission :: rest =>
    reconnectToVpn
      { s with
        queue := rest
        attempts := if accepts s.connection then emission :: s.attempts else s.attempts }
      attempt

def handle (s : State) : Event → State × List Operation
  | .connectToVpn connect =>
    (begin s fun c => cancelReconnect (log .requested { c with userInitiatedDisconnect := false }),
      if connect.repositories then
        [.set .connecting, .stopOld connect.oldReports, .create connect]
      else [.assign .error])
  | .disconnectFromVpn stopReports =>
    (begin s fun c => cancelReconnect (log .dismissed { c with userInitiatedDisconnect := true }),
      if s.connection.hasProtocol then
        .set .disconnecting :: stopReports.map .report ++ [.drop]
      else [.set .disconnected])
  | .protocolReport state => (s, [.report state])
  | .timerFired attempt =>
    if s.connection.reconnectTimer.isSome then
      reconnectToVpn (begin s fun c => { c with reconnectTimer := none }) attempt
    else (s, [])
  | .serviceChanged running => ({ s with serviceRunning := running }, [])
  | .emitted signal => (emit s signal, [])
  | .delivered attempt => deliver s attempt

/-- There is no result while posted messages are to be handled first, and when a
protocol is started that is gone. -/
def perform (s : State) : Operation → Option (State × List Operation)
  | .wait => if s.queue = [] then some (s, []) else none
  | .set state => some (setState s state)
  | .assign state => some (begin s (setConnectionState · state), [])
  | .report state => some (setState (begin s (log (.reported state))) state)
  | .starting =>
    if s.connection.hasProtocol then some (begin s (log .starting), []) else none
  | .startFailed => some (begin s (log .startFailed), [])
  | .schedule => some (begin s scheduleReconnect, [])
  | .stopOld reports =>
    some (s, (if s.connection.hasProtocol then reports.map .report else []) ++ [.drop])
  | .drop => some (begin s ({ · with hasProtocol := false }), [])
  | .create connect =>
    let s := begin s ({ · with hasProtocol := connect.created })
    if connect.created then
      some ({ s with
        handlers :=
          if s.serviceRunning then createProtocolConnections s.handlers else s.handlers },
        start connect.startReports connect.ok (.set .error))
    else some (s, [.set .error])

def program : Program State Event Operation where
  handle := handle
  waits _ operation := match operation with
    | .wait => true
    | _ => false
  perform := perform

abbrev step := EventLoops.step program

def created (state : ConnectionState) (timerInThread serviceRunning : Bool) : State :=
  ⟨VpnConnection.created state timerInThread, serviceRunning, [], [], 0, []⟩

variable (s : State) (signal : Signal) (emission : Nat) (attempt : Attempt)

/-- The messages of an emission that are still posted, and the attempts they led
to. -/
def claimed (s : State) (emission : Nat) : Nat :=
  s.queue.count emission + s.attempts.count emission

lemma reconnect_claimed : claimed (reconnectToVpn s attempt).1 emission = claimed s emission ∧
    (reconnectToVpn s attempt).1.emissions = s.emissions := by
  unfold reconnectToVpn
  split <;> exact ⟨rfl, rfl⟩

lemma deliver_claimed : claimed (deliver s attempt).1 emission ≤ claimed s emission ∧
    (deliver s attempt).1.emissions = s.emissions := by
  unfold deliver
  split
  · exact ⟨Nat.le_refl _, rfl⟩
  · rename_i head rest pending
    rw [(reconnect_claimed _ emission attempt).1, (reconnect_claimed _ emission attempt).2]
    refine ⟨?_, rfl⟩
    simp only [claimed, pending, List.count_cons]
    split
    · rw [List.count_cons]
      omega
    · omega

lemma handle_claimed (event : Event) :
    s.emissions ≤ (handle s event).1.emissions ∧
      (emission < s.emissions ∨ (handle s event).1.emissions ≤ emission →
        claimed (handle s event).1 emission ≤ claimed s emission) := by
  cases event with
  | emitted signal =>
    refine ⟨Nat.le_succ _, fun apart => ?_⟩
    have other : s.emissions ≠ emission := by
      simp only [handle, emit] at apart
      omega
    simp [handle, emit, claimed, List.count_replicate, other]
  | delivered attempt =>
    obtain ⟨fewer, same⟩ := deliver_claimed s emission attempt
    exact ⟨Nat.le_of_eq same.symm, fun _ => fewer⟩
  | timerFired attempt =>
    simp only [handle]
    split
    · obtain ⟨same, made⟩ := reconnect_claimed
        (begin s fun c => { c with reconnectTimer := none }) emission attempt
      exact ⟨Nat.le_of_eq made.symm, fun _ => Nat.le_of_eq same⟩
    · exact ⟨Nat.le_refl _, fun _ => Nat.le_refl _⟩
  | connectToVpn connect | disconnectFromVpn reports | protocolReport state | serviceChanged running =>
    exact ⟨Nat.le_refl _, fun _ => Nat.le_refl _⟩

lemma perform_claimed {s s' : State} {operation : Operation} {more : List Operation}
    (result : perform s operation = some (s', more)) :
    s'.emissions = s.emissions ∧ claimed s' emission = claimed s emission := by
  cases operation with
  | wait | set state | report state | starting | create connect =>
    simp only [perform, setState] at result
    split at result <;> cases result <;> exact ⟨rfl, rfl⟩
  | assign state | startFailed | schedule | stopOld reports | drop =>
    cases result
    exact ⟨rfl, rfl⟩

variable (loop : Loop State Operation) (turn : Turn Event) (turns : List (Turn Event))

/-- A message is posted once and leads to one attempt at most. -/
lemma step_claimed :
    loop.state.emissions ≤ (step loop turn).state.emissions ∧
      (emission < loop.state.emissions ∨ (step loop turn).state.emissions ≤ emission →
        claimed (step loop turn).state emission ≤ claimed loop.state emission) := by
  have same : loop.state.emissions ≤ loop.state.emissions ∧
      (emission < loop.state.emissions ∨ loop.state.emissions ≤ emission →
        claimed loop.state emission ≤ claimed loop.state emission) :=
    ⟨Nat.le_refl _, fun _ => Nat.le_refl _⟩
  cases turn with
  | event event =>
    simp only [step, EventLoops.step]
    split
    · exact handle_claimed loop.state emission event
    · exact same
  | go =>
    obtain ⟨state, _ | ⟨_ | ⟨operation, rest⟩, outer⟩⟩ := loop
    · exact same
    · exact same
    · simp only [step, EventLoops.step]
      split
      · exact same
      · rename_i result
        obtain ⟨made, kept⟩ := perform_claimed emission result
        exact ⟨Nat.le_of_eq made.symm, fun _ => Nat.le_of_eq kept⟩

lemma run_claimed (made : emission < loop.state.emissions) :
    claimed (run step loop turns).state emission ≤ claimed loop.state emission := by
  induction turns generalizing loop with
  | nil => exact Nat.le_refl _
  | cons turn rest ih =>
    obtain ⟨grows, fewer⟩ := step_claimed emission loop turn
    exact Nat.le_trans (ih (step loop turn) (Nat.lt_of_lt_of_le made grows)) (fewer (Or.inl made))

/-- An emission that has not been made has neither messages nor attempts. -/
def Unissued (loop : Loop State Operation) : Prop :=
  ∀ emission, loop.state.emissions ≤ emission → claimed loop.state emission = 0

lemma step_unissued (unissued : Unissued loop) : Unissued (step loop turn) := by
  intro emission later
  obtain ⟨grows, fewer⟩ := step_claimed emission loop turn
  have none := unissued emission (Nat.le_trans grows later)
  exact Nat.eq_zero_of_le_zero (none ▸ fewer (Or.inr later))

/-! With the service gone nothing waits, and a call does what the operation of
`VpnConnection` does. -/

def act (c : VpnConnection.State) : Operation → VpnConnection.State
  | .set state | .assign state => setConnectionState c state
  | .report state => receive c state
  | .starting => log .starting c
  | .startFailed => log .startFailed c
  | .schedule => scheduleReconnect c
  | .drop => { c with hasProtocol := false }
  | .wait | .stopOld _ | .create _ => c

structure Alone (s : State) : Prop where
  gone : s.serviceRunning = false
  present : s.connection.hasProtocol = true

lemma restart_plain : ∀ operation ∈ restart attempt, ∀ s, Alone s →
    program.perform s operation = some (begin s (act · operation), []) ∧
      Alone (begin s (act · operation)) := by
  intro operation member s ⟨gone, present⟩
  have reported : ∀ reports : List ConnectionState, operation ∈ reports.map .report →
      program.perform s operation = some (begin s (act · operation), []) ∧
        Alone (begin s (act · operation)) := by
    intro reports member
    obtain ⟨state, -, rfl⟩ := List.mem_map.mp member
    refine ⟨?_, gone, ?_⟩
    · simp [program, perform, setState, gone, begin, act, receive]
    · simp [begin, act, receive, log, present]
  simp only [restart, start, List.mem_cons, List.mem_append] at member
  rcases member with (rfl | stopping) | (rfl | starting) | failing
  · exact ⟨by simp [program, perform, setState, gone, begin, act], gone, by simp [begin, act, present]⟩
  · exact reported _ stopping
  · exact ⟨by simp [program, perform, present, begin, act], gone, by simp [begin, act, log, present]⟩
  · exact reported _ starting
  · cases ok : attempt.ok with
    | true => simp [ok] at failing
    | false =>
      simp only [ok, Bool.false_eq_true, if_false, List.mem_cons, List.not_mem_nil, or_false] at failing
      rcases failing with rfl | rfl
      · exact ⟨rfl, gone, by simp [begin, act, log, present]⟩
      · exact ⟨rfl, gone, by simp [begin, act, present]⟩

lemma foldl_begin (call : List Operation) :
    call.foldl (fun s operation => begin s (act · operation)) s =
      { s with connection := call.foldl act s.connection } := by
  induction call generalizing s with
  | nil => rfl
  | cons operation rest ih => exact ih _

lemma restart_act (c : VpnConnection.State) (accepted : accepts c = true) :
    (restart attempt).foldl act
        (log .attempted { c with reconnectAttempt := c.reconnectAttempt + 1 }) =
      VpnConnection.reconnectToVpn c attempt := by
  cases ok : attempt.ok <;>
    simp [restart, start, VpnConnection.reconnectToVpn, VpnConnection.start, accepted, act, ok,
      List.foldl_map, VpnConnection.deliver]

/-- A message is handled to the end of its call. -/
lemma run_delivered (rest : List Nat) (outer : List (List Operation)) (gone : s.serviceRunning = false)
    (accepted : accepts s.connection = true) (pending : s.queue = emission :: rest)
    (listens : Loop.listens program ⟨s, outer⟩ = true) :
    run step ⟨s, outer⟩ (.event (.delivered attempt) ::
        List.replicate ((restart attempt).length + 1) .go) =
      ⟨{ s with
        connection := VpnConnection.reconnectToVpn s.connection attempt
        queue := rest
        attempts := emission :: s.attempts }, outer⟩ := by
  have present : s.connection.hasProtocol = true := by
    simp only [accepts, Bool.and_eq_true] at accepted
    exact accepted.1.1
  have begun : program.handle s (.delivered attempt) =
      (begin { s with queue := rest, attempts := emission :: s.attempts } fun c =>
        log .attempted { c with reconnectAttempt := c.reconnectAttempt + 1 }, restart attempt) := by
    simp [program, handle, deliver, pending, reconnectToVpn, accepted]
  have ended := run_plain (restart attempt) (restart_plain attempt)
    (begin { s with queue := rest, attempts := emission :: s.attempts } fun c =>
      log .attempted { c with reconnectAttempt := c.reconnectAttempt + 1 }) outer ⟨gone, present⟩
  rw [foldl_begin] at ended
  rw [run_cons, step, step_event listens, begun, ended]
  simp only [begin, restart_act attempt s.connection accepted]

def failing : Attempt := ⟨[], [.error], false⟩

lemma failing_accepted (connection : VpnConnection.State) (accepted : accepts connection = true) :
    accepts (VpnConnection.reconnectToVpn connection failing) = true := by
  have state := reconnect_state connection failing accepted
  have free := accepts_free connection accepted
  simp only [accepts, Bool.and_eq_true] at accepted
  have kept : (VpnConnection.reconnectToVpn connection failing).hasProtocol = true ∧
      (VpnConnection.reconnectToVpn connection failing).userInitiatedDisconnect = false := by
    simp only [VpnConnection.reconnectToVpn]
    split
    · simp [failing, VpnConnection.start, receive, log, accepted.1.1, free]
    · exact ⟨accepted.1.1, free⟩
  have settled : (VpnConnection.reconnectToVpn connection failing).connectionState = .error := by
    rw [state]
    rfl
  simp [accepts, settled, kept]

/-- All posted messages are handled, each by an attempt that fails. -/
def drain (messages : Nat) : List (Turn Event) :=
  (List.replicate messages (.event (.delivered failing) ::
    List.replicate ((restart failing).length + 1) .go)).flatten

lemma run_drain (outer : List (List Operation)) (gone : s.serviceRunning = false)
    (accepted : accepts s.connection = true) (listens : ∀ s, Loop.listens program ⟨s, outer⟩ = true) :
    (run step ⟨s, outer⟩ (drain s.queue.length)).state.attempts = s.queue.reverse ++ s.attempts := by
  generalize pending : s.queue = queue
  induction queue generalizing s with
  | nil => rfl
  | cons emission rest ih =>
    have next := ih { s with
      connection := VpnConnection.reconnectToVpn s.connection failing
      queue := rest
      attempts := emission :: s.attempts } gone (failing_accepted _ accepted) rfl
    rw [drain, List.length_cons, List.replicate_succ, List.flatten_cons, run_append,
      run_delivered s emission failing rest outer gone accepted pending (listens s)]
    rw [drain] at next
    rw [next]
    simp

def renewed : Connect := ⟨true, [], true, [], true⟩

/-- The service goes away. -/
def abandoned : List (Turn Event) := [.event (.serviceChanged false), .go]

lemma run_abandoned (outer : List (List Operation))
    (listens : Loop.listens program ⟨s, outer⟩ = true) :
    run step ⟨s, outer⟩ abandoned = ⟨{ s with serviceRunning := false }, outer⟩ := by
  rw [abandoned, run_cons, step, step_event listens]
  rfl

def connected : List (Turn Event) := .event (.connectToVpn renewed) :: List.replicate 6 .go

lemma run_connected (outer : List (List Operation)) (gone : s.serviceRunning = false)
    (listens : Loop.listens program ⟨s, outer⟩ = true) :
    run step ⟨s, outer⟩ connected =
      ⟨{ s with connection := VpnConnection.connectToVpn s.connection renewed }, outer⟩ := by
  have begins : program.handle = handle := rfl
  have performs : program.perform = perform := rfl
  rw [connected, run_cons, step, step_event listens]
  simp [EventLoops.step, begins, performs, handle, perform, setState, start, begin, renewed, gone,
    List.replicate, VpnConnection.connectToVpn, replaceProtocol, VpnConnection.start, cancelReconnect, log]

lemma renewed_accepted : accepts (VpnConnection.connectToVpn s.connection renewed) = true := by
  simp [renewed, VpnConnection.connectToVpn, replaceProtocol, VpnConnection.start, accepts, set_state,
    next, cancelReconnect, log]

lemma claimed_emitted (unissued : claimed s s.emissions = 0) :
    (emit s signal).queue.count s.emissions = s.handlers.count signal ∧
      claimed (emit s signal) s.emissions = s.handlers.count signal := by
  obtain ⟨unqueued, unattempted⟩ := Nat.add_eq_zero_iff.mp unissued
  simp [emit, claimed, unqueued, unattempted]

/-- Whether the loop listens is decided by the calls alone. -/
lemma listens_other {s : State} {calls : List (List Operation)}
    (listens : Loop.listens program ⟨s, calls⟩ = true) (t : State) :
    Loop.listens program ⟨t, calls⟩ = true := listens

lemma run_all_attempted (listens : loop.listens program = true) :
    ∃ later, (run step ⟨emit loop.state signal, [] :: loop.calls⟩ later).state.attempts =
      (emit loop.state signal).queue.reverse ++ loop.state.attempts := by
  obtain ⟨s, calls⟩ := loop
  refine ⟨.go :: (abandoned ++ connected ++ drain (emit s signal).queue.length), ?_⟩
  rw [run_cons, run_append, run_append]
  change (run step (run step (run step ⟨emit s signal, calls⟩ _) _) _).state.attempts = _
  rw [run_abandoned _ calls (listens_other listens _),
    run_connected _ calls rfl (listens_other listens _)]
  exact run_drain _ calls rfl (renewed_accepted (emit s signal)) (listens_other listens)

/-- An emission leads to one reconnect attempt at most, whatever happens after
it, exactly when no more than one call of `connectToVpn` has registered handlers
for it. -/
theorem one_attempt_iff (initial : ConnectionState) (timerInThread serviceRunning : Bool)
    (turns : List (Turn Event)) (signal : Signal) :
    let loop := run step ⟨created initial timerInThread serviceRunning, []⟩ turns
    loop.listens program = true →
      ((∀ later, (run step (step loop (.event (.emitted signal))) later).state.attempts.count
          loop.state.emissions ≤ 1) ↔
        loop.state.handlers.count signal ≤ 1) := by
  intro loop listens
  have unissued : Unissued loop :=
    run_invariant step_unissued _ turns fun emission _ => by simp [created, claimed]
  obtain ⟨queued, total⟩ := claimed_emitted loop.state signal (unissued _ (Nat.le_refl _))
  have emitted : step loop (.event (.emitted signal)) =
      ⟨emit loop.state signal, [] :: loop.calls⟩ := step_event listens _
  rw [emitted]
  constructor
  · intro single
    obtain ⟨later, all⟩ := run_all_attempted signal loop listens
    have bound := single later
    rw [all, List.count_append, List.count_reverse, queued] at bound
    exact Nat.le_trans (Nat.le_add_right _ _) bound
  · intro few later
    have bound := run_claimed loop.state.emissions ⟨emit loop.state signal, [] :: loop.calls⟩ later
      (Nat.lt_succ_self _)
    rw [total] at bound
    exact Nat.le_trans (Nat.le_add_left _ _) (Nat.le_trans bound few)

def connection : List (Turn Event) :=
  handled (.connectToVpn ⟨true, [], true, [.connecting], true⟩) 7 ++
    handled (.protocolReport .connected) 4

theorem first_connection_reconnects_once :
    let loop := run step ⟨created .disconnected false true, []⟩ connection
    loop.state.connection.connectionState = .connected ∧
      loop.state.handlers = [.networkChanged, .wakeup] ∧
      ∀ later, (run step (step loop (.event (.emitted .networkChanged))) later).state.attempts.count
        loop.state.emissions ≤ 1 :=
  ⟨by decide, by decide, (one_attempt_iff _ _ _ connection _ (by decide)).mpr (by decide)⟩

/-- Two connections and one change of the network, after which the service is
gone: neither of the two messages waits for a reply, and both reconnect. -/
theorem second_connection_reconnects_twice :
    (run step ⟨created .disconnected false true, []⟩ (connection ++
      handled (.disconnectFromVpn [.disconnecting, .disconnected]) 7 ++ connection ++
      handled (.emitted .networkChanged) 1 ++ handled (.serviceChanged false) 1 ++
      handled (.delivered ⟨[.disconnecting, .disconnected], [.error], false⟩) 8 ++
      handled (.delivered ⟨[], [.error], false⟩) 6)).state.attempts = [0, 0] := by
  decide +kernel

end AbstractumVpn.NetworkEvents
