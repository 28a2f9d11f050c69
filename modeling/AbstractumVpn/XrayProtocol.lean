import AbstractumVpn.EventLogs
import AbstractumVpn.EventLoops
import AbstractumVpn.ImportController
import AbstractumVpn.Session

/-!
`XrayProtocol` and the event loop it lives in. The handlers of the tun2socks
process are queued connections: the loop makes the posted calls in order, also
after the process is gone. The retry of a busy device waits in a single shot
timer of its own. Every call to the service, and the slots a change of state is
reported to, wait for replies in a nested loop, in which other events are
handled. The answers come with the event that leads to the call.
-/

namespace AbstractumVpn.XrayProtocol

open EventLogs EventLoops ImportController Runs

open Session (maxTun2SocksRetries)

open VpnConnection (ConnectionState)

inductive ErrorCode where
  | noError
  | internalError
  | amneziaServiceConnectionFailed
  | xrayExecutableCrashed
  | tun2SockExecutableCrashed
  deriving DecidableEq

inductive Signal where
  | readyReadStandardError
  | finished
  deriving DecidableEq

/-- What can be seen from outside. `result` is what `start` returns, `stopped` the
return of `stop`; `retried` and `gaveUp` are the two answers to an exit of
tun2socks with a busy device. -/
inductive Entry where
  | started
  | result (error : ErrorCode)
  | stopped
  | launched
  | reported (state : ConnectionState)
  | retried
  | gaveUp
  deriving DecidableEq

structure State where
  process : Option Bool := none
  retryCount : Nat := 0
  connectionState : ConnectionState := .unknown
  lastError : ErrorCode := .noError
  posted : List Signal := []
  timers : Nat := 0
  crashed : Bool := false
  log : List Entry := []

def write (entry : Entry) (s : State) : State := { s with log := entry :: s.log }

def setConnectionState (state : ConnectionState) (s : State) : State :=
  if s.connectionState = state then s
  else if s.connectionState = .disconnected && state = .disconnecting then s
  else write (.reported state) { s with connectionState := state }

structure ProcessAnswers where
  created : Bool
  source : Bool

structure StartAnswers where
  inboundAuth : Bool
  configText : String
  service : Bool
  xrayStart : Bool
  process : ProcessAnswers

structure RoutingAnswers where
  service : Bool
  createTun : Bool
  updateResolvers : Bool
  killSwitchEnabled : Bool
  vpnAdapter : Bool
  enableKillSwitch : Bool
  vpnAllSites : Bool
  routesAdded : Nat
  stopRoutingIpv6 : Bool
  windows : Bool
  inetAdapter : Bool
  enablePeerTraffic : Bool

/-- `output` is missing when it could not be read. -/
structure HandlerAnswers where
  output : Option String
  routing : RoutingAnswers

def subnets : List String :=
  ["1.0.0.0/8", "2.0.0.0/7", "4.0.0.0/6", "8.0.0.0/5", "16.0.0.0/4", "32.0.0.0/3", "64.0.0.0/2",
    "128.0.0.0/1"]

def setupRouting (answers : RoutingAnswers) : ErrorCode :=
  if !answers.service then .amneziaServiceConnectionFailed
  else if !answers.createTun then .internalError
  else if !answers.updateResolvers then .internalError
  else if answers.killSwitchEnabled && answers.vpnAdapter && !answers.enableKillSwitch then
    .internalError
  else if answers.vpnAllSites && answers.routesAdded ≠ subnets.length then .internalError
  else if !answers.stopRoutingIpv6 then .internalError
  else if answers.windows && answers.inetAdapter && answers.vpnAdapter &&
      !answers.enablePeerTraffic then
    .internalError
  else .noError

/-- The parts of the calls. `create` and `launch` are the two halves of
`startTun2Socks`, called by the retry or by `start`; `terminate` and `release`
end the process in `stop`, whose return is `returned`; `scan` and `routed` are
the handler of the output after its two waits, `exited` the one of the exit. -/
inductive Operation where
  | wait
  | create (answers : ProcessAnswers) (retry : Bool)
  | launch (answers : ProcessAnswers) (retry : Bool)
  | result (error : ErrorCode)
  | terminate
  | release
  | report (state : ConnectionState)
  | returned
  | setLastError (lastError : ErrorCode)
  | scan (answers : HandlerAnswers)
  | routed (answers : RoutingAnswers)
  | exited (resourceBusy : Bool)

def stop : List Operation := [.wait, .terminate, .report .disconnected, .returned]

def stopWith (lastError : ErrorCode) : List Operation := stop ++ [.setLastError lastError]

def crash (s : State) : State × List Operation := ({ s with crashed := true }, [])

def startTun2Socks (answers : ProcessAnswers) (retry : Bool) : List Operation :=
  [.wait, .create answers retry]

def start (answers : StartAnswers) : List Operation :=
  if !answers.inboundAuth then [.result .internalError]
  else if answers.configText = "" then [.result .xrayExecutableCrashed]
  else if !answers.service then [.result .amneziaServiceConnectionFailed]
  else if !answers.xrayStart then [.wait, .result .xrayExecutableCrashed]
  else .wait :: startTun2Socks answers.process false

def resourceBusy (answers : HandlerAnswers) : Bool :=
  answers.output.any fun text => contains text "resource busy"

inductive Event where
  | start (answers : StartAnswers)
  | stop
  | emit (signal : Signal)
  | deliver (answers : HandlerAnswers)
  | timeout (answers : ProcessAnswers)

def handle (s : State) : Event → State × List Operation
  | .start answers => (write .started s, start answers)
  | .stop => (s, stop)
  | .emit signal =>
    (if s.process = some true then { s with posted := s.posted ++ [signal] } else s, [])
  | .deliver answers =>
    match s.posted, s.process with
    | [], _ => (s, [])
    | .readyReadStandardError :: _, none => crash s
    | .readyReadStandardError :: rest, some _ => ({ s with posted := rest }, [.wait, .scan answers])
    | .finished :: rest, none => ({ s with posted := rest }, [.exited false])
    | .finished :: rest, some _ =>
      ({ s with posted := rest }, [.wait, .exited (resourceBusy answers)])
  | .timeout answers =>
    if s.timers = 0 then (s, [])
    else ({ s with timers := s.timers - 1 }, startTun2Socks answers true)

/-- After a wait the process may be gone: a call on it then follows a null
pointer, as it does when the process could not be created. -/
def perform (s : State) (operation : Operation) : State × List Operation :=
  match operation, s.process with
  | .wait, _ => (s, [])
  | .create answers retry, _ =>
    if answers.created then ({ s with process := some false }, [.wait, .launch answers retry])
    else crash s
  | .launch _ _, none => crash s
  | .launch answers retry, some _ =>
    if answers.source then
      (write .launched { s with process := some true }, if retry then [] else [.result .noError])
    else if retry then (s, stopWith .amneziaServiceConnectionFailed)
    else (s, [.result .amneziaServiceConnectionFailed])
  | .result error, _ => (write (.result error) s, [])
  | .terminate, none => (s, [])
  | .terminate, some _ => ({ s with process := some false }, [.wait, .release])
  | .release, none => crash s
  | .release, some _ => ({ s with process := none }, [])
  | .report state, _ =>
    let s' := setConnectionState state s
    (s', if s'.connectionState = s.connectionState then [] else [.wait])
  | .returned, _ => (write .stopped s, [])
  | .setLastError lastError, _ =>
    ({ s with lastError := lastError }, if lastError ≠ .noError then [.report .error] else [])
  | .scan answers, _ =>
    match answers.output with
    | none => (s, [])
    | some line =>
      -- no handler is connected to the signal that the source disconnects here
      if contains line "[STACK] tun://" && contains line "<-> socks5://" then
        (s, [.wait, .routed answers.routing])
      else (s, [])
  | .routed answers, _ =>
    match setupRouting answers with
    | .noError => (s, [.report .connected])
    | res => (s, stopWith res)
  | .exited busy, _ =>
    if busy && s.retryCount < maxTun2SocksRetries then
      (write .retried { s with retryCount := s.retryCount + 1, timers := s.timers + 1 }, [])
    else
      let s := { s with retryCount := 0 }
      (if busy then write .gaveUp s else s, stopWith .tun2SockExecutableCrashed)

def program : Program State Event Operation where
  handle s event := if s.crashed then (s, []) else handle s event
  waits _ operation := match operation with
    | .wait => true
    | _ => false
  perform s operation := if s.crashed then none else some (perform s operation)

abbrev step := EventLoops.step program

/-- Nothing is launched and `Connected` is not reported after a stop, until the next start. -/
def Quiet (entry : Entry) (before : List Entry) : Prop :=
  entry = .launched ∨ entry = .reported .connected → .stopped ∉ since .started before

/-- Five busy exits are retried after a start, and no more, before the next one is given up. -/
def Retries (entry : Entry) (before : List Entry) : Prop :=
  (entry = .retried → (since .started before).count .retried < 5) ∧
    (entry = .gaveUp → (since .started before).count .retried = 5)

instance (entry : Entry) (before : List Entry) : Decidable (Quiet entry before) :=
  inferInstanceAs (Decidable (_ → _))

instance (entry : Entry) (before : List Entry) : Decidable (Retries entry before) :=
  inferInstanceAs (Decidable (_ ∧ _))

/-- What may lead to a launch, a retry or `Connected`. -/
def Operation.risky : Operation → Bool
  | .create _ _ | .launch _ _ | .scan _ | .routed _ | .report .connected | .exited true => true
  | _ => false

def Operation.isReturn : Operation → Bool
  | .returned => true
  | _ => false

def Operation.isBusyExit : Operation → Bool
  | .exited resourceBusy => resourceBusy
  | _ => false

def Calm (calls : List (List Operation)) : Prop :=
  ∀ call ∈ calls, ∀ operation ∈ call, operation.risky = false

def NoStop (calls : List (List Operation)) : Prop :=
  ∀ call ∈ calls, ∀ operation ∈ call, operation.isReturn = false

/-- The counter is fresh at every start. When a stop returns, no retry is waiting, no process has
been launched in its waits, and no call around it can launch one or report `Connected`. A busy exit
is not handled inside a stop. -/
def Allowed (loop : Loop State Operation) : Turn Event → Prop
  | .event (.start _) => loop.state.retryCount = 0
  | .event _ => True
  | .go =>
    match loop.calls with
    | (operation :: rest) :: outer =>
      (operation.isReturn = true →
        loop.state.timers = 0 ∧ loop.state.process = none ∧ Calm (rest :: outer)) ∧
      (operation.isBusyExit = true → NoStop (rest :: outer))
    | _ => True

instance (calls : List (List Operation)) : Decidable (Calm calls) :=
  inferInstanceAs (Decidable (∀ call ∈ calls, ∀ operation ∈ call, _ = _))

instance (calls : List (List Operation)) : Decidable (NoStop calls) :=
  inferInstanceAs (Decidable (∀ call ∈ calls, ∀ operation ∈ call, _ = _))

instance : ∀ (loop : Loop State Operation) (turn : Turn Event), Decidable (Allowed loop turn)
  | _, .event (.start _) => inferInstanceAs (Decidable (_ = _))
  | _, .event .stop | _, .event (.emit _) | _, .event (.deliver _) | _, .event (.timeout _)
  | ⟨_, []⟩, .go | ⟨_, [] :: _⟩, .go => isTrue trivial
  | ⟨_, (_ :: rest) :: outer⟩, .go =>
    inferInstanceAs (Decidable ((_ → _ ∧ _ ∧ Calm (rest :: outer)) ∧ (_ → NoStop (rest :: outer))))

/-- After a stop there is neither a process nor a retry, nor a call that could make one. Until then,
and outside of a stop, the counter has counted the retries since the start. -/
structure Inv (s : State) (calls : List (List Operation)) : Prop where
  quiet : Follows Quiet s.log
  retries : Follows Retries s.log
  bounded : s.retryCount ≤ 5
  idle : .stopped ∈ since .started s.log → s.process = none ∧ s.timers = 0 ∧ Calm calls
  counted : .stopped ∉ since .started s.log → NoStop calls →
    s.retryCount = (since .started s.log).count .retried

variable {s s' : State} {operation : Operation} {rest call : List Operation}
  {outer calls : List (List Operation)}

lemma calm_cons : Calm (call :: calls) ↔ (∀ operation ∈ call, operation.risky = false) ∧ Calm calls :=
  List.forall_mem_cons

lemma noStop_cons :
    NoStop (call :: calls) ↔ (∀ operation ∈ call, operation.isReturn = false) ∧ NoStop calls :=
  List.forall_mem_cons

/-- What is risky is not done after a stop. -/
lemma Inv.running (inv : Inv s ((operation :: rest) :: outer)) (risky : operation.risky = true) :
    .stopped ∉ since .started s.log := by
  intro stopped
  have calm := (calm_cons.mp (inv.idle stopped).2.2).1 operation List.mem_cons_self
  simp [risky] at calm

/-- A step that neither writes to the log nor returns from a stop. What is risky may do anything
to the process and go on with anything. -/
lemma Inv.next (inv : Inv s ((operation :: rest) :: outer)) {more : List Operation}
    (log : s'.log = s.log) (count : s'.retryCount = s.retryCount) (timers : s'.timers = s.timers)
    (inner : operation.isReturn = false)
    (harmless : operation.risky = false →
      (s.process = none → s'.process = none) ∧ ∀ operation ∈ more, operation.risky = false) :
    Inv s' ((more ++ rest) :: outer) := by
  constructor
  · exact log ▸ inv.quiet
  · exact log ▸ inv.retries
  · exact count ▸ inv.bounded
  · rw [log, timers]
    intro stopped
    obtain ⟨process, idle, calm⟩ := inv.idle stopped
    obtain ⟨here, around⟩ := calm_cons.mp calm
    obtain ⟨kept, added⟩ := harmless (here operation List.mem_cons_self)
    refine ⟨kept process, idle, calm_cons.mpr ⟨?_, around⟩⟩
    exact List.forall_mem_append.mpr ⟨added, fun other later => here other (List.mem_cons_of_mem _ later)⟩
  · rw [log, count]
    intro running none
    obtain ⟨here, around⟩ := noStop_cons.mp none
    apply inv.counted running
    exact noStop_cons.mpr ⟨List.forall_mem_cons.mpr ⟨inner, fun other later =>
      here other (List.mem_append_right _ later)⟩, around⟩

/-- An entry that is neither a start nor a stop nor a retry. -/
lemma Inv.note (inv : Inv s calls) {entry : Entry} (quiet : Quiet entry s.log)
    (retries : Retries entry s.log) (other : entry ∉ [.started, .stopped, .retried]) :
    Inv (write entry s) calls := by
  simp only [List.mem_cons, List.not_mem_nil, or_false, not_or] at other
  obtain ⟨start, stop, retried⟩ := other
  have entries : since .started (entry :: s.log) = entry :: since .started s.log :=
    since_other start s.log
  constructor
  · exact ⟨quiet, inv.quiet⟩
  · exact ⟨retries, inv.retries⟩
  · exact inv.bounded
  · intro stopped
    apply inv.idle
    simpa [write, entries, Ne.symm stop] using stopped
  · intro running none
    have before := inv.counted (by simpa [write, entries, Ne.symm stop] using running) none
    simpa [write, entries, retried] using before

variable (state : ConnectionState)

lemma setConnectionState_cases (s : State) :
    setConnectionState state s = s ∨
      setConnectionState state s = write (.reported state) { s with connectionState := state } := by
  unfold setConnectionState
  split
  · exact Or.inl rfl
  · split
    · exact Or.inl rfl
    · exact Or.inr rfl

lemma Inv.report (inv : Inv s ((.report state :: rest) :: outer)) {more : List Operation}
    (harmless : ∀ operation ∈ more, operation.risky = false) :
    Inv (setConnectionState state s) ((more ++ rest) :: outer) := by
  have quiet : Quiet (.reported state) s.log := by
    rintro (⟨⟨⟩⟩ | ⟨⟨⟩⟩)
    exact inv.running rfl
  rcases setConnectionState_cases state s with same | written
  · rw [same]
    exact inv.next rfl rfl rfl rfl fun _ => ⟨id, harmless⟩
  · rw [written]
    refine Inv.note (s := { s with connectionState := state }) ?_ quiet (by simp [Retries])
      (by simp)
    exact inv.next rfl rfl rfl rfl fun _ => ⟨id, harmless⟩

lemma Inv.returned (inv : Inv s ((.returned :: rest) :: outer)) (timers : s.timers = 0)
    (process : s.process = none) (calm : Calm (rest :: outer)) :
    Inv (write .stopped s) (rest :: outer) := by
  constructor
  · exact ⟨by simp [Quiet], inv.quiet⟩
  · exact ⟨by simp [Retries], inv.retries⟩
  · exact inv.bounded
  · exact fun _ => ⟨process, timers, calm⟩
  · intro running
    simp [write, since_other] at running

lemma stopWith_calm (lastError : ErrorCode) :
    ∀ operation ∈ stopWith lastError, operation.risky = false := by
  simp [stopWith, stop, Operation.risky]

/-- A stop is begun by the handler of an exit, which has set the counter back. -/
lemma Inv.giveUp (inv : Inv s ((operation :: rest) :: outer)) (log : s'.log = s.log)
    (count : s'.retryCount = 0) (process : s'.process = s.process) (timers : s'.timers = s.timers)
    (lastError : ErrorCode) : Inv s' ((stopWith lastError ++ rest) :: outer) := by
  constructor
  · exact log ▸ inv.quiet
  · exact log ▸ inv.retries
  · simp [count]
  · rw [log, process, timers]
    intro stopped
    obtain ⟨gone, idle, calm⟩ := inv.idle stopped
    obtain ⟨here, around⟩ := calm_cons.mp calm
    refine ⟨gone, idle, calm_cons.mpr ⟨?_, around⟩⟩
    exact List.forall_mem_append.mpr
      ⟨stopWith_calm lastError, fun other later => here other (List.mem_cons_of_mem _ later)⟩
  · intro _ none
    have inside := (noStop_cons.mp none).1 .returned (by simp [stopWith, stop])
    simp [Operation.isReturn] at inside

/-- Outside of a stop the counter is the number of retries when a busy exit is handled. -/
lemma Inv.count (inv : Inv s ((.exited true :: rest) :: outer)) (alone : NoStop (rest :: outer)) :
    s.retryCount = (since .started s.log).count .retried := by
  obtain ⟨here, around⟩ := noStop_cons.mp alone
  exact inv.counted (inv.running rfl) (noStop_cons.mpr ⟨List.forall_mem_cons.mpr ⟨rfl, here⟩, around⟩)

lemma Inv.retried (inv : Inv s ((.exited true :: rest) :: outer)) (alone : NoStop (rest :: outer))
    (few : s.retryCount < maxTun2SocksRetries) :
    Inv (write .retried { s with retryCount := s.retryCount + 1, timers := s.timers + 1 })
      (rest :: outer) := by
  have running := inv.running rfl
  have entries : since .started (Entry.retried :: s.log) = .retried :: since .started s.log :=
    since_other (by simp) s.log
  have count := inv.count alone
  constructor
  · exact ⟨by simp [Quiet], inv.quiet⟩
  · exact ⟨⟨fun _ => count ▸ few, by simp⟩, inv.retries⟩
  · exact few
  · intro stopped
    exact absurd (by simpa [write, entries] using stopped) running
  · intro _ _
    simp [write, entries, count]

lemma Inv.exited {busy : Bool} (inv : Inv s ((.exited busy :: rest) :: outer))
    (alone : busy = true → NoStop (rest :: outer)) :
    Inv (perform s (.exited busy)).1 (((perform s (.exited busy)).2 ++ rest) :: outer) := by
  have reset : Inv { s with retryCount := 0 }
      ((stopWith .tun2SockExecutableCrashed ++ rest) :: outer) := by
    apply inv.giveUp <;> rfl
  cases busy with
  | false => simpa [perform] using reset
  | true =>
    by_cases few : s.retryCount < maxTun2SocksRetries
    · simpa [perform, few] using inv.retried (alone rfl) few
    · have five : (since .started s.log).count .retried = 5 := by
        rw [← inv.count (alone rfl)]
        exact Nat.le_antisymm inv.bounded (Nat.not_lt.mp few)
      have noted : Inv (write .gaveUp { s with retryCount := 0 })
          ((stopWith .tun2SockExecutableCrashed ++ rest) :: outer) :=
        reset.note (by simp [Quiet]) ⟨by simp, fun _ => five⟩ (by simp)
      simpa [perform, few] using noted

lemma perform_inv (s : State) (operation : Operation) (rest : List Operation)
    (outer : List (List Operation)) (inv : Inv s ((operation :: rest) :: outer))
    (allowed : Allowed ⟨s, (operation :: rest) :: outer⟩ .go) :
    Inv (perform s operation).1 (((perform s operation).2 ++ rest) :: outer) := by
  obtain ⟨idle, alone⟩ := allowed
  cases operation with
  | wait => exact inv.next rfl rfl rfl rfl (by simp [perform])
  | create answers retry =>
    simp only [perform]
    split
    · exact inv.next rfl rfl rfl rfl (by simp [Operation.risky])
    · exact inv.next rfl rfl rfl rfl (by simp [Operation.risky])
  | launch answers retry =>
    have passed : ∀ {s' : State} {more : List Operation}, s'.log = s.log →
        s'.retryCount = s.retryCount → s'.timers = s.timers → Inv s' ((more ++ rest) :: outer) :=
      fun log count timers => inv.next log count timers rfl (by simp [Operation.risky])
    cases present : s.process with
    | none =>
      simp only [perform, present]
      exact passed rfl rfl rfl
    | some _ =>
      simp only [perform, present]
      split
      · have launched (more : List Operation) :
            Inv { s with process := some true } ((more ++ rest) :: outer) := passed rfl rfl rfl
        refine (launched _).note ?_ ?_ ?_
        · exact fun _ => inv.running rfl
        · simp [Retries]
        · simp
      · split
        · exact passed rfl rfl rfl
        · exact passed rfl rfl rfl
  | result error =>
    have passed : Inv s (([] ++ rest) :: outer) := inv.next rfl rfl rfl rfl (by simp)
    exact passed.note (by simp [Quiet]) (by simp [Retries]) (by simp)
  | terminate =>
    cases present : s.process with
    | none =>
      simp only [perform, present]
      exact inv.next rfl rfl rfl rfl (by simp)
    | some _ =>
      simp only [perform, present]
      exact inv.next rfl rfl rfl rfl (by simp [present, Operation.risky])
  | release =>
    cases present : s.process with
    | none =>
      simp only [perform, present]
      exact inv.next rfl rfl rfl rfl (by simp [crash])
    | some _ =>
      simp only [perform, present]
      exact inv.next rfl rfl rfl rfl (by simp)
  | report state =>
    apply inv.report state
    simp only [perform]
    split <;> simp [Operation.risky]
  | returned =>
    obtain ⟨timers, process, calm⟩ := idle rfl
    exact inv.returned timers process calm
  | setLastError lastError =>
    refine inv.next rfl rfl rfl rfl fun _ => ⟨id, ?_⟩
    simp only [perform]
    split <;> simp [Operation.risky]
  | scan answers =>
    simp only [perform]
    split
    · exact inv.next rfl rfl rfl rfl (by simp)
    · split
      · exact inv.next rfl rfl rfl rfl (by simp [Operation.risky])
      · exact inv.next rfl rfl rfl rfl (by simp)
  | routed answers =>
    simp only [perform]
    split
    · exact inv.next rfl rfl rfl rfl (by simp [Operation.risky])
    · exact inv.next rfl rfl rfl rfl (by simp [Operation.risky])
  | exited busy => exact inv.exited alone

/-- A call is begun: after a stop only one that is harmless. -/
lemma Inv.begin (inv : Inv s calls) {call : List Operation} (log : s'.log = s.log)
    (count : s'.retryCount = s.retryCount) (process : s'.process = s.process)
    (timers : s.timers = 0 → s'.timers = 0)
    (harmless : s.process = none → s.timers = 0 → ∀ operation ∈ call, operation.risky = false) :
    Inv s' (call :: calls) := by
  constructor
  · exact log ▸ inv.quiet
  · exact log ▸ inv.retries
  · exact count ▸ inv.bounded
  · rw [log, process]
    intro stopped
    obtain ⟨gone, idle, calm⟩ := inv.idle stopped
    exact ⟨gone, timers idle, calm_cons.mpr ⟨harmless gone idle, calm⟩⟩
  · rw [log, count]
    intro running none
    exact inv.counted running (noStop_cons.mp none).2

lemma Inv.started (inv : Inv s calls) (fresh : s.retryCount = 0) (call : List Operation) :
    Inv (write .started s) (call :: calls) := by
  constructor
  · exact ⟨by simp [Quiet], inv.quiet⟩
  · exact ⟨by simp [Retries], inv.retries⟩
  · exact inv.bounded
  · simp [write]
  · simp [write, fresh]

lemma handle_inv (s : State) (calls : List (List Operation)) (event : Event) (inv : Inv s calls)
    (allowed : Allowed ⟨s, calls⟩ (.event event)) :
    Inv (handle s event).1 ((handle s event).2 :: calls) := by
  cases event with
  | start answers => exact inv.started allowed _
  | stop => exact inv.begin rfl rfl rfl id (by simp [handle, stop, Operation.risky])
  | emit signal =>
    simp only [handle]
    split
    · exact inv.begin rfl rfl rfl id (by simp)
    · exact inv.begin rfl rfl rfl id (by simp)
  | deliver answers =>
    simp only [handle]
    split
    · exact inv.begin rfl rfl rfl id (by simp)
    · exact inv.begin rfl rfl rfl id (by simp [crash])
    · exact inv.begin rfl rfl rfl id (by simp_all)
    · exact inv.begin rfl rfl rfl id (by simp [Operation.risky])
    · exact inv.begin rfl rfl rfl id (by simp_all)
  | timeout answers =>
    simp only [handle]
    split
    · exact inv.begin rfl rfl rfl id (by simp)
    · rename_i waiting
      refine inv.begin rfl rfl rfl (fun none => absurd none waiting) ?_
      exact fun _ none => absurd none waiting

lemma step_inv (loop : Loop State Operation) (turn : Turn Event) (inv : Inv loop.state loop.calls)
    (allowed : Allowed loop turn) : Inv (step loop turn).state (step loop turn).calls := by
  apply guarded_step _ _ _ loop turn inv allowed
  · intro s calls event inv allowed
    simp only [program]
    split
    · exact inv.begin rfl rfl rfl id (by simp)
    · exact handle_inv s calls event inv allowed
  · intro s outer inv
    exact ⟨inv.quiet, inv.retries, inv.bounded,
      fun stopped => (inv.idle stopped).imp_right fun ⟨idle, calm⟩ => ⟨idle, (calm_cons.mp calm).2⟩,
      fun running none => inv.counted running (noStop_cons.mpr ⟨by simp, none⟩)⟩
  · intro s operation rest outer after more inv allowed result
    simp only [program] at result
    split at result
    · cases result
    · obtain ⟨rfl, rfl⟩ := Prod.mk.inj (Option.some.inj result)
      exact perform_inv s operation rest outer inv allowed

/-- In every state of a run that meets the condition, with whatever is handled in the waits, the
protocol was quiet after every stop and retried five busy exits after every start. -/
theorem allowed_run_follows (turns : List (Turn Event)) (allowed : Guarded step Allowed ⟨{}, []⟩ turns)
    (loop : Loop State Operation) (visited : Visits step ⟨{}, []⟩ turns loop) :
    Follows Quiet loop.state.log ∧ Follows Retries loop.state.log := by
  have initial : Inv {} [] := by
    constructor <;> simp [since]
  have inv : Inv loop.state loop.calls :=
    guarded_invariant step_inv ⟨{}, []⟩ turns initial allowed loop visited
  exact ⟨inv.quiet, inv.retries⟩

def running : StartAnswers := ⟨true, "config", true, true, ⟨true, true⟩⟩

def routed : RoutingAnswers := ⟨true, true, true, false, true, true, true, 8, true, false, true, true⟩

def started : List (Turn Event) := handled (.start running) 7

def busyExit : List (Turn Event) :=
  handled (.emit .finished) 1 ++ handled (.deliver ⟨some "resource busy", routed⟩) 3

def busyExits (count : Nat) : List (Turn Event) :=
  (List.replicate count (busyExit ++ handled (.timeout ⟨true, true⟩) 5)).flatten

/-- tun2socks has its device, and its routes are being set up. -/
def ready : List (Turn Event) :=
  handled (.emit .readyReadStandardError) 1 ++
    handled (.deliver ⟨some "[STACK] tun://tun2 <-> socks5://", routed⟩) 2

def connected : List (Turn Event) := ready ++ List.replicate 5 .go

/-- A start whose second process gets the device; more output arrives while the routes are set up,
and a stop. -/
def secondProcess : List (Turn Event) :=
  started ++ busyExits 1 ++ ready ++ handled (.emit .readyReadStandardError) 1 ++
    handled (.deliver ⟨some "[TCP]", routed⟩) 3 ++ List.replicate 5 .go ++ handled .stop 8

theorem second_process_connects :
    Guarded step Allowed ⟨{}, []⟩ secondProcess ∧
      (Follows Quiet (run step ⟨{}, []⟩ secondProcess).state.log ∧
        Follows Retries (run step ⟨{}, []⟩ secondProcess).state.log) ∧
      (run step ⟨{}, []⟩ secondProcess).state.log =
        [.stopped, .reported .disconnected, .reported .connected, .launched, .retried, .result .noError,
          .launched, .started] := by
  have allowed : Guarded step Allowed ⟨{}, []⟩ secondProcess := by
    decide +kernel
  exact ⟨allowed, allowed_run_follows _ allowed _ (visits_last step _ _), by decide +kernel⟩

/-- A retry that was waiting at the stop launches tun2socks and leads to `Connected`. An exit that
is handled while the routes are set up stops the protocol, and then `Connected` is reported. After
two retries, a stop and another start, only three busy exits are retried. -/
theorem stopped_retry_launches :
    ¬Follows Quiet (run step ⟨{}, []⟩ (started ++ busyExit ++ handled .stop 8 ++
      handled (.timeout ⟨true, true⟩) 5 ++ connected)).state.log ∧
    ¬Follows Quiet (run step ⟨{}, []⟩ (started ++ ready ++ handled (.emit .finished) 1 ++
      handled (.deliver ⟨some "", routed⟩) 13 ++ List.replicate 5 .go)).state.log ∧
    ¬Follows Retries (run step ⟨{}, []⟩ (started ++ busyExits 2 ++ connected ++ handled .stop 8 ++
      started ++ busyExits 3 ++ busyExit)).state.log := by
  decide +kernel

end AbstractumVpn.XrayProtocol
