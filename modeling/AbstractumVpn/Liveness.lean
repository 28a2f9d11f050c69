import AbstractumVpn.Daemon
import AbstractumVpn.Runs

/-!
The two polls of the daemon. `checkHandshake` waits for the first handshake of
every connection and then starts the liveness timer; `checkLiveness` samples the
byte counters of every connection and, when nothing comes back, sends the peer
again. What a sample finds is `judge`.
-/

namespace AbstractumVpn.Daemon

open WireguardUtilsLinux Frames

variable (ok : Nat → Bool) (qt : Qt)

structure PeerStatus where
  pubkey : String
  handshake : Int := 0
  rxBytes : Int := 0
  txBytes : Int := 0

def handshakeStaleMsec : Int := 150 * 1000
def blackholeSamples : Nat := 3
def quickRecoveryAttemptLimit : Nat := 3

def putConnection (s : State) (hop : HopType) (connection : ConnectionState) : State :=
  { s with connections := fun other => if other = hop then some connection else s.connections other }

def greet (connection : ConnectionState) (status : PeerStatus) : ConnectionState × List Signal :=
  if connection.config.serverPublicKey ≠ status.pubkey ∨ status.handshake = 0 then (connection, [])
  else
    ({ connection with
        date := some status.handshake
        lastTxBytes := status.txBytes
        lastRxBytes := status.rxBytes
        stalledSamples := 0
        quickRecoveryAttempts := 0 }, [.connected status.pubkey])

def greetAll (peers : List PeerStatus) (connection : ConnectionState) :
    ConnectionState × List Signal :=
  peers.foldl (fun found status =>
    let next := greet found.1 status
    (next.1, found.2 ++ next.2)) (connection, [])

def greetHop (peers : List PeerStatus) (s : State) (hop : HopType) : State :=
  match s.connections hop with
  | none => s
  | some connection =>
    if connection.date.isSome then s
    else
      let found := greetAll peers connection
      { putConnection s hop found.1 with signals := s.signals ++ found.2 }

def awaiting (s : State) (hop : HopType) : Bool :=
  match s.connections hop with
  | none => false
  | some connection => connection.date.isNone

def checkHandshake (peers : List PeerStatus) (s : State) : State :=
  let s := hops.foldl (greetHop peers) { s with handshakeTimer := false }
  if hops.any (awaiting s) then { s with handshakeTimer := true }
  else if hops.any fun hop => (s.connections hop).isSome then { s with livenessTimer := true }
  else s

inductive Finding where
  | alive
  | quiet
  | dead
  deriving DecidableEq

def handshakeStale (now : Int) (status : PeerStatus) : Bool :=
  let handshakeAge := if status.handshake > 0 then now - status.handshake else -1
  decide (handshakeAge > handshakeStaleMsec) || status.handshake == 0

def judge (now : Int) (status : PeerStatus) (connection : ConnectionState) :
    ConnectionState × Finding :=
  let txDelta := status.txBytes - connection.lastTxBytes
  let rxDelta := status.rxBytes - connection.lastRxBytes
  let connection :=
    { connection with lastTxBytes := status.txBytes, lastRxBytes := status.rxBytes }
  if rxDelta > 0 then
    ({ connection with stalledSamples := 0, quickRecoveryAttempts := 0 }, .alive)
  else
    let connection :=
      if txDelta > 0 then { connection with stalledSamples := connection.stalledSamples + 1 }
      else connection
    let blackHole := decide (connection.stalledSamples ≥ blackholeSamples)
    (connection, if !handshakeStale now status && !blackHole then .quiet else .dead)

def logSample (connection : ConnectionState) (outcome : Outcome) : ConnectionState :=
  { connection with samples := outcome :: connection.samples }

def tryQuickRecovery (config : InterfaceConfig) (attempt : Nat) : StateM State Bool :=
  if attempt ≥ quickRecoveryAttemptLimit then return false
  else onSystem (updatePeer ok qt config)

def giveUp (s : State) : State :=
  { s with livenessTimer := false, signals := s.signals ++ [.disconnected] }

def sample (now : Int) (hop : HopType) (status : PeerStatus) : StateM State Bool := do
  match (← get).connections hop with
  | none => return true
  | some connection =>
    if status.pubkey ≠ connection.config.serverPublicKey then return true
    else
      match judge now status connection with
      | (connection, .alive) =>
        modify fun s => putConnection s hop (logSample connection .grew)
        return true
      | (connection, .quiet) =>
        modify fun s => putConnection s hop (logSample connection .silent)
        return true
      | (connection, .dead) =>
        let attempt := connection.quickRecoveryAttempts
        if ← tryQuickRecovery ok qt connection.config attempt then
          modify fun s => putConnection s hop (logSample
            { connection with quickRecoveryAttempts := attempt + 1, stalledSamples := 0 }
            .recovered)
          return true
        else
          let outcome := if attempt ≥ quickRecoveryAttemptLimit then .exhausted else .updateFailed
          modify fun s => giveUp (putConnection s hop (logSample connection outcome))
          return false

def checkLiveness (now : Int) (peers : List PeerStatus) : StateM State Unit := do
  let s ← get
  if (hops.all fun hop => (s.connections hop).isNone) || !interfaceExists s.system then
    modify fun s => { s with livenessTimer := false }
  else discard (untilFalse (fun hop => untilFalse (sample ok qt now hop) peers) hops)

/-- What the daemon takes in: calls of the client, and polls with the statuses
they find. A timer that is not running does not fire. -/
inductive Event where
  | call (call : Call)
  | handshakePoll (peers : List PeerStatus)
  | livenessPoll (now : Int) (peers : List PeerStatus)

def react (s : State) : Event → State
  | .call call => step ok qt s call
  | .handshakePoll peers => if s.handshakeTimer then checkHandshake peers s else s
  | .livenessPoll now peers =>
    if s.livenessTimer then (perform (checkLiveness ok qt now peers) s).2 else s

end AbstractumVpn.Daemon
