import AbstractumVpn.KillSwitch
import AbstractumVpn.VpnConnection

/-!
An OpenVPN or Xray connection on Linux from end to end: the `VpnConnection`, its
protocol object, as far as it changes its state and calls the kill switch, and
the kill switch of the service. A call is lost when the service cannot be
reached; the events say which calls arrive.
-/

namespace AbstractumVpn.Session

open LinuxFirewall VpnConnection

inductive Kind where
  | openVpn
  | xray
  deriving DecidableEq

/-- Why `start` returns an error. Xray does not tell the reasons apart. -/
inductive Failure where
  | configMissing
  | rangeRefused
  | managementFailed
  | processFailed
  deriving DecidableEq

/-- What one `stop` and `start` of the protocol meets: whether their clean-ups
reach the service, whether the range of the server does, the address its name
resolves to, and how `start` ends. -/
structure Restart where
  stopServed : Bool
  startServed : Bool
  rangeServed : Bool
  resolved : String
  failure : Option Failure
  deriving DecidableEq

/-- `config` is `m_configData` of OpenVPN and `m_rawConfig` of Xray. `armed` is
no field of the source: the kill switch has been enabled for this connection. -/
structure State where
  kind : Kind
  config : Json.Object
  remoteAddress : String
  protocolState : ConnectionState
  tun2socksRetryCount : Nat
  connection : VpnConnection.State
  killSwitch : KillSwitch.State
  armed : Bool

def change (current new : ConnectionState) : ConnectionState × List ConnectionState :=
  if current = new then (current, [])
  else if current = .disconnected ∧ new = .disconnecting then (current, [])
  else (new, [new])

def changes (current : ConnectionState) :
    List ConnectionState → ConnectionState × List ConnectionState
  | [] => (current, [])
  | new :: rest =>
    let first := change current new
    let later := changes first.1 rest
    (later.1, first.2 ++ later.2)

def wasActive (state : ConnectionState) : Bool :=
  state == .preparing || state == .connecting || state == .connected || state == .reconnecting

def stopStates : Kind → ConnectionState → List ConnectionState
  | .openVpn, state =>
    if wasActive state then [.disconnecting, .disconnected]
    else if state = .disconnecting then [.disconnected]
    else []
  | .xray, _ => [.disconnected]

def startStates : Kind → Option Failure → List ConnectionState
  | .openVpn, none => [.connecting]
  | .openVpn, some .configMissing => [.error]
  | .openVpn, some .rangeRefused => []
  | .openVpn, some .managementFailed => [.error]
  | .openVpn, some .processFailed => [.connecting, .error]
  | .xray, _ => []

def attempt (s : State) (failure : Option Failure) : Attempt × ConnectionState :=
  let stopped := changes s.protocolState (stopStates s.kind s.protocolState)
  let started := changes stopped.1 (startStates s.kind failure)
  (⟨stopped.2, started.2, failure.isNone⟩, started.1)

def report (s : State) (new : ConnectionState) : State :=
  let changed := change s.protocolState new
  { s with protocolState := changed.1, connection := deliver s.connection changed.2 }

def killSwitchOption (s : State) : Bool :=
  Json.textToBool (s.config.value "killSwitchOption").toString

def enableKillSwitch (s : State) (config : Json.Object) : State :=
  { s with killSwitch := KillSwitch.enableKillSwitch s.killSwitch config, armed := true }

def disableKillSwitch (s : State) (served : Bool) : State :=
  if served then { s with killSwitch := KillSwitch.disableKillSwitch s.killSwitch } else s

def addAllowedRange (s : State) (served : Bool) (ranges : List String) : State :=
  if served then { s with killSwitch := KillSwitch.addAllowedRange s.killSwitch ranges } else s

/-- `OpenVpnProtocol::updateVpnGateway`, for each `ifconfig` item of the pushed
options. The server's address stays in the configuration. -/
def updateVpnGateway (s : State) (resolved : String) : State :=
  if killSwitchOption s then
    let s := { s with config := s.config.insert "vpnServer" (.string resolved) }
    enableKillSwitch s s.config
  else s

def setupRouting (s : State) : State :=
  if killSwitchOption s then
    enableKillSwitch s (s.config.insert "vpnServer" (.string s.remoteAddress))
  else s

/-- `stop` and then `start`: both clean up with OpenVPN, which allows its server
before the process is started. -/
def restartCalls (s : State) (restart : Restart) : State :=
  let s := disableKillSwitch s restart.stopServed
  match s.kind with
  | .xray => s
  | .openVpn =>
    let s := disableKillSwitch s restart.startServed
    -- the configuration file is looked for before the range is allowed
    if restart.failure = some .configMissing then s
    else addAllowedRange s restart.rangeServed [restart.resolved]

inductive OpenVpnEvent where
  | pushReply (resolved : String)
  | connected
  | exiting
  | reconnecting
  | finished
  deriving DecidableEq

/-- What tun2socks tells: its device is up and `setupRouting` fails before its
kill switch part, after it or not at all; it has ended; the delayed second
start has been made. -/
inductive XrayEvent where
  | failedBefore
  | failedAfter
  | ready
  | finished (resourceBusy : Bool)
  | retried (ok : Bool)
  deriving DecidableEq

inductive Event where
  | networkChange (restart : Restart)
  | timerFired (restart : Restart)
  | openVpn (event : OpenVpnEvent)
  | xray (event : XrayEvent) (stopServed : Bool)
  deriving DecidableEq

def maxTun2SocksRetries : Nat := 5

def giveUp (s : State) (stopServed : Bool) : State :=
  report (report (disableKillSwitch s stopServed) .disconnected) .error

def openVpnEvent (s : State) : OpenVpnEvent → State
  | .pushReply resolved => updateVpnGateway s resolved
  | .connected => report s .connected
  | .exiting => report s .disconnecting
  | .reconnecting => report s .reconnecting
  | .finished => report s .disconnected

def xrayEvent (s : State) (stopServed : Bool) : XrayEvent → State
  | .failedBefore => giveUp s stopServed
  | .failedAfter => giveUp (setupRouting s) stopServed
  | .ready => report (setupRouting s) .connected
  | .finished resourceBusy =>
    if resourceBusy ∧ s.tun2socksRetryCount < maxTun2SocksRetries then
      { s with tun2socksRetryCount := s.tun2socksRetryCount + 1 }
    else giveUp { s with tun2socksRetryCount := 0 } stopServed
  | .retried ok => if ok then s else giveUp s stopServed

def trigger (s : State) (acts : Bool) (restart : Restart)
    (event : Attempt → VpnConnection.Event) : State :=
  let made := attempt s restart.failure
  let s := { s with connection := VpnConnection.step s.connection (event made.1) }
  if acts then { restartCalls s restart with protocolState := made.2 } else s

def timerActs (s : State) : Bool := s.connection.reconnectTimer.isSome && accepts s.connection

/-- An event of the other protocol does not occur. -/
def step (s : State) : Event → State
  | .networkChange restart => trigger s (accepts s.connection) restart .networkChange
  | .timerFired restart => trigger s (timerActs s) restart .timerFired
  | .openVpn event => if s.kind = .openVpn then openVpnEvent s event else s
  | .xray event stopServed => if s.kind = .xray then xrayEvent s stopServed event else s

end AbstractumVpn.Session
