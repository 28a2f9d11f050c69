import AbstractumVpn.WireguardUtilsLinux

/-!
`Daemon` with the Linux helpers: activation, server switching, deactivation.
`run()` is not overridden on Linux and returns `true`. A loop that leaves at the
first failing call is `untilFalse`. The scope guard that emits
`activationFailure` on every return but the successful one is `guarded`.
-/

namespace AbstractumVpn.Daemon

open WireguardUtilsLinux Frames

inductive Outcome where
  | grew
  | silent
  | recovered
  | updateFailed
  | exhausted
  deriving DecidableEq

/-- `date` is `none` until the handshake has completed. `samples` is no field of
the source: it logs the liveness samples of this connection, newest first. -/
structure ConnectionState where
  config : InterfaceConfig
  date : Option Int := none
  lastTxBytes : Int := 0
  lastRxBytes : Int := 0
  stalledSamples : Nat := 0
  quickRecoveryAttempts : Nat := 0
  samples : List Outcome := []

inductive Signal where
  | activationFailure
  | disconnected
  | connected (pubkey : String)
  deriving DecidableEq

structure State where
  system : System
  connections : HopType → Option ConnectionState
  excludedAddrSet : List (IPAddress × Nat)
  resolvers : Option (List HostAddress)
  handshakeTimer : Bool
  livenessTimer : Bool
  signals : List Signal

def created (killSwitch : KillSwitch.State) : State where
  system := ⟨killSwitch, false, none, false, [], [], [], 0⟩
  connections _ := none
  excludedAddrSet := []
  resolvers := none
  handshakeTimer := false
  livenessTimer := false
  signals := []

def noKillSwitch : KillSwitch.State := ⟨LinuxFirewall.uninstall, false, []⟩

def hops : List HopType := [.singleHop, .multiHopEntry, .multiHopExit]

variable (ok : Nat → Bool) (qt : Qt)

def onSystem {α : Type} (action : StateM System α) : StateM State α :=
  within State.system (fun system s => { s with system }) action

lemma perform_onSystem {α : Type} (action : StateM System α) (s : State) :
    perform (onSystem action) s =
      ((perform action s.system).1, { s with system := (perform action s.system).2 }) := rfl

def addInterfaceIPs : StateM State Bool := do
  let added ← onSystem (request ok id)
  discard (onSystem (request ok id))
  return added

def setMTUAndUp : StateM State Bool := onSystem (request ok id)

def updateResolvers (servers : List HostAddress) : StateM State Bool := do
  if ← onSystem (request ok id) then
    modify fun s => { s with resolvers := some servers }
    return true
  else return false

def restoreResolvers : StateM State Bool := do
  modify fun s => { s with resolvers := none }
  return true

def resolversOf (config : InterfaceConfig) : List HostAddress :=
  [qt.hostAddress config.primaryDnsServer] ++
    (if config.secondaryDnsServer.isEmpty then [] else [qt.hostAddress config.secondaryDnsServer]) ++
    (if config.primaryDnsServer = config.serverIpv4Gateway
      then [qt.hostAddress config.serverIpv6Gateway] else [])

def maybeUpdateResolvers (config : InterfaceConfig) : StateM State Bool :=
  if config.hopType = .multiHopEntry then return true
  else updateResolvers ok (resolversOf qt config)

def addExclusionRoute (range : IPAddress) : StateM State Bool := do
  match (← get).excludedAddrSet.lookup range with
  | some _ =>
    modify fun s =>
      { s with excludedAddrSet := s.excludedAddrSet.map fun entry =>
          if entry.1 = range then (entry.1, entry.2 + 1) else entry }
    return true
  | none =>
    if ← onSystem (WireguardUtilsLinux.addExclusionRoute ok range) then
      modify fun s => { s with excludedAddrSet := (range, 1) :: s.excludedAddrSet }
      return true
    else return false

def delExclusionRoute (range : IPAddress) : StateM State Bool := do
  if ((← get).excludedAddrSet.lookup range).getD 0 > 1 then
    modify fun s =>
      { s with excludedAddrSet := s.excludedAddrSet.map fun entry =>
          if entry.1 = range then (entry.1, entry.2 - 1) else entry }
    return true
  else
    modify fun s => { s with excludedAddrSet := s.excludedAddrSet.filter (·.1 ≠ range) }
    onSystem (WireguardUtilsLinux.deleteExclusionRoute ok range)

def excludeAddresses (config : InterfaceConfig) : StateM State Bool := do
  config.excludedAddresses.forM fun text =>
    discard (addExclusionRoute ok (IPAddress.ofString qt text))
  return true

def storeConnection (config : InterfaceConfig) : StateM State Bool := do
  modify fun s =>
    { s with connections := fun hop => if hop = config.hopType then some { config } else s.connections hop }
  return true

def startHandshake : StateM State Bool := do
  modify fun s => { s with handshakeTimer := true }
  return true

def guarded (action : StateM State Bool) : StateM State Bool := do
  if ← action then return true
  else
    modify fun s => { s with signals := s.signals ++ [.activationFailure] }
    return false

def removeConnection (state : ConnectionState) : StateM State Unit := do
  state.config.allowedIPAddressRanges.forM fun range =>
    discard (onSystem (deleteRoutePrefix ok range))
  discard (onSystem (deletePeer ok qt state.config))

def cleanUp (emitSignals : Bool) : StateM State Unit := do
  modify fun s => { s with livenessTimer := false, handshakeTimer := false }
  modify fun s => { s with signals := s.signals ++ if emitSignals then [.disconnected] else [] }
  discard restoreResolvers
  (hops.filterMap (← get).connections).forM (removeConnection ok qt)
  (← get).excludedAddrSet.forM fun entry =>
    discard (onSystem (WireguardUtilsLinux.deleteExclusionRoute ok entry.1))
  modify fun s => { s with excludedAddrSet := [], connections := fun _ => none }

def deactivate (emitSignals : Bool) : StateM State Bool := do
  cleanUp ok qt emitSignals
  onSystem deleteInterface

def supportServerSwitching (current config : InterfaceConfig) : Bool :=
  current.privateKey == config.privateKey &&
    current.deviceIpv4Address.getD "" == config.deviceIpv4Address.getD "" &&
    current.deviceIpv6Address.getD "" == config.deviceIpv6Address.getD "" &&
    current.serverIpv4Gateway == config.serverIpv4Gateway &&
    current.serverIpv6Gateway == config.serverIpv6Gateway

def releaseConfig (config last : InterfaceConfig) : StateM State Bool := do
  last.excludedAddresses.forM fun text =>
    discard (delExclusionRoute ok (IPAddress.ofHostAddress (qt.hostAddress text)))
  last.allowedIPAddressRanges.forM fun range =>
    if range ∈ config.allowedIPAddressRanges then return ()
    else discard (onSystem (deleteRoutePrefix ok range))
  if config.serverPublicKey = last.serverPublicKey then return true
  else onSystem (deletePeer ok qt last)

def switchServer (config last : InterfaceConfig) : StateM State Bool :=
  untilFalse id
    [excludeAddresses ok qt config,
     onSystem (updatePeer ok qt config),
     do discard (onSystem (untilFalse (updateRoutePrefix ok) config.allowedIPAddressRanges))
        return true,
     releaseConfig ok qt config last,
     storeConnection config]

def replaceServer (config last : InterfaceConfig) : StateM State Bool :=
  untilFalse id
    [switchServer ok qt config last, restoreResolvers, maybeUpdateResolvers ok qt config,
     storeConnection config, startHandshake]

def createInterface (config : InterfaceConfig) : StateM State Bool := do
  if interfaceExists (← get).system then return true
  else onSystem (addInterface ok config)

def bringUp (config : InterfaceConfig) : StateM State Bool :=
  untilFalse id
    [addInterfaceIPs ok,
     setMTUAndUp ok,
     excludeAddresses ok qt config,
     onSystem (updatePeer ok qt config),
     maybeUpdateResolvers ok qt config,
     onSystem (untilFalse (updateRoutePrefix ok) config.allowedIPAddressRanges),
     storeConnection config,
     startHandshake]

def establish (config : InterfaceConfig) : StateM State Bool := do
  if ← createInterface ok config then bringUp ok qt config else return false

/-- The body of `activate`. `deactivate` empties the connection map, so the
recursive call of the source takes the branch of a hop that is not connected. -/
def activateHop (config : InterfaceConfig) : StateM State Bool := do
  match (← get).connections config.hopType with
  | some current =>
    if supportServerSwitching current.config config then
      replaceServer ok qt config current.config
    else if ← deactivate ok qt false then guarded (establish ok qt config)
    else return false
  | none => establish ok qt config

def activate (config : InterfaceConfig) : StateM State Bool := guarded (activateHop ok qt config)

inductive Call where
  | activate (config : InterfaceConfig)
  | deactivate (emitSignals : Bool)

def step (s : State) : Call → State
  | .activate config => (perform (activate ok qt config) s).2
  | .deactivate emitSignals => (perform (deactivate ok qt emitSignals) s).2

end AbstractumVpn.Daemon
