import AbstractumVpn.Frames
import AbstractumVpn.InterfaceConfig
import AbstractumVpn.KillSwitch

/-!
`WireguardUtilsLinux`: the tunnel process, its routes and peers, and the rules
it writes into the filter table. `ok n` is the outcome of the `n`-th request to
the system. The routes are those the route monitor was asked for and not asked
to take back.
-/

namespace AbstractumVpn.WireguardUtilsLinux

open LinuxFirewall Frames

structure FirewallParams where
  dnsServers : List String := []
  allowAddrs : List String := []
  blockAddrs : List String := []
  blockAll : Bool := false
  allowNets : Bool := false
  blockNets : Bool := false

def firewallParams (config : InterfaceConfig) : FirewallParams :=
  let dnsServers := config.primaryDnsServer ::
    (if config.secondaryDnsServer.isEmpty then [] else [config.secondaryDnsServer])
  if IPAddress.anyIPv4 ∈ config.allowedIPAddressRanges then
    if config.excludedAddresses.isEmpty then { dnsServers, blockAll := true }
    else { dnsServers, blockAll := true, allowNets := true, allowAddrs := config.excludedAddresses }
  else
    { dnsServers, blockNets := true
      blockAddrs := config.allowedIPAddressRanges.map IPAddress.toString }

def applyFirewallRules (fw : Firewall) (params : FirewallParams) : Firewall :=
  let fw := ensureInstalled fw
  let fw := setAnchorEnabled fw .both .allowLoopback true
  let fw := setAnchorEnabled fw .both .blockAll params.blockAll
  let fw := setAnchorEnabled fw .ipv4 .allowNets params.allowNets
  let fw := updateAllowNets fw params.allowAddrs
  let fw := setAnchorEnabled fw .ipv4 .blockNets params.blockNets
  let fw := updateBlockNets fw params.blockAddrs
  let fw := setAnchorEnabled fw .ipv4 .allowVPN true
  let fw := setAnchorEnabled fw .ipv6 .blockIPv6 true
  let fw := setAnchorEnabled fw .both .allowDHCP true
  let fw := setAnchorEnabled fw .both .allowLAN true
  let fw := setAnchorEnabled fw .ipv4 .blockDNS true
  let fw := updateDNSServers fw params.dnsServers
  let fw := setAnchorEnabled fw .ipv4 .allowDNS true
  setAnchorEnabled fw .both .allowPIA true

lemma apply_installed (fw : Firewall) (params : FirewallParams) :
    (applyFirewallRules fw params).installed = true := by
  simp [applyFirewallRules]

lemma apply_ipv4 (fw : Firewall) (params : FirewallParams) (anchor : Anchor)
    (present : installedIn .ipv4 anchor = true) :
    (applyFirewallRules fw params).enabled .ipv4 anchor =
      match anchor with
      | .blockAll => params.blockAll
      | .blockNets => params.blockNets
      | .allowNets => params.allowNets
      | .allowMarkedXray => (ensureInstalled fw).enabled .ipv4 .allowMarkedXray
      | _ => true := by
  revert present
  cases anchor <;>
    simp [applyFirewallRules, set_enabled, installedIn, IPVersion.includes]

lemma apply_ipv6 (fw : Firewall) (params : FirewallParams) (anchor : Anchor)
    (present : installedIn .ipv6 anchor = true) :
    (applyFirewallRules fw params).enabled .ipv6 anchor =
      match anchor with
      | .blockAll => params.blockAll
      | .blockDNS | .allowVPN | .allowMarkedXray => (ensureInstalled fw).enabled .ipv6 anchor
      | _ => true := by
  revert present
  cases anchor <;>
    simp [applyFirewallRules, set_enabled, installedIn, IPVersion.includes]

lemma apply_lists (fw : Firewall) (params : FirewallParams) :
    (applyFirewallRules fw params).dnsServers = params.dnsServers ∧
      (applyFirewallRules fw params).allowNets = params.allowAddrs ∧
      (applyFirewallRules fw params).blockNets = params.blockAddrs := by
  simp [applyFirewallRules]

structure System where
  killSwitch : KillSwitch.State
  tunnelRunning : Bool
  device : Option InterfaceConfig
  rtmonitor : Bool
  tunnelRoutes : List IPAddress
  exclusionRoutes : List IPAddress
  peers : List String
  requests : Nat

variable (ok : Nat → Bool) (qt : Qt)

def request (effect : System → System) : StateM System Bool := do
  let system ← get
  let after := { system with requests := system.requests + 1 }
  if ok system.requests then
    set (effect after)
    return true
  else
    set after
    return false

def granted : Nat → Bool := fun _ => true

@[simp] lemma request_granted (effect : System → System) (s : System) :
    perform (request granted effect) s = (true, effect { s with requests := s.requests + 1 }) := rfl

def uapiCommand (effect : System → System) : StateM System Bool := do
  if (← get).tunnelRunning then request ok effect else return false

/-- An address with a scope id is no text `inet_pton` takes. -/
def buildAllowedIp : HostAddress → Bool
  | .null => false
  | .ipv4 _ => true
  | .ipv6 _ text => !text.toList.contains '%'

def rtmSendRoute (range : IPAddress) (effect : System → System) : StateM System Bool :=
  if buildAllowedIp range.address then request ok effect else return false

def insertRoute (range : IPAddress) : StateM System Bool :=
  rtmSendRoute ok range fun s => { s with tunnelRoutes := s.tunnelRoutes.insert range }

def deleteRoute (range : IPAddress) : StateM System Bool :=
  rtmSendRoute ok range fun s => { s with tunnelRoutes := s.tunnelRoutes.filter (· ≠ range) }

def halves (address : HostAddress) : Option (IPAddress × IPAddress) :=
  match address with
  | .ipv4 _ => some (⟨.ipv4 0, 1⟩, ⟨.ipv4 (1#1 ++ 0#31), 1⟩)
  | .ipv6 _ _ => some (⟨.ipv6 0 "::", 1⟩, ⟨.ipv6 (1#1 ++ 0#127) "8000::", 1⟩)
  | .null => none

def updateRoutePrefix (range : IPAddress) : StateM System Bool := do
  if (← get).rtmonitor then
    if range.prefixLength > 0 then insertRoute ok range
    else
      match halves range.address with
      | some (low, high) => if ← insertRoute ok low then insertRoute ok high else return false
      | none => return false
  else return false

def deleteRoutePrefix (range : IPAddress) : StateM System Bool := do
  if (← get).rtmonitor then
    -- the source inserts here as well
    if range.prefixLength > 0 then insertRoute ok range
    else
      match halves range.address with
      | some (low, high) => if ← deleteRoute ok low then deleteRoute ok high else return false
      | none => return false
  else return false

def addExclusionRoute (range : IPAddress) : StateM System Bool := do
  if (← get).rtmonitor then
    rtmSendRoute ok range fun s => { s with exclusionRoutes := s.exclusionRoutes.insert range }
  else return false

def deleteExclusionRoute (range : IPAddress) : StateM System Bool := do
  if (← get).rtmonitor then
    rtmSendRoute ok range fun s =>
      { s with exclusionRoutes := s.exclusionRoutes.filter (· ≠ range) }
  else return false

def interfaceExists (s : System) : Bool := s.tunnelRunning

/-- When the process refuses its configuration it keeps running. -/
def addInterface (config : InterfaceConfig) : StateM System Bool := do
  if (← get).tunnelRunning then return false
  else if ← request ok fun s => { s with tunnelRunning := true, device := none, peers := [] } then
    modify fun s => { s with rtmonitor := true }
    if ← uapiCommand ok fun s => { s with device := some config, peers := [] } then
      modify fun s =>
        if config.killSwitchEnabled then
          { s with killSwitch := { s.killSwitch with
              firewall := applyFirewallRules s.killSwitch.firewall (firewallParams config) } }
        else s
      return true
    else return false
  else return false

def deleteInterface : StateM System Bool := do
  modify fun s => { s with rtmonitor := false }
  if (← get).tunnelRunning then
    modify fun s =>
      { s with
        tunnelRunning := false
        device := none
        peers := []
        killSwitch := KillSwitch.disableKillSwitch s.killSwitch }
    return true
  else return false

def serverRanges (config : InterfaceConfig) : List IPAddress :=
  if config.hopType = .multiHopExit then []
  else [IPAddress.ofString qt (config.serverIpv4AddrIn.getD ""),
        IPAddress.ofString qt (config.serverIpv6AddrIn.getD "")]

def updatePeer (config : InterfaceConfig) : StateM System Bool := do
  if config.serverIpv4AddrIn.isNone && config.serverIpv6AddrIn.isNone then return false
  else
    (serverRanges qt config).forM fun range => discard (addExclusionRoute ok range)
    uapiCommand ok fun s => { s with peers := s.peers.insert config.serverPublicKey }

def deletePeer (config : InterfaceConfig) : StateM System Bool := do
  (serverRanges qt config).forM fun range => discard (deleteExclusionRoute ok range)
  uapiCommand ok fun s => { s with peers := s.peers.filter (· ≠ config.serverPublicKey) }

def filterView (s : System) : KillSwitch.State × Bool × Option InterfaceConfig :=
  (s.killSwitch, s.tunnelRunning, s.device)

/-! What a view has to be blind to for a request to keep it. -/
section Kept

variable {View : Type} {view : System → View} {effect : System → System}
  (counter : ∀ s requests, view { s with requests } = view s)

include counter

lemma keeps_request (same : ∀ s, view (effect s) = view s) : Keeps view (request ok effect) := by
  intro s
  by_cases succeeds : ok s.requests = true
  · have result : (perform (request ok effect) s).2 =
        effect { s with requests := s.requests + 1 } := by simp [request, succeeds]
    rw [result, same]
    exact counter s (s.requests + 1)
  · have result : (perform (request ok effect) s).2 = { s with requests := s.requests + 1 } := by
      simp [request, succeeds]
    rw [result]
    exact counter s (s.requests + 1)

lemma keeps_uapi (same : ∀ s, view (effect s) = view s) : Keeps view (uapiCommand ok effect) :=
  (keeps_get view).bind fun _ => (keeps_request ok counter same).ite (keeps_pure view false)

lemma keeps_rtm (range : IPAddress) (same : ∀ s, view (effect s) = view s) :
    Keeps view (rtmSendRoute ok range effect) :=
  (keeps_request ok counter same).ite (keeps_pure view false)

section Tunnel

variable (tunnel : ∀ s tunnelRoutes, view { s with tunnelRoutes } = view s)

include tunnel

lemma keeps_insert (range : IPAddress) : Keeps view (insertRoute ok range) :=
  keeps_rtm ok counter range fun s => tunnel s _

lemma keeps_delete (range : IPAddress) : Keeps view (deleteRoute ok range) :=
  keeps_rtm ok counter range fun s => tunnel s _

omit counter tunnel in
/-- Both prefix operations have this shape, with different calls inside. -/
lemma keeps_halved {whole half : IPAddress → StateM System Bool} (range : IPAddress)
    (kept_whole : ∀ range, Keeps view (whole range)) (kept_half : ∀ range, Keeps view (half range)) :
    Keeps view (if range.prefixLength > 0 then whole range
      else match halves range.address with
        | some (low, high) => do if ← half low then half high else return false
        | none => return false) := by
  apply (kept_whole range).ite
  split
  · exact (kept_half _).bind fun _ => (kept_half _).ite (keeps_pure view false)
  · exact keeps_pure view false

lemma keeps_prefix_update (range : IPAddress) : Keeps view (updateRoutePrefix ok range) :=
  (keeps_get view).bind fun _ =>
    (keeps_halved range (keeps_insert ok counter tunnel) (keeps_insert ok counter tunnel)).ite
      (keeps_pure view false)

lemma keeps_prefix_delete (range : IPAddress) : Keeps view (deleteRoutePrefix ok range) :=
  (keeps_get view).bind fun _ =>
    (keeps_halved range (keeps_insert ok counter tunnel) (keeps_delete ok counter tunnel)).ite
      (keeps_pure view false)

end Tunnel

section Peers

variable (exclusion : ∀ s exclusionRoutes, view { s with exclusionRoutes } = view s)

include exclusion

lemma keeps_add_exclusion (range : IPAddress) : Keeps view (addExclusionRoute ok range) :=
  (keeps_get view).bind fun _ =>
    Keeps.ite (keeps_rtm ok counter range fun s => exclusion s _) (keeps_pure view false)

lemma keeps_delete_exclusion (range : IPAddress) : Keeps view (deleteExclusionRoute ok range) :=
  (keeps_get view).bind fun _ =>
    Keeps.ite (keeps_rtm ok counter range fun s => exclusion s _) (keeps_pure view false)

variable (peer : ∀ s peers, view { s with peers } = view s)

include peer

lemma keeps_update_peer (config : InterfaceConfig) : Keeps view (updatePeer ok qt config) :=
  (keeps_pure view false).ite <|
    (Keeps.forM (fun range => (keeps_add_exclusion ok counter exclusion range).bind fun _ =>
      keeps_pure view ()) _).bind fun _ => keeps_uapi ok counter fun s => peer s _

lemma keeps_delete_peer (config : InterfaceConfig) : Keeps view (deletePeer ok qt config) :=
  (Keeps.forM (fun range => (keeps_delete_exclusion ok counter exclusion range).bind fun _ =>
    keeps_pure view ()) _).bind fun _ => keeps_uapi ok counter fun s => peer s _

end Peers

end Kept

def written (config : InterfaceConfig) (before : KillSwitch.State) : KillSwitch.State :=
  if config.killSwitchEnabled then
    { before with firewall := applyFirewallRules before.firewall (firewallParams config) }
  else before

lemma add_interface_cases (config : InterfaceConfig) (s : System) :
    let after := perform (addInterface ok config) s
    (s.tunnelRunning = false ∧ after.1 = true ∧
        filterView after.2 = (written config s.killSwitch, true, some config)) ∨
      (after.1 = false ∧ (filterView after.2 = filterView s ∨ after.2.device = none)) := by
  by_cases running : s.tunnelRunning = true
  · simp [addInterface, running]
  · by_cases starts : ok s.requests = true
    · by_cases accepts : ok (s.requests + 1) = true
      · left
        cases on : config.killSwitchEnabled <;>
          simp [addInterface, running, request, starts, uapiCommand, accepts, filterView, written,
            on]
      · right; simp [addInterface, running, request, starts, uapiCommand, accepts]
    · simp [addInterface, running, request, starts, filterView]

lemma delete_interface_view (s : System) :
    (perform deleteInterface s).1 = s.tunnelRunning ∧
      filterView (perform deleteInterface s).2 =
        if s.tunnelRunning then (KillSwitch.disableKillSwitch s.killSwitch, false, none)
        else filterView s := by
  cases running : s.tunnelRunning <;> simp [deleteInterface, running, filterView]

lemma delete_interface_stops (s : System) :
    (perform deleteInterface s).2.tunnelRunning = false ∧
      (perform deleteInterface s).2.tunnelRoutes = s.tunnelRoutes := by
  cases running : s.tunnelRunning <;> simp [deleteInterface, running]

lemma add_interface_granted (config : InterfaceConfig) (s : System)
    (idle : s.tunnelRunning = false) :
    let after := perform (addInterface granted config) s
    after.1 = true ∧ after.2.tunnelRunning = true ∧ after.2.rtmonitor = true ∧
      after.2.exclusionRoutes = s.exclusionRoutes ∧ after.2.tunnelRoutes = s.tunnelRoutes := by
  cases on : config.killSwitchEnabled <;> simp [addInterface, idle, uapiCommand, on]

end AbstractumVpn.WireguardUtilsLinux
