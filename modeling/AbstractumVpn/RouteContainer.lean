import AbstractumVpn.ImportController

/-!
Which container decides about the routes. `onConnectionStateChanged` does not
keep the container that `connectToVpn` made the protocol for: it takes the
default container of the default server at the time of the report.
-/

namespace AbstractumVpn.RouteContainer

open ServersRepository (ConfigType configTypeFromJson withoutStorageServerId)
open SiteRoutes
open VpnConnection (ConnectionState)

def serverKind (repository : ServersRepository.State) (serverId : String) : ConfigType :=
  match repository.serverJsonById serverId with
  | none => .invalid
  | some json => configTypeFromJson (withoutStorageServerId json)

/-- The default container of `selfHostedAdminConfig`, `selfHostedUserConfig` or `nativeConfig`,
which read it in the same way and give nothing for a server of another kind. -/
def configDefaultContainer (repository : ServersRepository.State) (kind : ConfigType)
    (serverId : String) : Option DockerContainer :=
  (repository.serverJsonById serverId).bind fun json =>
    let strippedJson := withoutStorageServerId json
    if configTypeFromJson strippedJson ≠ kind then none
    else some (ImportController.containerFromString (strippedJson.value "defaultContainer").toString)

def signalContainer (repository : ServersRepository.State) : DockerContainer :=
  let defaultServerId := repository.defaultServerId
  match serverKind repository defaultServerId with
  | .selfHostedAdmin =>
    (configDefaultContainer repository .selfHostedAdmin defaultServerId).getD .none
  | .selfHostedUser =>
    (configDefaultContainer repository .selfHostedUser defaultServerId).getD .none
  | .native => (configDefaultContainer repository .native defaultServerId).getD .none
  | .unsupportedSubscription | .invalid => .none

/-- `container` is the one of the last `connectToVpn`, which the source does not keep. -/
structure State where
  repository : ServersRepository.State
  container : Option DockerContainer
  routes : SiteRoutes.State

/-- The container in a context is replaced by the one that is looked up. -/
inductive Event where
  | connectToVpn (container : DockerContainer)
  | repositoryCalled (call : ServersRepository.Call)
  | connectionStateChanged (state : ConnectionState) (context : Context) (serviceRunning : Bool)
  | timerFired (vpnGateway : String) (serviceRunning : Bool)
  | lookupFinished (index : Nat) (addresses : List HostAddress) (serviceRunning : Bool)
  | sitesChanged (mode : AppSettings.RouteMode) (sites : AppSettings.Sites)

variable (uuid : Nat → String) (qt : Qt) (macos : Bool)

def step (s : State) : Event → State
  | .connectToVpn container =>
    { s with container := some container, routes := protocolReset s.routes }
  | .repositoryCalled call =>
    { s with repository := ServersRepository.step uuid s.repository call }
  | .connectionStateChanged state context serviceRunning =>
    { s with
      routes := onConnectionStateChanged qt macos state
        { context with container := signalContainer s.repository } serviceRunning s.routes }
  | .timerFired vpnGateway serviceRunning =>
    { s with routes := timerFired qt vpnGateway serviceRunning s.routes }
  | .lookupFinished index addresses serviceRunning =>
    { s with routes := lookupFinished index addresses serviceRunning s.routes }
  | .sitesChanged mode sites => { s with routes := sitesChanged mode sites s.routes }

def Follows (s : State) : Event → Prop
  | .connectionStateChanged state context serviceRunning =>
    ∀ container ∈ s.container,
      (step uuid qt macos s (.connectionStateChanged state context serviceRunning)).routes =
        onConnectionStateChanged qt macos state { context with container } serviceRunning s.routes
  | _ => True

def routesItself (container : DockerContainer) : Bool :=
  isAwgContainer container || container = .wireGuard

/-- When a running service is told of a connection, the default container and that of the
connection both set up their routes on their own, or neither does. -/
def SameKind (s : State) : Event → Prop
  | .connectionStateChanged .connected _ serviceRunning =>
    ∀ container ∈ s.container, serviceRunning = true →
      routesItself (signalContainer s.repository) = routesItself container
  | _ => True

section Connected

variable {qt macos} {context : Context} {serviceRunning : Bool} {routes : SiteRoutes.State}

lemma routeCalls_itself (itself : routesItself context.container = true) :
    routeCalls macos context = [] := by
  rw [routesItself] at itself
  rw [routeCalls, if_pos itself]

lemma splitTunneled_eq (context : Context) :
    splitTunneled context =
      (!routesItself context.container && context.sitesSplitTunnelingEnabled) := by
  rw [splitTunneled, routesItself, Bool.not_or]
  rfl

lemma onConnected_congr {one other : DockerContainer}
    (same : routesItself one = routesItself other) :
    onConnected qt macos { context with container := one } serviceRunning routes =
      onConnected qt macos { context with container := other } serviceRunning routes := by
  have calls : routeCalls macos { context with container := one } =
      routeCalls macos { context with container := other } := by
    change (if routesItself one = true then _ else _) =
      if routesItself other = true then _ else _
    rw [same]
  have tunneled : splitTunneled { context with container := one } =
      splitTunneled { context with container := other } := by
    rw [splitTunneled_eq, splitTunneled_eq, same]
  rw [onConnected, onConnected, addRoutes, addRoutes, calls, tunneled]

lemma send_calls (calls : List ServiceCall) :
    (send true calls routes).calls.length = routes.calls.length + calls.length := by
  rw [send, if_pos rfl, List.length_append, List.length_map]

lemma addSitesRoutes_calls (gw : String) (mode : AppSettings.RouteMode) :
    routes.calls.length ≤ (addSitesRoutes qt serviceRunning gw mode routes).calls.length := by
  cases serviceRunning with
  | true =>
    change _ ≤ (send true _ routes).calls.length
    rw [send_calls]
    exact Nat.le_add_right _ _
  | false => exact Nat.le_refl _

lemma onConnected_itself (itself : routesItself context.container = true) :
    (onConnected qt macos context true routes).calls.length = routes.calls.length + 2 := by
  rw [onConnected, if_pos rfl, addRoutes, routeCalls_itself itself, splitTunneled_eq, itself]
  exact (send_calls _).trans (send_calls _)

/-- For every other container the service gets at least one request more. -/
lemma onConnected_other (other : routesItself context.container = false) :
    routes.calls.length + 3 ≤ (onConnected qt macos context true routes).calls.length := by
  have calls : 1 ≤ (routeCalls macos context).length := by
    rw [routesItself] at other
    rw [routeCalls, if_neg (ne_true_of_eq_false other)]
    cases macos <;> cases split : context.sitesSplitTunnelingEnabled <;>
      by_cases except : context.routeMode = .vpnAllExceptSites <;> simp [except]
  have sent : routes.calls.length + 3 ≤ (send true (routeCalls macos context)
      (send true [.resetIpStack, .flushDns] routes)).calls.length := by
    rw [send_calls, send_calls]
    exact Nat.add_le_add_left calls _
  rw [onConnected, if_pos rfl, addRoutes]
  split
  · split
    · exact sent
    · exact le_trans sent (addSitesRoutes_calls _ _)
    · exact sent
  · exact sent

/-- A service that does not run gets no request, whatever the container. -/
lemma onConnected_silent :
    onConnected qt macos context false routes = routes := by
  rfl

lemma onConnected_iff (one other : DockerContainer) :
    onConnected qt macos { context with container := one } serviceRunning routes =
        onConnected qt macos { context with container := other } serviceRunning routes ↔
      (serviceRunning = true → routesItself one = routesItself other) := by
  constructor
  · rintro same rfl
    have length := congrArg (fun routes => routes.calls.length) same
    have itself : ∀ {container}, routesItself container = true →
        (onConnected qt macos { context with container } true routes).calls.length =
          routes.calls.length + 2 := fun holds => onConnected_itself holds
    have more : ∀ {container}, routesItself container = false → routes.calls.length + 3 ≤
        (onConnected qt macos { context with container } true routes).calls.length :=
      fun holds => onConnected_other holds
    cases first : routesItself one <;> cases second : routesItself other
    · rfl
    · have := more first
      have := itself second
      omega
    · have := itself first
      have := more second
      omega
    · rfl
  · intro same
    cases serviceRunning with
    | true => exact onConnected_congr (same rfl)
    | false => rw [onConnected_silent, onConnected_silent]

end Connected

lemma follows_iff (s : State) (event : Event) :
    Follows uuid qt macos s event ↔ SameKind s event := by
  cases event with
  | connectionStateChanged state context serviceRunning =>
    cases state with
    | connected =>
      constructor
      · intro follows container held
        exact (onConnected_iff _ _).mp (follows container held)
      · intro same container held
        exact (onConnected_iff _ _).mpr (same container held)
    | _ => exact ⟨fun _ => trivial, fun _ _ _ => rfl⟩
  | _ => exact Iff.rfl

/-- In a run, every reported state is handled as for the container of the connection if and only
if the default container is of the same kind each time. -/
theorem routes_follow_connection_iff (start : State) (events : List Event) :
    Runs.Guarded (step uuid qt macos) (Follows uuid qt macos) start events ↔
      Runs.Guarded (step uuid qt macos) SameKind start events := by
  have kept : ∀ (s : State) (event : Event), True → True := fun _ _ _ => trivial
  exact Runs.guarded_congr _ kept (fun s event _ => follows_iff uuid qt macos s event)
    start events trivial

/-! Two servers, the first with an AmneziaWG container and the second with an OpenVPN one. -/

def someServers (serverId : String) : Option Json.Object :=
  if serverId = "one" then some [("defaultContainer", .string "amnezia-awg")]
  else if serverId = "two" then some [("defaultContainer", .string "amnezia-openvpn")]
  else none

def idle : State where
  repository := ⟨⟨[], "one", 0⟩, someServers, ["one", "two"], "one", 0⟩
  container := none
  routes := ⟨fun _ => [], none, 0, [], [], [], []⟩

def awgContext : Context :=
  ⟨.awg, "1.1.1.1", "1.0.0.1", "203.0.113.5", ⟨"10.8.1.1", "192.168.1.1"⟩, false, .vpnAllSites⟩

def changedDefault : List Event :=
  [.connectToVpn .awg, .repositoryCalled (.setDefaultServer "two"),
    .connectionStateChanged .connected awgContext true]

/-- The default server is changed while an AmneziaWG connection is made: the service is told to
add routes for its name servers, which it is not for the container of the connection. -/
theorem changed_default_adds_routes :
    (Runs.run (step (fun _ => "") noAddresses false) idle changedDefault).routes.calls.map Prod.fst =
        [.resetIpStack, .flushDns, .routeAddList "10.8.1.1" ["1.1.1.1", "1.0.0.1"]] ∧
      ¬ Runs.Guarded (step (fun _ => "") noAddresses false) (Follows (fun _ => "") noAddresses false)
        idle changedDefault := by
  constructor
  · decide +kernel
  · rintro ⟨-, -, follows, -⟩
    have same := congrArg (fun routes => routes.calls.length) (follows .awg rfl)
    revert same
    decide +kernel

end AbstractumVpn.RouteContainer
