import AbstractumVpn.AppSettings
import AbstractumVpn.EventLoops
import AbstractumVpn.VpnConnection

/-!
The routes `VpnConnection` has the service add when a connection comes up and
clear when it goes down. Before either it waits for the service to flush its
name cache, in an event loop of its own, so that other events are handled in
between. Host names are looked up again, and a lookup adds its routes when it
finishes, with the gateway it was started with. With forwarded sites only, the
routes are added by a single-shot timer that dies with the protocol object.

A connection is up from the `Connected` that reports it until the routes are
cleared for the next `Disconnected` or `Error`. No fields of the source are `up`,
the gateways of that connection, `changes`, which counts the connections that
ended and the changes of the protocol and its gateways, `since`, their number when
something was started, and `calls`, the requests to the service with the
connection that was up then.
-/

namespace AbstractumVpn.SiteRoutes

open AppSettings EventLoops Runs
open VpnConnection (ConnectionState)

inductive DockerContainer where
  | none
  | awg
  | awg2
  | wireGuard
  | openVpn
  | cloak
  | shadowSocks
  | ipsec
  | xray
  | ssXray
  | torWebSite
  | dns
  | sftp
  | socks5Proxy
  | mtProxy
  | telemt
  deriving DecidableEq

def isAwgContainer (container : DockerContainer) : Bool :=
  container = .awg || container = .awg2

structure Gateways where
  vpnGateway : String
  routeGateway : String
  deriving DecidableEq

inductive ServiceCall where
  | resetIpStack
  | flushDns
  | routeAddList (gw : String) (ips : List String)
  | routeDeleteList (gw : String) (ips : List String)
  | clearSavedRoutes
  deriving DecidableEq

/-- A running host lookup with what its callback has captured. `batch` names the
counter it shares with the lookups started together with it. -/
structure Lookup where
  site : String
  gw : String
  mode : RouteMode
  ips : List String
  batch : Nat
  since : Nat

structure Batch where
  remainingLookups : Nat
  needFlush : Bool

structure State where
  vpnSites : RouteMode → Sites
  up : Option Gateways
  changes : Nat
  timers : List (RouteMode × Nat)
  lookups : List Lookup
  batches : List Batch
  calls : List (ServiceCall × Option Gateways)

structure Context where
  container : DockerContainer
  dns1 : String
  dns2 : String
  remoteAddress : String
  gateways : Gateways
  sitesSplitTunnelingEnabled : Bool
  routeMode : RouteMode

def send (serviceRunning : Bool) (calls : List ServiceCall) (s : State) : State :=
  if serviceRunning then { s with calls := s.calls ++ calls.map fun call => (call, s.up) } else s

variable (qt : Qt) (macos : Bool)

def addSitesRoutes (serviceRunning : Bool) (gw : String) (mode : RouteMode) (s : State) : State :=
  let ips := siteIps qt (s.vpnSites mode)
  let sites := siteNames qt (s.vpnSites mode)
  let s := send serviceRunning [.routeAddList gw ips] s
  { s with
    lookups := s.lookups ++ sites.map fun site => ⟨site, gw, mode, ips, s.batches.length, s.changes⟩
    batches := s.batches ++ [⟨sites.length, false⟩] }

def splitTunneled (context : Context) : Bool :=
  !isAwgContainer context.container && context.container != .wireGuard &&
    context.sitesSplitTunnelingEnabled

def routeCalls (context : Context) : List ServiceCall :=
  let dns := [context.dns1, context.dns2]
  let vpn := context.gateways.vpnGateway
  if isAwgContainer context.container || context.container = .wireGuard then []
  else
    (if macos && context.sitesSplitTunnelingEnabled && context.routeMode = .vpnAllExceptSites
      then [] else [.routeAddList vpn dns]) ++
    (if context.sitesSplitTunnelingEnabled then
      [.routeDeleteList vpn ["0.0.0.0"]] ++
      (if context.routeMode = .vpnAllExceptSites then
        [.routeAddList vpn ["0.0.0.0/1"], .routeAddList vpn ["128.0.0.0/1"],
          .routeAddList context.gateways.routeGateway [context.remoteAddress]] ++
        (if macos then [.routeAddList context.gateways.routeGateway dns] else [])
      else [])
    else [])

/-- What is done for `Connected` behind the wait. -/
def addRoutes (context : Context) (serviceRunning : Bool) (s : State) : State :=
  let s := send serviceRunning (routeCalls macos context) s
  if splitTunneled context then
    match context.routeMode with
    | .vpnOnlyForwardSites =>
      { s with timers := s.timers ++ [(.vpnOnlyForwardSites, s.changes)] }
    | .vpnAllExceptSites =>
      addSitesRoutes qt serviceRunning context.gateways.routeGateway .vpnAllExceptSites s
    | .vpnAllSites => s
  else s

def clearRoutes (serviceRunning : Bool) (s : State) : State :=
  send serviceRunning [.clearSavedRoutes] { s with up := none, changes := s.changes + 1 }

def onConnected (context : Context) (serviceRunning : Bool) (s : State) : State :=
  if serviceRunning then
    addRoutes qt macos context serviceRunning (send serviceRunning [.resetIpStack, .flushDns] s)
  else s

/-- Nothing else is handled in the waits. -/
def onConnectionStateChanged (state : ConnectionState) (context : Context) (serviceRunning : Bool)
    (s : State) : State :=
  match state with
  | .connected => onConnected qt macos context serviceRunning { s with up := some context.gateways }
  | .disconnected | .error => clearRoutes serviceRunning (send serviceRunning [.flushDns] s)
  | _ => s

def newIps (lookup : Lookup) (addresses : List HostAddress) : List String :=
  let resolvedIps := (addresses.filterMap fun address =>
    match address with
    | .ipv4 _ => some address.toString
    | _ => none).eraseDups
  resolvedIps.filter (· ∉ lookup.ips)

def resolved (lookup : Lookup) (addresses : List HostAddress) (serviceRunning : Bool)
    (s : State) : State :=
  let found := newIps lookup addresses
  let s := send serviceRunning (found.map fun ip => .routeAddList lookup.gw [ip]) s
  let s :=
    if found = [] then s
    else { s with
      vpnSites := fun mode =>
        if mode = lookup.mode then addVpnSite (s.vpnSites mode) lookup.site found
        else s.vpnSites mode }
  match s.batches[lookup.batch]? with
  | some batch =>
    let batch : Batch := ⟨batch.remainingLookups - 1, batch.needFlush || found ≠ []⟩
    let s := { s with batches := s.batches.set lookup.batch batch }
    if batch.remainingLookups = 0 ∧ batch.needFlush then send serviceRunning [.flushDns] s else s
  | none => s

def timerFired (vpnGateway : String) (serviceRunning : Bool) (s : State) : State :=
  match s.timers with
  | [] => s
  | (mode, _) :: rest => addSitesRoutes qt serviceRunning vpnGateway mode { s with timers := rest }

def protocolReset (s : State) : State := { s with timers := [], changes := s.changes + 1 }

def lookupFinished (index : Nat) (addresses : List HostAddress) (serviceRunning : Bool)
    (s : State) : State :=
  match s.lookups[index]? with
  | some lookup =>
    resolved lookup addresses serviceRunning { s with lookups := s.lookups.eraseIdx index }
  | none => s

def sitesChanged (mode : RouteMode) (sites : Sites) (s : State) : State :=
  { s with vpnSites := fun other => if other = mode then sites else s.vpnSites other }

/-! ## The event loop -/

/-- The gateways in the context are those of the protocol object. -/
structure Session where
  routes : State
  context : Context
  serviceRunning : Bool

inductive Event where
  | connectionStateChanged (state : ConnectionState)
  | timerFired
  | protocolReset
  | contextChanged (context : Context)
  | serviceChanged (running : Bool)
  | lookupFinished (index : Nat) (addresses : List HostAddress)
  | sitesChanged (mode : RouteMode) (sites : Sites)

/-- What a call does behind its wait. -/
inductive Operation where
  | addRoutes (container : DockerContainer) (since : Nat)
  | clearRoutes

/-- With other gateways they are those of the connection that is up. -/
def changeContext (context : Context) (s : Session) : Session :=
  if context.gateways = s.context.gateways then { s with context }
  else { s with
    context
    routes := { s.routes with
      up := s.routes.up.map fun _ => context.gateways
      changes := s.routes.changes + 1 } }

def handle (s : Session) : Event → Session × List Operation
  | .connectionStateChanged .connected =>
    let routes := { s.routes with up := some s.context.gateways }
    if s.serviceRunning then
      ({ s with routes := send true [.resetIpStack, .flushDns] routes },
        [.addRoutes s.context.container routes.changes])
    else ({ s with routes }, [])
  | .connectionStateChanged .disconnected | .connectionStateChanged .error =>
    if s.serviceRunning then
      ({ s with routes := send true [.flushDns] s.routes }, [.clearRoutes])
    else ({ s with routes := clearRoutes false s.routes }, [])
  | .connectionStateChanged _ => (s, [])
  | .timerFired =>
    ({ s with routes :=
        timerFired qt s.context.gateways.vpnGateway s.serviceRunning s.routes }, [])
  | .protocolReset => ({ s with routes := protocolReset s.routes }, [])
  | .contextChanged context => (changeContext context s, [])
  | .serviceChanged serviceRunning => ({ s with serviceRunning }, [])
  | .lookupFinished index addresses =>
    ({ s with routes := lookupFinished index addresses s.serviceRunning s.routes }, [])
  | .sitesChanged mode sites => ({ s with routes := sitesChanged mode sites s.routes }, [])

/-- The container was read before the wait. -/
def perform (s : Session) : Operation → Session
  | .addRoutes container _ =>
    { s with routes := addRoutes qt macos { s.context with container } s.serviceRunning s.routes }
  | .clearRoutes => { s with routes := clearRoutes s.serviceRunning s.routes }

def program : Program Session Event Operation where
  handle := handle qt
  waits _ _ := true
  perform s operation := some (perform qt macos s operation, [])

def Serves (up : Option Gateways) (gw : String) : Prop :=
  ∃ gateways, up = some gateways ∧ (gw = gateways.vpnGateway ∨ gw = gateways.routeGateway)

instance (up : Option Gateways) (gw : String) : Decidable (Serves up gw) :=
  match up with
  | none => isFalse (by simp [Serves])
  | some gateways =>
    decidable_of_iff (gw = gateways.vpnGateway ∨ gw = gateways.routeGateway) (by simp [Serves])

/-- A request adds no route, or one through a gateway of that connection. -/
def Served (up : Option Gateways) : ServiceCall → Prop
  | .routeAddList gw ips => ips ≠ [] → Serves up gw
  | _ => True

instance (up : Option Gateways) (call : ServiceCall) : Decidable (Served up call) := by
  cases call <;> unfold Served <;> infer_instance

def InForce (s : State) : Prop := ∀ call ∈ s.calls, Served call.2 call.1

instance (s : State) : Decidable (InForce s) :=
  inferInstanceAs (Decidable (∀ call ∈ s.calls, Served call.2 call.1))

/-- Nothing that adds routes has an end of the connection or a change of its protocol between
its begin and its end. -/
def Undisturbed (loop : Loop Session Operation) : Turn Event → Prop
  | .event (.lookupFinished index addresses) =>
    ∀ lookup ∈ loop.state.routes.lookups[index]?, newIps lookup addresses ≠ [] →
      lookup.since = loop.state.routes.changes
  | .event .timerFired =>
    ∀ timer ∈ loop.state.routes.timers.head?, timer.2 = loop.state.routes.changes
  | .event _ => True
  | .go =>
    match loop.calls with
    | (.addRoutes _ since :: _) :: _ => since = loop.state.routes.changes
    | _ => True

instance (loop : Loop Session Operation) : ∀ turn, Decidable (Undisturbed loop turn)
  | .event event => by
    unfold Undisturbed
    cases event <;> infer_instance
  | .go => by
    unfold Undisturbed
    dsimp only
    split <;> infer_instance

lemma send_in_force {serviceRunning : Bool} {calls : List ServiceCall} {s : State}
    (inForce : InForce s) (served : ∀ call ∈ calls, Served s.up call) :
    InForce (send serviceRunning calls s) := by
  cases serviceRunning with
  | false => exact inForce
  | true =>
    simp only [send, if_true, InForce, List.forall_mem_append, List.forall_mem_map]
    exact ⟨inForce, served⟩

lemma sites_in_force {serviceRunning : Bool} {gw : String} (mode : RouteMode) {s : State}
    (inForce : InForce s) (serves : Serves s.up gw) :
    InForce (addSitesRoutes qt serviceRunning gw mode s) :=
  send_in_force inForce (List.forall_mem_singleton.mpr fun _ => serves)

section Gateways

variable (gateways : Gateways)

lemma vpn_serves : Serves (some gateways) gateways.vpnGateway := ⟨gateways, rfl, Or.inl rfl⟩

lemma route_serves : Serves (some gateways) gateways.routeGateway := ⟨gateways, rfl, Or.inr rfl⟩

end Gateways

/-- A connection that comes up adds routes through its own gateways. -/
lemma route_calls_served (context : Context) :
    ∀ call ∈ routeCalls macos context, Served (some context.gateways) call := by
  rw [routeCalls]
  split_ifs <;> simp [Served, vpn_serves, route_serves]

lemma resolved_in_force {lookup : Lookup} {addresses : List HostAddress} {serviceRunning : Bool}
    {s : State} (inForce : InForce s) (serves : newIps lookup addresses ≠ [] → Serves s.up lookup.gw) :
    InForce (resolved lookup addresses serviceRunning s) := by
  have routes : InForce (send serviceRunning
      ((newIps lookup addresses).map fun ip => .routeAddList lookup.gw [ip]) s) := by
    refine send_in_force inForce (List.forall_mem_map.mpr fun ip member _ => ?_)
    exact serves (List.ne_nil_of_mem member)
  -- the flush of the last lookup adds no route, and the rest touches no request
  simp only [resolved]
  generalize send serviceRunning _ s = sent at routes
  have stored : InForce (if newIps lookup addresses = [] then sent else { sent with
      vpnSites := fun mode =>
        if mode = lookup.mode then addVpnSite (sent.vpnSites mode) lookup.site (newIps lookup addresses)
        else sent.vpnSites mode }) := by
    split <;> exact routes
  split
  · split
    · exact send_in_force stored (by simp [Served])
    · exact stored
  · exact stored

/-! ## What is pending -/

/-- What the condition on a pending start depends on. -/
def pending (s : State) : Option Gateways × Nat × List Lookup × List (RouteMode × Nat) :=
  (s.up, s.changes, s.lookups, s.timers)

@[simp] lemma send_pending (serviceRunning : Bool) (calls : List ServiceCall) (s : State) :
    pending (send serviceRunning calls s) = pending s := by
  cases serviceRunning <;> rfl

lemma resolved_pending (lookup : Lookup) (addresses : List HostAddress) (serviceRunning : Bool)
    (s : State) : pending (resolved lookup addresses serviceRunning s) = pending s := by
  have sent := send_pending serviceRunning
    ((newIps lookup addresses).map fun ip => .routeAddList lookup.gw [ip]) s
  simp only [resolved]
  generalize send serviceRunning _ s = sent at *
  split
  · split
    · rw [send_pending]
      split <;> exact sent
    · split <;> exact sent
  · split <;> exact sent

/-- If nothing has changed since, the connection through these gateways is up. -/
def Fresh (gateways : Gateways) (s : State) (since : Nat) : Prop :=
  since ≤ s.changes ∧ (since = s.changes → s.up = some gateways)

structure Pending (gateways : Gateways) (s : State) (calls : List (List Operation)) : Prop where
  current : ∀ other ∈ s.up, other = gateways
  lookups : ∀ lookup ∈ s.lookups, Fresh gateways s lookup.since ∧
    (lookup.since = s.changes → Serves s.up lookup.gw)
  timers : ∀ timer ∈ s.timers, Fresh gateways s timer.2
  begun : ∀ call ∈ calls, ∀ container since, .addRoutes container since ∈ call →
    Fresh gateways s since

section Steps

variable {gateways : Gateways} {s after : State} {calls : List (List Operation)}

lemma Pending.congr (held : Pending gateways s calls) (same : pending after = pending s) :
    Pending gateways after calls := by
  simp only [pending, Prod.mk.injEq] at same
  obtain ⟨up, changes, lookups, timers⟩ := same
  constructor <;> simp only [Fresh, up, changes, lookups, timers]
  exacts [held.current, held.lookups, held.timers, held.begun]

lemma Pending.call (held : Pending gateways s calls) {call : List Operation}
    (fresh : ∀ container since, .addRoutes container since ∈ call → Fresh gateways s since) :
    Pending gateways s (call :: calls) :=
  { held with begun := List.forall_mem_cons.mpr ⟨fresh, held.begun⟩ }

lemma Pending.quiet (held : Pending gateways s calls) : Pending gateways s ([] :: calls) :=
  held.call fun _ _ member => nomatch member

/-- Behind a change nothing that was started before it counts. -/
lemma Pending.change (held : Pending gateways s calls) (other : Gateways) {up : Option Gateways}
    (current : ∀ given ∈ up, given = other) {timers : List (RouteMode × Nat)}
    (fewer : timers ⊆ s.timers) :
    Pending other { s with up, timers, changes := s.changes + 1 } calls := by
  have past {since : Nat} (fresh : Fresh gateways s since) :
      Fresh other { s with up, timers, changes := s.changes + 1 } since :=
    ⟨Nat.le_succ_of_le fresh.1, fun same => absurd (same ▸ fresh.1) (Nat.not_succ_le_self _)⟩
  refine ⟨current, fun lookup member => ⟨past (held.lookups lookup member).1, fun same => ?_⟩,
    fun timer member => past (held.timers timer (fewer member)),
    fun call member container since inside => past (held.begun call member container since inside)⟩
  exact absurd (same ▸ (held.lookups lookup member).1.1) (Nat.not_succ_le_self _)

lemma Pending.connect (held : Pending gateways s calls) :
    Pending gateways { s with up := some gateways } calls := by
  have up {since : Nat} (fresh : Fresh gateways s since) :
      Fresh gateways { s with up := some gateways } since := ⟨fresh.1, fun _ => rfl⟩
  refine ⟨by simp, fun lookup member => ?_, fun timer member => up (held.timers timer member),
    fun call member container since inside => up (held.begun call member container since inside)⟩
  obtain ⟨fresh, serves⟩ := held.lookups lookup member
  refine ⟨up fresh, fun same => ?_⟩
  have served := serves same
  rwa [fresh.2 same] at served

lemma Pending.sites (held : Pending gateways s calls) {serviceRunning : Bool} {gw : String}
    {mode : RouteMode} (up : s.up = some gateways) (serves : Serves s.up gw) :
    Pending gateways (addSitesRoutes qt serviceRunning gw mode s) calls := by
  have sent := held.congr (send_pending serviceRunning
    [.routeAddList gw (siteIps qt (s.vpnSites mode))] s)
  have same := send_pending serviceRunning [.routeAddList gw (siteIps qt (s.vpnSites mode))] s
  simp only [pending, Prod.mk.injEq] at same
  refine ⟨sent.current, fun lookup member => ?_, sent.timers, sent.begun⟩
  rcases List.mem_append.mp member with old | new
  · exact sent.lookups lookup old
  · obtain ⟨site, -, rfl⟩ := List.mem_map.mp new
    refine ⟨⟨Nat.le_refl _, fun _ => same.1.trans up⟩, fun _ => ?_⟩
    exact same.1 ▸ serves

end Steps

/-- The invariant of the loop. -/
structure Inv (s : Session) (calls : List (List Operation)) : Prop where
  inForce : InForce s.routes
  pending : Pending s.context.gateways s.routes calls

section Loop

variable {s : Session} {calls : List (List Operation)}

lemma timer_inv (inv : Inv s calls)
    (met : Undisturbed ⟨s, calls⟩ (.event .timerFired)) :
    Inv { s with routes := timerFired qt s.context.gateways.vpnGateway s.serviceRunning s.routes }
      calls := by
  simp only [timerFired]
  split
  · exact inv
  · next mode since rest fires =>
    have first : (mode, since) ∈ s.routes.timers := by simp [fires]
    have same : since = s.routes.changes := met (mode, since) (by simp [fires])
    have up := (inv.pending.timers _ first).2 same
    have serves : Serves s.routes.up s.context.gateways.vpnGateway := up ▸ vpn_serves _
    have fewer : Pending s.context.gateways { s.routes with timers := rest } calls :=
      { inv.pending with timers := fun timer member =>
          inv.pending.timers timer (by rw [fires]; exact List.mem_cons_of_mem _ member) }
    exact ⟨sites_in_force qt mode inv.inForce serves, fewer.sites qt up serves⟩

lemma lookup_inv {index : Nat} {addresses : List HostAddress} (inv : Inv s calls)
    (met : Undisturbed ⟨s, calls⟩ (.event (.lookupFinished index addresses))) :
    Inv { s with routes := lookupFinished index addresses s.serviceRunning s.routes } calls := by
  simp only [lookupFinished]
  split
  · next lookup found =>
    obtain ⟨fresh, serves⟩ := inv.pending.lookups lookup (List.mem_of_getElem? found)
    have fewer : Pending s.context.gateways
        { s.routes with lookups := s.routes.lookups.eraseIdx index } calls :=
      { inv.pending with lookups := fun other member =>
          inv.pending.lookups other (List.mem_of_mem_eraseIdx member) }
    refine ⟨resolved_in_force inv.inForce fun adds => ?_, fewer.congr (resolved_pending _ _ _ _)⟩
    exact serves (met lookup found adds)
  · exact inv

lemma context_inv (context : Context) (inv : Inv s calls) : Inv (changeContext context s) calls := by
  rw [changeContext]
  split
  · next same => exact ⟨inv.inForce, by rw [same]; exact inv.pending⟩
  · refine ⟨inv.inForce, inv.pending.change _ (fun given member => ?_) (List.Subset.refl _)⟩
    obtain ⟨_, _, rfl⟩ := Option.map_eq_some_iff.mp member
    rfl

lemma clear_inv (serviceRunning : Bool) (inv : Inv s calls) :
    Inv { s with routes := clearRoutes serviceRunning s.routes } calls := by
  have down : Pending s.context.gateways { s.routes with up := none, changes := s.routes.changes + 1 }
      calls := inv.pending.change s.context.gateways (by simp) (List.Subset.refl _)
  exact ⟨send_in_force inv.inForce (by simp [Served]), down.congr (send_pending _ _ _)⟩

lemma handle_inv (event : Event) (inv : Inv s calls)
    (met : Undisturbed ⟨s, calls⟩ (.event event)) :
    Inv (handle qt s event).1 ((handle qt s event).2 :: calls) := by
  cases event with
  | connectionStateChanged state =>
    cases state with
    | connected =>
      have connected := inv.pending.connect
      simp only [handle]
      split
      · refine ⟨send_in_force inv.inForce (by simp [Served]),
          (connected.call fun container since member => ?_).congr (send_pending _ _ _)⟩
        cases List.mem_singleton.mp member
        exact ⟨Nat.le_refl _, fun _ => rfl⟩
      · exact ⟨inv.inForce, connected.quiet⟩
    | disconnected | error =>
      simp only [handle]
      split
      · refine ⟨send_in_force inv.inForce (by simp [Served]),
          (inv.pending.call fun container since member => ?_).congr (send_pending _ _ _)⟩
        cases List.mem_singleton.mp member
      · exact ⟨(clear_inv false inv).inForce, (clear_inv false inv).pending.quiet⟩
    | _ => exact ⟨inv.inForce, inv.pending.quiet⟩
  | timerFired => exact ⟨(timer_inv qt inv met).inForce, (timer_inv qt inv met).pending.quiet⟩
  | protocolReset =>
    exact ⟨inv.inForce, (inv.pending.change _ inv.pending.current (by simp)).quiet⟩
  | contextChanged context =>
    exact ⟨(context_inv context inv).inForce, (context_inv context inv).pending.quiet⟩
  | serviceChanged running => exact ⟨inv.inForce, inv.pending.quiet⟩
  | lookupFinished index addresses =>
    exact ⟨(lookup_inv inv met).inForce, (lookup_inv inv met).pending.quiet⟩
  | sitesChanged mode sites => exact ⟨inv.inForce, inv.pending.quiet.congr rfl⟩

lemma add_inv (container : DockerContainer) (inv : Inv s calls)
    (up : s.routes.up = some s.context.gateways) :
    Inv { s with routes := addRoutes qt macos { s.context with container } s.serviceRunning s.routes }
      calls := by
  have same := send_pending s.serviceRunning (routeCalls macos { s.context with container }) s.routes
  have inForce : InForce (send s.serviceRunning (routeCalls macos { s.context with container })
      s.routes) := by
    refine send_in_force inv.inForce ?_
    rw [up]
    exact route_calls_served macos { s.context with container }
  have sent := inv.pending.congr same
  simp only [addRoutes]
  generalize send s.serviceRunning _ s.routes = routes at *
  simp only [pending, Prod.mk.injEq] at same
  have serves : Serves routes.up s.context.gateways.routeGateway := by
    rw [same.1, up]
    exact route_serves _
  split
  · split
    · refine ⟨inForce, { sent with timers := ?_ }⟩
      rw [List.forall_mem_append]
      exact ⟨sent.timers, List.forall_mem_singleton.mpr ⟨Nat.le_refl _, fun _ => same.1.trans up⟩⟩
    · exact ⟨sites_in_force qt _ inForce serves, sent.sites qt (same.1.trans up) serves⟩
    · exact ⟨inForce, sent⟩
  · exact ⟨inForce, sent⟩

lemma perform_inv {operation : Operation} {rest : List Operation}
    (inv : Inv s ((operation :: rest) :: calls))
    (met : Undisturbed ⟨s, (operation :: rest) :: calls⟩ .go) :
    Inv (perform qt macos s operation) (rest :: calls) := by
  obtain ⟨first, others⟩ := List.forall_mem_cons.mp inv.pending.begun
  have left : Inv s (rest :: calls) := ⟨inv.inForce, { inv.pending with
    begun := List.forall_mem_cons.mpr
      ⟨fun container since member => first container since (List.mem_cons_of_mem _ member), others⟩ }⟩
  cases operation with
  | addRoutes container since =>
    exact add_inv qt macos container left ((first container since List.mem_cons_self).2 met)
  | clearRoutes => exact clear_inv s.serviceRunning left

end Loop

abbrev step := EventLoops.step (program qt macos)

lemma step_inv (loop : Loop Session Operation) (turn : Turn Event)
    (inv : Inv loop.state loop.calls) (met : Undisturbed loop turn) :
    Inv (step qt macos loop turn).state (step qt macos loop turn).calls := by
  refine guarded_step ?_ ?_ ?_ loop turn inv met
  · exact fun s calls event inv met => handle_inv qt event inv met
  · exact fun s outer inv => ⟨inv.inForce,
      { inv.pending with begun := (List.forall_mem_cons.mp inv.pending.begun).2 }⟩
  · rintro s operation rest outer after before inv met ⟨⟩
    exact perform_inv qt macos inv met

/-- Nothing is under way and nothing has been asked of the service. -/
def idle (sites : RouteMode → Sites) (context : Context) (serviceRunning : Bool) :
    Loop Session Operation :=
  ⟨⟨⟨sites, none, 0, [], [], [], []⟩, context, serviceRunning⟩, []⟩

/-- Routes are added only while a connection is up and through its gateways, along a whole run
with whatever is handled in the waits, if no lookup, timer or wait that adds routes outlives the
connection and the protocol it was begun for. -/
theorem undisturbed_routes_in_force (sites : RouteMode → Sites) (context : Context)
    (serviceRunning : Bool) (turns : List (Turn Event))
    (met : Guarded (step qt macos) Undisturbed (idle sites context serviceRunning) turns)
    (loop : Loop Session Operation)
    (visited : Visits (step qt macos) (idle sites context serviceRunning) turns loop) :
    InForce loop.state.routes := by
  have start : Inv (idle sites context serviceRunning).state [] := by
    constructor
    · simp [idle, InForce]
    · constructor <;> simp [idle]
  have inv : Inv loop.state loop.calls :=
    guarded_invariant (step_inv qt macos) _ turns start met loop visited
  exact inv.inForce

/-! One site name, an OpenVPN connection that keeps the sites out of the tunnel, and a resolver
that answers `198.51.100.7`. -/

def openVpnContext : Context :=
  ⟨.openVpn, "10.8.0.1", "1.1.1.1", "203.0.113.5", ⟨"10.8.0.1", "192.168.1.1"⟩, true,
    .vpnAllExceptSites⟩

def oneSite : Loop Session Operation := idle (fun _ => [("example.com", [])]) openVpnContext true

def answer : List (Turn Event) := handled (.lookupFinished 0 [.ipv4 0xC6336407#32]) 1

/-- Something else is handled while the call waits. -/
def connected : List (Turn Event) :=
  .event (.connectionStateChanged .connected) :: handled (.serviceChanged true) 1 ++ [.go, .go]

theorem answer_in_time :
    InForce (run (step noAddresses false) oneSite (connected ++ answer)).state.routes :=
  undisturbed_routes_in_force noAddresses false _ openVpnContext true (connected ++ answer)
    (by decide +kernel) _ (visits_last _ _ _)

/-- The answer comes after the connection is down: the route is added all the same, through the
gateway of the connection that is gone. And the connection goes down while the call for
`Connected` waits, which then adds its routes. -/
theorem answer_after_disconnect :
    let late := (run (step noAddresses false) oneSite (connected ++
      handled (.connectionStateChanged .disconnected) 2 ++ answer)).state.routes
    let nested := (run (step noAddresses false) oneSite
      (.event (.connectionStateChanged .connected) ::
        handled (.connectionStateChanged .disconnected) 2 ++ [.go])).state.routes
    (.routeAddList "192.168.1.1" ["198.51.100.7"], none) ∈ late.calls ∧ ¬ InForce late ∧
      (.routeAddList "10.8.0.1" ["10.8.0.1", "1.1.1.1"], none) ∈ nested.calls ∧
      ¬ InForce nested := by
  decide +kernel

end AbstractumVpn.SiteRoutes
