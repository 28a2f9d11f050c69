import AbstractumVpn.ExclusionCounts

/-!
The routes into the tunnel, with a system that refuses nothing: those asked for
and not asked to be taken back. Taking back a prefix of positive length asks for
it once more, so only the halves of a range of length 0 ever go. The routes are
those of the active connections in every run that takes back nothing else, and
no half that is still in use.
-/

namespace AbstractumVpn.Daemon

open WireguardUtilsLinux Frames Runs

variable (qt : Qt)

def expand (range : IPAddress) : List IPAddress :=
  if range.prefixLength = 0 then
    match halves range.address with
    | some (low, high) => [low, high]
    | none => []
  else [range]

def tunnelTargets (connections : HopType → Option ConnectionState) : List IPAddress :=
  hops.flatMap fun hop =>
    match connections hop with
    | none => []
    | some c => c.config.allowedIPAddressRanges.flatMap expand

section Ranges

variable {s : System} (monitor : s.rtmonitor = true) {range : IPAddress}

lemma insert_granted (readable : buildAllowedIp range.address = true) :
    perform (insertRoute granted range) s =
      (true, { s with requests := s.requests + 1, tunnelRoutes := s.tunnelRoutes.insert range }) := by
  simp [insertRoute, rtmSendRoute, readable]

lemma delete_granted (readable : buildAllowedIp range.address = true) :
    perform (deleteRoute granted range) s =
      (true, { s with
        requests := s.requests + 1
        tunnelRoutes := s.tunnelRoutes.filter (· ≠ range) }) := by
  simp [deleteRoute, rtmSendRoute, readable]

lemma halves_readable (routable : Routable range) (zero : range.prefixLength = 0) :
    ∃ low high, halves range.address = some (low, high) ∧ expand range = [low, high] ∧
      buildAllowedIp low.address = true ∧ buildAllowedIp high.address = true := by
  have readable := routable.1
  cases address : range.address with
  | null => simp [address, buildAllowedIp] at readable
  | ipv4 bits => exact ⟨_, _, rfl, by simp [expand, zero, address, halves], by decide, by decide⟩
  | ipv6 bits text => exact ⟨_, _, rfl, by simp [expand, zero, address, halves], by decide, by decide⟩

include monitor

lemma update_prefix_granted (routable : Routable range) :
    let after := perform (updateRoutePrefix granted range) s
    after.1 = true ∧ after.2.rtmonitor = true ∧
      ∀ route, route ∈ after.2.tunnelRoutes ↔ route ∈ s.tunnelRoutes ∨ route ∈ expand range := by
  by_cases zero : range.prefixLength = 0
  · obtain ⟨low, high, split, expanded, first, second⟩ := halves_readable routable zero
    have result : perform (updateRoutePrefix granted range) s =
        (true, { s with
          requests := s.requests + 1 + 1
          tunnelRoutes := (s.tunnelRoutes.insert low).insert high }) := by
      simp [updateRoutePrefix, monitor, zero, split, insert_granted first, insert_granted second]
    rw [result, expanded]
    refine ⟨rfl, monitor, fun route => ?_⟩
    simp only [List.mem_insert_iff, List.mem_cons]
    tauto
  · have positive : range.prefixLength > 0 := by
      have nonneg := routable.2
      omega
    have result : perform (updateRoutePrefix granted range) s =
        (true, { s with
          requests := s.requests + 1
          tunnelRoutes := s.tunnelRoutes.insert range }) := by
      simp [updateRoutePrefix, monitor, positive, insert_granted routable.1]
    rw [result]
    refine ⟨rfl, monitor, fun route => ?_⟩
    simp only [List.mem_insert_iff, expand, zero, if_false, List.mem_singleton]
    tauto

/-- Taking a range back asks for it again unless it has halves. -/
lemma delete_prefix_granted (routable : Routable range) :
    let after := (perform (deleteRoutePrefix granted range) s).2
    after.rtmonitor = true ∧ ∀ route, route ∈ after.tunnelRoutes ↔
      if range.prefixLength = 0 then route ∈ s.tunnelRoutes ∧ route ∉ expand range
      else route ∈ s.tunnelRoutes ∨ route = range := by
  by_cases zero : range.prefixLength = 0
  · obtain ⟨low, high, split, expanded, first, second⟩ := halves_readable routable zero
    have result : perform (deleteRoutePrefix granted range) s =
        (true, { s with
          requests := s.requests + 1 + 1
          tunnelRoutes := (s.tunnelRoutes.filter (· ≠ low)).filter (· ≠ high) }) := by
      simp [deleteRoutePrefix, monitor, zero, split, delete_granted first, delete_granted second]
    rw [result, expanded]
    refine ⟨monitor, fun route => ?_⟩
    simp only [zero, if_true, List.mem_filter, decide_eq_true_eq, List.mem_cons]
    tauto
  · have positive : range.prefixLength > 0 := by
      have nonneg := routable.2
      omega
    have result : perform (deleteRoutePrefix granted range) s =
        (true, { s with
          requests := s.requests + 1
          tunnelRoutes := s.tunnelRoutes.insert range }) := by
      simp [deleteRoutePrefix, monitor, positive, insert_granted routable.1]
    rw [result]
    refine ⟨monitor, fun route => ?_⟩
    simp only [zero, if_false, List.mem_insert_iff]
    tauto

end Ranges

lemma update_routes_granted {s : System} (monitor : s.rtmonitor = true) (ranges : List IPAddress)
    (routable : ∀ range ∈ ranges, Routable range) :
    let after := perform (untilFalse (updateRoutePrefix granted) ranges) s
    after.1 = true ∧ after.2.rtmonitor = true ∧
      ∀ route, route ∈ after.2.tunnelRoutes ↔
        route ∈ s.tunnelRoutes ∨ route ∈ ranges.flatMap expand := by
  induction ranges generalizing s with
  | nil => exact ⟨rfl, monitor, by simp [untilFalse]⟩
  | cons range rest ih =>
    rw [List.forall_mem_cons] at routable
    obtain ⟨goes, on, first⟩ := update_prefix_granted monitor routable.1
    obtain ⟨done, still, others⟩ := ih on routable.2
    rw [perform_untilFalse_cons, if_pos goes]
    refine ⟨done, still, fun route => ?_⟩
    rw [others, first, List.flatMap_cons, List.mem_append, or_assoc]

/-! ## Steps that leave the tunnel routes alone -/

def tunnelView (s : System) : Bool × Bool × List IPAddress :=
  (s.tunnelRunning, s.rtmonitor, s.tunnelRoutes)

def carried (s : State) : (Bool × Bool × List IPAddress) × (HopType → Option ConnectionState) :=
  (tunnelView s.system, s.connections)

lemma system_carried {α : Type} {action : StateM System α} (kept : Keeps tunnelView action) :
    Keeps carried (onSystem action) :=
  fun s => congrArg (fun view => (view, s.connections)) (kept s.system)

lemma carried_blind : BlindToExclusions carried where
  outcome ok := system_carried (keeps_request ok (fun _ _ => rfl) fun _ => rfl)
  resolvers _ _ := rfl
  beside kept := system_carried fun s =>
    congrArg (fun view => (view.1.2.1, view.2.1, view.2.2)) (kept s)
  exclusions _ _ := rfl

structure Carrying (connections : HopType → Option ConnectionState) (routes : IPAddress → Prop)
    (s : State) : Prop where
  running : s.system.tunnelRunning = true
  monitor : s.system.rtmonitor = true
  same : s.connections = connections
  exact : ∀ route, route ∈ s.system.tunnelRoutes ↔ routes route

lemma Carrying.of_carried {connections : HopType → Option ConnectionState}
    {routes : IPAddress → Prop} {s t : State} (carrying : Carrying connections routes s)
    (kept : carried t = carried s) : Carrying connections routes t := by
  simp only [carried, tunnelView, Prod.mk.injEq] at kept
  obtain ⟨⟨running, monitor, listed⟩, same⟩ := kept
  exact ⟨running.trans carrying.running, monitor.trans carrying.monitor, same.trans carrying.same,
    by rw [listed]; exact carrying.exact⟩

/-! ## Taking routes back -/

/-- Routes on their way from `before` to `expected`, the halves of the `dropped`
ranges being gone. -/
structure Trimming (connections : HopType → Option ConnectionState)
    (expected before dropped : IPAddress → Prop) (s : State) : Prop where
  running : s.system.tunnelRunning = true
  monitor : s.system.rtmonitor = true
  same : s.connections = connections
  kept : ∀ route, expected route → before route → route ∈ s.system.tunnelRoutes
  gone : ∀ route ∈ s.system.tunnelRoutes, expected route ∨
    before route ∧ ∀ range, dropped range → range.prefixLength = 0 → route ∉ expand range

def Removable (expected : IPAddress → Prop) (range : IPAddress) : Prop :=
  (0 < range.prefixLength → expected range) ∧
    (range.prefixLength = 0 → ∀ half ∈ expand range, ¬ expected half)

section Trimming

variable {connections : HopType → Option ConnectionState} {expected before dropped : IPAddress → Prop}

lemma Carrying.trimming {s : State} (carrying : Carrying connections before s) :
    Trimming connections expected before (fun _ => False) s :=
  ⟨carrying.running, carrying.monitor, carrying.same,
    fun route _ held => (carrying.exact route).mpr held,
    fun route member => Or.inr ⟨(carrying.exact route).mp member, by simp⟩⟩

lemma Trimming.of_carried {s t : State} (trimming : Trimming connections expected before dropped s)
    (kept : carried t = carried s) : Trimming connections expected before dropped t := by
  simp only [carried, tunnelView, Prod.mk.injEq] at kept
  obtain ⟨⟨running, monitor, listed⟩, same⟩ := kept
  exact ⟨running.trans trimming.running, monitor.trans trimming.monitor, same.trans trimming.same,
    by rw [listed]; exact trimming.kept, by rw [listed]; exact trimming.gone⟩

lemma Trimming.fewer {s : State} (trimming : Trimming connections expected before dropped s)
    {some : IPAddress → Prop} (fewer : ∀ range, some range → dropped range) :
    Trimming connections expected before some s :=
  { trimming with
    gone := fun route member => (trimming.gone route member).imp_right fun ⟨old, cut⟩ =>
      ⟨old, fun range listed => cut range (fewer range listed)⟩ }

lemma drop_range (range : IPAddress) (routable : Routable range)
    (removable : Removable expected range) :
    Triple (Trimming connections expected before dropped)
      (discard (onSystem (deleteRoutePrefix granted range)))
      fun _ => Trimming connections expected before (fun other => dropped other ∨ other = range) := by
  intro s trimming
  obtain ⟨on, routes⟩ := delete_prefix_granted trimming.monitor routable
  have still : Keeps System.tunnelRunning (deleteRoutePrefix granted range) :=
    keeps_prefix_delete granted (fun _ _ => rfl) (fun _ _ => rfl) range
  refine ⟨(still s.system).trans trimming.running, on, trimming.same,
    fun route needed held => ?_, fun route member => ?_⟩
  · have listed := trimming.kept route needed held
    refine (routes route).mpr ?_
    split
    case isTrue zero => exact ⟨listed, fun half => removable.2 zero route half needed⟩
    case isFalse => exact Or.inl listed
  · have found := (routes route).mp member
    split at found
    case isTrue zero =>
      refine (trimming.gone route found.1).imp_right fun ⟨old, cut⟩ => ⟨old, ?_⟩
      rintro other (earlier | rfl) empty
      · exact cut other earlier empty
      · exact found.2
    case isFalse nonzero =>
      have positive : 0 < range.prefixLength := by
        have nonneg := routable.2
        omega
      rcases found with listed | rfl
      · refine (trimming.gone route listed).imp_right fun ⟨old, cut⟩ => ⟨old, ?_⟩
        rintro other (earlier | rfl) empty
        · exact cut other earlier empty
        · exact absurd empty nonzero
      · exact Or.inl (removable.1 positive)

/-- A loop that takes back those of the ranges that are in `acts`. -/
lemma drop_ranges {body : IPAddress → StateM State Unit} (acts : IPAddress → Prop)
    (ranges : List IPAddress) (routable : ∀ range ∈ ranges, Routable range)
    (removable : ∀ range ∈ ranges, acts range → Removable expected range)
    (drops : ∀ range, acts range → body range = discard (onSystem (deleteRoutePrefix granted range)))
    (skips : ∀ range, ¬ acts range → body range = pure ()) :
    Triple (Trimming connections expected before dropped) (ranges.forM body)
      fun _ => Trimming connections expected before
        (fun range => dropped range ∨ range ∈ ranges ∧ acts range) := by
  induction ranges generalizing dropped with
  | nil => exact Triple.pure fun s trimming => by simpa using trimming
  | cons range rest ih =>
    rw [List.forall_mem_cons] at routable removable
    have one : Triple (Trimming connections expected before dropped) (body range)
        fun _ => Trimming connections expected before
          (fun other => dropped other ∨ other = range ∧ acts range) := by
      by_cases act : acts range
      · rw [drops range act]
        simpa [act] using drop_range range routable.1 (removable.1 act)
      · rw [skips range act]
        exact Triple.pure fun _ held => by simpa [act] using held
    refine Triple.bind _ one fun _ => (ih routable.2 removable.2).weaken (fun _ held => held) ?_
    refine fun _ s trimming => trimming.fewer ?_
    rintro other (earlier | ⟨listed, acted⟩)
    · exact Or.inl (Or.inl earlier)
    · rcases List.mem_cons.mp listed with rfl | later
      · exact Or.inl (Or.inr ⟨rfl, acted⟩)
      · exact Or.inr ⟨later, acted⟩

end Trimming

/-! ## Between two calls -/

def AllRoutable (connections : HopType → Option ConnectionState) : Prop :=
  ∀ hop c, connections hop = some c → ∀ range ∈ c.config.allowedIPAddressRanges, Routable range

def TunnelStopped (s : State) : Prop :=
  s.system.tunnelRunning = false ∧ (∀ hop, s.connections hop = none) ∧ s.system.tunnelRoutes = []

def TunnelKept (s : State) : Prop :=
  TunnelStopped s ∨ Carrying s.connections (· ∈ tunnelTargets s.connections) s ∧
    AllRoutable s.connections

lemma mem_targets {connections : HopType → Option ConnectionState} {route : IPAddress} :
    route ∈ tunnelTargets connections ↔ ∃ hop c, connections hop = some c ∧
      ∃ range ∈ c.config.allowedIPAddressRanges, route ∈ expand range := by
  constructor
  · intro member
    obtain ⟨hop, -, found⟩ := List.mem_flatMap.mp member
    cases held : connections hop with
    | none => simp [held] at found
    | some c =>
      simp only [held] at found
      exact ⟨hop, c, held, List.mem_flatMap.mp found⟩
  · rintro ⟨hop, c, held, found⟩
    refine List.mem_flatMap.mpr ⟨hop, by cases hop <;> decide, ?_⟩
    simp only [held]
    exact List.mem_flatMap.mpr found

section Deactivation

variable {connections : HopType → Option ConnectionState} {before dropped : IPAddress → Prop}

lemma remove_connections (states : List ConnectionState)
    (routable : ∀ c ∈ states, ∀ range ∈ c.config.allowedIPAddressRanges, Routable range)
    (halved : ∀ c ∈ states, ∀ range ∈ c.config.allowedIPAddressRanges, range.prefixLength = 0) :
    Triple (Trimming connections (fun _ => False) before dropped)
      (states.forM (removeConnection granted qt))
      fun _ => Trimming connections (fun _ => False) before
        (fun range => dropped range ∨ ∃ c ∈ states, range ∈ c.config.allowedIPAddressRanges) := by
  induction states generalizing dropped with
  | nil => exact Triple.pure fun s trimming => by simpa using trimming
  | cons c rest ih =>
    rw [List.forall_mem_cons] at routable halved
    have one : Triple (Trimming connections (fun _ => False) before dropped)
        (removeConnection granted qt c)
        fun _ => Trimming connections (fun _ => False) before
          (fun range => dropped range ∨ range ∈ c.config.allowedIPAddressRanges) := by
      refine Triple.bind _ (drop_ranges (fun _ => True) c.config.allowedIPAddressRanges
        routable.1 (fun range member _ => ?_) (fun _ _ => rfl) fun _ never => (never trivial).elim)
        fun _ => ?_
      · exact ⟨fun positive => by have zero := halved.1 range member; omega, by simp⟩
      · intro s trimming
        refine (trimming.of_carried ?_).fewer fun range listed => ?_
        · exact keeps_discard (keeps_drop_peer granted qt carried_blind c.config) s
        · simpa using listed
    refine Triple.bind _ one fun _ => (ih routable.2 halved.2).weaken (fun _ held => held) ?_
    refine fun _ s trimming => trimming.fewer ?_
    rintro range (earlier | ⟨other, listed, own⟩)
    · exact Or.inl (Or.inl earlier)
    · rcases List.mem_cons.mp listed with rfl | later
      · exact Or.inl (Or.inr own)
      · exact Or.inr ⟨other, later, own⟩

def quieted (emitSignals : Bool) (s : State) : State :=
  { s with
    livenessTimer := false
    handshakeTimer := false
    resolvers := none
    signals := s.signals ++ if emitSignals then [.disconnected] else [] }

lemma clean_up_routes (emitSignals : Bool) (s : State) :
    (perform (cleanUp granted qt emitSignals) s).2.system.tunnelRoutes =
      (perform ((hops.filterMap s.connections).forM (removeConnection granted qt))
        (quieted emitSignals s)).2.system.tunnelRoutes := by
  simp only [cleanUp, perform_bind, perform_modify]
  exact congrArg (fun view => view.1.2.2) (keeps_release_exclusions granted carried_blind _ _)

lemma clean_up_halved (emitSignals : Bool) (s : State)
    (carrying : Carrying s.connections (· ∈ tunnelTargets s.connections) s)
    (routable : AllRoutable s.connections)
    (halved : ∀ hop c, s.connections hop = some c →
      ∀ range ∈ c.config.allowedIPAddressRanges, range.prefixLength = 0) :
    ∀ route, route ∉ (perform (cleanUp granted qt emitSignals) s).2.system.tunnelRoutes := by
  have states : ∀ c ∈ hops.filterMap s.connections, ∃ hop, s.connections hop = some c := by
    intro c listed
    obtain ⟨hop, -, held⟩ := List.mem_filterMap.mp listed
    exact ⟨hop, held⟩
  have start : Trimming s.connections (fun _ => False) (· ∈ tunnelTargets s.connections)
      (fun _ => False) (quieted emitSignals s) := carrying.trimming.of_carried rfl
  have removed := remove_connections qt (hops.filterMap s.connections)
    (fun c listed => (states c listed).elim fun hop held => routable hop c held)
    (fun c listed => (states c listed).elim fun hop held => halved hop c held) _ start
  intro route member
  rw [clean_up_routes] at member
  obtain never | ⟨target, cut⟩ := removed.gone route member
  · exact never
  · obtain ⟨hop, c, held, range, own, half⟩ := mem_targets.mp target
    have listed : c ∈ hops.filterMap s.connections :=
      List.mem_filterMap.mpr ⟨hop, by cases hop <;> decide, held⟩
    exact cut range (Or.inr ⟨c, listed, own⟩) (halved hop c held range own) half

def HalvesOnly (s : State) : Prop :=
  ∀ hop ∈ hops, ∀ c ∈ s.connections hop,
    ∀ range ∈ c.config.allowedIPAddressRanges, range.prefixLength = 0

lemma deactivate_stopped (emitSignals : Bool) (s : State) (kept : TunnelKept s)
    (halved : HalvesOnly s) : TunnelStopped (perform (deactivate granted qt emitSignals) s).2 := by
  have cleaned : ∀ route,
      route ∉ (perform (cleanUp granted qt emitSignals) s).2.system.tunnelRoutes := by
    rcases kept with ⟨-, idle, empty⟩ | ⟨carrying, routable⟩
    · have nothing : hops.filterMap s.connections = [] := by simp [idle]
      rw [clean_up_routes, nothing]
      simp [quieted, empty]
    · exact clean_up_halved qt emitSignals s carrying routable fun hop c held =>
        halved hop (by cases hop <;> decide) c held
  have down := delete_interface_stops (perform (cleanUp granted qt emitSignals) s).2.system
  exact ⟨down.1, fun _ => rfl, List.eq_nil_iff_forall_not_mem.mpr fun route member =>
    cleaned route (down.2 ▸ member)⟩

end Deactivation

section Activation

variable {connections : HopType → Option ConnectionState} {routes : IPAddress → Prop}

lemma carrying_kept {s : State} (carrying : Carrying connections (· ∈ tunnelTargets connections) s)
    (routable : AllRoutable connections) : TunnelKept s := by
  obtain ⟨running, monitor, rfl, exact⟩ := carrying
  exact Or.inr ⟨⟨running, monitor, rfl, exact⟩, routable⟩

lemma carrying_step {action : StateM State Bool} {stop : State → Prop} (kept : Keeps carried action)
    (leaves : ∀ s, Carrying connections routes s → stop s) :
    Triple (Carrying connections routes) action (onward (Carrying connections routes) stop) :=
  Preserves.step (fun s carrying => carrying.of_carried (kept s)) leaves

lemma routes_carrying {ranges : List IPAddress} (routable : ∀ range ∈ ranges, Routable range)
    {s : State} (carrying : Carrying connections routes s) :
    let after := perform (onSystem (untilFalse (updateRoutePrefix granted) ranges)) s
    after.1 = true ∧
      Carrying connections (fun route => routes route ∨ route ∈ ranges.flatMap expand) after.2 := by
  obtain ⟨goes, monitor, listed⟩ := update_routes_granted carrying.monitor ranges routable
  have still : Keeps System.tunnelRunning (untilFalse (updateRoutePrefix granted) ranges) :=
    Keeps.untilFalse fun range _ => keeps_prefix_update granted (fun _ _ => rfl) (fun _ _ => rfl) range
  refine ⟨goes, (still s.system).trans carrying.running, monitor, carrying.same, fun route => ?_⟩
  rw [← carrying.exact]
  exact listed route

variable (config : InterfaceConfig)

lemma store_carrying {stop : State → Prop} :
    Triple (Carrying connections routes) (storeConnection config)
      (onward (Carrying (stored connections config) routes) stop) := by
  rintro s ⟨running, monitor, rfl, exact⟩
  exact ⟨running, monitor, rfl, exact⟩

lemma stored_routable {config : InterfaceConfig} (routable : AllRoutable connections)
    (own : ∀ range ∈ config.allowedIPAddressRanges, Routable range) :
    AllRoutable (stored connections config) := by
  intro hop c held
  simp only [stored] at held
  split at held
  · obtain rfl := Option.some.inj held
    exact own
  · exact routable hop c held

/-- The targets after storing: the new ranges, and those of the other hops. -/
lemma mem_targets_stored {config : InterfaceConfig} {route : IPAddress} :
    route ∈ tunnelTargets (stored connections config) ↔
      route ∈ config.allowedIPAddressRanges.flatMap expand ∨
        ∃ hop c, hop ≠ config.hopType ∧ connections hop = some c ∧
          ∃ range ∈ c.config.allowedIPAddressRanges, route ∈ expand range := by
  rw [mem_targets]
  constructor
  · rintro ⟨hop, c, held, found⟩
    by_cases own : hop = config.hopType
    · simp only [stored, own, if_true, Option.some.injEq] at held
      subst held
      exact Or.inl (List.mem_flatMap.mpr found)
    · simp only [stored, own] at held
      exact Or.inr ⟨hop, c, own, held, found⟩
  · rintro (found | ⟨hop, c, other, held, found⟩)
    · exact ⟨config.hopType, { config }, by simp [stored], List.mem_flatMap.mp found⟩
    · exact ⟨hop, c, by simp [stored, other, held], found⟩

lemma targets_fresh {config : InterfaceConfig} (idle : connections config.hopType = none)
    (route : IPAddress) :
    route ∈ tunnelTargets connections ∨ route ∈ config.allowedIPAddressRanges.flatMap expand ↔
      route ∈ tunnelTargets (stored connections config) := by
  rw [mem_targets_stored, mem_targets, or_comm]
  refine or_congr_right ⟨?_, ?_⟩
  · rintro ⟨hop, c, held, found⟩
    refine ⟨hop, c, ?_, held, found⟩
    rintro rfl
    simp [idle] at held
  · rintro ⟨hop, c, -, held, found⟩
    exact ⟨hop, c, held, found⟩

lemma bring_up_tunnel (routable : AllRoutable connections)
    (own : ∀ range ∈ config.allowedIPAddressRanges, Routable range)
    (idle : connections config.hopType = none) :
    Triple (Carrying connections (· ∈ tunnelTargets connections)) (bringUp granted qt config)
      fun _ => TunnelKept := by
  have leaves : ∀ s, Carrying connections (· ∈ tunnelTargets connections) s → TunnelKept s :=
    fun s carrying => carrying_kept carrying routable
  have steps : Triple (Carrying connections (· ∈ tunnelTargets connections))
      (bringUp granted qt config) (onward TunnelKept TunnelKept) := by
    refine Triple.steps _ (carrying_step (keeps_interface_ips granted
      carried_blind.toBlindToResolvers) leaves) ?_
    refine Triple.steps _ (carrying_step (carried_blind.outcome granted) leaves) ?_
    refine Triple.steps _ (carrying_step (keeps_exclude granted qt carried_blind config) leaves) ?_
    refine Triple.steps _ (carrying_step (keeps_daemon_peer granted qt carried_blind config) leaves) ?_
    refine Triple.steps _ (carrying_step (keeps_resolvers granted qt
      carried_blind.toBlindToResolvers config) leaves) ?_
    have added : Triple (Carrying connections (· ∈ tunnelTargets connections))
        (onSystem (untilFalse (updateRoutePrefix granted) config.allowedIPAddressRanges))
        (onward (Carrying connections fun route => route ∈ tunnelTargets connections ∨
          route ∈ config.allowedIPAddressRanges.flatMap expand) TunnelKept) := by
      intro s carrying
      obtain ⟨goes, after⟩ := routes_carrying own carrying
      rwa [onward, if_pos goes]
    refine Triple.steps _ added ?_
    refine Triple.steps _ (store_carrying config) ?_
    refine Triple.steps TunnelKept (fun s carrying => ?_) Triple.steps_end
    have exact : Carrying (stored connections config)
        (· ∈ tunnelTargets (stored connections config)) (perform startHandshake s).2 :=
      { carrying.of_carried rfl with
        exact := fun route => (carrying.exact route).trans (targets_fresh idle route) }
    exact carrying_kept exact (stored_routable routable own)
  exact steps.either (fun _ kept => kept) fun _ kept => kept

lemma create_tunnel (config : InterfaceConfig) (s : State) (kept : TunnelKept s) :
    let after := perform (createInterface granted config) s
    after.1 = true ∧ Carrying s.connections (· ∈ tunnelTargets s.connections) after.2 ∧
      AllRoutable s.connections := by
  rcases kept with ⟨down, idle, empty⟩ | ⟨carrying, routable⟩
  · obtain ⟨made, running, monitor, -, listed⟩ := add_interface_granted config s.system down
    rw [create_missing granted config down, perform_onSystem]
    refine ⟨made, ⟨running, monitor, rfl, fun route => ?_⟩, fun hop c held => ?_⟩
    · rw [listed, empty, mem_targets]
      simp [idle]
    · simp [idle] at held
  · rw [create_existing granted config carrying.running]
    exact ⟨rfl, carrying, routable⟩

lemma establish_tunnel (s : State) (kept : TunnelKept s)
    (own : ∀ range ∈ config.allowedIPAddressRanges, Routable range)
    (idle : s.connections config.hopType = none) :
    TunnelKept (perform (establish granted qt config) s).2 := by
  obtain ⟨made, carrying, routable⟩ := create_tunnel config s kept
  rw [establish_created granted qt config made]
  exact bring_up_tunnel qt config routable own idle _ carrying

/-! ## Server switches -/

/-- A switch drops no range of positive length unless it is a route of a
connection that stays, and no range of length 0 of which a half is one. -/
def DropsExactly (s : State) (config last : InterfaceConfig) : Prop :=
  ∀ range ∈ last.allowedIPAddressRanges, range ∉ config.allowedIPAddressRanges →
    Removable (· ∈ tunnelTargets (stored s.connections config)) range

lemma drop_peer_goes (last : InterfaceConfig) (s : State) (running : s.system.tunnelRunning = true) :
    (perform (onSystem (deletePeer granted qt last)) s).1 = true := by
  have still : Keeps System.tunnelRunning ((serverRanges qt last).forM fun range =>
      discard (deleteExclusionRoute granted range)) :=
    Keeps.forM (fun range => (keeps_delete_exclusion granted (fun _ _ => rfl) (fun _ _ => rfl)
      range).bind fun _ => keeps_pure _ ()) _
  have runs := (still s.system).trans running
  simp only [perform_onSystem, deletePeer, perform_bind, uapiCommand, perform_get, runs, if_true,
    request_granted]

lemma trimmed_exact {s t : State} {config last : InterfaceConfig} {current : ConnectionState}
    (active : s.connections config.hopType = some current) (same : current.config = last)
    (routable : AllRoutable s.connections) (drops : DropsExactly s config last)
    (trimmed : Trimming s.connections (· ∈ tunnelTargets (stored s.connections config))
      (fun route => route ∈ tunnelTargets s.connections ∨
        route ∈ config.allowedIPAddressRanges.flatMap expand)
      (fun range => range ∈ last.allowedIPAddressRanges ∧ range ∉ config.allowedIPAddressRanges) t)
    (route : IPAddress) :
    route ∈ t.system.tunnelRoutes ↔ route ∈ tunnelTargets (stored s.connections config) := by
  constructor
  · intro member
    obtain expected | ⟨target | own, cut⟩ := trimmed.gone route member
    · exact expected
    · obtain ⟨hop, c, held, range, listed, found⟩ := mem_targets.mp target
      by_cases here : hop = config.hopType
      · obtain rfl := Option.some.inj (active.symm.trans (here ▸ held))
        rw [same] at listed
        by_cases again : range ∈ config.allowedIPAddressRanges
        · exact mem_targets_stored.mpr (Or.inl (List.mem_flatMap.mpr ⟨range, again, found⟩))
        · by_cases zero : range.prefixLength = 0
          · exact absurd found (cut range ⟨listed, again⟩ zero)
          · have nonneg := (routable hop _ held range (same ▸ listed)).2
            simp only [expand, zero, if_false, List.mem_singleton] at found
            rw [found]
            exact (drops range listed again).1 (by omega)
      · exact mem_targets_stored.mpr (Or.inr ⟨hop, c, here, held, range, listed, found⟩)
    · exact mem_targets_stored.mpr (Or.inl own)
  · intro expected
    refine trimmed.kept route expected ?_
    obtain own | ⟨hop, c, -, held, found⟩ := mem_targets_stored.mp expected
    · exact Or.inr own
    · exact Or.inl (mem_targets.mpr ⟨hop, c, held, found⟩)

lemma release_tunnel (s : State) (config : InterfaceConfig) (current : ConnectionState)
    (active : s.connections config.hopType = some current) (routable : AllRoutable s.connections)
    (drops : DropsExactly s config current.config) :
    Triple (Carrying s.connections fun route => route ∈ tunnelTargets s.connections ∨
        route ∈ config.allowedIPAddressRanges.flatMap expand)
      (releaseConfig granted qt config current.config)
      (onward (Carrying s.connections (· ∈ tunnelTargets (stored s.connections config)))
        TunnelKept) := by
  refine Triple.bind (fun _ => Carrying s.connections _)
    (fun t carrying => carrying.of_carried (keeps_release_loop granted qt carried_blind _ t))
    fun _ => ?_
  have loop : Triple
      (Trimming s.connections (· ∈ tunnelTargets (stored s.connections config))
        (fun route => route ∈ tunnelTargets s.connections ∨
          route ∈ config.allowedIPAddressRanges.flatMap expand) fun _ => False)
      (current.config.allowedIPAddressRanges.forM fun range =>
        if range ∈ config.allowedIPAddressRanges then return ()
        else discard (onSystem (deleteRoutePrefix granted range))) _ :=
    drop_ranges (· ∉ config.allowedIPAddressRanges) current.config.allowedIPAddressRanges
      (routable config.hopType current active) drops (fun _ out => if_neg out)
      fun _ inside => if_pos (not_not.mp inside)
  refine Triple.bind (fun _ => Carrying s.connections (· ∈ tunnelTargets (stored s.connections config)))
    (fun t carrying => ?_) fun _ => ?_
  · have trimmed := (loop t carrying.trimming).fewer fun range listed => Or.inr listed
    exact ⟨trimmed.running, trimmed.monitor, trimmed.same,
      trimmed_exact active rfl routable drops trimmed⟩
  · refine Triple.ite (fun _ => Triple.pure fun _ carrying => carrying) fun _ t carrying => ?_
    have goes := drop_peer_goes qt current.config t carrying.running
    simp only [goes]
    exact carrying.of_carried (keeps_drop_peer granted qt carried_blind current.config t)

lemma replace_tunnel (s : State) (config : InterfaceConfig) (current : ConnectionState)
    (kept : TunnelKept s) (active : s.connections config.hopType = some current)
    (own : ∀ range ∈ config.allowedIPAddressRanges, Routable range)
    (drops : DropsExactly s config current.config) :
    TunnelKept (perform (replaceServer granted qt config current.config) s).2 := by
  rcases kept with ⟨-, idle, -⟩ | ⟨carrying, routable⟩
  · simp [idle] at active
  have stays := stored_routable routable own
  have before : ∀ t, Carrying s.connections (· ∈ tunnelTargets s.connections) t → TunnelKept t :=
    fun t held => carrying_kept held routable
  have after : ∀ t, Carrying (stored s.connections config)
      (· ∈ tunnelTargets (stored s.connections config)) t → TunnelKept t :=
    fun t held => carrying_kept held stays
  have ignored : Triple (Carrying s.connections (· ∈ tunnelTargets s.connections))
      (do discard (onSystem (untilFalse (updateRoutePrefix granted) config.allowedIPAddressRanges))
          return true)
      (onward (Carrying s.connections fun route => route ∈ tunnelTargets s.connections ∨
        route ∈ config.allowedIPAddressRanges.flatMap expand) TunnelKept) := by
    intro t held
    exact (routes_carrying own held).2
  have switched : Triple (Carrying s.connections (· ∈ tunnelTargets s.connections))
      (switchServer granted qt config current.config)
      (onward (Carrying (stored s.connections config)
        (· ∈ tunnelTargets (stored s.connections config))) TunnelKept) := by
    refine Triple.steps _ (carrying_step (keeps_exclude granted qt carried_blind config) before) ?_
    refine Triple.steps _ (carrying_step (keeps_daemon_peer granted qt carried_blind config) before) ?_
    refine Triple.steps _ ignored ?_
    refine Triple.steps _ (release_tunnel qt s config current active routable drops) ?_
    exact Triple.steps _ (store_carrying config) Triple.steps_end
  have whole : Triple (Carrying s.connections (· ∈ tunnelTargets s.connections))
      (replaceServer granted qt config current.config) (onward TunnelKept TunnelKept) := by
    refine Triple.steps _ switched ?_
    refine Triple.steps _ (carrying_step (keeps_restore carried_blind.toBlindToResolvers) after) ?_
    refine Triple.steps _ (carrying_step (keeps_resolvers granted qt
      carried_blind.toBlindToResolvers config) after) ?_
    refine Triple.steps _ (store_carrying config) ?_
    rw [stored_again]
    exact Triple.steps TunnelKept (fun t held => after _ (held.of_carried rfl)) Triple.steps_end
  exact whole.either (fun _ kept => kept) (fun _ kept => kept) s carrying

end Activation

/-! ## Whole runs -/

def TunnelRoutesExact (s : State) : Prop :=
  ∀ route, route ∈ s.system.tunnelRoutes ↔ route ∈ tunnelTargets s.connections

/-- Every range can be sent, a switch drops exactly what it may, and an interface
is taken down only with ranges of length 0. -/
def RoutesReturn (s : State) : Call → Prop
  | .activate config =>
    (∀ range ∈ config.allowedIPAddressRanges, Routable range) ∧
      (∀ last ∈ switchedFrom s config, DropsExactly s config last) ∧
      (rebuildsInterface s config = true → HalvesOnly s)
  | .deactivate _ => HalvesOnly s

lemma kept_exact {s : State} (kept : TunnelKept s) : TunnelRoutesExact s := by
  intro route
  rcases kept with ⟨-, idle, empty⟩ | ⟨carrying, -⟩
  · rw [empty, mem_targets]
    simp [idle]
  · exact carrying.exact route

lemma step_tunnel_kept (s : State) (call : Call) (kept : TunnelKept s)
    (returns : RoutesReturn s call) : TunnelKept (step granted qt s call) := by
  cases call with
  | deactivate emitSignals => exact Or.inl (deactivate_stopped qt emitSignals s kept returns)
  | activate config =>
    obtain ⟨own, drops, halved⟩ := returns
    refine activate_keeps granted qt TunnelKept config s ?_
      (fun t idle held => establish_tunnel qt config t held own idle)
      (fun rebuilt => Or.inl (deactivate_stopped qt false s kept (halved rebuilt))) ?_ kept
    · rintro t (stopped | ⟨carrying, routable⟩)
      · exact Or.inl stopped
      · exact Or.inr ⟨carrying.of_carried rfl, routable⟩
    · intro current active switches
      exact replace_tunnel qt s config current kept active own
        (drops current.config (by simp [switchedFrom, active, switches]))

theorem tunnel_routes_exact (killSwitch : KillSwitch.State) (calls : List Call)
    (returns : Guarded (step granted qt) RoutesReturn (created killSwitch) calls) (s : State)
    (visited : Visits (step granted qt) (created killSwitch) calls s) : TunnelRoutesExact s := by
  have start : TunnelKept (created killSwitch) := Or.inl ⟨rfl, fun _ => rfl, rfl⟩
  exact kept_exact (guarded_invariant (step_tunnel_kept qt) _ calls start returns s visited)

/-! One server, first with a network of its own, then without. -/

def rangedServer (allowedIPAddressRanges : List IPAddress) : InterfaceConfig :=
  { serverPublicKey := "first", serverIpv4AddrIn := some "203.0.113.5", allowedIPAddressRanges }

def privateNetwork : IPAddress := ⟨.ipv4 (10#8 ++ 0#24), 8⟩

instance (s : State) (config last : InterfaceConfig) : Decidable (DropsExactly s config last) := by
  unfold DropsExactly Removable
  infer_instance

instance (s : State) : Decidable (HalvesOnly s) := by
  unfold HalvesOnly
  infer_instance

instance (s : State) : ∀ call, Decidable (RoutesReturn s call)
  | .activate config => inferInstanceAs (Decidable (
      (∀ range ∈ config.allowedIPAddressRanges, Routable range) ∧
        (∀ last ∈ switchedFrom s config, DropsExactly s config last) ∧ (_ → HalvesOnly s)))
  | .deactivate _ => inferInstanceAs (Decidable (HalvesOnly s))

theorem whole_range_returns :
    TunnelRoutesExact (run (step granted networkQt) (created noKillSwitch)
      [.activate (rangedServer [.anyIPv4]), .activate (rangedServer [.anyIPv4, privateNetwork])]) :=
  tunnel_routes_exact networkQt noKillSwitch _ (by decide) _ (visits_last _ _ _)

/-- The switch asks for the route of the dropped network once more. -/
theorem dropped_network_stays :
    let s := run (step granted networkQt) (created noKillSwitch)
      [.activate (rangedServer [privateNetwork]), .activate (rangedServer [])]
    privateNetwork ∈ s.system.tunnelRoutes ∧
      (s.connections .singleHop).map (fun c => c.config.allowedIPAddressRanges) = some [] ∧
      tunnelTargets s.connections = [] := by
  decide

-- the other way round: the whole range given up for its two halves loses both
example :
    let s := run (step granted networkQt) (created noKillSwitch)
      [.activate (rangedServer [.anyIPv4]), .activate (rangedServer (expand .anyIPv4))]
    s.system.tunnelRoutes = [] ∧ tunnelTargets s.connections = expand .anyIPv4 := by
  decide

end AbstractumVpn.Daemon
