import AbstractumVpn.ExclusionCounts

/-!
The exclusion routes in the kernel, with a system that refuses nothing. They are
owned by the reference counts of the daemon and, without counting, by the peers.
`Ready` says what is installed in the middle of an activation.
-/

namespace AbstractumVpn.Daemon

open WireguardUtilsLinux Frames Runs AssocList

variable (qt : Qt)

def Readable (range : IPAddress) : Prop := buildAllowedIp range.address = true

instance (range : IPAddress) : Decidable (Readable range) :=
  inferInstanceAs (Decidable (buildAllowedIp range.address = true))

section Routes

variable {s : System} (monitor : s.rtmonitor = true) (range : IPAddress)

include monitor

lemma add_route_granted :
    perform (WireguardUtilsLinux.addExclusionRoute granted range) s =
      if Readable range then
        (true, { s with requests := s.requests + 1, exclusionRoutes := s.exclusionRoutes.insert range })
      else (false, s) := by
  by_cases readable : buildAllowedIp range.address = true <;>
    simp [WireguardUtilsLinux.addExclusionRoute, monitor, rtmSendRoute, Readable]

lemma delete_route_granted :
    perform (deleteExclusionRoute granted range) s =
      if Readable range then
        (true, { s with
          requests := s.requests + 1
          exclusionRoutes := s.exclusionRoutes.filter (· ≠ range) })
      else (false, s) := by
  by_cases readable : buildAllowedIp range.address = true <;>
    simp [deleteExclusionRoute, monitor, rtmSendRoute, Readable]

end Routes

/-- `tally` gives the counts of readable prefixes; every prefix with a count and
every readable range of `ends` has its route. -/
structure Ready (tally : IPAddress → Nat) (ends : List IPAddress) (s : State) : Prop where
  running : s.system.tunnelRunning = true
  monitor : s.system.rtmonitor = true
  counts : ∀ range, Readable range → count s.excludedAddrSet range = tally range
  live : Live s.excludedAddrSet
  installed : ∀ range, 0 < count s.excludedAddrSet range → range ∈ s.system.exclusionRoutes
  endpoints : ∀ range ∈ ends, Readable range → range ∈ s.system.exclusionRoutes

section Ready

lemma count_cons_eq (first range : IPAddress) (rest : List IPAddress) :
    (first :: rest).count range = (if range = first then 1 else 0) + rest.count range := by
  by_cases same : range = first
  · simp [same, Nat.add_comm]
  · simp [same, Ne.symm same]

variable {tally : IPAddress → Nat} {ends : List IPAddress} {s t : State}

lemma Ready.grown (ready : Ready tally ends s) (running : t.system.tunnelRunning = true)
    (monitor : t.system.rtmonitor = true) (same : t.excludedAddrSet = s.excludedAddrSet)
    (more : ∀ range ∈ s.system.exclusionRoutes, range ∈ t.system.exclusionRoutes) :
    Ready tally ends t where
  running := running
  monitor := monitor
  counts := by rw [same]; exact ready.counts
  live := by rw [same]; exact ready.live
  installed := by
    rw [same]
    exact fun range positive => more _ (ready.installed range positive)
  endpoints range member readable := more _ (ready.endpoints range member readable)

lemma Ready.retally (ready : Ready tally ends s) {other : IPAddress → Nat}
    (same : ∀ range, Readable range → tally range = other range) : Ready other ends s :=
  { ready with counts := fun range readable => (ready.counts range readable).trans (same range readable) }

lemma Ready.counted (ready : Ready tally ends s) {range : IPAddress} (readable : Readable range)
    (positive : 0 < tally range) : range ∈ s.system.exclusionRoutes := by
  rw [← ready.counts range readable] at positive
  exact ready.installed range positive

lemma add_exclusion_known (range : IPAddress) {held : Nat}
    (known : s.excludedAddrSet.lookup range = some held) :
    perform (addExclusionRoute granted range) s =
      (true, { s with excludedAddrSet := acquire s.excludedAddrSet range }) := by
  simp [addExclusionRoute, known, acquire, change]

lemma add_exclusion_new (monitor : s.system.rtmonitor = true) (range : IPAddress)
    (absent : s.excludedAddrSet.lookup range = none) :
    perform (addExclusionRoute granted range) s =
      if Readable range then
        (true, { s with
          system := { s.system with
            requests := s.system.requests + 1
            exclusionRoutes := s.system.exclusionRoutes.insert range }
          excludedAddrSet := acquire s.excludedAddrSet range })
      else (false, s) := by
  by_cases readable : Readable range <;>
    simp [addExclusionRoute, absent, perform_onSystem, add_route_granted monitor, readable, acquire]

lemma add_ready (range : IPAddress) :
    Triple (Ready tally ends) (addExclusionRoute granted range) fun _ =>
      Ready (fun other => tally other + if other = range then 1 else 0) ends := by
  intro s ready
  have counts : ∀ other, Readable other → count (acquire s.excludedAddrSet range) other =
      tally other + if other = range then 1 else 0 := by
    intro other readable
    rw [count_acquire, ready.counts other readable]
  have older : ∀ other, other ≠ range → 0 < count (acquire s.excludedAddrSet range) other →
      other ∈ s.system.exclusionRoutes := by
    intro other away positive
    rw [count_acquire, if_neg away] at positive
    exact ready.installed other positive
  have live := acquire_live ready.live range
  cases known : s.excludedAddrSet.lookup range with
  | some held =>
    rw [add_exclusion_known range known]
    refine ⟨ready.running, ready.monitor, counts, live, fun other positive => ?_, ready.endpoints⟩
    by_cases same : other = range
    · exact same ▸ ready.installed range (ready.live.pos known)
    · exact older other same positive
  | none =>
    rw [add_exclusion_new ready.monitor range known]
    split
    case isTrue readable =>
      refine ⟨ready.running, ready.monitor, counts, live, fun other positive => ?_,
        fun other member readable => List.mem_insert_of_mem (ready.endpoints other member readable)⟩
      by_cases same : other = range
      · exact same ▸ List.mem_insert_self
      · exact List.mem_insert_of_mem (older other same positive)
    case isFalse unreadable =>
      refine ⟨ready.running, ready.monitor, fun other readable => ?_, ready.live, ready.installed,
        ready.endpoints⟩
      have away : other ≠ range := fun same => unreadable (same ▸ readable)
      rw [if_neg away, Nat.add_zero]
      exact ready.counts other readable

lemma exclude_ready (config : InterfaceConfig) :
    Triple (Ready tally ends) (excludeAddresses granted qt config)
      (onward (Ready (fun range => tally range + (excludedPrefixes qt config).count range) ends)
        fun _ => False) := by
  intro s ready
  change Ready _ _ (perform (config.excludedAddresses.forM _) s).2
  unfold excludedPrefixes
  induction config.excludedAddresses generalizing s tally with
  | nil => exact ready
  | cons text rest ih =>
    have one := add_ready (IPAddress.ofString qt text) s ready
    have tail := ih _ one
    refine tail.retally fun range _ => ?_
    rw [List.map_cons, count_cons_eq]
    omega

/-- The two things a release must not take away. -/
lemma del_ready (range : IPAddress)
    (free : Readable range → tally range ≤ 1 → range ∉ ends) :
    Triple (Ready tally ends) (delExclusionRoute granted range) fun _ =>
      Ready (fun other => tally other - if other = range then 1 else 0) ends := by
  intro s ready
  have counts : ∀ other, Readable other → count (release s.excludedAddrSet range) other =
      tally other - if other = range then 1 else 0 := by
    intro other readable
    rw [count_release, ready.counts other readable]
  have older : ∀ other, 0 < count (release s.excludedAddrSet range) other →
      other ∈ s.system.exclusionRoutes := by
    intro other positive
    rw [count_release] at positive
    exact ready.installed other (Nat.lt_of_lt_of_le positive (Nat.sub_le _ _))
  have live := release_live ready.live range
  by_cases several : count s.excludedAddrSet range > 1
  · have result : perform (delExclusionRoute granted range) s =
        (true, { s with excludedAddrSet := release s.excludedAddrSet range }) := by
      have more : (s.excludedAddrSet.lookup range).getD 0 > 1 := several
      simp [delExclusionRoute, more, release, several, change]
    rw [result]
    exact ⟨ready.running, ready.monitor, counts, live, older, ready.endpoints⟩
  · have few : ¬ (s.excludedAddrSet.lookup range).getD 0 > 1 := several
    have result : (perform (delExclusionRoute granted range) s).2 =
        { s with
          system := (perform (deleteExclusionRoute granted range) s.system).2
          excludedAddrSet := release s.excludedAddrSet range } := by
      simp only [delExclusionRoute, perform_bind, perform_get, few, release, several]
      rfl
    rw [result, delete_route_granted ready.monitor]
    split
    case isTrue readable =>
      have gone : count (release s.excludedAddrSet range) range = 0 := by
        rw [count_release, if_pos rfl]
        omega
      refine ⟨ready.running, ready.monitor, counts, live, fun other positive => ?_,
        fun other member readable => ?_⟩
      · have away : other ≠ range := fun same => by simp [same, gone] at positive
        exact List.mem_filter.mpr ⟨older other positive, by simpa using away⟩
      · have away : other ≠ range := by
          rintro rfl
          rw [ready.counts other readable] at several
          exact free readable (Nat.le_of_not_lt several) member
        exact List.mem_filter.mpr ⟨ready.endpoints other member readable, by simpa using away⟩
    case isFalse unreadable =>
      exact ⟨ready.running, ready.monitor, counts, live, older, ready.endpoints⟩

lemma release_ready (last : InterfaceConfig)
    (free : ∀ range ∈ releasedPrefixes qt last, Readable range →
      tally range - (releasedPrefixes qt last).count range = 0 → range ∉ ends) :
    Triple (Ready tally ends)
      (last.excludedAddresses.forM fun text =>
        discard (delExclusionRoute granted (IPAddress.ofHostAddress (qt.hostAddress text))))
      fun _ => Ready (fun range => tally range - (releasedPrefixes qt last).count range) ends := by
  unfold releasedPrefixes at free ⊢
  intro s ready
  generalize last.excludedAddresses = texts at free ⊢
  induction texts generalizing s tally with
  | nil => exact ready
  | cons text rest ih =>
    simp only [List.map_cons, List.forall_mem_cons, count_cons_eq] at free ⊢
    have one := del_ready (IPAddress.ofHostAddress (qt.hostAddress text))
      (fun readable single => free.1 readable (by simp only [if_true]; omega)) s ready
    refine (ih _ one fun range member readable none => free.2 range member readable ?_).retally ?_
    · omega
    · intro range _
      omega

/-! ## Peers -/

lemma add_routes {system : System} (monitor : system.rtmonitor = true) (ranges : List IPAddress) :
    let after := (perform (ranges.forM fun range =>
      discard (WireguardUtilsLinux.addExclusionRoute granted range)) system).2
    (∀ range ∈ system.exclusionRoutes, range ∈ after.exclusionRoutes) ∧
      (∀ range ∈ ranges, Readable range → range ∈ after.exclusionRoutes) ∧
      after.tunnelRunning = system.tunnelRunning ∧ after.rtmonitor = true := by
  induction ranges generalizing system with
  | nil => exact ⟨fun _ member => member, by simp, rfl, monitor⟩
  | cons range rest ih =>
    rw [perform_forM_cons, perform_discard, add_route_granted monitor]
    split
    case isTrue readable =>
      obtain ⟨old, new, running, on⟩ := @ih { system with
        requests := system.requests + 1
        exclusionRoutes := system.exclusionRoutes.insert range } monitor
      refine ⟨fun other member => old other (List.mem_insert_of_mem member), ?_, running, on⟩
      rw [List.forall_mem_cons]
      exact ⟨fun _ => old range List.mem_insert_self, new⟩
    case isFalse unreadable =>
      obtain ⟨old, new, running, on⟩ := ih monitor
      refine ⟨old, ?_, running, on⟩
      rw [List.forall_mem_cons]
      exact ⟨fun readable => absurd readable unreadable, new⟩

lemma delete_routes {system : System} (monitor : system.rtmonitor = true) (ranges : List IPAddress) :
    let after := (perform (ranges.forM fun range =>
      discard (deleteExclusionRoute granted range)) system).2
    (∀ range ∈ system.exclusionRoutes, (range ∈ ranges → ¬ Readable range) →
        range ∈ after.exclusionRoutes) ∧
      after.tunnelRunning = system.tunnelRunning ∧ after.rtmonitor = true := by
  induction ranges generalizing system with
  | nil => exact ⟨fun _ member _ => member, rfl, monitor⟩
  | cons range rest ih =>
    rw [perform_forM_cons, perform_discard, delete_route_granted monitor]
    split
    case isTrue readable =>
      obtain ⟨old, running, on⟩ := @ih { system with
        requests := system.requests + 1
        exclusionRoutes := system.exclusionRoutes.filter (· ≠ range) } monitor
      refine ⟨fun other member stays => old other ?_ fun listed =>
        stays (List.mem_cons_of_mem _ listed), running, on⟩
      have away : other ≠ range := by
        rintro rfl
        exact stays List.mem_cons_self readable
      exact List.mem_filter.mpr ⟨member, by simpa using away⟩
    case isFalse unreadable =>
      obtain ⟨old, running, on⟩ := ih monitor
      exact ⟨fun other member stays =>
        old other member fun listed => stays (List.mem_cons_of_mem _ listed), running, on⟩

lemma peer_ready (config : InterfaceConfig) :
    Triple (Ready tally ends) (onSystem (updatePeer granted qt config))
      (onward (Ready tally (serverRanges qt config ++ ends)) (Ready tally ends)) := by
  intro s ready
  obtain ⟨old, new, running, on⟩ := add_routes ready.monitor (serverRanges qt config)
  generalize added : (perform ((serverRanges qt config).forM fun range =>
    discard (WireguardUtilsLinux.addExclusionRoute granted range)) s.system).2 = after
    at old new running on
  by_cases nowhere : (config.serverIpv4AddrIn.isNone && config.serverIpv6AddrIn.isNone) = true
  · have result : perform (onSystem (updatePeer granted qt config)) s = (false, s) := by
      simp [perform_onSystem, updatePeer, nowhere]
    rw [result]
    exact ready
  · have result : perform (onSystem (updatePeer granted qt config)) s =
        (true, { s with system := { after with
          requests := after.requests + 1
          peers := after.peers.insert config.serverPublicKey } }) := by
      have runs := running.trans ready.running
      simp only [perform_onSystem, updatePeer, nowhere, perform_bind, added, uapiCommand,
        perform_get, runs, if_true, request_granted, Bool.false_eq_true, if_false]
    rw [result]
    have grown : Ready tally ends { s with system := { after with
        requests := after.requests + 1
        peers := after.peers.insert config.serverPublicKey } } :=
      ready.grown (running.trans ready.running) on rfl old
    refine { grown with endpoints := fun range member readable => ?_ }
    rcases List.mem_append.mp member with own | other
    · exact new range own readable
    · exact grown.endpoints range other readable

lemma drop_peer_ready (last : InterfaceConfig)
    (free : ∀ range ∈ serverRanges qt last, Readable range → tally range = 0 ∧ range ∉ ends) :
    Triple (Ready tally ends) (onSystem (deletePeer granted qt last))
      (onward (Ready tally ends) fun _ => False) := by
  intro s ready
  obtain ⟨old, running, on⟩ := delete_routes ready.monitor (serverRanges qt last)
  generalize dropped : (perform ((serverRanges qt last).forM fun range =>
    discard (deleteExclusionRoute granted range)) s.system).2 = after
    at old running on
  have runs := running.trans ready.running
  have result : perform (onSystem (deletePeer granted qt last)) s =
      (true, { s with system := { after with
        requests := after.requests + 1
        peers := after.peers.filter (· ≠ last.serverPublicKey) } }) := by
    simp only [perform_onSystem, deletePeer, perform_bind, dropped, uapiCommand, perform_get, runs,
      if_true, request_granted]
  rw [result]
  refine ⟨runs, on, ready.counts, ready.live, fun range positive => ?_, fun range member readable => ?_⟩
  · refine old range (ready.installed range positive) fun listed readable => ?_
    have none := (free range listed readable).1
    rw [← ready.counts range readable] at none
    exact Nat.ne_of_gt positive none
  · exact old range (ready.endpoints range member readable) fun listed readable =>
      (free range listed readable).2 member

end Ready

/-! ## Steps that leave the exclusion routes alone -/

def exclusionView (s : System) : Bool × Bool × List IPAddress :=
  (s.tunnelRunning, s.rtmonitor, s.exclusionRoutes)

def standing (s : State) : (Bool × Bool × List IPAddress) × List (IPAddress × Nat) :=
  (exclusionView s.system, s.excludedAddrSet)

lemma system_standing {α : Type} {action : StateM System α} (kept : Keeps exclusionView action) :
    Keeps standing (onSystem action) :=
  fun s => congrArg (fun view => (view, s.excludedAddrSet)) (kept s.system)

lemma standing_blind : BlindToResolvers standing where
  outcome ok := system_standing (keeps_request ok (fun _ _ => rfl) fun _ => rfl)
  resolvers _ _ := rfl

lemma routes_standing (ok : Nat → Bool) (ranges : List IPAddress) :
    Keeps standing (onSystem (untilFalse (updateRoutePrefix ok) ranges)) :=
  system_standing (Keeps.untilFalse fun range _ =>
    keeps_prefix_update ok (fun _ _ => rfl) (fun _ _ => rfl) range)

lemma Ready.of_standing {tally : IPAddress → Nat} {ends : List IPAddress} {s t : State}
    (ready : Ready tally ends s) (same : standing t = standing s) : Ready tally ends t := by
  simp only [standing, exclusionView, Prod.mk.injEq] at same
  obtain ⟨⟨running, monitor, routes⟩, counts⟩ := same
  exact ready.grown (running.trans ready.running) (monitor.trans ready.monitor) counts
    fun range member => routes.symm ▸ member

/-! ## Activations -/

def endpoints (connections : HopType → Option ConnectionState) : List IPAddress :=
  hops.flatMap fun hop =>
    match connections hop with
    | none => []
    | some c => serverRanges qt c.config

def RoutesKept (s : State) : Prop :=
  (s.system.tunnelRunning = false ∧ s.excludedAddrSet = [] ∧ ∀ hop, s.connections hop = none) ∨
    Ready (count s.excludedAddrSet) (endpoints qt s.connections) s ∧
      ∀ range, Readable range →
        (neededPrefixes qt s.connections).count range ≤ count s.excludedAddrSet range

structure Holding (connections : HopType → Option ConnectionState) (tally : IPAddress → Nat)
    (ends : List IPAddress) (s : State) : Prop where
  ready : Ready tally ends s
  same : s.connections = connections
  needed : ∀ range, Readable range → (neededPrefixes qt connections).count range ≤ tally range
  reached : ∀ range ∈ endpoints qt connections, range ∈ ends

section Steps

variable {connections : HopType → Option ConnectionState} {tally : IPAddress → Nat}
  {ends : List IPAddress}

lemma Holding.kept {s : State} (holding : Holding qt connections tally ends s) :
    RoutesKept qt s := by
  obtain ⟨ready, rfl, needed, reached⟩ := holding
  refine Or.inr ⟨?_, fun range readable => ?_⟩
  · refine { ready with
      counts := fun _ _ => rfl
      endpoints := fun range member => ready.endpoints range (reached range member) }
  · exact (needed range readable).trans (ready.counts range readable).ge

lemma holding_step {action : StateM State Bool} (still : Keeps standing action)
    (same : Keeps State.connections action) :
    Triple (Holding qt connections tally ends) action
      (onward (Holding qt connections tally ends) (RoutesKept qt)) := by
  refine Preserves.step (fun s holding => ?_) fun s holding => holding.kept
  exact { holding with ready := holding.ready.of_standing (still s), same := (same s).trans holding.same }

lemma exclude_holding (config : InterfaceConfig) :
    Triple (Holding qt connections tally ends) (excludeAddresses granted qt config)
      (onward (Holding qt connections
        (fun range => tally range + (excludedPrefixes qt config).count range) ends)
        (RoutesKept qt)) := by
  intro s holding
  have after := exclude_ready qt config s holding.ready
  have same := keeps_exclude granted qt connections_blind.toBlindToExclusions config s
  exact ⟨after, same.trans holding.same,
    fun range readable => (holding.needed range readable).trans (Nat.le_add_right _ _), holding.reached⟩

lemma peer_holding (config : InterfaceConfig) :
    Triple (Holding qt connections tally ends) (onSystem (updatePeer granted qt config))
      (onward (Holding qt connections tally (serverRanges qt config ++ ends)) (RoutesKept qt)) := by
  intro s holding
  have after := peer_ready qt config s holding.ready
  have same : (perform (onSystem (updatePeer granted qt config)) s).2.connections = connections :=
    holding.same
  revert after
  cases (perform (onSystem (updatePeer granted qt config)) s).1 with
  | true =>
    exact fun after => ⟨after, same, holding.needed,
      fun range member => List.mem_append_right _ (holding.reached range member)⟩
  | false => exact fun after => Holding.kept qt ⟨after, same, holding.needed, holding.reached⟩

lemma endpoints_stored (connections : HopType → Option ConnectionState) (config : InterfaceConfig) :
    ∀ range ∈ endpoints qt (stored connections config),
      range ∈ serverRanges qt config ++ endpoints qt connections := by
  intro range member
  obtain ⟨hop, listed, found⟩ := List.mem_flatMap.mp member
  rw [List.mem_append]
  by_cases own : hop = config.hopType
  · simp only [stored, own] at found
    exact Or.inl found
  · simp only [stored, own] at found
    exact Or.inr (List.mem_flatMap.mpr ⟨hop, listed, found⟩)

lemma store_holding (config : InterfaceConfig)
    (needed : ∀ range, Readable range →
      (neededPrefixes qt (stored connections config)).count range ≤ tally range)
    (reached : ∀ range ∈ endpoints qt (stored connections config), range ∈ ends) :
    Triple (fun s => Ready tally ends s ∧ s.connections = connections) (storeConnection config)
      (onward (Holding qt (stored connections config) tally ends) (RoutesKept qt)) := by
  rintro s ⟨ready, rfl⟩
  exact ⟨ready.of_standing rfl, rfl, needed, reached⟩

lemma store_again_holding (config : InterfaceConfig) :
    Triple (Holding qt (stored connections config) tally ends) (storeConnection config)
      (onward (Holding qt (stored connections config) tally ends) (RoutesKept qt)) := by
  intro s held
  refine { held with ready := held.ready.of_standing rfl, same := ?_ }
  have again : (perform (storeConnection config) s).2.connections = stored s.connections config := rfl
  rw [again, held.same, stored_again]

lemma bring_up_holding (config : InterfaceConfig) (idle : connections config.hopType = none) :
    Triple (Holding qt connections tally (endpoints qt connections)) (bringUp granted qt config)
      fun _ => RoutesKept qt := by
  intro s holding
  have needed : ∀ range, Readable range →
      (neededPrefixes qt (stored connections config)).count range ≤
        tally range + (excludedPrefixes qt config).count range := by
    intro range readable
    have stores := needed_stored qt connections config range
    simp only [idle, List.count_nil, Nat.add_zero] at stores
    rw [stores]
    exact Nat.add_le_add_right (holding.needed range readable) _
  have steps : Triple (Holding qt connections tally (endpoints qt connections))
      (bringUp granted qt config)
      (onward (Holding qt (stored connections config)
        (fun range => tally range + (excludedPrefixes qt config).count range)
        (serverRanges qt config ++ endpoints qt connections)) (RoutesKept qt)) := by
    refine Triple.steps _ (holding_step qt (keeps_interface_ips granted standing_blind)
      (keeps_interface_ips granted connections_blind.toBlindToResolvers)) ?_
    refine Triple.steps _ (holding_step qt (standing_blind.outcome granted) fun _ => rfl) ?_
    refine Triple.steps _ (exclude_holding qt config) ?_
    refine Triple.steps _ (peer_holding qt config) ?_
    refine Triple.steps _ (holding_step qt (keeps_resolvers granted qt standing_blind config)
      (keeps_resolvers granted qt connections_blind.toBlindToResolvers config)) ?_
    refine Triple.steps _ (holding_step qt (routes_standing granted _) fun _ => rfl) ?_
    refine Triple.steps _ ?_ (Triple.steps _ (holding_step qt (fun _ => rfl) fun _ => rfl)
      Triple.steps_end)
    exact (store_holding qt config needed (endpoints_stored qt connections config)).weaken
      (fun _ held => ⟨held.ready, held.same⟩) fun _ _ after => after
  exact steps.either (fun _ after => after.kept) (fun _ kept => kept) s holding

lemma create_holding (config : InterfaceConfig) (s : State) (kept : RoutesKept qt s) :
    let after := perform (createInterface granted config) s
    after.1 = true ∧ Holding qt s.connections (count s.excludedAddrSet)
      (endpoints qt s.connections) after.2 := by
  rcases kept with ⟨stopped, empty, idle⟩ | ⟨ready, needed⟩
  · obtain ⟨made, running, monitor, -, -⟩ := add_interface_granted config s.system stopped
    have none : ∀ range, count s.excludedAddrSet range = 0 := by simp [empty, count]
    have nowhere : endpoints qt s.connections = [] := by simp [endpoints, idle]
    have nothing : neededPrefixes qt s.connections = [] := by simp [neededPrefixes, idle]
    rw [create_missing granted config stopped, perform_onSystem]
    refine ⟨made, ⟨running, monitor, fun _ _ => rfl, by simp [empty, Live], ?_, ?_⟩, rfl, ?_, ?_⟩
    · exact fun range positive => absurd (none range) (Nat.ne_of_gt positive)
    · simp [nowhere]
    · simp [nothing]
    · exact fun _ member => member
  · rw [create_existing granted config ready.running]
    exact ⟨rfl, ready, rfl, needed, fun _ member => member⟩

lemma establish_kept (config : InterfaceConfig) (s : State) (kept : RoutesKept qt s)
    (idle : s.connections config.hopType = none) :
    RoutesKept qt (perform (establish granted qt config) s).2 := by
  obtain ⟨made, holding⟩ := create_holding qt config s kept
  rw [establish_created granted qt config made]
  exact bring_up_holding qt config idle _ holding

/-! ## Server switches -/

def remaining (s : State) (config last : InterfaceConfig) (range : IPAddress) : Nat :=
  count s.excludedAddrSet range + (excludedPrefixes qt config).count range -
    (releasedPrefixes qt last).count range

/-- No route that the switch takes back is the endpoint of a connection that
stays, and no endpoint it takes back still has a count. -/
def TakesBackUnused (s : State) (config last : InterfaceConfig) : Prop :=
  (∀ range ∈ releasedPrefixes qt last, Readable range → remaining qt s config last range = 0 →
    range ∉ endpoints qt (stored s.connections config)) ∧
  (config.serverPublicKey ≠ last.serverPublicKey →
    ∀ range ∈ serverRanges qt last, Readable range →
      remaining qt s config last range = 0 ∧ range ∉ endpoints qt (stored s.connections config))

lemma release_config_ready (s : State) (config last : InterfaceConfig)
    (unused : TakesBackUnused qt s config last) :
    Triple
      (Ready (fun range => count s.excludedAddrSet range + (excludedPrefixes qt config).count range)
        (endpoints qt (stored s.connections config)))
      (releaseConfig granted qt config last)
      (onward (Ready (remaining qt s config last) (endpoints qt (stored s.connections config)))
        fun _ => False) := by
  have routes : Keeps standing (last.allowedIPAddressRanges.forM fun range =>
      if range ∈ config.allowedIPAddressRanges then return ()
      else discard (onSystem (deleteRoutePrefix granted range))) :=
    Keeps.forM (fun range => (keeps_pure standing ()).ite (keeps_discard (system_standing
      (keeps_prefix_delete granted (fun _ _ => rfl) (fun _ _ => rfl) range)))) _
  refine Triple.bind _ (release_ready qt last unused.1) fun _ => ?_
  refine Triple.bind (fun _ => Ready (remaining qt s config last) _)
    (fun t ready => ready.of_standing (routes t)) fun _ => ?_
  refine Triple.ite (fun _ => Triple.pure fun _ ready => ready) fun other => ?_
  exact drop_peer_ready qt last (unused.2 other)

variable (slash : ∀ text : String, '/' ∈ text.toList → buildAllowedIp (qt.hostAddress text) = false)

include slash in
/-- A readable prefix is taken back at most as often as it was added. -/
lemma released_le_excluded (config : InterfaceConfig) {range : IPAddress}
    (readable : Readable range) :
    (releasedPrefixes qt config).count range ≤ (excludedPrefixes qt config).count range := by
  unfold releasedPrefixes excludedPrefixes
  induction config.excludedAddresses with
  | nil => exact Nat.le_refl _
  | cons text rest ih =>
    simp only [List.map_cons, count_cons_eq]
    refine Nat.add_le_add ?_ ih
    by_cases same : range = IPAddress.ofHostAddress (qt.hostAddress text)
    · have address : (IPAddress.ofHostAddress (qt.hostAddress text)).address = qt.hostAddress text := by
        cases qt.hostAddress text <;> rfl
      have read : buildAllowedIp (qt.hostAddress text) = true := by
        rw [← address, ← same]
        exact readable
      have single : '/' ∉ text.toList := fun slashed => by simp [slash text slashed] at read
      have alike : ReadAlike qt text :=
        single_address_alike qt text single fun null => by simp [null, buildAllowedIp] at read
      rw [alike]
    · rw [if_neg same]
      exact Nat.zero_le _

include slash in
lemma replace_kept (s : State) (config : InterfaceConfig) (current : ConnectionState)
    (kept : RoutesKept qt s) (active : s.connections config.hopType = some current)
    (unused : TakesBackUnused qt s config current.config) :
    RoutesKept qt (perform (replaceServer granted qt config current.config) s).2 := by
  rcases kept with ⟨-, -, idle⟩ | ⟨ready, enough⟩
  · simp [idle] at active
  have holding : Holding qt s.connections (count s.excludedAddrSet) (endpoints qt s.connections) s :=
    ⟨ready, rfl, enough, fun _ member => member⟩
  have needed : ∀ range, Readable range →
      (neededPrefixes qt (stored s.connections config)).count range ≤
        remaining qt s config current.config range := by
    intro range readable
    have stores := needed_stored qt s.connections config range
    have before := enough range readable
    have less := released_le_excluded qt slash current.config readable
    simp only [active] at stores
    simp only [remaining]
    omega
  have released : Triple (Holding qt s.connections
      (fun range => count s.excludedAddrSet range + (excludedPrefixes qt config).count range)
      (serverRanges qt config ++ endpoints qt s.connections))
      (releaseConfig granted qt config current.config)
      (onward (fun t => Ready (remaining qt s config current.config)
        (endpoints qt (stored s.connections config)) t ∧ t.connections = s.connections)
        (RoutesKept qt)) := by
    intro t held
    have fewer : Ready _ (endpoints qt (stored s.connections config)) t :=
      { held.ready with
        endpoints := fun range member =>
          held.ready.endpoints range (endpoints_stored qt s.connections config range member) }
    have after := release_config_ready qt s config current.config unused t fewer
    have same := (keeps_release granted qt connections_blind config current.config t).trans held.same
    revert after
    cases (perform (releaseConfig granted qt config current.config) t).1 with
    | true => exact fun after => ⟨after, same⟩
    | false => exact False.elim
  have switched : Triple
      (Holding qt s.connections (count s.excludedAddrSet) (endpoints qt s.connections))
      (switchServer granted qt config current.config)
      (onward (Holding qt (stored s.connections config) (remaining qt s config current.config)
        (endpoints qt (stored s.connections config))) (RoutesKept qt)) := by
    refine Triple.steps _ (exclude_holding qt config) ?_
    refine Triple.steps _ (peer_holding qt config) ?_
    refine Triple.steps _ (holding_step qt (keeps_then_true (keeps_discard
      (routes_standing granted config.allowedIPAddressRanges))) fun _ => rfl) ?_
    refine Triple.steps _ released ?_
    exact Triple.steps _ (store_holding qt config needed fun _ member => member) Triple.steps_end
  have whole : Triple
      (Holding qt s.connections (count s.excludedAddrSet) (endpoints qt s.connections))
      (replaceServer granted qt config current.config)
      (onward (Holding qt (stored s.connections config) (remaining qt s config current.config)
        (endpoints qt (stored s.connections config))) (RoutesKept qt)) := by
    refine Triple.steps _ switched ?_
    refine Triple.steps _ (holding_step qt (keeps_restore standing_blind) fun _ => rfl) ?_
    refine Triple.steps _ (holding_step qt (keeps_resolvers granted qt standing_blind config)
      (keeps_resolvers granted qt connections_blind.toBlindToResolvers config)) ?_
    refine Triple.steps _ (store_again_holding qt config) ?_
    exact Triple.steps _ (holding_step qt (fun _ => rfl) fun _ => rfl) Triple.steps_end
  exact whole.either (fun _ after => after.kept) (fun _ kept => kept) s holding

end Steps

/-! ## Whole runs -/

/-- Every endpoint and every excluded prefix of an active connection has its
route, if there can be one. -/
def ExclusionsPresent (s : State) : Prop :=
  ∀ hop c, s.connections hop = some c →
    ∀ range ∈ serverRanges qt c.config ++ excludedPrefixes qt c.config, Readable range →
      range ∈ s.system.exclusionRoutes

def SwitchesCleanly (s : State) : Call → Prop
  | .activate config => ∀ last ∈ switchedFrom s config, TakesBackUnused qt s config last
  | .deactivate _ => True

instance (s : State) (config last : InterfaceConfig) : Decidable (TakesBackUnused qt s config last) :=
  inferInstanceAs (Decidable (_ ∧ _))

instance (s : State) : ∀ call, Decidable (SwitchesCleanly qt s call)
  | .deactivate _ => isTrue trivial
  | .activate config =>
    inferInstanceAs (Decidable (∀ last ∈ switchedFrom s config, TakesBackUnused qt s config last))

lemma kept_present {s : State} (kept : RoutesKept qt s) : ExclusionsPresent qt s := by
  intro hop c held range member readable
  have listed : hop ∈ hops := by cases hop <;> decide
  rcases kept with ⟨-, -, idle⟩ | ⟨ready, needed⟩
  · simp [idle] at held
  · rcases List.mem_append.mp member with endpoint | excluded
    · exact ready.endpoints range (List.mem_flatMap.mpr ⟨hop, listed, by simpa [held] using endpoint⟩)
        readable
    · have occurs : range ∈ neededPrefixes qt s.connections :=
        List.mem_flatMap.mpr ⟨hop, listed, by simpa [held] using excluded⟩
      have positive := Nat.lt_of_lt_of_le (List.count_pos_iff.mpr occurs) (needed range readable)
      exact ready.counted readable positive

lemma deactivate_kept (emitSignals : Bool) (s : State) :
    RoutesKept qt (perform (deactivate granted qt emitSignals) s).2 := by
  exact Or.inl ⟨(delete_interface_stops _).1, rfl, fun _ => rfl⟩

variable (slash : ∀ text : String, '/' ∈ text.toList → buildAllowedIp (qt.hostAddress text) = false)

include slash

lemma step_routes_kept (s : State) (call : Call) (kept : RoutesKept qt s)
    (cleanly : SwitchesCleanly qt s call) : RoutesKept qt (step granted qt s call) := by
  cases call with
  | deactivate emitSignals => exact deactivate_kept qt emitSignals s
  | activate config =>
    refine activate_keeps granted qt (RoutesKept qt) config s ?_
      (fun t idle held => establish_kept qt config t held idle)
      (fun _ => deactivate_kept qt false s) ?_ kept
    · rintro t (stopped | ⟨ready, needed⟩)
      · exact Or.inl stopped
      · exact Or.inr ⟨ready.of_standing rfl, needed⟩
    · intro current active switches
      have unused := cleanly current.config (by simp [switchedFrom, active, switches])
      exact replace_kept qt slash s config current kept active unused

/-- In a run whose switches take back only what is unused, the exclusion routes
of the active connections stay installed. A text with a slash is no address. -/
theorem exclusion_routes_present (killSwitch : KillSwitch.State) (calls : List Call)
    (cleanly : Guarded (step granted qt) (SwitchesCleanly qt) (created killSwitch) calls) (s : State)
    (visited : Visits (step granted qt) (created killSwitch) calls s) : ExclusionsPresent qt s := by
  have start : RoutesKept qt (created killSwitch) := Or.inl ⟨rfl, rfl, fun _ => rfl⟩
  exact kept_present qt
    (guarded_invariant (step_routes_kept qt slash) _ calls start cleanly s visited)

omit slash

/-! A server that changes its key, or only its exclusions. -/

def keyedServer (key : String) (excludedAddresses : List String) : InterfaceConfig :=
  { serverPublicKey := key, serverIpv4AddrIn := some "203.0.113.5", excludedAddresses }

theorem same_key_keeps_route :
    ExclusionsPresent networkQt (run (step granted networkQt) (created noKillSwitch)
      [.activate (keyedServer "first" ["10.0.0.0/8"]), .activate (keyedServer "first" [])]) := by
  refine exclusion_routes_present networkQt ?_ noKillSwitch _ (by decide) _ (visits_last _ _ _)
  intro text slashed
  have other : text ≠ "203.0.113.5" := by
    rintro rfl
    revert slashed
    decide
  simp [networkQt, other, buildAllowedIp]

/-- The old peer takes the route of the address it shares with the new one. -/
theorem new_key_loses_route :
    ¬ ExclusionsPresent networkQt (run (step granted networkQt) (created noKillSwitch)
      [.activate (keyedServer "first" []), .activate (keyedServer "second" [])]) := by
  intro present
  have route := present .singleHop _ rfl (IPAddress.ofString networkQt "203.0.113.5")
    (by decide) (by decide)
  revert route
  decide

end AbstractumVpn.Daemon
