import AbstractumVpn.IpRangeSet
import AbstractumVpn.NestedRules
import AbstractumVpn.Subnets

/-!
The routes that `ProtocolConfig` makes of what a protocol adds and the
split-tunnel settings. From Android Tiramisu on the system takes routes to
include and to exclude, and the longest prefix decides; of two routes for one
network the later one counts. Before it the list is worked through in its order
to get the subnets that remain. The sets of addresses have the order of the
lists here.
-/

namespace AbstractumVpn.Android.ProtocolConfig

open NestedRules IpRangeSet

structure Route where
  inetNetwork : InetNetwork
  included : Bool
  deriving DecidableEq

structure Builder where
  routes : List Route
  includedAddresses : List InetNetwork
  excludedAddresses : List InetNetwork

inductive Thrown where
  | badConfig (message : String)
  | failure (failure : Failure)

def ipv4DefaultRoute : InetNetwork :=
  ⟨⟨[0, 0, 0, 0], by decide⟩, 0, by decide⟩

def ipv6DefaultRoute : InetNetwork :=
  ⟨⟨[0, 0, 0, 0, 0, 0, 0, 0, 0, 0, 0, 0, 0, 0, 0, 0], by decide⟩, 0, by decide⟩

def ipv6GlobalRoute : InetNetwork :=
  ⟨⟨[0x20, 0, 0, 0, 0, 0, 0, 0, 0, 0, 0, 0, 0, 0, 0, 0], by decide⟩, 3, by decide⟩

def ipv4Loopback : InetNetwork :=
  ⟨⟨[127, 0, 0, 0], by decide⟩, 8, by decide⟩

def ipv6Loopback : InetNetwork :=
  ⟨⟨[0, 0, 0, 0, 0, 0, 0, 0, 0, 0, 0, 0, 0, 0, 0, 1], by decide⟩, 128, by decide⟩

/-! ## The builder -/

def add (routes : List Route) (route : Route) : List Route :=
  if route ∈ routes then routes else routes ++ [route]

def addAll (routes added : List Route) : List Route := added.foldl add routes

def addRoute (network : InetNetwork) (routes : List Route) : List Route :=
  add routes ⟨network, true⟩

def addRoutes (networks : List InetNetwork) (routes : List Route) : List Route :=
  addAll routes (networks.map fun network => ⟨network, true⟩)

def excludeRoutes (networks : List InetNetwork) (routes : List Route) : List Route :=
  addAll routes (networks.map fun network => ⟨network, false⟩)

def removeRoute (network : InetNetwork) (routes : List Route) : List Route :=
  routes.filter (·.inetNetwork ≠ network)

def prependRoutes (block : List Route → List Route) (savedRoutes : List Route) : List Route :=
  addAll (block []) savedRoutes

def splitRoutes (builder : Builder) : List Route :=
  if builder.includedAddresses ≠ [] then
    prependRoutes (addRoutes builder.includedAddresses)
      (removeRoute ipv6GlobalRoute
        (removeRoute ipv6DefaultRoute (removeRoute ipv4DefaultRoute builder.routes)))
  else if builder.excludedAddresses ≠ [] then
    prependRoutes
      (fun routes => excludeRoutes builder.excludedAddresses
        (addRoute ipv6GlobalRoute (addRoute ipv4DefaultRoute routes)))
      builder.routes
  else builder.routes

def processSplitTunneling (builder : Builder) : Except Thrown (List Route) :=
  if builder.includedAddresses ≠ [] ∧ builder.excludedAddresses ≠ [] then
    .error (.badConfig
      "Config contains addresses for inclusive and exclusive split tunneling at the same time")
  else .ok (splitRoutes builder)

def replaceIpv6Default (routes : List Route) : List Route :=
  if ⟨ipv6DefaultRoute, true⟩ ∈ routes then
    prependRoutes (addRoute ipv6GlobalRoute)
      (routes.filter (· ≠ ⟨ipv6DefaultRoute, true⟩))
  else routes

def operation (route : Route) : Operation :=
  if route.included then .add (.ofNetwork route.inetNetwork)
  else .remove (.ofNetwork route.inetNetwork)

def flatten (routes : List Route) : Except Failure (List Route) := do
  let ipRangeSet ← applyAll (routes.map operation ++
    [.remove (.ofNetwork ipv4Loopback), .remove (.ofNetwork ipv6Loopback)])
  let subnets ← ipRangeSet.mapM IpRange.subnets
  return subnets.flatten.foldl (fun routes network => addRoute network routes) []

def isLoopbackRoute (route : Route) : Bool :=
  route.included &&
    if route.inetNetwork.address.size = 4 then route.inetNetwork.address.address.head? == some 127
    else decide (route.inetNetwork = ipv6Loopback)

def processRoutes (tiramisu : Bool) (routes : List Route) : Except Failure (List Route) := do
  let routes := replaceIpv6Default routes
  let routes ←
    if !tiramisu && routes.any (!·.included) then flatten routes else pure routes
  return routes.filter (!isLoopbackRoute ·)

/-- The routes before `validate`. -/
def processed (tiramisu : Bool) (builder : Builder) : Except Thrown (List Route) := do
  let routes ← processSplitTunneling builder
  (processRoutes tiramisu routes).mapError .failure

/-- The tests for the address and the MTU have nothing to do with the routes. -/
def validate (routes : List Route) : Except Thrown (List Route) :=
  if routes = [] then .error (.badConfig "VPN interface route not specified.\n") else .ok routes

def configBuild (tiramisu : Bool) (builder : Builder) : Except Thrown (List Route) := do
  validate (← processed tiramisu builder)

/-! ## What is routed -/

def networks : Nesting InetNetwork IpAddress where
  covers network ip := network.contains ip
  rank network := network.mask
  within inner outer := decide (outer.mask ≤ inner.mask) && outer.contains inner.address
  covers_of_within := by
    intro inner outer ip inside covered
    rw [Bool.and_eq_true, decide_eq_true_iff] at inside
    exact InetNetwork.contains_nested inside.2 inner.contains_address inside.1 ip covered
  within_of_rank := by
    intro inner outer ip in_inner in_outer shorter
    rw [Bool.and_eq_true, decide_eq_true_iff]
    exact ⟨shorter, InetNetwork.contains_nested in_outer in_inner shorter _ inner.contains_address⟩

def rules (routes : List Route) : List (Rule InetNetwork) :=
  routes.map fun route => (route.inetNetwork, route.included)

def Routed (routes : List Route) (ip : IpAddress) : Prop :=
  closest networks.rank (networks.covers · ip) (rules routes) = some true

instance (routes : List Route) (ip : IpAddress) : Decidable (Routed routes ip) :=
  inferInstanceAs (Decidable (_ = _))

def Loopback (ip : IpAddress) : Prop :=
  ipv4Loopback.contains ip = true ∨ ipv6Loopback.contains ip = true

instance (ip : IpAddress) : Decidable (Loopback ip) := inferInstanceAs (Decidable (_ ∨ _))

def listed (builder : Builder) : List Route := replaceIpv6Default (splitRoutes builder)

def kept (builder : Builder) : List Route := (listed builder).filter (!isLoopbackRoute ·)

def Excludes (builder : Builder) : Prop := ∃ route ∈ listed builder, route.included = false

/-- What is routed with the subnets and with the list. Where nothing is excluded,
no subnets are made and both versions have the list. -/
structure Exact (builder : Builder) (old new : List Route) : Prop where
  agree : ∀ ip, ¬ Loopback ip → (Routed old ip ↔ Routed new ip)
  loopback : Excludes builder → ∀ ip, Loopback ip → ¬ Routed old ip
  excluded : ∀ network ∈ builder.excludedAddresses, ∀ ip, network.contains ip = true →
    Routed old ip → ∃ route ∈ listed builder, route.included = true ∧
      route.inetNetwork.contains ip = true ∧ network.mask < route.inetNetwork.mask

/-- Some address that is not a loopback one has no closer route. -/
def OwnGround (builder : Builder) (network : InetNetwork) : Prop :=
  ∃ ip, ¬ Loopback ip ∧ Ground networks (rules (listed builder)) network ip

/-- Among the routes around a route that has addresses of its own, the last one
and the closest one decide alike, and an excluded address is included again only
by a longer prefix. -/
structure Consistent (builder : Builder) : Prop where
  order : Excludes builder → ∀ route ∈ listed builder, OwnGround builder route.inetNetwork →
    (last (networks.within route.inetNetwork) (rules (listed builder)) = some true ↔
      closest networks.rank (networks.within route.inetNetwork) (rules (kept builder)) = some true)
  longer : ∀ network ∈ builder.excludedAddresses, ∀ route ∈ listed builder,
    networks.within route.inetNetwork network = true → OwnGround builder route.inetNetwork →
    last (networks.within route.inetNetwork) (rules (listed builder)) = some true →
    ∃ other ∈ listed builder, other.included = true ∧
      networks.within route.inetNetwork other.inetNetwork = true ∧
      network.mask < other.inetNetwork.mask

/-! ## The subnets -/

variable (routes : List Route)

lemma mem_addAll (added : List Route) (route : Route) :
    route ∈ addAll routes added ↔ route ∈ routes ∨ route ∈ added := by
  induction added generalizing routes with
  | nil => simp [addAll]
  | cons first rest ih =>
    have added : route ∈ add routes first ↔ route ∈ routes ∨ route = first := by
      unfold add
      split
      · constructor
        · exact Or.inl
        · rintro (present | rfl)
          · exact present
          · assumption
      · simp
    change route ∈ addAll (add routes first) rest ↔ _
    rw [ih, added, List.mem_cons, or_assoc]

lemma rules_append (route : Route) :
    rules (routes ++ [route]) = rules routes ++ [(route.inetNetwork, route.included)] := by
  simp [rules]

/-- An address is left after the operations of a list if and only if the last
route for it is an included one. -/
lemma mem_operations (ip : IpAddress) :
    ip ∈ (routes.map operation).foldl plain ∅ ↔
      last (networks.covers · ip) (rules routes) = some true := by
  induction routes using List.reverseRecOn with
  | nil => simp [rules, last]
  | append_singleton routes route ih =>
    rw [List.map_append, List.foldl_append, rules_append, last_append]
    have covered : networks.covers route.inetNetwork ip = true ↔
        ip ∈ (IpRange.ofNetwork route.inetNetwork).addresses :=
      route.inetNetwork.contains_iff_range ip
    cases kind : route.included with
    | true =>
      simp only [List.map_cons, List.map_nil, List.foldl_cons, List.foldl_nil, operation, kind,
        plain, Set.mem_union, ← covered, if_true]
      split <;> simp [*]
    | false =>
      simp only [List.map_cons, List.map_nil, List.foldl_cons, List.foldl_nil, operation, kind,
        plain, Set.mem_sdiff, ← covered, Bool.false_eq_true, if_false]
      split <;> simp [*]

lemma subnets_of_ranges (ranges : List IpRange) :
    ∃ subnets, ranges.mapM IpRange.subnets = .ok subnets ∧
      ∀ ip, (∃ network ∈ subnets.flatten, network.contains ip = true) ↔ ip ∈ addresses ranges := by
  induction ranges with
  | nil => exact ⟨[], rfl, by simp [addresses]⟩
  | cons range rest ih =>
    obtain ⟨here, made, covers⟩ := range.subnets_cover
    obtain ⟨later, finished, covered⟩ := ih
    refine ⟨here :: later, by rw [List.mapM_cons, made, finished]; rfl, fun ip => ?_⟩
    have split : ip ∈ addresses (range :: rest) ↔
        ip ∈ range.addresses ∨ ip ∈ addresses rest := by
      simp [addresses]
    rw [split, ← covers ip, ← covered ip, List.flatten_cons]
    simp only [List.mem_append, or_and_right, exists_or]

lemma flatten_covers :
    ∃ flat, flatten routes = .ok flat ∧ (∀ route ∈ flat, route.included = true) ∧
      ∀ ip, (∃ route ∈ flat, route.inetNetwork.contains ip = true) ↔
        last (networks.covers · ip) (rules routes) = some true ∧ ¬ Loopback ip := by
  obtain ⟨ranges, applied, -, meaning⟩ := apply_run (routes.map operation ++
    [.remove (.ofNetwork ipv4Loopback), .remove (.ofNetwork ipv6Loopback)]) [] List.Pairwise.nil
  obtain ⟨subnets, made, covers⟩ := subnets_of_ranges ranges
  have mem : ∀ route, route ∈ addRoutes subnets.flatten [] ↔
      ∃ network ∈ subnets.flatten, ⟨network, true⟩ = route := by
    intro route
    rw [addRoutes, mem_addAll, List.mem_map]
    simp
  refine ⟨addRoutes subnets.flatten [], ?_, ?_, fun ip => ?_⟩
  · have fold : subnets.flatten.foldl (fun routes network => addRoute network routes) [] =
        addRoutes subnets.flatten [] := by
      rw [addRoutes, addAll, List.foldl_map]
      rfl
    rw [flatten, applyAll, applied, ← fold]
    change (do let subnets ← ranges.mapM IpRange.subnets; _) = _
    rw [made]
    rfl
  · intro route member
    obtain ⟨network, -, rfl⟩ := (mem route).mp member
    rfl
  · have empty : addresses [] = ∅ := by simp [addresses]
    have meaning_ip : ip ∈ addresses ranges ↔
        last (networks.covers · ip) (rules routes) = some true ∧ ¬ Loopback ip := by
      rw [meaning, List.foldl_append, empty]
      simp [plain, mem_operations, Loopback,
        InetNetwork.contains_iff_range, and_assoc]
    rw [← meaning_ip, ← covers ip]
    constructor
    · rintro ⟨route, member, contained⟩
      obtain ⟨network, listed, rfl⟩ := (mem route).mp member
      exact ⟨network, listed, contained⟩
    · rintro ⟨network, listed, contained⟩
      exact ⟨⟨network, true⟩, (mem _).mpr ⟨network, listed, rfl⟩, contained⟩

lemma first_byte_value (bytes : List UInt8) (size : bytes.length = 4) (byte : UInt8)
    (first : bytes.head? = some byte) : BigEndian.value bytes / 2 ^ 24 = byte.toNat := by
  match bytes, size, first with
  | [a, b, c, d], _, first =>
    cases first
    have := b.toNat_lt
    have := c.toNat_lt
    have := d.toNat_lt
    simp only [BigEndian.value, List.reverse_cons, List.reverse_nil, List.nil_append,
      List.cons_append, BigEndian.little, List.map_cons, List.map_nil, Nat.ofDigits_cons,
      Nat.ofDigits_nil]
    omega

/-- A route that the last filter drops is one to a loopback address. -/
lemma loopback_of_route (route : Route) (dropped : isLoopbackRoute route = true) :
    Loopback route.inetNetwork.address := by
  rw [isLoopbackRoute, Bool.and_eq_true] at dropped
  obtain ⟨-, dropped⟩ := dropped
  split at dropped
  · rename_i size
    left
    rw [InetNetwork.contains_iff]
    exact ⟨size, first_byte_value _ size 127 (beq_iff_eq.mp dropped)⟩
  · right
    rw [decide_eq_true_iff.mp dropped]
    exact ipv6Loopback.contains_address

section Versions

variable {builder : Builder}
  (one_mode : builder.includedAddresses = [] ∨ builder.excludedAddresses = [])

include one_mode

lemma split_ok : processSplitTunneling builder = .ok (splitRoutes builder) := by
  rw [processSplitTunneling, if_neg]
  rintro ⟨some_included, some_excluded⟩
  exact one_mode.elim some_included some_excluded

lemma build_new : processed true builder = .ok (kept builder) := by
  rw [processed, split_ok one_mode]
  rfl

lemma build_old_plain (nothing : ¬ Excludes builder) : processed false builder = .ok (kept builder) := by
  have none_excluded : (listed builder).any (!·.included) = false := by
    rw [List.any_eq_false]
    intro route member excluded
    exact nothing ⟨route, member, by simpa using excluded⟩
  rw [listed] at none_excluded
  rw [processed, split_ok one_mode]
  change (processRoutes false (splitRoutes builder)).mapError _ = _
  rw [processRoutes, none_excluded]
  rfl

/-- The filter at the end keeps every subnet, for the loopback addresses are gone. -/
lemma build_old_flat (some_excluded : Excludes builder) :
    ∃ flat, processed false builder = .ok flat ∧ ∀ ip, Routed flat ip ↔
      last (networks.covers · ip) (rules (listed builder)) = some true ∧ ¬ Loopback ip := by
  obtain ⟨flat, made, uniform, covers⟩ := flatten_covers (listed builder)
  have all_kept : flat.filter (!isLoopbackRoute ·) = flat := by
    rw [List.filter_eq_self]
    intro route member
    rw [Bool.not_eq_true', Bool.eq_false_iff]
    intro dropped
    have own := (covers _).mp ⟨route, member, route.inetNetwork.contains_address⟩
    exact own.2 (loopback_of_route route dropped)
  have any_excluded : (listed builder).any (!·.included) = true := by
    obtain ⟨route, member, excluded⟩ := some_excluded
    exact List.any_eq_true.mpr ⟨route, member, by simp [excluded]⟩
  refine ⟨flat, ?_, fun ip => ?_⟩
  · rw [listed] at any_excluded made
    rw [processed, split_ok one_mode]
    change (processRoutes false (splitRoutes builder)).mapError _ = _
    rw [processRoutes, any_excluded]
    change (do let routes ← flatten _; _ : Except Failure _).mapError _ = _
    rw [made]
    exact congrArg Except.ok all_kept
  · rw [← covers, Routed, closest_uniform]
    · simp [rules, networks]
    · intro rule member
      obtain ⟨route, inside, rfl⟩ := List.mem_map.mp member
      exact uniform route inside

lemma excluded_listed {network : InetNetwork} (member : network ∈ builder.excludedAddresses) :
    ⟨network, false⟩ ∈ listed builder := by
  have some_excluded : builder.excludedAddresses ≠ [] := List.ne_nil_of_mem member
  have none_included : builder.includedAddresses = [] := one_mode.resolve_right some_excluded
  have split : ⟨network, false⟩ ∈ splitRoutes builder := by
    simp only [splitRoutes, none_included, ne_eq, not_true_eq_false, if_false, some_excluded,
      not_false_eq_true, if_true, prependRoutes, excludeRoutes, mem_addAll]
    left
    right
    exact List.mem_map_of_mem member
  unfold listed replaceIpv6Default
  split
  · rw [prependRoutes, mem_addAll]
    right
    exact List.mem_filter.mpr ⟨split, by simp⟩
  · exact split

end Versions

lemma mem_rules {routes : List Route} {route : Route} (member : route ∈ routes) :
    (route.inetNetwork, route.included) ∈ rules routes :=
  List.mem_map_of_mem member

section Flat

variable {builder : Builder} {flat : List Route}
  (covers : ∀ ip, Routed flat ip ↔
    last (networks.covers · ip) (rules (listed builder)) = some true ∧ ¬ Loopback ip)

include covers

lemma agree_iff_order :
    (∀ ip, ¬ Loopback ip → (Routed flat ip ↔ Routed (kept builder) ip)) ↔
    ∀ route ∈ listed builder, OwnGround builder route.inetNetwork →
      (last (networks.within route.inetNetwork) (rules (listed builder)) = some true ↔
        closest networks.rank (networks.within route.inetNetwork) (rules (kept builder)) =
          some true) := by
  have sublist : ∀ rule ∈ rules (kept builder), rule ∈ rules (listed builder) := by
    intro rule member
    obtain ⟨route, inside, rfl⟩ := List.mem_map.mp member
    exact mem_rules (List.mem_of_mem_filter inside)
  have general := agree_iff networks (rules (listed builder)) (rules (kept builder)) sublist
    (fun ip => ¬ Loopback ip)
  have agree : (∀ ip, ¬ Loopback ip → (Routed flat ip ↔ Routed (kept builder) ip)) ↔
      ∀ ip, ¬ Loopback ip →
        (last (networks.covers · ip) (rules (listed builder)) = some true ↔
          Routed (kept builder) ip) := by
    refine forall₂_congr fun ip outside => ?_
    rw [covers, and_iff_left outside]
  rw [agree]
  apply general.trans
  constructor
  · intro around route member own
    exact around (route.inetNetwork, route.included) (mem_rules member) own
  · intro around rule member
    obtain ⟨route, inside, rfl⟩ := List.mem_map.mp member
    exact around route inside

lemma excluded_iff_longer (network : InetNetwork) (excluded : ⟨network, false⟩ ∈ listed builder) :
    (∀ ip, network.contains ip = true → Routed flat ip →
      ∃ route ∈ listed builder, route.included = true ∧
        route.inetNetwork.contains ip = true ∧ network.mask < route.inetNetwork.mask) ↔
    ∀ route ∈ listed builder, networks.within route.inetNetwork network = true →
      OwnGround builder route.inetNetwork →
      last (networks.within route.inetNetwork) (rules (listed builder)) = some true →
      ∃ other ∈ listed builder, other.included = true ∧
        networks.within route.inetNetwork other.inetNetwork = true ∧
        network.mask < other.inetNetwork.mask := by
  constructor
  · rintro longer route - inside ⟨ip, outside, ground⟩ decided
    rw [← last_ground ground] at decided
    obtain ⟨other, member, kind, contained, mask⟩ :=
      longer ip (networks.covers_of_within inside ground.1) ((covers ip).mpr ⟨decided, outside⟩)
    refine ⟨other, member, kind, ?_, mask⟩
    exact (covers_ground ground (mem_rules member)).symm.trans contained
  · intro longer ip contained routed
    obtain ⟨decided, outside⟩ := (covers ip).mp routed
    have covered : networks.covers network ip = true := contained
    obtain ⟨chosen, found, ground⟩ := exists_ground (mem_rules excluded) covered
    obtain ⟨route, member, rfl⟩ := List.mem_map.mp found
    have inside : networks.within route.inetNetwork network = true :=
      (covers_ground ground (mem_rules excluded)).symm.trans covered
    rw [last_ground ground] at decided
    obtain ⟨other, listed, kind, around, mask⟩ :=
      longer route member inside ⟨ip, outside, ground⟩ decided
    exact ⟨other, listed, kind, networks.covers_of_within around ground.1, mask⟩

end Flat

/-- Both versions build, and the subnets route what the list does if and only if
the order of the list says the same as the prefixes. -/
theorem flattening_exact_iff (builder : Builder)
    (one_mode : builder.includedAddresses = [] ∨ builder.excludedAddresses = []) :
    ∃ old new, processed false builder = .ok old ∧ processed true builder = .ok new ∧
      (Exact builder old new ↔ Consistent builder) := by
  by_cases some_excluded : Excludes builder
  · obtain ⟨flat, made, covers⟩ := build_old_flat one_mode some_excluded
    refine ⟨flat, kept builder, made, build_new one_mode, ?_⟩
    have order := agree_iff_order covers
    constructor
    · intro exact
      constructor
      · intro _
        exact order.mp exact.agree
      · intro network member
        apply (excluded_iff_longer covers network (excluded_listed one_mode member)).mp
        exact exact.excluded network member
    · intro consistent
      constructor
      · exact order.mpr (consistent.order some_excluded)
      · intro _ ip inside routed
        exact ((covers ip).mp routed).2 inside
      · intro network member
        apply (excluded_iff_longer covers network (excluded_listed one_mode member)).mpr
        exact consistent.longer network member
  · -- no subnets are made, and no address is excluded either
    have none_excluded : ∀ network, network ∉ builder.excludedAddresses := by
      intro network member
      exact some_excluded ⟨_, excluded_listed one_mode member, rfl⟩
    refine ⟨kept builder, kept builder, build_old_plain one_mode some_excluded,
      build_new one_mode, iff_of_true ?_ ?_⟩
    · exact ⟨fun _ _ => Iff.rfl, fun some => absurd some some_excluded,
        fun network member => absurd member (none_excluded network)⟩
    · exact ⟨fun some => absurd some some_excluded,
        fun network member => absurd member (none_excluded network)⟩

/-- A full tunnel with the local network excluded by the user. -/
def lanExcluded : Builder where
  routes := [⟨ipv4DefaultRoute, true⟩, ⟨ipv6DefaultRoute, true⟩]
  includedAddresses := []
  excludedAddresses := [⟨⟨[192, 168, 0, 0], by decide⟩, 16, by decide⟩]

theorem lan_excluded_exact :
    ∃ old new, processed false lanExcluded = .ok old ∧ processed true lanExcluded = .ok new ∧
      Exact lanExcluded old new := by
  obtain ⟨old, new, built_old, built_new, exact_iff⟩ :=
    flattening_exact_iff lanExcluded (Or.inl rfl)
  refine ⟨old, new, built_old, built_new, exact_iff.mpr ?_⟩
  have order : ∀ route ∈ listed lanExcluded,
      (last (networks.within route.inetNetwork) (rules (listed lanExcluded)) = some true ↔
        closest networks.rank (networks.within route.inetNetwork) (rules (kept lanExcluded)) =
          some true) := by
    decide +kernel
  have none_included : ∀ network ∈ lanExcluded.excludedAddresses, ∀ route ∈ listed lanExcluded,
      networks.within route.inetNetwork network = true →
      last (networks.within route.inetNetwork) (rules (listed lanExcluded)) ≠ some true := by
    decide +kernel
  constructor
  · intro _ route member _
    exact order route member
  · intro network excluded route member inside _ decided
    exact absurd decided (none_included network excluded route member inside)

/-- The server excludes itself and then pushes a default route and one to its own
network, in which the user has excluded an address. -/
def pushedNetwork : Builder where
  routes := [⟨⟨⟨[203, 0, 113, 5], by decide⟩, 32, by decide⟩, false⟩, ⟨ipv4DefaultRoute, true⟩,
    ⟨⟨⟨[10, 0, 0, 0], by decide⟩, 8, by decide⟩, true⟩]
  includedAddresses := []
  excludedAddresses := [⟨⟨[10, 1, 2, 3], by decide⟩, 32, by decide⟩]

/-- The split-tunnel exclusions come first in the list, so the pushed route adds
the address again. The longest prefix leaves it out. -/
theorem pushed_network_covers_exclusion :
    ∃ old new, processed false pushedNetwork = .ok old ∧ processed true pushedNetwork = .ok new ∧
      ∃ network ∈ pushedNetwork.excludedAddresses, ∃ ip, network.contains ip = true ∧
        ¬ Loopback ip ∧ Routed old ip ∧ ¬ Routed new ip ∧
        ∀ route ∈ listed pushedNetwork, route.included = true →
          route.inetNetwork.contains ip = true → route.inetNetwork.mask < network.mask := by
  have one_mode : pushedNetwork.includedAddresses = [] ∨ pushedNetwork.excludedAddresses = [] :=
    Or.inl rfl
  obtain ⟨old, built, routed⟩ := build_old_flat one_mode ⟨_, excluded_listed one_mode
    (List.mem_cons_self), rfl⟩
  refine ⟨old, kept pushedNetwork, built, build_new one_mode, _, List.mem_cons_self,
    ⟨[10, 1, 2, 3], by decide⟩, by decide +kernel, by decide +kernel, ?_, by decide +kernel,
    by decide +kernel⟩
  rw [routed]
  constructor
  · decide +kernel
  · decide +kernel

end AbstractumVpn.Android.ProtocolConfig
