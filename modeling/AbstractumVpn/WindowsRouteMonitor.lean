import AbstractumVpn.Addresses
import AbstractumVpn.AssocList
import AbstractumVpn.DataStream
import AbstractumVpn.Runs

/-!
`WindowsRouteMonitor`: routes around the tunnel for excluded addresses, and
capture of the routes that are more specific than the default route by copies of
them that lead into the tunnel. All calls of the system succeed here. `rows` are
the rows of the routing table that the monitor did not make. The age field of a
copy counts the rows it stands for while the table is scanned.
-/

namespace AbstractumVpn.WindowsRouteMonitor

open AssocList BigEndian

deriving instance DecidableEq for Net

structure Row where
  interfaceLuid : Nat
  destination : Net
  nextHop : Ip
  metric : Nat
  protocol : Nat
  deriving DecidableEq

structure InterfaceRow where
  interfaceLuid : Nat
  family : Family
  connected : Bool
  metric : Nat

def mibIpprotoNetmgmt : Nat := 3

def exclusionRouteMetric : Nat := 0x5e72

def ulongMax : Nat := 0xffffffff

structure Hop where
  interfaceLuid : Nat
  nextHop : Ip
  deriving DecidableEq

structure State where
  defaultRouteCapture : Bool
  exclusionRoutes : List (Net × Hop)
  clonedRoutes : List (Net × Nat)
  interfaceMetricsIpv4 : List (Nat × Nat)
  interfaceMetricsIpv6 : List (Nat × Nat)
  rows : List Row
  interfaces : List InterfaceRow

def anyAddress : Family → Ip
  | .ipv4 => .v4 0
  | .ipv6 => .v6 0

def cloneRow (luid : Nat) (destination : Net) : Row :=
  ⟨luid, destination, anyAddress destination.base.family, 0, mibIpprotoNetmgmt⟩

def exclusionRow (destination : Net) (hop : Hop) : Row :=
  ⟨hop.interfaceLuid, destination, hop.nextHop, exclusionRouteMetric, mibIpprotoNetmgmt⟩

/-! ## Addresses -/

def nonRouteableV4 (bits : BitVec 32) : Bool :=
  bits >>> 24 == 127 || bits == 0xffffffff#32 || bits >>> 16 == 0xa9fe || bits >>> 28 == 0xe

/-- `isLoopback() || isBroadcast() || isLinkLocal() || isMulticast()`. An IPv4
address mapped into IPv6 is classified as the IPv4 address. -/
def nonRouteable : Ip → Bool
  | .v4 bits => nonRouteableV4 bits
  | .v6 bits =>
    if bits >>> 32 == 0xffff then nonRouteableV4 (bits.setWidth 32)
    else bits == 1 || bits >>> 118 == 0x3fa || bits >>> 120 == 0xff

def octets : Ip → List UInt8
  | .v4 bits => DataStream.writeNumber 4 bits.toNat
  | .v6 bits => DataStream.writeNumber 16 bits.toNat

def prefixcmp (a b : List UInt8) (bits : Nat) : Int :=
  let bytes := bits / 8
  -- `memcmp`
  let diff := compareBytes (a.take bytes) (b.take bytes)
  if bytes > 0 ∧ diff ≠ 0 then diff
  else if bits % 8 ≠ 0 then
    let avalue := (a.getD bytes 0).toNat >>> (8 - bits % 8)
    let bvalue := (b.getD bytes 0).toNat >>> (8 - bits % 8)
    (avalue : Int) - bvalue
  else 0

def routeContainsDest (route dest : Net) : Bool :=
  route.base.family == dest.base.family && route.length ≤ dest.length &&
    prefixcmp (octets route.base) (octets dest.base) route.length == 0

lemma routeContainsDest_family {route dest : Net} (inside : routeContainsDest route dest = true) :
    route.base.family = dest.base.family := by
  simp only [routeContainsDest, Bool.and_eq_true, beq_iff_eq] at inside
  exact inside.1.1

/-! ## The tables -/

variable (luid : Nat)

def forwardTable (family : Option Family) (s : State) : List Row :=
  (s.rows ++ s.clonedRoutes.map (fun entry => cloneRow luid entry.1) ++
    (s.exclusionRoutes.filter (·.2.interfaceLuid ≠ 0)).map
      (fun entry => exclusionRow entry.1 entry.2)).filter
    fun row => family.all (· == row.destination.base.family)

def interfaceMetrics (family : Family) (s : State) : List (Nat × Nat) :=
  s.interfaces.foldl (fun metrics row =>
    if row.family = family ∧ row.connected = true ∧ row.interfaceLuid ≠ luid
    then (row.interfaceLuid, row.metric) :: metrics else metrics) []

def updateInterfaceMetrics (family : Option Family) (s : State) : State :=
  { s with
    interfaceMetricsIpv4 :=
      if family.all (· == .ipv4) then interfaceMetrics luid .ipv4 s else s.interfaceMetricsIpv4
    interfaceMetricsIpv6 :=
      if family.all (· == .ipv6) then interfaceMetrics luid .ipv6 s else s.interfaceMetricsIpv6 }

structure Best where
  nextHop : Ip
  luid : Nat
  length : Option Nat
  metric : Nat

def consider (s : State) (destination : Net) (best : Best) (row : Row) : Best :=
  let metrics := match destination.base.family with
    | .ipv4 => s.interfaceMetricsIpv4
    | .ipv6 => s.interfaceMetricsIpv6
  if row.interfaceLuid = luid then best
  else if best.length.any (row.destination.length < ·) then best
  else if row.protocol = mibIpprotoNetmgmt ∧ row.metric = exclusionRouteMetric then best
  else if !routeContainsDest row.destination destination then best
  else match metrics.lookup row.interfaceLuid with
    | none => best
    | some metric =>
      -- the sum of two 32-bit metrics, or the largest value when it wraps around
      let sum := (row.metric + metric) % 4294967296
      let routeMetric := if sum < row.metric then ulongMax else sum
      if best.length = some row.destination.length ∧ best.metric ≤ routeMetric then best
      else
        ⟨row.nextHop,
          if row.destination.length = destination.length then 0 else row.interfaceLuid,
          some row.destination.length, routeMetric⟩

def updateExclusionRoute (s : State) (table : List Row) (destination : Net) : Hop :=
  let best := table.foldl (consider luid s destination)
    ⟨anyAddress destination.base.family, 0, none, ulongMax⟩
  ⟨best.luid, best.nextHop⟩

def isRouteExcluded (exclusions : List Net) (dest : Net) : Bool :=
  exclusions.any fun route => routeContainsDest route dest

def captures (exclusions : List Net) (row : Row) : Bool :=
  row.interfaceLuid != luid && row.destination.length != 0 &&
    !(row.protocol == mibIpprotoNetmgmt && row.metric == exclusionRouteMetric) &&
    !isRouteExcluded exclusions row.destination && !nonRouteable row.destination.base

def exclusions (s : State) : List Net := s.exclusionRoutes.map Prod.fst

/-- The second loop: a copy of no row is removed, if its family was scanned. -/
def sweep (family : Option Family) (entry : Net × Nat) : Option (Net × Nat) :=
  if entry.2 > 0 then some (entry.1, 0)
  else if family.any (· != entry.1.base.family) then some entry
  else none

def updateCapturedRoutes (family : Option Family) (table : List Row) (s : State) : State :=
  if s.defaultRouteCapture then
    let found := (table.filter (captures luid (exclusions s))).map Row.destination
    { s with clonedRoutes := (found.foldl AssocList.acquire s.clonedRoutes).filterMap (sweep family) }
  else s

/-- `updateCapturedRoutes` without a table. `error` is what fetching the table
returns: the rest is done only if it is an error. -/
def refreshCapturedRoutes (error : Bool) (family : Family) (s : State) : State :=
  if s.defaultRouteCapture && error then
    updateCapturedRoutes luid (some family) (forwardTable luid (some family) s) s
  else s

def addExclusionRoute (destination : Net) (s : State) : State :=
  if nonRouteable destination.base then s
  else if destination ∈ exclusions s then s
  else
    let family := some destination.base.family
    let table := forwardTable luid family s
    let s := updateInterfaceMetrics luid family s
    let s := updateCapturedRoutes luid family table s
    let hop := updateExclusionRoute luid s table destination
    { s with exclusionRoutes := (destination, hop) :: s.exclusionRoutes }

def deleteExclusionRoute (destination : Net) (s : State) : State :=
  if destination ∈ exclusions s then
    refreshCapturedRoutes luid false destination.base.family
      { s with exclusionRoutes := s.exclusionRoutes.filter (·.1 ≠ destination) }
  else s

def routeChanged (s : State) : State :=
  let table := forwardTable luid none s
  let s := updateInterfaceMetrics luid none s
  let s := updateCapturedRoutes luid none table s
  { s with
    exclusionRoutes := s.exclusionRoutes.map fun entry =>
      (entry.1, updateExclusionRoute luid s table entry.1) }

inductive Event where
  | routesChanged (rows : List Row) (interfaces : List InterfaceRow)
  | addExclusionRoute (destination : Net)
  | deleteExclusionRoute (destination : Net)

def step (s : State) : Event → State
  | .routesChanged rows interfaces => routeChanged luid { s with rows := rows, interfaces := interfaces }
  | .addExclusionRoute destination => WindowsRouteMonitor.addExclusionRoute luid destination s
  | .deleteExclusionRoute destination => WindowsRouteMonitor.deleteExclusionRoute luid destination s

/-! ## What one scan leaves -/

def copies (s : State) : List Net := s.clonedRoutes.map Prod.fst

structure Ready (s : State) : Prop where
  on : s.defaultRouteCapture = true
  distinct : (copies s).Nodup
  counted : ∀ entry ∈ s.clonedRoutes, entry.2 = 0

def Wanted (s : State) (destination : Net) : Prop :=
  ∃ row ∈ s.rows, captures luid (exclusions s) row = true ∧ row.destination = destination

instance (s : State) (destination : Net) : Decidable (Wanted luid s destination) :=
  inferInstanceAs (Decidable (∃ row ∈ s.rows, _ ∧ _))

def Exact (s : State) : Prop := ∀ destination, destination ∈ copies s ↔ Wanted luid s destination

variable (destination : Net) (family : Option Family) (table : List Row) (s : State)

/-- The monitor does not capture its own rows. -/
lemma forward_captured (destination : Net) :
    destination ∈ ((forwardTable luid family s).filter (captures luid (exclusions s))).map
        Row.destination ↔
      Wanted luid s destination ∧ family.all (· == destination.base.family) = true := by
  simp only [List.mem_map, List.mem_filter, forwardTable, List.mem_append]
  constructor
  · rintro ⟨row, ⟨⟨(external | ⟨entry, -, rfl⟩) | ⟨entry, -, rfl⟩, scanned⟩, captured⟩, rfl⟩
    · exact ⟨⟨row, external, captured, rfl⟩, scanned⟩
    · simp [captures, cloneRow] at captured
    · simp [captures, exclusionRow] at captured
  · rintro ⟨⟨row, external, captured, rfl⟩, scanned⟩
    exact ⟨row, ⟨⟨Or.inl (Or.inl external), scanned⟩, captured⟩, rfl⟩

lemma sweep_key {family : Option Family} {entry kept : Net × Nat}
    (swept : sweep family entry = some kept) : kept.1 = entry.1 := by
  unfold sweep at swept
  grind

lemma sweep_counted {family : Option Family} {entry kept : Net × Nat}
    (swept : sweep family entry = some kept) : kept.2 = 0 := by
  unfold sweep at swept
  grind

lemma swept_keys (entries : List (Net × Nat)) :
    ((entries.filterMap (sweep family)).map Prod.fst).Sublist (entries.map Prod.fst) := by
  induction entries with
  | nil => exact List.Sublist.refl _
  | cons entry rest ih =>
    rw [List.filterMap_cons]
    split
    · exact ih.cons _
    · rename_i kept swept
      rw [List.map_cons, List.map_cons, sweep_key swept]
      exact ih.cons_cons _

lemma mem_swept (entries : List (Net × Nat)) (destination : Net) :
    destination ∈ (entries.filterMap (sweep family)).map Prod.fst ↔
      ∃ age, (destination, age) ∈ entries ∧
        (0 < age ∨ family.any (· != destination.base.family) = true) := by
  simp only [List.mem_map, List.mem_filterMap]
  constructor
  · rintro ⟨kept, ⟨entry, member, swept⟩, rfl⟩
    rw [sweep_key swept]
    refine ⟨entry.2, member, ?_⟩
    unfold sweep at swept
    grind
  · rintro ⟨age, member, kept⟩
    by_cases used : age > 0
    · exact ⟨(destination, 0), ⟨_, member, by simp [sweep, used]⟩, rfl⟩
    · have other := kept.resolve_left used
      exact ⟨(destination, age), ⟨_, member, by simp [sweep, used, other]⟩, rfl⟩

/-- The copies after a scan: what was found, and what was not looked at. -/
lemma captured_keys (ready : Ready s) (destination : Net) :
    destination ∈ copies (updateCapturedRoutes luid family table s) ↔
      destination ∈ (table.filter (captures luid (exclusions s))).map Row.destination ∨
        (destination ∈ copies s ∧ family.any (· != destination.base.family) = true) := by
  simp only [updateCapturedRoutes, ready.on, if_true, copies]
  generalize (table.filter (captures luid (exclusions s))).map Row.destination = found
  have fresh : count s.clonedRoutes destination = 0 := by
    cases known : s.clonedRoutes.lookup destination with
    | none => simp [count, known]
    | some age =>
      obtain ⟨front, back, parts, -⟩ := List.lookup_eq_some_iff.mp known
      have zero : age = 0 := ready.counted (destination, age) (by simp [parts])
      simp [count, known, zero]
  have total := count_acquire_all s.clonedRoutes found destination
  have distinct := acquire_all_nodup ready.distinct found
  have keys := mem_keys_acquire_all s.clonedRoutes found destination
  rw [fresh, Nat.zero_add] at total
  rw [mem_swept]
  -- the age of a copy is the number of rows found for it
  have age_eq : ∀ age, (destination, age) ∈ found.foldl acquire s.clonedRoutes →
      age = found.count destination := by
    intro age member
    rw [← total, count, lookup_of_mem distinct member, Option.getD_some]
  constructor
  · rintro ⟨age, member, used | other⟩
    · left
      rw [age_eq age member] at used
      exact List.count_pos_iff.mp used
    · rcases keys.mp (List.mem_map.mpr ⟨_, member, rfl⟩) with old | new
      · exact Or.inr ⟨old, other⟩
      · exact Or.inl new
  · rintro (new | ⟨old, other⟩)
    · obtain ⟨⟨name, age⟩, member, rfl⟩ := List.mem_map.mp (keys.mpr (Or.inr new))
      refine ⟨age, member, Or.inl ?_⟩
      rw [age_eq age member]
      exact List.count_pos_iff.mpr new
    · obtain ⟨⟨name, age⟩, member, rfl⟩ := List.mem_map.mp (keys.mpr (Or.inl old))
      exact ⟨age, member, Or.inr other⟩

lemma captured_ready (ready : Ready s) : Ready (updateCapturedRoutes luid family table s) := by
  rw [updateCapturedRoutes, if_pos ready.on]
  constructor
  · exact ready.on
  · exact (acquire_all_nodup ready.distinct _).sublist (swept_keys family _)
  · intro entry member
    obtain ⟨_, -, swept⟩ := List.mem_filterMap.mp member
    exact sweep_counted swept

lemma captured_same :
    (updateCapturedRoutes luid family table s).rows = s.rows ∧
      (updateCapturedRoutes luid family table s).exclusionRoutes = s.exclusionRoutes := by
  unfold updateCapturedRoutes
  split <;> exact ⟨rfl, rfl⟩

/-! ## The operations -/

/-- Whatever the copies were, a handled change of the routes makes them exact. -/
lemma route_change_exact (rows : List Row) (interfaces : List InterfaceRow) (s : State)
    (ready : Ready s) :
    Ready (step luid s (.routesChanged rows interfaces)) ∧
      Exact luid (step luid s (.routesChanged rows interfaces)) := by
  have before : Ready (updateInterfaceMetrics luid none
      { s with rows := rows, interfaces := interfaces }) :=
    ⟨ready.on, ready.distinct, ready.counted⟩
  have after := captured_ready luid none (forwardTable luid none
    { s with rows := rows, interfaces := interfaces }) _ before
  obtain ⟨same_rows, same_exclusions⟩ := captured_same luid none (forwardTable luid none
    { s with rows := rows, interfaces := interfaces })
    (updateInterfaceMetrics luid none { s with rows := rows, interfaces := interfaces })
  constructor
  · exact ⟨after.on, after.distinct, after.counted⟩
  · intro destination
    have scanned := captured_keys luid none (forwardTable luid none
      { s with rows := rows, interfaces := interfaces }) _ before destination
    have found := forward_captured luid none { s with rows := rows, interfaces := interfaces }
      destination
    simp only [Option.all_none, and_true] at found
    simp only [Option.any_none, Bool.false_eq_true, and_false, or_false] at scanned
    simp only [step, routeChanged, Wanted, exclusions, List.map_map, same_rows,
      same_exclusions]
    exact scanned.trans found

lemma captures_cons (excluded : List Net) (row : Row) :
    captures luid (destination :: excluded) row =
      (captures luid excluded row && !routeContainsDest destination row.destination) := by
  simp only [captures, isRouteExcluded]
  grind

lemma captures_fewer {fewer excluded : List Net} (included : ∀ net ∈ fewer, net ∈ excluded)
    {row : Row} (captured : captures luid excluded row = true) :
    captures luid fewer row = true := by
  simp only [captures, Bool.and_eq_true, Bool.not_eq_true', isRouteExcluded,
    List.any_eq_false] at captured ⊢
  obtain ⟨⟨⟨⟨away, specific⟩, foreign⟩, free⟩, routeable⟩ := captured
  exact ⟨⟨⟨⟨away, specific⟩, foreign⟩, fun net member => free net (included net member)⟩, routeable⟩

/-- Whether the destination is excluded is all that the exclusions decide. -/
lemma captures_transfer {excluded others : List Net} {row same : Row}
    (destination : same.destination = row.destination)
    (captured : captures luid others row = true) (free : captures luid excluded same = true) :
    captures luid excluded row = true := by
  simp only [captures, Bool.and_eq_true, destination] at captured free ⊢
  exact ⟨⟨captured.1.1, free.1.2⟩, captured.2⟩

/-- Switching capture on does not look at the table. If the first operation is not a
change of the routes, rows stay uncaptured: those of the other family after an
added exclusion, and all of them after any other operation. -/
def firstFits (s : State) : Event → Prop
  | .routesChanged _ _ => True
  | .addExclusionRoute destination =>
    ∀ row ∈ s.rows, captures luid (exclusions s) row = true →
      (nonRouteable destination.base = false ∧ destination ∉ exclusions s) ∧
        destination.base.family = row.destination.base.family ∧
        routeContainsDest destination row.destination = false
  | .deleteExclusionRoute destination =>
    ∀ row ∈ s.rows, captures luid ((exclusions s).filter (· ≠ destination)) row = false

instance (s : State) : ∀ event, Decidable (firstFits luid s event)
  | .routesChanged _ _ => isTrue trivial
  | .addExclusionRoute _ => inferInstanceAs (Decidable (∀ row ∈ s.rows, _ → (_ ∧ _) ∧ _ ∧ _))
  | .deleteExclusionRoute _ => inferInstanceAs (Decidable (∀ row ∈ s.rows, _))

/-- From then on an exclusion that is added covers no captured row; one that is
deleted was not the only one for any row. -/
def fits (s : State) : Event → Prop
  | .routesChanged _ _ => True
  | .addExclusionRoute destination =>
    nonRouteable destination.base = true ∨ destination ∈ exclusions s ∨
      ∀ row ∈ s.rows, captures luid (exclusions s) row = true →
        routeContainsDest destination row.destination = false
  | .deleteExclusionRoute destination =>
    ∀ row ∈ s.rows, captures luid ((exclusions s).filter (· ≠ destination)) row = true →
      captures luid (exclusions s) row = true

instance (s : State) : ∀ event, Decidable (fits luid s event)
  | .routesChanged _ _ => isTrue trivial
  | .addExclusionRoute _ => inferInstanceAs (Decidable (_ ∨ _ ∨ ∀ row ∈ s.rows, _ → _))
  | .deleteExclusionRoute _ => inferInstanceAs (Decidable (∀ row ∈ s.rows, _ → _))

/-- A new exclusion enters the table after the scan. -/
lemma add_exclusion (ready : Ready s)
    (routeable : nonRouteable destination.base = false) (absent : destination ∉ exclusions s) :
    let after := addExclusionRoute luid destination s
    Ready after ∧ after.rows = s.rows ∧ exclusions after = destination :: exclusions s ∧
      ∀ net, net ∈ copies after ↔
        if destination.base.family = net.base.family then Wanted luid s net else net ∈ copies s := by
  have before : Ready (updateInterfaceMetrics luid (some destination.base.family) s) :=
    ⟨ready.on, ready.distinct, ready.counted⟩
  have scanned := captured_ready luid (some destination.base.family)
    (forwardTable luid (some destination.base.family) s) _ before
  obtain ⟨same_rows, same_exclusions⟩ := captured_same luid (some destination.base.family)
    (forwardTable luid (some destination.base.family) s)
    (updateInterfaceMetrics luid (some destination.base.family) s)
  simp only [addExclusionRoute, routeable, absent]
  refine ⟨⟨scanned.on, scanned.distinct, scanned.counted⟩, same_rows, ?_, ?_⟩
  · simp only [same_exclusions]
    rfl
  · intro net
    apply (captured_keys luid (some destination.base.family) _ _ before net).trans
    -- the copies do not depend on the metrics of the interfaces
    refine (or_congr_left (forward_captured luid (some destination.base.family) s net)).trans ?_
    change _ ∨ net ∈ copies s ∧ _ ↔ _
    by_cases family : destination.base.family = net.base.family
    · simp [family]
    · simp [family]

lemma delete_exclusion (destination : Net) (s : State) :
    let after := deleteExclusionRoute luid destination s
    after.rows = s.rows ∧ after.clonedRoutes = s.clonedRoutes ∧
      after.defaultRouteCapture = s.defaultRouteCapture ∧
      exclusions after = (exclusions s).filter (· ≠ destination) := by
  simp only [deleteExclusionRoute, refreshCapturedRoutes, Bool.and_false]
  split
  · refine ⟨rfl, rfl, rfl, ?_⟩
    simp only [exclusions, List.filter_map]
    rfl
  · rename_i absent
    refine ⟨rfl, rfl, rfl, ?_⟩
    symm
    apply List.filter_eq_self.mpr
    intro net member
    have other : net ≠ destination := fun same => absent (same ▸ member)
    simpa using other

lemma wanted_congr {s after : State} (rows : after.rows = s.rows)
    (captured : ∀ row ∈ s.rows,
      (captures luid (exclusions s) row = true ↔ captures luid (exclusions after) row = true))
    (net : Net) : Wanted luid s net ↔ Wanted luid after net := by
  rw [Wanted, Wanted, rows]
  constructor
  · rintro ⟨row, member, before, rfl⟩
    exact ⟨row, member, (captured row member).mp before, rfl⟩
  · rintro ⟨row, member, later, rfl⟩
    exact ⟨row, member, (captured row member).mpr later, rfl⟩

lemma add_kept (ready : Ready s) (exact : Exact luid s)
    (routeable : nonRouteable destination.base = false) (absent : destination ∉ exclusions s)
    (apart : ∀ row ∈ s.rows, captures luid (exclusions s) row = true →
      routeContainsDest destination row.destination = false) :
    Ready (addExclusionRoute luid destination s) ∧
      Exact luid (addExclusionRoute luid destination s) := by
  obtain ⟨after, rows, listed, keys⟩ := add_exclusion luid destination s ready routeable absent
  constructor
  · exact after
  · intro net
    have wanted : net ∈ copies (addExclusionRoute luid destination s) ↔ Wanted luid s net := by
      rw [keys, exact net, ite_self]
    apply wanted.trans
    apply wanted_congr luid rows
    intro row member
    rw [listed, captures_cons, Bool.and_eq_true]
    constructor
    · intro captured
      exact ⟨captured, by simp [apart row member captured]⟩
    · exact And.left

lemma delete_kept (ready : Ready s) (exact : Exact luid s)
    (fewer : ∀ row ∈ s.rows, captures luid ((exclusions s).filter (· ≠ destination)) row = true →
      captures luid (exclusions s) row = true) :
    Ready (deleteExclusionRoute luid destination s) ∧
      Exact luid (deleteExclusionRoute luid destination s) := by
  obtain ⟨rows, clones, on, listed⟩ := delete_exclusion luid destination s
  constructor
  · constructor
    · rw [on]
      exact ready.on
    · rw [copies, clones]
      exact ready.distinct
    · rw [clones]
      exact ready.counted
  · intro net
    rw [copies, clones]
    apply (exact net).trans
    apply wanted_congr luid rows
    intro row member
    rw [listed]
    constructor
    · exact captures_fewer luid fun _ inside => (List.mem_filter.mp inside).1
    · exact fewer row member

lemma step_kept (event : Event) (inv : Ready s ∧ Exact luid s) (guarded : fits luid s event) :
    Ready (step luid s event) ∧ Exact luid (step luid s event) := by
  obtain ⟨ready, exact⟩ := inv
  cases event with
  | routesChanged rows interfaces => exact route_change_exact luid rows interfaces s ready
  | addExclusionRoute destination =>
    simp only [step]
    cases routeable : nonRouteable destination.base with
    | true => simpa [addExclusionRoute, routeable] using ⟨ready, exact⟩
    | false =>
      by_cases known : destination ∈ exclusions s
      · simpa [addExclusionRoute, known] using ⟨ready, exact⟩
      · rcases guarded with special | inside | apart
        · rw [routeable] at special
          cases special
        · exact absurd inside known
        · exact add_kept luid destination s ready exact routeable known apart
  | deleteExclusionRoute destination => exact delete_kept luid destination s ready exact guarded

lemma step_forced (event : Event) (inv : Ready s ∧ Exact luid s)
    (after : Exact luid (step luid s event)) : fits luid s event := by
  obtain ⟨ready, exact⟩ := inv
  cases event with
  | routesChanged rows interfaces => trivial
  | addExclusionRoute destination =>
    simp only [step] at after
    cases routeable : nonRouteable destination.base with
    | true => exact Or.inl routeable
    | false =>
      right
      by_cases known : destination ∈ exclusions s
      · exact Or.inl known
      · right
        intro row member captured
        obtain ⟨-, rows, listed, keys⟩ :=
          add_exclusion luid destination s ready routeable known
        have copied : row.destination ∈ copies (addExclusionRoute luid destination s) := by
          rw [keys, exact, ite_self]
          exact ⟨row, member, captured, rfl⟩
        obtain ⟨same, -, free, destined⟩ := (after row.destination).mp copied
        rw [listed, captures_cons, Bool.and_eq_true, destined] at free
        simpa using free.2
  | deleteExclusionRoute destination =>
    obtain ⟨rows, clones, -, listed⟩ := delete_exclusion luid destination s
    intro row member captured
    have copied : row.destination ∈ copies s := by
      rw [copies, ← clones]
      apply (after row.destination).mpr
      exact ⟨row, rows ▸ member, listed ▸ captured, rfl⟩
    obtain ⟨same, -, free, destined⟩ := (exact row.destination).mp copied
    exact captures_transfer luid destined captured free

lemma step_ready (event : Event) (ready : Ready s) : Ready (step luid s event) := by
  cases event with
  | routesChanged rows interfaces => exact (route_change_exact luid rows interfaces s ready).1
  | addExclusionRoute destination =>
    simp only [step]
    cases routeable : nonRouteable destination.base with
    | true => simpa [addExclusionRoute, routeable] using ready
    | false =>
      by_cases known : destination ∈ exclusions s
      · simpa [addExclusionRoute, known] using ready
      · exact (add_exclusion luid destination s ready routeable known).1
  | deleteExclusionRoute destination =>
    obtain ⟨-, clones, on, -⟩ := delete_exclusion luid destination s
    constructor
    · exact on.trans ready.on
    · simpa only [step, copies, clones] using ready.distinct
    · simpa only [step, clones] using ready.counted

lemma exact_none_iff {s : State} (uncopied : copies s = []) :
    Exact luid s ↔ ∀ row ∈ s.rows, captures luid (exclusions s) row = false := by
  simp only [Exact, uncopied, Wanted, List.not_mem_nil, false_iff, not_exists, not_and]
  constructor
  · intro free row member
    by_contra captured
    exact free row.destination row member (by simpa using captured) rfl
  · intro free net row member captured _
    rw [free row member] at captured
    cases captured

/-- The copies after a new exclusion. -/
lemma first_added_iff {destination : Net} (ready : Ready s) (uncopied : copies s = [])
    (routeable : nonRouteable destination.base = false) (absent : destination ∉ exclusions s) :
    Exact luid (addExclusionRoute luid destination s) ↔
      firstFits luid s (.addExclusionRoute destination) := by
  obtain ⟨-, rows, listed, keys⟩ := add_exclusion luid destination s ready routeable absent
  simp only [uncopied, List.not_mem_nil] at keys
  constructor
  · intro exact row member captured
    refine ⟨⟨routeable, absent⟩, ?_⟩
    by_cases family : destination.base.family = row.destination.base.family
    · have copied := (keys row.destination).mpr
        ((if_pos family).mpr ⟨row, member, captured, rfl⟩)
      obtain ⟨same, -, free, destined⟩ := (exact row.destination).mp copied
      rw [listed, captures_cons, Bool.and_eq_true, destined] at free
      exact ⟨family, by simpa using free.2⟩
    · -- a row of the other family is not covered, so it is to be captured
      have apart : routeContainsDest destination row.destination = false := by
        by_contra inside
        exact family (routeContainsDest_family (by simpa using inside))
      have copied := (exact row.destination).mpr
        ⟨row, rows ▸ member, by rw [listed, captures_cons, captured, apart]; rfl, rfl⟩
      rw [keys, if_neg family] at copied
      exact absurd copied not_false
  · intro fit net
    rw [keys]
    constructor
    · intro copied
      split at copied
      · obtain ⟨row, member, captured, rfl⟩ := copied
        obtain ⟨-, -, apart⟩ := fit row member captured
        exact ⟨row, rows ▸ member, by rw [listed, captures_cons, captured, apart]; rfl, rfl⟩
      · exact copied.elim
    · rintro ⟨row, member, captured, rfl⟩
      rw [listed, captures_cons, Bool.and_eq_true] at captured
      obtain ⟨-, family, -⟩ := fit row (rows ▸ member) captured.1
      rw [if_pos family]
      exact ⟨row, rows ▸ member, captured.1, rfl⟩

/-- The copies after the first operation. -/
lemma first_exact_iff (event : Event) (ready : Ready s) (uncopied : copies s = []) :
    Exact luid (step luid s event) ↔ firstFits luid s event := by
  cases event with
  | routesChanged rows interfaces =>
    exact iff_of_true (route_change_exact luid rows interfaces s ready).2 trivial
  | addExclusionRoute destination =>
    simp only [step, firstFits]
    by_cases skipped : nonRouteable destination.base = true ∨ destination ∈ exclusions s
    · have same : addExclusionRoute luid destination s = s := by
        rcases skipped with special | known
        · simp [addExclusionRoute, special]
        · simp [addExclusionRoute, known]
      rw [same, exact_none_iff luid uncopied]
      constructor
      · intro free row member captured
        rw [free row member] at captured
        cases captured
      · intro fit row member
        by_contra captured
        obtain ⟨⟨routeable, absent⟩, -⟩ := fit row member (by simpa using captured)
        rcases skipped with special | known
        · rw [routeable] at special
          cases special
        · exact absent known
    · obtain ⟨routeable, absent⟩ := not_or.mp skipped
      exact first_added_iff luid s ready uncopied (by simpa using routeable) absent
  | deleteExclusionRoute destination =>
    obtain ⟨rows, clones, -, listed⟩ := delete_exclusion luid destination s
    have none : copies (deleteExclusionRoute luid destination s) = [] := by
      rw [copies, clones]
      exact uncopied
    simp only [step]
    rw [exact_none_iff luid none, rows, listed]
    rfl

/-- From the moment at which capture is switched on, with any table and any exclusions,
the copies are exact after every operation if and only if the operations fit. -/
theorem captured_exact_iff (start : State) (first : Event) (events : List Event)
    (on : start.defaultRouteCapture = true) (uncopied : start.clonedRoutes = []) :
    (∀ s, Runs.Visits (step luid) (step luid start first) events s → Exact luid s) ↔
      firstFits luid start first ∧
        Runs.Guarded (step luid) (fits luid) (step luid start first) events := by
  have ready : Ready start := ⟨on, by simp [copies, uncopied], by simp [uncopied]⟩
  have begun := first_exact_iff luid start first ready (by simp [copies, uncopied])
  have later := step_ready luid start first ready
  have run (exact : Exact luid (step luid start first)) :=
    Runs.visits_property_iff (fun _ inv => inv.2) (step_kept luid) (step_forced luid)
      (step luid start first) events ⟨later, exact⟩
  constructor
  · intro shown
    have exact := shown _ ⟨[], events, rfl, rfl⟩
    exact ⟨begun.mp exact, (run exact).mp shown⟩
  · rintro ⟨fit, guarded⟩
    exact (run (begun.mpr fit)).mpr guarded

/-! The tunnel is interface 9. The local network `192.168.1.0/24` is routed
through interface 3, and the printer in it is to be kept out of the tunnel. -/

def localNet : Net := ⟨.quad 192 168 1 0, 24⟩

def printer : Net := ⟨.quad 192 168 1 20, 32⟩

def localRows : List Row := [⟨3, localNet, .v4 0, 25, 2⟩, ⟨3, printer, .v4 0, 25, 2⟩]

def watching : State := ⟨true, [], [], [], [], [], []⟩

/-- A change of the routes, then an exclusion for a host no row is about. -/
theorem unrelated_exclusion_exact :
    Exact 9 (Runs.run (step 9) watching
      [.routesChanged localRows [], .addExclusionRoute ⟨.quad 203 0 113 5, 32⟩]) :=
  (captured_exact_iff 9 watching (.routesChanged localRows [])
    [.addExclusionRoute ⟨.quad 203 0 113 5, 32⟩] rfl rfl).mpr (by decide +kernel) _
    (Runs.visits_last _ _ _)

def addedPrinter : State :=
  Runs.run (step 9) watching [.routesChanged localRows [], .addExclusionRoute printer]

def deletedPrinter : State :=
  Runs.run (step 9) addedPrinter [.routesChanged localRows [], .deleteExclusionRoute printer]

/-- The copy of the printer's row stays when the printer is excluded. After the
next change of the routes it is gone, and does not come back when the exclusion
is deleted. -/
theorem printer_copies_not_exact : ¬ Exact 9 addedPrinter ∧ ¬ Exact 9 deletedPrinter := by
  have kept : printer ∈ copies addedPrinter ∧ ¬ Wanted 9 addedPrinter printer := by
    decide +kernel
  have lost : printer ∉ copies deletedPrinter ∧ Wanted 9 deletedPrinter printer := by
    decide +kernel
  exact ⟨fun exact => kept.2 ((exact printer).mp kept.1),
    fun exact => lost.1 ((exact printer).mpr lost.2)⟩

end AbstractumVpn.WindowsRouteMonitor
