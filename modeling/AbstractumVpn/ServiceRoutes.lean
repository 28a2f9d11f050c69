import AbstractumVpn.AppSettings
import AbstractumVpn.AssocList
import AbstractumVpn.Runs

/-!
The routes of the privileged service on Windows and on Linux: `routeAddList`,
`routeDeleteList` and `clearSavedRoutes`. All system calls succeed. `live` is
not a field of the source: the routes that were added and not deleted since, an
entry of `routeDeleteList` counting as deleted.
-/

namespace AbstractumVpn.Router

/-- The text parsers of the system. A shift of a 32-bit number by 32 places or
more, or by a negative number, is undefined in the source. -/
structure Sockets where
  inetAddr : String → BitVec 32
  inetPton : String → BitVec 32
  undefinedShift : Int → BitVec 32

structure Route where
  dest : BitVec 32
  mask : BitVec 32
  gw : BitVec 32
  deriving DecidableEq

def ipAddressFromIpWithSubnet (ip : String) : String :=
  if ip.toList.count '.' ≠ 3 then "" else (QtText.split ip "/").headD ""

def netMaskFromIpWithSubnet (sockets : Sockets) (ip : String) : String :=
  if '/' ∈ ip.toList then
    match QtText.toInt? ((QtText.split ip "/").getD 1 "") with
    | none => "255.255.255.255"
    | some length =>
      let shift := 32 - length
      let mask :=
        if 0 ≤ shift ∧ shift < 32 then 0xFFFFFFFF#32 <<< shift.toNat
        else sockets.undefinedShift shift
      (HostAddress.ipv4 mask).toString
  else "255.255.255.255"

end AbstractumVpn.Router

/-! ## Windows -/

namespace AbstractumVpn.RouterWin

open Router

structure Row where
  route : Route
  ifIndex : Nat
  metric : Nat
  deriving DecidableEq

structure State where
  table : List Row
  ipForwardRows : List (String × Row)
  live : List Route

/-- A call, with what `GetBestInterface` and `GetIpInterfaceEntry` answer. -/
inductive Event where
  | routeAddList (gw : String) (ips : List String) (ifIndex metric : Nat)
  | routeDeleteList (gw : String) (ips : List String)

def SameEntry (row other : Row) : Prop := row.route = other.route ∧ row.ifIndex = other.ifIndex

instance (row other : Row) : Decidable (SameEntry row other) :=
  inferInstanceAs (Decidable (_ ∧ _))

def createIpForwardEntry (row : Row) (table : List Row) : List Row :=
  if ∃ other ∈ table, SameEntry row other then table else table ++ [row]

def deleteIpForwardEntry (row : Row) (table : List Row) : List Row :=
  table.filter fun other => ¬ SameEntry row other

variable (qt : Qt) (sockets : Sockets)

def routeOf (gw ipWithMask : String) : Route where
  dest := sockets.inetAddr (ipAddressFromIpWithSubnet ipWithMask)
  mask := sockets.inetPton (netMaskFromIpWithSubnet sockets ipWithMask)
  gw := sockets.inetAddr gw

def rowOf (gw : String) (ifIndex metric : Nat) (ipWithMask : String) : Row where
  route := routeOf sockets gw ipWithMask
  ifIndex := ifIndex
  metric := metric + 1

def addRow (gw : String) (ifIndex metric : Nat) (s : State) (ipWithMask : String) : State :=
  let ip := ipAddressFromIpWithSubnet ipWithMask
  let row := rowOf sockets gw ifIndex metric ipWithMask
  if AppSettings.checkIPv4Format qt ip then
    { table := createIpForwardEntry row s.table
      ipForwardRows := s.ipForwardRows ++ [(ip, row)]
      live := s.live ++ [row.route] }
  else s

def routeAddList (gw : String) (ips : List String) (ifIndex metric : Nat) (s : State) : State :=
  if AppSettings.checkIPv4Format qt gw then ips.foldl (addRow qt sockets gw ifIndex metric) s else s

def mapEntry (ipMask : String) : Option (BitVec 32 × String × BitVec 32) :=
  let ip := ipAddressFromIpWithSubnet ipMask
  if ipMask = "" ∨ ip = "" then none
  else some (sockets.inetAddr ip, ipMask,
    sockets.inetPton (netMaskFromIpWithSubnet sockets ipMask))

/-- A later text replaces an earlier one of the same destination. -/
def ipMap (ips : List String) : List (BitVec 32 × String × BitVec 32) :=
  (ips.filterMap (mapEntry sockets)).reverse

def listedText (gw : String) (ips : List String) (row : Row) : Option String :=
  match (ipMap sockets ips).lookup row.route.dest with
  | some (text, mask) =>
    if mask = row.route.mask ∧ row.route.gw = sockets.inetAddr gw then some text else none
  | none => none

def deleteRow (gw : String) (ips : List String) (s : State) (row : Row) : State :=
  match listedText sockets gw ips row with
  | some text =>
    { s with
      table := deleteIpForwardEntry row s.table
      ipForwardRows := s.ipForwardRows.filter (·.1 ≠ text) }
  | none => s

def listed (gw : String) (ips : List String) : List Route :=
  (ips.filterMap (mapEntry sockets)).map fun entry => ⟨entry.1, entry.2.2, sockets.inetAddr gw⟩

def routeDeleteList (gw : String) (ips : List String) (s : State) : State :=
  let deleted := s.table.foldl (deleteRow sockets gw ips) s
  { deleted with live := s.live.filter (· ∉ listed sockets gw ips) }

def clearSavedRoutes (s : State) : List Row := s.ipForwardRows.map Prod.snd

def step (s : State) : Event → State
  | .routeAddList gw ips ifIndex metric => routeAddList qt sockets gw ips ifIndex metric s
  | .routeDeleteList gw ips => routeDeleteList sockets gw ips s

def dropped (gw : String) (ips : List String) (table : List Row) : List String :=
  table.filterMap (listedText sockets gw ips)

variable (gw : String) (ips : List String) (s : State) (event : Event) (row : Row)

lemma deleted_rows (rows : List Row) (s : State) :
    (rows.foldl (deleteRow sockets gw ips) s).ipForwardRows =
      s.ipForwardRows.filter fun entry => entry.1 ∉ dropped sockets gw ips rows := by
  induction rows generalizing s with
  | nil => simp [dropped]
  | cons row rest ih =>
    rw [List.foldl_cons, ih, deleteRow]
    cases named : listedText sockets gw ips row with
    | none => simp [dropped, named]
    | some text =>
      rw [List.filter_filter]
      apply List.filter_congr
      intro entry _
      simp [dropped, named, Bool.and_comm]

lemma deleted_table (rows : List Row) (s : State) (row : Row) :
    row ∈ (rows.foldl (deleteRow sockets gw ips) s).table ↔
      row ∈ s.table ∧ ∀ other ∈ rows, listedText sockets gw ips other ≠ none →
        ¬ SameEntry other row := by
  induction rows generalizing s with
  | nil => simp
  | cons first rest ih =>
    rw [List.foldl_cons, ih, deleteRow]
    cases named : listedText sockets gw ips first with
    | none => simp [named]
    | some text => simp [named, deleteIpForwardEntry, and_assoc]

lemma listedText_congr {row other : Row} (same : row.route = other.route) :
    listedText sockets gw ips row = listedText sockets gw ips other := by
  rw [listedText, listedText, same]

lemma mem_table_delete :
    row ∈ (routeDeleteList sockets gw ips s).table ↔
      row ∈ s.table ∧ listedText sockets gw ips row = none := by
  change row ∈ (s.table.foldl (deleteRow sockets gw ips) s).table ↔ _
  rw [deleted_table]
  constructor
  · rintro ⟨inside, away⟩
    exact ⟨inside, Classical.byContradiction fun named => away row inside named ⟨rfl, rfl⟩⟩
  · rintro ⟨inside, unnamed⟩
    refine ⟨inside, fun other _ named same => named ?_⟩
    rw [listedText_congr sockets gw ips same.1, unnamed]

lemma listedText_some {gw : String} {ips : List String} {row : Row} {text : String} :
    listedText sockets gw ips row = some text ↔
      (ipMap sockets ips).lookup row.route.dest = some (text, row.route.mask) ∧
        row.route.gw = sockets.inetAddr gw := by
  rw [listedText]
  cases (ipMap sockets ips).lookup row.route.dest with
  | none => simp
  | some entry =>
    obtain ⟨first, mask⟩ := entry
    by_cases same : mask = row.route.mask ∧ row.route.gw = sockets.inetAddr gw
    · simp [same]
    · simp only [if_neg same, reduceCtorEq, false_iff, Option.some.injEq, Prod.mk.injEq]
      rintro ⟨⟨-, mask⟩, gateway⟩
      exact same ⟨mask, gateway⟩

lemma named_listed {gw : String} {ips : List String} {row : Row} {text : String}
    (named : listedText sockets gw ips row = some text) :
    row.route ∈ listed sockets gw ips := by
  obtain ⟨found, gateway⟩ := (listedText_some sockets).mp named
  obtain ⟨front, back, split, -⟩ := List.lookup_eq_some_iff.mp found
  have member : (row.route.dest, text, row.route.mask) ∈ ipMap sockets ips := by
    rw [split]
    simp
  apply List.mem_map.mpr
  exact ⟨_, List.mem_reverse.mp member, by rw [← gateway]⟩

def Present (s : State) : Prop := ∀ route ∈ s.live, ∃ row ∈ s.table, row.route = route

lemma create_mem (table : List Row) :
    ∃ other ∈ createIpForwardEntry row table, other.route = row.route := by
  rw [createIpForwardEntry]
  split
  · next known =>
      obtain ⟨other, inside, same⟩ := known
      exact ⟨other, inside, same.1.symm⟩
  · exact ⟨row, by simp, rfl⟩

lemma create_subset (table : List Row) : table ⊆ createIpForwardEntry row table := by
  rw [createIpForwardEntry]
  split
  · exact List.Subset.refl table
  · exact List.subset_append_left table [row]

lemma addRow_present (ifIndex metric : Nat) (s : State) (ipWithMask : String)
    (present : Present s) : Present (addRow qt sockets gw ifIndex metric s ipWithMask) := by
  rw [addRow]
  split
  · intro route member
    rcases List.mem_append.mp member with old | new
    · obtain ⟨row, inside, same⟩ := present route old
      exact ⟨row, create_subset _ s.table inside, same⟩
    · rw [List.mem_singleton.mp new]
      exact create_mem _ s.table
  · exact present

lemma step_present (present : Present s) : Present (step qt sockets s event) := by
  cases event with
  | routeAddList gw ips ifIndex metric =>
    rw [step, routeAddList]
    split
    · exact List.foldlRecOn (motive := Present) ips _ present
        fun s held ip _ => addRow_present qt sockets gw ifIndex metric s ip held
    · exact present
  | routeDeleteList gw ips =>
    intro route member
    obtain ⟨old, unlisted⟩ := List.mem_filter.mp member
    obtain ⟨row, inside, rfl⟩ := present route old
    refine ⟨row, (mem_table_delete sockets gw ips s row).mpr ⟨inside, ?_⟩, rfl⟩
    cases named : listedText sockets gw ips row with
    | none => rfl
    | some text => simp [named_listed sockets named] at unlisted

def Removes (s : State) (event : Event) : Prop :=
  match event with
  | .routeDeleteList gw ips => ∀ route ∈ listed sockets gw ips, route ∈ s.live →
      ∀ row ∈ (step qt sockets s event).table, row.route ≠ route
  | .routeAddList .. => True

def LastListed (s : State) : Event → Prop
  | .routeDeleteList gw ips => ∀ route ∈ listed sockets gw ips, route ∈ s.live →
      ∃ text, (ipMap sockets ips).lookup route.dest = some (text, route.mask)
  | .routeAddList .. => True

lemma removes_iff (present : Present s) :
    Removes qt sockets s event ↔ LastListed sockets s event := by
  cases event with
  | routeAddList gw ips ifIndex metric => rfl
  | routeDeleteList gw ips =>
    apply forall₃_congr
    intro route named live
    have gateway : route.gw = sockets.inetAddr gw := by
      obtain ⟨entry, -, rfl⟩ := List.mem_map.mp named
      rfl
    constructor
    · intro gone
      obtain ⟨row, inside, rfl⟩ := present route live
      cases found : listedText sockets gw ips row with
      | none =>
        exact absurd rfl (gone row ((mem_table_delete sockets gw ips s row).mpr ⟨inside, found⟩))
      | some text => exact ⟨text, ((listedText_some sockets).mp found).1⟩
    · rintro ⟨text, found⟩ row inside rfl
      obtain ⟨-, unnamed⟩ := (mem_table_delete sockets gw ips s row).mp inside
      rw [(listedText_some sockets).mpr ⟨found, gateway⟩] at unnamed
      cases unnamed

def Exact (s : State) : Prop :=
  ∀ route, (∃ row ∈ clearSavedRoutes s, row.route = route) ↔ route ∈ s.live

/-- The text is the last one listed of its destination, and the route it stands for
is in the table. -/
def LastText (gw : String) (ips : List String) (table : List Row) (text : String) : Prop :=
  (∃ row ∈ table, row.route = routeOf sockets gw text) ∧ ∃ front entry back,
    ips = front ++ text :: back ∧ mapEntry sockets text = some entry ∧
      ∀ later ∈ back, ∀ other ∈ mapEntry sockets later, other.1 ≠ entry.1

/-- Rows are saved under their address without a prefix length. Those of a listed
route are saved under such a text, and a row of every other live route is not. -/
def TextsKept (s : State) : Event → Prop
  | .routeDeleteList gw ips =>
      (∀ saved ∈ s.ipForwardRows, saved.2.route ∈ listed sockets gw ips →
        LastText sockets gw ips s.table saved.1) ∧
      ∀ route ∈ s.live, route ∉ listed sockets gw ips → ∃ saved ∈ s.ipForwardRows,
        saved.2.route = route ∧ ¬ LastText sockets gw ips s.table saved.1
  | .routeAddList .. => True

lemma mapEntry_route {ipMask : String} {entry : BitVec 32 × String × BitVec 32}
    (named : mapEntry sockets ipMask = some entry) :
    entry = ((routeOf sockets gw ipMask).dest, ipMask, (routeOf sockets gw ipMask).mask) := by
  simp only [mapEntry] at named
  split at named
  · cases named
  · exact (Option.some.inj named).symm

/-- The map holds the last text of a destination. -/
lemma lookup_ipMap (dest mask : BitVec 32) (text : String) :
    (ipMap sockets ips).lookup dest = some (text, mask) ↔ ∃ front back,
      ips = front ++ text :: back ∧ mapEntry sockets text = some (dest, text, mask) ∧
        ∀ later ∈ back, ∀ other ∈ mapEntry sockets later, other.1 ≠ dest := by
  rw [List.lookup_eq_some_iff]
  constructor
  · rintro ⟨after, before, split, fresh⟩
    have entries := congrArg List.reverse split
    rw [ipMap, List.reverse_reverse, List.reverse_append, List.reverse_cons, List.append_assoc,
      List.singleton_append, List.filterMap_eq_append_iff] at entries
    obtain ⟨front, rest, rfl, -, found⟩ := entries
    obtain ⟨skipped, ip, back, rfl, unread, named, others⟩ := List.filterMap_eq_cons_iff.mp found
    obtain rfl : ip = text := (Prod.mk.inj (Prod.mk.inj (mapEntry_route sockets "" named)).2).1.symm
    refine ⟨front ++ skipped, back, by simp, named, fun later member other read same => ?_⟩
    have known : other ∈ after.reverse := by
      rw [← others]
      exact List.mem_filterMap.mpr ⟨later, member, read⟩
    simpa [same] using fresh other (List.mem_reverse.mp known)
  · rintro ⟨front, back, rfl, named, fresh⟩
    refine ⟨(back.filterMap (mapEntry sockets)).reverse,
      (front.filterMap (mapEntry sockets)).reverse, ?_, ?_⟩
    · simp [ipMap, named]
    · intro other member
      obtain ⟨later, inside, read⟩ := List.mem_filterMap.mp (List.mem_reverse.mp member)
      simpa using (fresh later inside other read).symm

lemma mem_dropped (table : List Row) (text : String) :
    text ∈ dropped sockets gw ips table ↔ LastText sockets gw ips table text := by
  rw [dropped, List.mem_filterMap, LastText]
  constructor
  · rintro ⟨row, inside, named⟩
    obtain ⟨found, gateway⟩ := (listedText_some sockets).mp named
    obtain ⟨front, back, split, read, fresh⟩ := (lookup_ipMap sockets ips _ _ text).mp found
    have entry := mapEntry_route sockets gw read
    have same : row.route = routeOf sockets gw text := by
      rw [Prod.mk.injEq, Prod.mk.injEq] at entry
      exact (Route.mk.injEq ..).mpr ⟨entry.1, entry.2.2, gateway⟩
    exact ⟨⟨row, inside, same⟩, front, _, back, split, read, fresh⟩
  · rintro ⟨⟨row, inside, same⟩, front, entry, back, split, read, fresh⟩
    obtain rfl := mapEntry_route sockets gw read
    refine ⟨row, inside, (listedText_some sockets).mpr ⟨?_, by rw [same]; rfl⟩⟩
    rw [same]
    exact (lookup_ipMap sockets ips _ _ text).mpr ⟨front, back, split, read, fresh⟩

lemma addRow_exact (ifIndex metric : Nat) (s : State) (ipWithMask : String) (exactly : Exact s) :
    Exact (addRow qt sockets gw ifIndex metric s ipWithMask) := by
  rw [addRow]
  split
  · intro route
    have before := exactly route
    simp only [clearSavedRoutes, List.map_append, List.mem_append, List.map_cons, List.map_nil,
      List.mem_singleton] at before ⊢
    rw [← before]
    constructor
    · rintro ⟨row, old | rfl, rfl⟩
      · exact Or.inl ⟨row, old, rfl⟩
      · exact Or.inr rfl
    · rintro (⟨row, old, rfl⟩ | rfl)
      · exact ⟨row, Or.inl old, rfl⟩
      · exact ⟨_, Or.inr rfl, rfl⟩
  · exact exactly

lemma saved_after_delete (route : Route) :
    (∃ row ∈ clearSavedRoutes (routeDeleteList sockets gw ips s), row.route = route) ↔
      ∃ entry ∈ s.ipForwardRows,
        entry.2.route = route ∧ entry.1 ∉ dropped sockets gw ips s.table := by
  change (∃ row ∈ (s.table.foldl (deleteRow sockets gw ips) s).ipForwardRows.map Prod.snd,
    row.route = route) ↔ _
  rw [deleted_rows]
  constructor
  · rintro ⟨row, saved, same⟩
    obtain ⟨entry, kept, rfl⟩ := List.mem_map.mp saved
    obtain ⟨inside, away⟩ := List.mem_filter.mp kept
    exact ⟨entry, inside, same, of_decide_eq_true away⟩
  · rintro ⟨entry, inside, same, away⟩
    exact ⟨entry.2, List.mem_map_of_mem (List.mem_filter.mpr ⟨inside, decide_eq_true away⟩), same⟩

lemma delete_exact_iff (exactly : Exact s) :
    Exact (routeDeleteList sockets gw ips s) ↔
      TextsKept sockets s (.routeDeleteList gw ips) := by
  have after : ∀ route, route ∈ (routeDeleteList sockets gw ips s).live ↔
      route ∈ s.live ∧ route ∉ listed sockets gw ips := by
    intro route
    change route ∈ s.live.filter _ ↔ _
    simp
  simp only [TextsKept, ← mem_dropped]
  constructor
  · intro shown
    constructor
    · intro saved inside named
      by_contra kept
      have live := (after _).mp ((shown _).mp
        ((saved_after_delete sockets gw ips s saved.2.route).mpr ⟨saved, inside, rfl, kept⟩))
      exact live.2 named
    · intro route live unlisted
      exact (saved_after_delete sockets gw ips s route).mp
        ((shown route).mpr ((after route).mpr ⟨live, unlisted⟩))
  · rintro ⟨forgotten, kept⟩ route
    rw [saved_after_delete, after]
    constructor
    · rintro ⟨saved, inside, rfl, text⟩
      exact ⟨(exactly _).mp ⟨saved.2, List.mem_map_of_mem inside, rfl⟩,
        fun named => text (forgotten saved inside named)⟩
    · rintro ⟨live, unlisted⟩
      exact kept route live unlisted

lemma exact_iff (exactly : Exact s) :
    Exact (step qt sockets s event) ↔ TextsKept sockets s event := by
  cases event with
  | routeAddList gw ips ifIndex metric =>
    apply iff_of_true _ trivial
    rw [step, routeAddList]
    split
    · exact List.foldlRecOn (motive := Exact) ips _ exactly
        fun s held ip _ => addRow_exact qt sockets gw ifIndex metric s ip held
    · exact exactly
  | routeDeleteList gw ips => exact delete_exact_iff sockets gw ips s exactly

def started (table : List Row) : State := ⟨table, [], []⟩

end AbstractumVpn.RouterWin

/-! ## Linux -/

namespace AbstractumVpn.RouterLinux

open Router

structure State where
  table : List Route
  addedRoutes : List (String × String)
  live : List Route

inductive Event where
  | routeAddList (gw : String) (ips : List String)
  | routeDeleteList (gw : String) (ips : List String)

variable (qt : Qt) (sockets : Sockets)

def routeOf (gw ipWithSubnet : String) : Option Route :=
  let ip := ipAddressFromIpWithSubnet ipWithSubnet
  if AppSettings.checkIPv4Format qt ip ∧ AppSettings.checkIPv4Format qt gw then
    some {
      dest := sockets.inetAddr ip
      mask := sockets.inetAddr (netMaskFromIpWithSubnet sockets ipWithSubnet)
      gw := sockets.inetAddr gw }
  else none

def routeAdd (gw : String) (s : State) (ipWithSubnet : String) : State :=
  (routeOf qt sockets gw ipWithSubnet).elim s fun route =>
    { table := if route ∈ s.table then s.table else s.table ++ [route]
      addedRoutes := s.addedRoutes ++ [(ipWithSubnet, gw)]
      live := s.live ++ [route] }

def routeAddList (gw : String) (ips : List String) (s : State) : State :=
  ips.foldl (routeAdd qt sockets gw) s

def deletion (gw ipWithSubnet : String) : Option Route :=
  if ipWithSubnet = "0.0.0.0/0" then none else routeOf qt sockets gw ipWithSubnet

def routeDelete (gw : String) (table : List Route) (ipWithSubnet : String) : List Route :=
  match deletion qt sockets gw ipWithSubnet with
  | some route => table.filter (· ≠ route)
  | none => table

def listed (gw : String) (ips : List String) : List Route := ips.filterMap (routeOf qt sockets gw)

def routeDeleteList (gw : String) (ips : List String) (s : State) : State :=
  { s with
    table := ips.foldl (routeDelete qt sockets gw) s.table
    live := s.live.filter (· ∉ listed qt sockets gw ips) }

def clearSavedRoutes (s : State) : List Route :=
  s.addedRoutes.filterMap fun saved => deletion qt sockets saved.2 saved.1

def step (s : State) : Event → State
  | .routeAddList gw ips => routeAddList qt sockets gw ips s
  | .routeDeleteList gw ips => routeDeleteList qt sockets gw ips s

def started (table : List Route) : State := ⟨table, [], []⟩

def Present (s : State) : Prop := ∀ route ∈ s.live, route ∈ s.table

lemma mem_table_delete (gw : String) (ips : List String) (table : List Route) (route : Route) :
    route ∈ ips.foldl (routeDelete qt sockets gw) table ↔
      route ∈ table ∧ ∀ ip ∈ ips, deletion qt sockets gw ip ≠ some route := by
  induction ips generalizing table with
  | nil => simp
  | cons ip rest ih =>
    rw [List.foldl_cons, ih, routeDelete]
    cases named : deletion qt sockets gw ip with
    | none => simp [named]
    | some other =>
      simp [named, and_assoc, eq_comm (a := other)]

lemma deletion_routeOf {gw ip : String} {route : Route}
    (named : deletion qt sockets gw ip = some route) :
    routeOf qt sockets gw ip = some route := by
  rw [deletion] at named
  split at named
  · cases named
  · exact named

lemma routeAdd_present (gw : String) (s : State) (ip : String) (present : Present s) :
    Present (routeAdd qt sockets gw s ip) := by
  rw [routeAdd]
  cases routeOf qt sockets gw ip with
  | none => exact present
  | some route =>
    have known : ∀ other, other ∈ s.table ∨ other = route →
        other ∈ if route ∈ s.table then s.table else s.table ++ [route] := by
      intro other either
      split
      · next inside =>
          rcases either with old | rfl
          · exact old
          · exact inside
      · simpa using either
    intro other member
    apply known
    rcases List.mem_append.mp member with old | new
    · exact Or.inl (present other old)
    · exact Or.inr (List.mem_singleton.mp new)

lemma step_present (s : State) (event : Event) (present : Present s) :
    Present (step qt sockets s event) := by
  cases event with
  | routeAddList gw ips =>
    exact List.foldlRecOn (motive := Present) ips _ present
      fun s held ip _ => routeAdd_present qt sockets gw s ip held
  | routeDeleteList gw ips =>
    intro route member
    obtain ⟨old, unlisted⟩ := List.mem_filter.mp member
    apply (mem_table_delete qt sockets gw ips s.table route).mpr
    refine ⟨present route old, fun ip inside named => of_decide_eq_true unlisted ?_⟩
    exact List.mem_filterMap.mpr ⟨ip, inside, deletion_routeOf qt sockets named⟩

def Removes (s : State) (event : Event) : Prop :=
  match event with
  | .routeDeleteList gw ips => ∀ route ∈ listed qt sockets gw ips, route ∈ s.live →
      route ∉ (step qt sockets s event).table
  | .routeAddList .. => True

/-- A listed live route is listed under another text than the default route. -/
def NotDefault (s : State) : Event → Prop
  | .routeDeleteList gw ips => ∀ route ∈ listed qt sockets gw ips, route ∈ s.live →
      ∃ ip ∈ ips, deletion qt sockets gw ip = some route
  | .routeAddList .. => True

lemma removes_iff (s : State) (event : Event) (present : Present s) :
    Removes qt sockets s event ↔ NotDefault qt sockets s event := by
  cases event with
  | routeAddList gw ips => rfl
  | routeDeleteList gw ips =>
    apply forall₃_congr
    intro route _ live
    change ¬ route ∈ ips.foldl (routeDelete qt sockets gw) s.table ↔ _
    rw [mem_table_delete, and_iff_right (present route live)]
    simp

def Exact (s : State) : Prop :=
  ∀ route, route ∈ clearSavedRoutes qt sockets s ↔ route ∈ s.live

/-- No live route is listed for deletion. An added default route is saved under
another text as well. -/
def NoneForgotten (s : State) : Event → Prop
  | .routeDeleteList gw ips => ∀ route ∈ listed qt sockets gw ips, route ∉ s.live
  | .routeAddList gw ips => ∀ route ∈ listed qt sockets gw ips,
      route ∈ clearSavedRoutes qt sockets s ∨ ∃ ip ∈ ips, deletion qt sockets gw ip = some route

lemma added_routes (gw : String) (ips : List String) (s : State) (route : Route) :
    (route ∈ clearSavedRoutes qt sockets (routeAddList qt sockets gw ips s) ↔
      route ∈ clearSavedRoutes qt sockets s ∨ ∃ ip ∈ ips, deletion qt sockets gw ip = some route) ∧
    (route ∈ (routeAddList qt sockets gw ips s).live ↔
      route ∈ s.live ∨ route ∈ listed qt sockets gw ips) := by
  induction ips generalizing s with
  | nil => simp [routeAddList, listed]
  | cons ip rest ih =>
    change (route ∈ clearSavedRoutes qt sockets (routeAddList qt sockets gw rest _) ↔ _) ∧
      (route ∈ (routeAddList qt sockets gw rest _).live ↔ _)
    rw [(ih _).1, (ih _).2, routeAdd]
    cases named : routeOf qt sockets gw ip with
    | none =>
      have refused : deletion qt sockets gw ip = none := by simp [deletion, named]
      simp [refused, listed, named]
    | some added =>
      constructor
      · simp only [clearSavedRoutes, Option.elim_some, List.filterMap_append, List.mem_append]
        rw [or_assoc]
        simp
      · simp [listed, named, or_assoc]

lemma exact_iff (s : State) (event : Event) (exactly : Exact qt sockets s) :
    Exact qt sockets (step qt sockets s event) ↔ NoneForgotten qt sockets s event := by
  cases event with
  | routeAddList gw ips =>
    constructor
    · intro shown route named
      obtain ⟨saved, live⟩ := added_routes qt sockets gw ips s route
      exact saved.mp ((shown route).mpr (live.mpr (Or.inr named)))
    · intro kept route
      obtain ⟨saved, live⟩ := added_routes qt sockets gw ips s route
      change route ∈ clearSavedRoutes qt sockets (routeAddList qt sockets gw ips s) ↔
        route ∈ (routeAddList qt sockets gw ips s).live
      rw [saved, live, exactly route]
      constructor
      · rintro (old | ⟨ip, inside, named⟩)
        · exact Or.inl old
        · exact Or.inr (List.mem_filterMap.mpr ⟨ip, inside, deletion_routeOf qt sockets named⟩)
      · rintro (old | named)
        · exact Or.inl old
        · exact (kept route named).imp_left (exactly route).mp
  | routeDeleteList gw ips =>
    -- the saved routes are those of before
    have after : Exact qt sockets (routeDeleteList qt sockets gw ips s) ↔
        ∀ route, route ∈ s.live ↔ route ∈ s.live ∧ route ∉ listed qt sockets gw ips := by
      apply forall_congr'
      intro route
      have live : route ∈ (routeDeleteList qt sockets gw ips s).live ↔
          route ∈ s.live ∧ route ∉ listed qt sockets gw ips := by
        simp [routeDeleteList]
      rw [live]
      exact iff_congr (exactly route) Iff.rfl
    change Exact qt sockets (routeDeleteList qt sockets gw ips s) ↔ _
    rw [after]
    constructor
    · intro same route named live
      exact ((same route).mp live).2 named
    · intro away route
      exact ⟨fun live => ⟨live, fun named => away route named live⟩, And.left⟩

end AbstractumVpn.RouterLinux

namespace AbstractumVpn.Router

/-- On both systems: when deletions take all listed routes out of the table, and
when clearing deletes the routes that were added and not deleted since. -/
theorem saved_routes_iff (qt : Qt) (sockets : Sockets) (rows : List RouterWin.Row)
    (routes : List Route) (windowsCalls : List RouterWin.Event)
    (linuxCalls : List RouterLinux.Event) :
    ((Runs.Guarded (RouterWin.step qt sockets) (RouterWin.Removes qt sockets)
        (RouterWin.started rows) windowsCalls ↔
      Runs.Guarded (RouterWin.step qt sockets) (RouterWin.LastListed sockets)
        (RouterWin.started rows) windowsCalls) ∧
    ((∀ s, Runs.Visits (RouterWin.step qt sockets) (RouterWin.started rows) windowsCalls s →
        RouterWin.Exact s) ↔
      Runs.Guarded (RouterWin.step qt sockets) (RouterWin.TextsKept sockets)
        (RouterWin.started rows) windowsCalls)) ∧
    (Runs.Guarded (RouterLinux.step qt sockets) (RouterLinux.Removes qt sockets)
        (RouterLinux.started routes) linuxCalls ↔
      Runs.Guarded (RouterLinux.step qt sockets) (RouterLinux.NotDefault qt sockets)
        (RouterLinux.started routes) linuxCalls) ∧
    ((∀ s, Runs.Visits (RouterLinux.step qt sockets) (RouterLinux.started routes) linuxCalls s →
        RouterLinux.Exact qt sockets s) ↔
      Runs.Guarded (RouterLinux.step qt sockets) (RouterLinux.NoneForgotten qt sockets)
        (RouterLinux.started routes) linuxCalls) := by
  constructor
  · constructor
    · exact Runs.guarded_congr _ (RouterWin.step_present qt sockets)
        (RouterWin.removes_iff qt sockets) _ windowsCalls (by simp [RouterWin.Present,
          RouterWin.started])
    · apply Runs.visits_property_iff (fun _ exactly => exactly)
      · intro s event exactly kept
        exact (RouterWin.exact_iff qt sockets s event exactly).mpr kept
      · intro s event exactly shown
        exact (RouterWin.exact_iff qt sockets s event exactly).mp shown
      · intro route
        simp [RouterWin.started, RouterWin.clearSavedRoutes]
  · constructor
    · exact Runs.guarded_congr _ (RouterLinux.step_present qt sockets)
        (RouterLinux.removes_iff qt sockets) _ linuxCalls (by simp [RouterLinux.Present,
          RouterLinux.started])
    · apply Runs.visits_property_iff (fun _ exactly => exactly)
      · intro s event exactly kept
        exact (RouterLinux.exact_iff qt sockets s event exactly).mpr kept
      · intro s event exactly shown
        exact (RouterLinux.exact_iff qt sockets s event exactly).mp shown
      · intro route
        simp [RouterLinux.started, RouterLinux.clearSavedRoutes]

def quad (text : String) : BitVec 32 :=
  (QtText.split text ".").foldl
    (fun bits part => bits * 256 + BitVec.ofNat 32 ((QtText.decimal part.toList).getD 0)) 0

def quadQt : Qt := ⟨fun text => .ipv4 (quad text), fun _ => (.null, 0)⟩

def quadSockets : Sockets := ⟨quad, quad, fun _ => 0⟩

def eight : Route := ⟨0x0A000000#32, 0xFF000000#32, 0xC0A80001#32⟩

/-- Windows: of two masks of a destination the first stays in the table, and a
deleted network stays saved. Linux: a deleted address stays saved. -/
theorem deleted_route_saved :
    let windows := Runs.run (RouterWin.step quadQt quadSockets) (RouterWin.started [])
    let twoMasks := windows [.routeAddList "192.168.0.1" ["10.0.0.0/8", "10.0.0.0/16"] 3 25,
      .routeDeleteList "192.168.0.1" ["10.0.0.0/8", "10.0.0.0/16"]]
    let network := windows [.routeAddList "192.168.0.1" ["10.0.0.0/8"] 3 25,
      .routeDeleteList "192.168.0.1" ["10.0.0.0/8"]]
    let address := Runs.run (RouterLinux.step quadQt quadSockets) (RouterLinux.started [])
      [.routeAddList "192.168.0.1" ["10.0.0.0"], .routeDeleteList "192.168.0.1" ["10.0.0.0"]]
    (twoMasks.table = [⟨eight, 3, 26⟩] ∧ twoMasks.live = []) ∧
      (network.table = [] ∧ network.live = [] ∧
        RouterWin.clearSavedRoutes network = [⟨eight, 3, 26⟩]) ∧
      address.table = [] ∧ address.live = [] ∧
        RouterLinux.clearSavedRoutes quadQt quadSockets address =
          [⟨0x0A000000#32, 0xFFFFFFFF#32, 0xC0A80001#32⟩] := by
  decide +kernel

end AbstractumVpn.Router
