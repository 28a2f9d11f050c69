import AbstractumVpn.BytePrefixes
import AbstractumVpn.WindowsRouteMonitor

/-!
The row that an exclusion route is taken from. The loop of
`updateExclusionRoute` keeps the best row so far; `Chosen` says which row that
is without the loop. The row of the system is replaced only if the entry differs
from what it was.
-/

namespace AbstractumVpn.WindowsRouteMonitor

open BigEndian

/-! ## Prefixes in bytes -/

lemma parts_eq_iff {high high' low low' unit : Nat} (small : low < unit) (small' : low' < unit) :
    high * unit + low = high' * unit + low' ↔ high = high' ∧ low = low' := by
  constructor
  · intro same
    have quotients := congrArg (· / unit) same
    have positive : 0 < unit := by omega
    simp only [Nat.mul_comm _ unit, Nat.mul_add_div positive, Nat.div_eq_of_lt small,
      Nat.div_eq_of_lt small', Nat.add_zero] at quotients
    subst quotients
    exact ⟨rfl, by omega⟩
  · rintro ⟨rfl, rfl⟩
    rfl

lemma prefixcmp_zero {a b : List UInt8} {bits : Nat} (same : a.length = b.length)
    (bound : bits ≤ 8 * a.length) :
    prefixcmp a b bits = 0 ↔
      value a / 2 ^ (8 * a.length - bits) = value b / 2 ^ (8 * b.length - bits) := by
  have fronts : compareBytes (a.take (bits / 8)) (b.take (bits / 8)) = 0 ↔
      value (a.take (bits / 8)) = value (b.take (bits / 8)) :=
    (compare_value _ _ (by simp [same])).2
  have last : ∀ byte : UInt8, byte.toNat / 2 ^ (8 - bits % 8) < 2 ^ (bits % 8) := by
    intro byte
    rw [Nat.div_lt_iff_lt_mul (Nat.two_pow_pos _), ← Nat.pow_add, Nat.add_sub_cancel' (by omega)]
    exact byte.toNat_lt
  rw [value_kept bits a bound, value_kept bits b (same ▸ bound), parts_eq_iff (last _) (last _),
    ← fronts]
  simp only [prefixcmp, Nat.shiftRight_eq_div_pow]
  by_cases differ : compareBytes (a.take (bits / 8)) (b.take (bits / 8)) = 0
  · by_cases whole : bits % 8 = 0
    · have none_kept : ∀ byte : UInt8, byte.toNat / 2 ^ (8 - bits % 8) = 0 := by
        intro byte
        have small := last byte
        rw [whole] at small ⊢
        omega
      rw [none_kept, none_kept]
      simp [differ]
    · omega
  · -- bytes that differ are there only if there are bytes
    have some_bytes : bits / 8 > 0 := by
      by_contra none_there
      have zero : bits / 8 = 0 := by omega
      exact differ (by simp [zero, compareBytes])
    simp [differ, some_bytes]

lemma octets_length (ip : Ip) :
    (octets ip).length = match ip.family with | .ipv4 => 4 | .ipv6 => 16 := by
  cases ip <;> exact DataStream.writeNumber_length _ _

lemma octets_value_v4 (bits : BitVec 32) : value (octets (.v4 bits)) = bits.toNat :=
  (DataStream.value_writeNumber 4 _).trans (Nat.mod_eq_of_lt bits.isLt)

lemma octets_value_v6 (bits : BitVec 128) : value (octets (.v6 bits)) = bits.toNat :=
  (DataStream.value_writeNumber 16 _).trans (Nat.mod_eq_of_lt bits.isLt)

lemma shifted_eq_iff {width : Nat} (a b : BitVec width) (count : Nat) :
    (a >>> count == b >>> count) = true ↔ a.toNat / 2 ^ count = b.toNat / 2 ^ count := by
  rw [beq_iff_eq, ← BitVec.toNat_inj, BitVec.toNat_ushiftRight, BitVec.toNat_ushiftRight,
    Nat.shiftRight_eq_div_pow, Nat.shiftRight_eq_div_pow]

lemma octets_same_length {ip other : Ip} (family : ip.family = other.family) :
    (octets ip).length = (octets other).length := by
  rw [octets_length, octets_length, family]

lemma contains_iff_prefixcmp {base target : Ip} (family : base.family = target.family) {length : Nat}
    (bound : length ≤ 8 * (octets base).length) :
    (Net.mk base length).contains target = true ↔
      prefixcmp (octets base) (octets target) length = 0 := by
  rw [prefixcmp_zero (octets_same_length family) bound, octets_length, octets_length]
  cases base with
  | v4 bits =>
    cases target with
    | v4 other =>
      rw [octets_value_v4, octets_value_v4]
      exact shifted_eq_iff bits other _
    | v6 other => cases family
  | v6 bits =>
    cases target with
    | v4 other => cases family
    | v6 other =>
      rw [octets_value_v6, octets_value_v6]
      exact shifted_eq_iff bits other _

lemma contains_family {net : Net} {ip : Ip} (inside : net.contains ip = true) :
    net.base.family = ip.family := by
  obtain ⟨base, length⟩ := net
  cases base <;> cases ip <;> first | rfl | cases inside

/-- The comparison of bytes is that of the leading bits. -/
theorem contains_bytes (route dest : Net) (bound : dest.length ≤ 8 * (octets dest.base).length) :
    routeContainsDest route dest = true ↔
      route.length ≤ dest.length ∧ route.contains dest.base = true := by
  have agree : ∀ family : route.base.family = dest.base.family, route.length ≤ dest.length → _ :=
    fun family shorter => contains_iff_prefixcmp family
      (shorter.trans (octets_same_length family ▸ bound))
  simp only [routeContainsDest, Bool.and_eq_true, beq_iff_eq, decide_eq_true_iff]
  constructor
  · rintro ⟨⟨family, shorter⟩, zero⟩
    exact ⟨shorter, (agree family shorter).mpr zero⟩
  · rintro ⟨shorter, inside⟩
    have family := contains_family inside
    exact ⟨⟨family, shorter⟩, (agree family shorter).mp inside⟩

theorem half_contains_route :
    routeContainsDest ⟨.quad 128 0 0 0, 1⟩ ⟨.quad 192 168 0 0, 16⟩ = true :=
  (contains_bytes ⟨.quad 128 0 0 0, 1⟩ ⟨.quad 192 168 0 0, 16⟩ (by decide)).mpr (by decide)

/-! ## The row that is chosen -/

variable (luid : Nat)

def metricsFor (s : State) (destination : Net) : List (Nat × Nat) :=
  match destination.base.family with
  | .ipv4 => s.interfaceMetricsIpv4
  | .ipv6 => s.interfaceMetricsIpv6

def ownRow (row : Row) : Bool :=
  row.protocol == mibIpprotoNetmgmt && row.metric == exclusionRouteMetric

def eligible (s : State) (destination : Net) (row : Row) : Bool :=
  row.interfaceLuid != luid && !ownRow row && row.destination.base.family == destination.base.family &&
    ((metricsFor s destination).lookup row.interfaceLuid).isSome

def candidate (s : State) (destination : Net) (row : Row) : Bool :=
  eligible luid s destination row && routeContainsDest row.destination destination

/-- The sum of the metrics of the row and of its interface, which stays at the
largest number of 32 bits. -/
def combinedMetric (s : State) (destination : Net) (row : Row) : Nat :=
  min (row.metric + ((metricsFor s destination).lookup row.interfaceLuid).getD 0) ulongMax

structure SystemNumbers (s : State) (table : List Row) : Prop where
  interfaces : ∀ row ∈ table, row.interfaceLuid ≠ 0
  rowMetrics : ∀ row ∈ table, row.metric ≤ ulongMax
  metrics : ∀ entry ∈ s.interfaceMetricsIpv4 ++ s.interfaceMetricsIpv6, entry.2 ≤ ulongMax

/-- The candidate with the longest prefix and, among those, the lowest combined
metric; the first of several. -/
structure Chosen (s : State) (destination : Net) (table : List Row) (row : Row) : Prop where
  fits : candidate luid s destination row = true
  longest : ∀ other ∈ table, candidate luid s destination other = true →
    other.destination.length ≤ row.destination.length
  cheapest : ∀ other ∈ table, candidate luid s destination other = true →
    other.destination.length = row.destination.length →
      combinedMetric s destination row ≤ combinedMetric s destination other
  first : ∃ front back, table = front ++ row :: back ∧
    ∀ other ∈ front, candidate luid s destination other = true →
      other.destination.length = row.destination.length →
        combinedMetric s destination row < combinedMetric s destination other

def wayOf (s : State) (destination : Net) (row : Row) : Best :=
  ⟨row.nextHop, if row.destination.length = destination.length then 0 else row.interfaceLuid,
    some row.destination.length, combinedMetric s destination row⟩

def beats (s : State) (destination : Net) (best : Best) (row : Row) : Bool :=
  best.length.all fun length => length < row.destination.length ||
    (length == row.destination.length && combinedMetric s destination row < best.metric)

section Scan

variable {s : State} {destination : Net} {table : List Row}

lemma metric_le (numbers : SystemNumbers s table) {interface metric : Nat}
    (known : (metricsFor s destination).lookup interface = some metric) : metric ≤ ulongMax := by
  obtain ⟨front, back, parts, -⟩ := List.lookup_eq_some_iff.mp known
  have member : (interface, metric) ∈ metricsFor s destination := by simp [parts]
  refine numbers.metrics (interface, metric) ?_
  rw [List.mem_append]
  unfold metricsFor at member
  cases family : destination.base.family <;> rw [family] at member
  · exact Or.inl member
  · exact Or.inr member

/-- The sum that wraps around and is then recognised as too small. -/
lemma saturated (row metric : Nat) (small : row ≤ ulongMax) (small' : metric ≤ ulongMax) :
    (if (row + metric) % 4294967296 < row then ulongMax else (row + metric) % 4294967296) =
      min (row + metric) ulongMax := by
  unfold ulongMax at *
  split <;> omega

lemma beats_iff (best : Best) (row : Row) :
    beats s destination best row = true ↔
      ¬ best.length.any (row.destination.length < ·) = true ∧
        ¬ (best.length = some row.destination.length ∧
          best.metric ≤ combinedMetric s destination row) := by
  cases held : best.length with
  | none => simp [beats, held]
  | some length =>
    simp only [beats, held, Option.all_some, Option.any_some, Bool.or_eq_true,
      Bool.and_eq_true, decide_eq_true_eq, beq_iff_eq, Option.some.injEq]
    omega

lemma consider_eq (numbers : SystemNumbers s table) (best : Best) {row : Row}
    (member : row ∈ table) :
    consider luid s destination best row =
      if candidate luid s destination row && beats s destination best row then wayOf s destination row
      else best := by
  cases inside : routeContainsDest row.destination destination with
  | false => simp [consider, candidate, inside]
  | true =>
    have family : row.destination.base.family = destination.base.family :=
      routeContainsDest_family inside
    have same : consider luid s destination best row =
        if row.interfaceLuid = luid then best
        else if best.length.any (row.destination.length < ·) then best
        else if row.protocol = mibIpprotoNetmgmt ∧ row.metric = exclusionRouteMetric then best
        else ((metricsFor s destination).lookup row.interfaceLuid).elim best fun metric =>
          let sum := (row.metric + metric) % 4294967296
          let routeMetric := if sum < row.metric then ulongMax else sum
          if best.length = some row.destination.length ∧ best.metric ≤ routeMetric then best
          else ⟨row.nextHop,
            if row.destination.length = destination.length then 0 else row.interfaceLuid,
            some row.destination.length, routeMetric⟩ := by
      simp only [consider, inside, metricsFor]
      cases destination.base.family with
      | ipv4 => cases s.interfaceMetricsIpv4.lookup row.interfaceLuid <;> rfl
      | ipv6 => cases s.interfaceMetricsIpv6.lookup row.interfaceLuid <;> rfl
    rw [same]
    cases known : (metricsFor s destination).lookup row.interfaceLuid with
    | none => simp [candidate, eligible, known]
    | some metric =>
      have sum := saturated row.metric metric (numbers.rowMetrics row member) (metric_le numbers known)
      have combined : min (row.metric + metric) ulongMax = combinedMetric s destination row := by
        simp [combinedMetric, known]
      simp only [Option.elim_some, sum, combined]
      have fits : candidate luid s destination row = true ↔ row.interfaceLuid ≠ luid ∧
          ¬ (row.protocol = mibIpprotoNetmgmt ∧ row.metric = exclusionRouteMetric) := by
        simp [candidate, eligible, ownRow, known, family, inside, imp_iff_not_or]
      simp only [Bool.and_eq_true, fits, beats_iff]
      by_cases vpn : row.interfaceLuid = luid
      · simp [vpn]
      · by_cases shorter : best.length.any (row.destination.length < ·) = true
        · simp [shorter]
        · by_cases own : row.protocol = mibIpprotoNetmgmt ∧ row.metric = exclusionRouteMetric
          · simp [own]
          · by_cases dearer : best.length = some row.destination.length ∧
                best.metric ≤ combinedMetric s destination row
            · simp [dearer]
            · simp only [vpn, shorter, own, dearer, ne_eq]
              rfl

def Held (s : State) (destination : Net) (table : List Row) (best : Best) : Prop :=
  ((∀ row ∈ table, candidate luid s destination row = false) ∧
      best = ⟨anyAddress destination.base.family, 0, none, ulongMax⟩) ∨
    ∃ row, Chosen luid s destination table row ∧ best = wayOf s destination row

/-- A row that is no candidate does not change which one is chosen, and neither
does a candidate that the chosen one is at least as good as. -/
lemma chosen_append {row next : Row} (chosen : Chosen luid s destination table row)
    (worse : candidate luid s destination next = true →
      next.destination.length < row.destination.length ∨
        next.destination.length = row.destination.length ∧
          combinedMetric s destination row ≤ combinedMetric s destination next) :
    Chosen luid s destination (table ++ [next]) row := by
  constructor
  · exact chosen.fits
  · intro other member fits
    rcases List.mem_append.mp member with before | last
    · exact chosen.longest other before fits
    · obtain rfl := List.mem_singleton.mp last
      rcases worse fits with shorter | same
      · exact Nat.le_of_lt shorter
      · exact Nat.le_of_eq same.1
  · intro other member fits same
    rcases List.mem_append.mp member with before | last
    · exact chosen.cheapest other before fits same
    · obtain rfl := List.mem_singleton.mp last
      rcases worse fits with shorter | dearer
      · omega
      · exact dearer.2
  · obtain ⟨front, back, parts, dearer⟩ := chosen.first
    exact ⟨front, back ++ [next], by simp [parts], dearer⟩

/-- A candidate that is better than all rows before it is chosen. -/
lemma better_chosen {next : Row} (fits : candidate luid s destination next = true)
    (better : ∀ other ∈ table, candidate luid s destination other = true →
      other.destination.length < next.destination.length ∨
        other.destination.length = next.destination.length ∧
          combinedMetric s destination next < combinedMetric s destination other) :
    Chosen luid s destination (table ++ [next]) next := by
  constructor
  · exact fits
  · intro other member fits
    rcases List.mem_append.mp member with before | last
    · rcases better other before fits with shorter | same
      · exact Nat.le_of_lt shorter
      · exact Nat.le_of_eq same.1
    · rw [List.mem_singleton.mp last]
  · intro other member fits same
    rcases List.mem_append.mp member with before | last
    · rcases better other before fits with shorter | dearer
      · omega
      · exact Nat.le_of_lt dearer.2
    · rw [List.mem_singleton.mp last]
  · refine ⟨table, [], rfl, fun other before fits same => ?_⟩
    rcases better other before fits with shorter | dearer
    · omega
    · exact dearer.2

lemma beats_way (row next : Row) :
    beats s destination (wayOf s destination row) next = true ↔
      row.destination.length < next.destination.length ∨
        row.destination.length = next.destination.length ∧
          combinedMetric s destination next < combinedMetric s destination row := by
  rw [beats_iff]
  change ¬ decide (next.destination.length < row.destination.length) = true ∧
    ¬ (some row.destination.length = some next.destination.length ∧
      combinedMetric s destination row ≤ combinedMetric s destination next) ↔ _
  rw [decide_eq_true_iff, Option.some.injEq]
  omega

lemma consider_held {front : List Row} (numbers : SystemNumbers s table) {best : Best}
    {next : Row} (member : next ∈ table) (held : Held luid s destination front best) :
    Held luid s destination (front ++ [next]) (consider luid s destination best next) := by
  rw [consider_eq luid numbers best member]
  rcases held with ⟨none_fits, rfl⟩ | ⟨row, chosen, rfl⟩
  · cases fits : candidate luid s destination next with
    | false =>
      left
      refine ⟨fun row listed => ?_, by simp⟩
      rcases List.mem_append.mp listed with before | last
      · exact none_fits row before
      · rw [List.mem_singleton.mp last, fits]
    | true =>
      right
      refine ⟨next, better_chosen luid fits fun other before other_fits => ?_, by simp [beats]⟩
      rw [none_fits other before] at other_fits
      cases other_fits
  · right
    by_cases wins : candidate luid s destination next = true ∧
        beats s destination (wayOf s destination row) next = true
    · refine ⟨next, better_chosen luid wins.1 fun other before other_fits => ?_, by simp [wins]⟩
      have longest := chosen.longest other before other_fits
      have cheapest := chosen.cheapest other before other_fits
      rcases (beats_way row next).mp wins.2 with longer | ⟨same, cheaper⟩
      · omega
      · omega
    · refine ⟨row, chosen_append luid chosen fun fits => ?_, by simp [wins]⟩
      have lost : ¬ _ := fun won => wins ⟨fits, (beats_way row next).mpr won⟩
      omega

lemma scan_held (numbers : SystemNumbers s table) :
    Held luid s destination table (table.foldl (consider luid s destination)
      ⟨anyAddress destination.base.family, 0, none, ulongMax⟩) := by
  have through : ∀ front back, table = front ++ back → ∀ best, Held luid s destination front best →
      Held luid s destination table (back.foldl (consider luid s destination) best) := by
    intro front back parts best held
    induction back generalizing front best with
    | nil => simpa [parts] using held
    | cons next rest ih =>
      refine ih (front ++ [next]) (by simp [parts]) _ ?_
      exact consider_held luid numbers (by simp [parts]) held
  exact through [] table rfl _ (Or.inl ⟨by simp, rfl⟩)

end Scan

/-! ## The entry and its row -/

inductive RouteCall where
  | deleteIpForwardEntry (row : Row)
  | createIpForwardEntry (row : Row)
  deriving DecidableEq

def sameRoute (row other : Row) : Bool :=
  row.interfaceLuid == other.interfaceLuid && row.destination == other.destination &&
    row.nextHop == other.nextHop

def applyCall (rows : List Row) : RouteCall → List Row
  | .deleteIpForwardEntry row => rows.filter fun other => !sameRoute row other
  | .createIpForwardEntry row => row :: rows

/-- `updateExclusionRoute` with the entry it is given, and the calls it makes. -/
def updateExclusionEntry (s : State) (table : List Row) (destination : Net) (data : Hop) :
    Hop × List RouteCall :=
  let hop := updateExclusionRoute luid s table destination
  if data = hop then (data, [])
  else
    (hop,
      (if data.interfaceLuid ≠ 0 then [.deleteIpForwardEntry (exclusionRow destination data)] else []) ++
        if hop.interfaceLuid ≠ 0 then [.createIpForwardEntry (exclusionRow destination hop)] else [])

/-- The rows of the system that the monitor made for the destination are those of
the entry: one, or none when its interface is zero. -/
def Installed (destination : Net) (data : Hop) (rows : List Row) : Prop :=
  ∀ row, (row ∈ rows ∧ ownRow row = true ∧ row.destination = destination) ↔
    data.interfaceLuid ≠ 0 ∧ row = exclusionRow destination data

section Entry

variable (s : State) (table : List Row) (destination : Net)

lemma entry_hop (data : Hop) :
    (updateExclusionEntry luid s table destination data).1 =
      updateExclusionRoute luid s table destination := by
  by_cases same : data = updateExclusionRoute luid s table destination
  · simp only [updateExclusionEntry, if_pos same]
    exact same
  · simp [updateExclusionEntry, if_neg same]

lemma entry_again {again : List Row} (data : Hop)
    (same : updateExclusionRoute luid s again destination =
      updateExclusionRoute luid s table destination) :
    (updateExclusionEntry luid s again destination
      (updateExclusionEntry luid s table destination data).1).2 = [] := by
  rw [entry_hop, updateExclusionEntry, if_pos same.symm]

/-- The rows of the monitor's own making do not count. -/
lemma choice_foreign :
    updateExclusionRoute luid s (table.filter fun row => !ownRow row) destination =
      updateExclusionRoute luid s table destination := by
  have skipped : ∀ best, (table.filter fun row => !ownRow row).foldl (consider luid s destination) best =
      table.foldl (consider luid s destination) best := by
    induction table with
    | nil => simp
    | cons row rest ih =>
      intro best
      cases own : ownRow row with
      | false => rw [List.filter_cons_of_pos (by simp [own]), List.foldl_cons, List.foldl_cons, ih]
      | true =>
        have kept : consider luid s destination best row = best := by
          rw [ownRow, Bool.and_eq_true, beq_iff_eq, beq_iff_eq] at own
          simp [consider, own]
        rw [List.filter_cons_of_neg (by simp [own]), List.foldl_cons, kept, ih]
  rw [updateExclusionRoute, updateExclusionRoute, skipped]

variable {rows : List Row}

lemma installed_deleted {data : Hop} (installed : Installed destination data rows) :
    Installed destination ⟨0, data.nextHop⟩
      (applyCall rows (.deleteIpForwardEntry (exclusionRow destination data))) := by
  intro row
  simp only [applyCall, List.mem_filter, ne_eq, not_true_eq_false, false_and, iff_false, not_and]
  rintro ⟨listed, kept⟩ own target
  have same := ((installed row).mp ⟨listed, own, target⟩).2
  rw [same] at kept
  simp [sameRoute] at kept

lemma installed_created {data hop : Hop} (installed : Installed destination data rows)
    (gone : data.interfaceLuid = 0) (there : hop.interfaceLuid ≠ 0) :
    Installed destination hop (applyCall rows (.createIpForwardEntry (exclusionRow destination hop))) := by
  intro row
  constructor
  · rintro ⟨listed, own, target⟩
    rcases List.mem_cons.mp listed with new | old
    · exact ⟨there, new⟩
    · exact absurd gone ((installed row).mp ⟨old, own, target⟩).1
  · rintro ⟨-, rfl⟩
    exact ⟨List.mem_cons_self, rfl, rfl⟩

/-- Without an interface the next hop does not matter. -/
lemma installed_none {data hop : Hop} (installed : Installed destination data rows)
    (gone : data.interfaceLuid = 0) (none_there : hop.interfaceLuid = 0) :
    Installed destination hop rows := by
  intro row
  rw [installed row, gone, none_there]
  simp

lemma entry_installed {data : Hop} (installed : Installed destination data rows) :
    Installed destination (updateExclusionEntry luid s table destination data).1
      ((updateExclusionEntry luid s table destination data).2.foldl applyCall rows) := by
  by_cases same : data = updateExclusionRoute luid s table destination
  · simp only [updateExclusionEntry, if_pos same]
    exact installed
  · simp only [updateExclusionEntry, if_neg same]
    generalize updateExclusionRoute luid s table destination = hop
    -- what is there after the deletion, if there is one
    have cleared : ∃ left : Hop, left.interfaceLuid = 0 ∧ Installed destination left
        ((if data.interfaceLuid ≠ 0 then [RouteCall.deleteIpForwardEntry (exclusionRow destination data)]
          else []).foldl applyCall rows) := by
      by_cases there : data.interfaceLuid = 0
      · exact ⟨data, there, by simpa [there] using installed⟩
      · exact ⟨⟨0, data.nextHop⟩, rfl, by
          simpa [there] using installed_deleted destination installed⟩
    obtain ⟨left, zero, after⟩ := cleared
    by_cases made : hop.interfaceLuid = 0
    · simpa [made] using installed_none destination after zero made
    · simpa [made] using installed_created destination after zero made

end Entry

/-- After `updateExclusionRoute` the monitor's rows for the destination are one
through the chosen row, or none if no row is a candidate or the chosen one has the
length of the destination. A second call with a table that differs in rows of the
monitor only makes no call of the system. -/
theorem exclusion_route_chosen (s : State) (table : List Row) (numbers : SystemNumbers s table)
    (destination : Net) (data : Hop) (rows : List Row) (installed : Installed destination data rows) :
    let result := updateExclusionEntry luid s table destination data
    let after := result.2.foldl applyCall rows
    ((∃ row, Chosen luid s destination table row ∧ row.destination.length ≠ destination.length ∧
        ∀ own, (own ∈ after ∧ ownRow own = true ∧ own.destination = destination) ↔
          own = exclusionRow destination ⟨row.interfaceLuid, row.nextHop⟩) ∨
      (((∀ row ∈ table, candidate luid s destination row = false) ∨
          ∃ row, Chosen luid s destination table row ∧
            row.destination.length = destination.length) ∧
        ∀ own ∈ after, ownRow own = true → own.destination ≠ destination)) ∧
    ∀ again : List Row,
      (again.filter fun row => !ownRow row) = (table.filter fun row => !ownRow row) →
        (updateExclusionEntry luid s again destination result.1).2 = [] := by
  intro result after
  have now : Installed destination result.1 after := entry_installed luid s table destination installed
  rw [show result.1 = _ from entry_hop luid s table destination data] at now
  have nothing : (updateExclusionRoute luid s table destination).interfaceLuid = 0 →
      ∀ own ∈ after, ownRow own = true → own.destination ≠ destination := by
    intro zero own listed made target
    exact ((now own).mp ⟨listed, made, target⟩).1 zero
  constructor
  · have held : Held luid s destination table _ := scan_held luid numbers
    rcases held with ⟨none_fits, ended⟩ | ⟨row, chosen, ended⟩
    · right
      refine ⟨Or.inl none_fits, nothing ?_⟩
      rw [updateExclusionRoute, ended]
    · by_cases exact : row.destination.length = destination.length
      · right
        refine ⟨Or.inr ⟨row, chosen, exact⟩, nothing ?_⟩
        rw [updateExclusionRoute, ended]
        exact if_pos exact
      · left
        have hop : updateExclusionRoute luid s table destination =
            ⟨row.interfaceLuid, row.nextHop⟩ := by
          rw [updateExclusionRoute, ended]
          simp [wayOf, exact]
        obtain ⟨front, back, parts, -⟩ := chosen.first
        have there : row.interfaceLuid ≠ 0 := numbers.interfaces row (by simp [parts])
        refine ⟨row, chosen, exact, fun own => ?_⟩
        rw [now own, hop]
        exact and_iff_right there
  · intro again same
    apply entry_again
    rw [← choice_foreign luid s again, same, choice_foreign]

/-! Two gateways with the default route, and the tunnel. -/

def gateways : State := ⟨false, [], [], [(3, 25), (4, 10)], [], [], []⟩

def gatewayRows : List Row :=
  [⟨9, ⟨.v4 0, 0⟩, .v4 0, 0, 3⟩, ⟨3, ⟨.v4 0, 0⟩, .quad 192 168 1 1, 0, 3⟩,
    ⟨4, ⟨.v4 0, 0⟩, .quad 10 0 0 1, 5, 3⟩]

def serverNet : Net := ⟨.quad 203 0 113 5, 32⟩

lemma gateway_rows_numbers : SystemNumbers gateways gatewayRows := by
  constructor <;> decide

theorem cheaper_gateway_chosen :
    let first := updateExclusionEntry 9 gateways gatewayRows serverNet ⟨0, .v4 0⟩
    first.2 = [.createIpForwardEntry (exclusionRow serverNet ⟨4, .quad 10 0 0 1⟩)] ∧
      (updateExclusionEntry 9 gateways (first.2.foldl applyCall gatewayRows) serverNet first.1).2 = [] := by
  intro first
  have nothing_yet : Installed serverNet ⟨0, .v4 0⟩ gatewayRows := by
    intro row
    simp only [ne_eq, not_true_eq_false, false_and, iff_false, not_and]
    revert row
    decide
  have calls : first.2 = [.createIpForwardEntry (exclusionRow serverNet ⟨4, .quad 10 0 0 1⟩)] := by
    decide
  refine ⟨calls, (exclusion_route_chosen 9 gateways gatewayRows gateway_rows_numbers serverNet
    ⟨0, .v4 0⟩ gatewayRows nothing_yet).2 _ ?_⟩
  rfl

end AbstractumVpn.WindowsRouteMonitor
