import Mathlib.Data.List.Basic

/-!
Association lists under `List.lookup`, lists of fields of which some are left
out, and reference counts kept in an association list: a key is added with count
one and removed when its last reference goes.
-/

namespace AssocList

variable {Key Value : Type} [DecidableEq Key]

lemma lookup_map (update : Key → Value → Value) (entries : List (Key × Value)) (key : Key) :
    (entries.map fun entry => (entry.1, update entry.1 entry.2)).lookup key =
      (entries.lookup key).map (update key) := by
  induction entries with
  | nil => rfl
  | cons entry rest ih =>
    obtain ⟨name, value⟩ := entry
    by_cases found : key = name
    · subst found
      simp
    · have missed : (key == name) = false := beq_eq_false_iff_ne.mpr found
      simpa [List.lookup_cons, missed] using ih

variable (update : Nat → Nat) (entries : List (Key × Value)) (counts : List (Key × Nat))
    (keys : List Key) (key other : Key)

lemma lookup_filter (dropped key : Key) :
    (entries.filter (·.1 ≠ dropped)).lookup key =
      if key = dropped then none else entries.lookup key := by
  induction entries with
  | nil => simp
  | cons entry rest ih =>
    obtain ⟨name, value⟩ := entry
    by_cases out : name = dropped
    · subst out
      rw [List.filter_cons_of_neg (by simp), ih]
      by_cases found : key = name
      · simp [found]
      · have missed : (key == name) = false := beq_eq_false_iff_ne.mpr found
        simp [List.lookup_cons, missed]
    · rw [List.filter_cons_of_pos (by simpa using out), List.lookup_cons, List.lookup_cons, ih]
      by_cases found : key = name
      · subst found
        simp [out]
      · have missed : (key == name) = false := beq_eq_false_iff_ne.mpr found
        simp [missed]

lemma lookup_cons_other {first key : Key} (value : Value) (other : key ≠ first) :
    ((first, value) :: entries).lookup key = entries.lookup key := by
  rw [List.lookup_cons, beq_eq_false_iff_ne.mpr other]

lemma lookup_of_mem {entries : List (Key × Value)} (distinct : (entries.map Prod.fst).Nodup)
    {key : Key} {value : Value} (member : (key, value) ∈ entries) :
    entries.lookup key = some value := by
  induction entries with
  | nil => cases member
  | cons entry rest ih =>
    obtain ⟨name, held⟩ := entry
    obtain ⟨fresh, distinct⟩ := List.nodup_cons.mp distinct
    rcases List.mem_cons.mp member with same | later
    · obtain ⟨rfl, rfl⟩ := Prod.mk.inj same
      simp
    · have other : key ≠ name := by
        rintro rfl
        exact fresh (List.mem_map.mpr ⟨(key, value), later, rfl⟩)
      rw [lookup_cons_other rest held other]
      exact ih distinct later

def present (fields : List (Key × Option Value)) : List (Key × Value) :=
  fields.filterMap fun field => field.2.map fun value => (field.1, value)

omit [DecidableEq Key] in
lemma present_keys (fields : List (Key × Option Value)) :
    ((present fields).map Prod.fst).Sublist (fields.map Prod.fst) := by
  induction fields with
  | nil => exact List.Sublist.slnil
  | cons field rest ih =>
    obtain ⟨key, value⟩ := field
    cases value with
    | none => exact ih.trans (List.sublist_cons_self _ _)
    | some value => exact ih.cons_cons key

lemma lookup_of_not_mem {entries : List (Key × Value)} {key : Key}
    (absent : key ∉ entries.map Prod.fst) : entries.lookup key = none := by
  rw [List.lookup_eq_none_iff]
  intro entry member
  apply bne_iff_ne.mpr
  rintro rfl
  exact absent (List.mem_map_of_mem member)

lemma not_mem_of_lookup {entries : List (Key × Value)} {key : Key}
    (absent : entries.lookup key = none) : key ∉ entries.map Prod.fst := by
  intro member
  obtain ⟨entry, inside, rfl⟩ := List.mem_map.mp member
  exact absurd (List.lookup_eq_none_iff.mp absent entry inside) (by simp)

lemma filter_of_not_mem {entries : List (Key × Value)} {key : Key}
    (absent : key ∉ entries.map Prod.fst) : entries.filter (·.1 ≠ key) = entries := by
  apply List.filter_eq_self.mpr
  intro entry member
  simpa using fun same : entry.1 = key => absent (same ▸ List.mem_map_of_mem member)

lemma lookup_present {fields : List (Key × Option Value)}
    (distinct : (fields.map Prod.fst).Nodup) (key : Key) :
    (present fields).lookup key = (fields.lookup key).join := by
  induction fields with
  | nil => rfl
  | cons field rest ih =>
    obtain ⟨name, value⟩ := field
    obtain ⟨fresh, distinct⟩ := List.nodup_cons.mp distinct
    by_cases same : key = name
    · subst same
      cases value with
      | none =>
        have absent : key ∉ (present rest).map Prod.fst :=
          fun member => fresh ((present_keys rest).subset member)
        simpa [present] using lookup_of_not_mem absent
      | some value => simp [present]
    · rw [lookup_cons_other rest value same, ← ih distinct]
      cases value with
      | none => rfl
      | some value => exact lookup_cons_other (present rest) value same

omit [DecidableEq Key] in
/-- With the same possible keys, two lists are equal when all fields are. -/
lemma present_inj {fields others : List (Key × Option Value)}
    (keys : fields.map Prod.fst = others.map Prod.fst) (distinct : (fields.map Prod.fst).Nodup) :
    present fields = present others ↔ fields = others := by
  constructor
  · intro same
    induction fields generalizing others with
    | nil => exact (List.map_eq_nil_iff.mp keys.symm).symm
    | cons field rest ih =>
      cases others with
      | nil => cases keys
      | cons other others =>
        obtain ⟨key, value⟩ := field
        obtain ⟨name, held⟩ := other
        obtain ⟨same_key, rest_keys⟩ := List.cons.inj keys
        obtain rfl : key = name := same_key
        obtain ⟨fresh, rest_distinct⟩ := List.nodup_cons.mp distinct
        have not_here : ∀ fields : List (Key × Option Value), key ∉ fields.map Prod.fst →
            ∀ value, (key, value) ∉ present fields :=
          fun fields absent value member =>
            absent ((present_keys fields).subset (List.mem_map_of_mem member))
        have also_fresh : key ∉ others.map Prod.fst := rest_keys ▸ fresh
        cases value with
        | none =>
          cases held with
          | none => rw [ih rest_keys rest_distinct same]
          | some held =>
            exact absurd (same ▸ List.mem_cons_self) (not_here rest fresh held)
        | some value =>
          cases held with
          | none =>
            exact absurd (same ▸ List.mem_cons_self) (not_here others also_fresh value)
          | some held =>
            obtain ⟨entry, same⟩ := List.cons.inj same
            rw [ih rest_keys rest_distinct same, (Prod.mk.inj entry).2]
  · exact congrArg present

def count (counts : List (Key × Nat)) (key : Key) : Nat := (counts.lookup key).getD 0

def change (update : Nat → Nat) (counts : List (Key × Nat)) (key : Key) : List (Key × Nat) :=
  counts.map fun entry => if entry.1 = key then (entry.1, update entry.2) else entry

def acquire (counts : List (Key × Nat)) (key : Key) : List (Key × Nat) :=
  match counts.lookup key with
  | some _ => change (· + 1) counts key
  | none => (key, 1) :: counts

def release (counts : List (Key × Nat)) (key : Key) : List (Key × Nat) :=
  if count counts key > 1 then change (· - 1) counts key else counts.filter (·.1 ≠ key)

def Live (counts : List (Key × Nat)) : Prop := ∀ entry ∈ counts, 0 < count counts entry.1

lemma Live.pos {counts : List (Key × Nat)} (live : Live counts) {key : Key} {held : Nat}
    (known : counts.lookup key = some held) : 0 < count counts key := by
  obtain ⟨front, back, rfl, -⟩ := List.lookup_eq_some_iff.mp known
  exact live (key, held) (by simp)

lemma change_eq_map :
    change update counts key =
      counts.map fun entry => (entry.1, if entry.1 = key then update entry.2 else entry.2) := by
  refine List.map_congr_left fun entry _ => ?_
  split <;> rfl

lemma lookup_change :
    (change update counts key).lookup other =
      (counts.lookup other).map fun held => if other = key then update held else held := by
  rw [change_eq_map]
  exact lookup_map (fun name held => if name = key then update held else held) counts other

lemma count_acquire :
    count (acquire counts key) other = count counts other + if other = key then 1 else 0 := by
  cases found : counts.lookup key with
  | some held =>
    by_cases same : other = key
    · subst same
      simp [acquire, count, lookup_change, found]
    · simp [acquire, count, lookup_change, found, same]
  | none =>
    by_cases same : other = key
    · subst same
      simp [acquire, count, found]
    · simp [acquire, count, found, lookup_cons_other counts 1 same, same]

lemma count_release :
    count (release counts key) other = count counts other - if other = key then 1 else 0 := by
  by_cases several : count counts key > 1
  · rw [release, if_pos several]
    by_cases same : other = key
    · subst same
      simp only [count, lookup_change]
      cases counts.lookup other <;> simp
    · simp [count, lookup_change, same]
  · rw [release, if_neg several]
    by_cases same : other = key
    · subst same
      simp only [count, lookup_filter, if_true, Option.getD_none] at several ⊢
      omega
    · simp only [count, lookup_filter, same, if_false, Nat.sub_zero]

lemma change_keys : (change update counts key).map Prod.fst = counts.map Prod.fst := by
  rw [change_eq_map, List.map_map]
  rfl

lemma mem_keys_acquire :
    other ∈ (acquire counts key).map Prod.fst ↔ other ∈ counts.map Prod.fst ∨ other = key := by
  cases found : counts.lookup key with
  | some held =>
    obtain ⟨front, back, rfl, -⟩ := List.lookup_eq_some_iff.mp found
    simp only [acquire, found, change_keys]
    constructor
    · exact Or.inl
    · rintro (old | rfl)
      · exact old
      · simp
  | none =>
    simp only [acquire, found, List.map_cons, List.mem_cons]
    exact or_comm

lemma acquire_nodup {counts : List (Key × Nat)} (distinct : (counts.map Prod.fst).Nodup)
    (key : Key) : ((acquire counts key).map Prod.fst).Nodup := by
  cases found : counts.lookup key with
  | some held => simpa only [acquire, found, change_keys] using distinct
  | none =>
    simp only [acquire, found]
    exact List.nodup_cons.mpr ⟨not_mem_of_lookup found, distinct⟩

lemma live_iff_keys : Live counts ↔ ∀ key ∈ counts.map Prod.fst, 0 < count counts key := by
  simp [Live]

lemma acquire_live {counts : List (Key × Nat)} (live : Live counts) (key : Key) :
    Live (acquire counts key) := by
  rw [live_iff_keys] at live ⊢
  intro other member
  rw [count_acquire]
  by_cases same : other = key
  · simp [same]
  · have old : other ∈ counts.map Prod.fst := by
      cases found : counts.lookup key with
      | some held => simpa only [acquire, found, change_keys] using member
      | none => simpa [acquire, found, same] using member
    exact Nat.lt_of_lt_of_le (live other old) (Nat.le_add_right _ _)

lemma release_live {counts : List (Key × Nat)} (live : Live counts) (key : Key) :
    Live (release counts key) := by
  rw [live_iff_keys] at live ⊢
  intro other member
  rw [count_release]
  by_cases several : count counts key > 1
  · rw [release, if_pos several, change_keys] at member
    have held := live other member
    by_cases same : other = key
    · subst same
      rw [if_pos rfl]
      omega
    · rwa [if_neg same]
  · rw [release, if_neg several, List.mem_map] at member
    obtain ⟨entry, kept, rfl⟩ := member
    obtain ⟨inside, away⟩ := List.mem_filter.mp kept
    have other : entry.1 ≠ key := by simpa using away
    rw [if_neg other]
    exact live entry.1 (List.mem_map_of_mem inside)

lemma live_empty {counts : List (Key × Nat)} (live : Live counts)
    (none : ∀ key, count counts key = 0) : counts = [] := by
  cases counts with
  | nil => rfl
  | cons entry rest => exact absurd (none entry.1) (Nat.ne_of_gt (live entry List.mem_cons_self))

/-! Several references at once. -/

lemma count_acquire_all :
    count (keys.foldl acquire counts) key = count counts key + keys.count key := by
  induction keys generalizing counts with
  | nil => rfl
  | cons first rest ih =>
    rw [List.foldl_cons, ih, count_acquire, List.count_cons]
    by_cases same : key = first
    · simp [same]
      omega
    · simp [same, Ne.symm same]

lemma mem_keys_acquire_all :
    key ∈ (keys.foldl acquire counts).map Prod.fst ↔
      key ∈ counts.map Prod.fst ∨ key ∈ keys := by
  induction keys generalizing counts with
  | nil => simp
  | cons first rest ih => rw [List.foldl_cons, ih, mem_keys_acquire, List.mem_cons, or_assoc]

lemma acquire_all_nodup {counts : List (Key × Nat)} (distinct : (counts.map Prod.fst).Nodup)
    (keys : List Key) : ((keys.foldl acquire counts).map Prod.fst).Nodup := by
  induction keys generalizing counts with
  | nil => exact distinct
  | cons first rest ih => exact ih (acquire_nodup distinct first)

lemma count_release_all :
    count (keys.foldl release counts) key = count counts key - keys.count key := by
  induction keys generalizing counts with
  | nil => rfl
  | cons first rest ih =>
    rw [List.foldl_cons, ih, count_release, List.count_cons]
    by_cases same : key = first
    · simp [same]
      omega
    · simp [same, Ne.symm same]

lemma acquire_all_live {counts : List (Key × Nat)} (live : Live counts) (keys : List Key) :
    Live (keys.foldl acquire counts) :=
  List.foldlRecOn (motive := Live) keys _ live fun _ held key _ => acquire_live held key

lemma release_all_live {counts : List (Key × Nat)} (live : Live counts) (keys : List Key) :
    Live (keys.foldl release counts) :=
  List.foldlRecOn (motive := Live) keys _ live fun _ held key _ => release_live held key

end AssocList
