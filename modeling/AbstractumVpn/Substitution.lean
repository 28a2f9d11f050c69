import Mathlib.Data.List.MinMax
import Mathlib.Data.List.Nodup
import Mathlib.Data.List.Pairwise

/-!
Texts in which names stand for values. The names are replaced one after the
other, each in the whole text as it is by then. Beside it stands the
substitution in one pass, in which the longest name at each place of the text is
replaced and values are not looked at.

To tell the two apart every character is traced to the text or to the name whose
value it is from. Names are plain: they begin with a mark that they have nowhere
else, and none begins with another one. Then the names of the text itself are
always found.
-/

namespace Substitution

variable {α : Type} [DecidableEq α]

abbrev Traced (α : Type) := α × Option (List α)

/-- The first numbers of elements are passed: they belong to a name that was replaced. -/
def replaceIn {β : Type} (char : β → α) (name : List α) (value : List β) : Nat → List β → List β
  | _, [] => []
  | skip + 1, _ :: rest => replaceIn char name value skip rest
  | 0, c :: rest =>
    if name.isPrefixOf ((c :: rest).map char) then
      value ++ replaceIn char name value (name.length - 1) rest
    else c :: replaceIn char name value 0 rest

def replaceAll (name value text : List α) : List α := replaceIn id name value 0 text

def replaceEach (vars : List (List α × List α)) (text : List α) : List α :=
  vars.foldl (fun text var => replaceAll var.1 var.2 text) text

def traceAll (name value : List α) (text : List (Traced α)) : List (Traced α) :=
  replaceIn Prod.fst name (value.map fun c => (c, some name)) 0 text

def traceEach (vars : List (List α × List α)) (text : List α) : List (Traced α) :=
  vars.foldl (fun text var => traceAll var.1 var.2 text) (text.map fun c => (c, none))

def longest (names : List (List α)) (text : List α) : Option (List α) :=
  (names.filter fun name => name.isPrefixOf text).argmax List.length

def simultaneousFrom (vars : List (List α × List α)) : Nat → List α → List (Traced α)
  | _, [] => []
  | skip + 1, _ :: rest => simultaneousFrom vars skip rest
  | 0, c :: rest =>
    match longest (vars.map Prod.fst) (c :: rest) with
    | some name =>
      ((vars.lookup name).getD []).map (fun c => (c, some name)) ++
        simultaneousFrom vars (name.length - 1) rest
    | none => (c, none) :: simultaneousFrom vars 0 rest

def simultaneous (vars : List (List α × List α)) (text : List α) : List (Traced α) :=
  simultaneousFrom vars 0 text

def occurrences (name : List α) : List α → Nat
  | [] => 0
  | c :: rest => occurrences name rest + if name <+: c :: rest then 1 else 0

section Replacing

variable {β γ : Type} {char : β → α} {name : List α} {value : List β}

lemma replaceIn_map (char : β → α) (other : γ → α) (f : β → γ)
    (same : ∀ b, other (f b) = char b) (skip : Nat) (text : List β) :
    (replaceIn char name value skip text).map f =
      replaceIn other name (value.map f) skip (text.map f) := by
  have chars (part : List β) : (part.map f).map other = part.map char := by
    rw [List.map_map]
    exact List.map_congr_left fun b _ => same b
  induction text generalizing skip with
  | nil =>
    cases skip <;> rfl
  | cons c rest ih =>
    cases skip with
    | succ skip => exact ih skip
    | zero =>
      have here := chars (c :: rest)
      rw [List.map_cons] at here
      rw [List.map_cons, replaceIn, replaceIn, here]
      split
      · rw [List.map_append, ih]
      · rw [List.map_cons, ih]

lemma replaceIn_skip (skip : Nat) (text : List β) :
    replaceIn char name value skip text = replaceIn char name value 0 (text.drop skip) := by
  induction skip generalizing text with
  | zero => rfl
  | succ skip ih =>
    cases text with
    | nil => rfl
    | cons c rest => exact ih rest

lemma replaceIn_hit {c : β} {rest : List β} (here : name <+: (c :: rest).map char) :
    replaceIn char name value 0 (c :: rest) =
      value ++ replaceIn char name value 0 (rest.drop (name.length - 1)) := by
  rw [replaceIn, if_pos (List.isPrefixOf_iff_prefix.mpr here), replaceIn_skip]

lemma replaceIn_miss {c : β} {rest : List β} (elsewhere : ¬ name <+: (c :: rest).map char) :
    replaceIn char name value 0 (c :: rest) = c :: replaceIn char name value 0 rest := by
  rw [replaceIn, if_neg (fun here => elsewhere (List.isPrefixOf_iff_prefix.mp here))]

lemma traceEach_text (vars : List (List α × List α)) (text : List α) :
    (traceEach vars text).map Prod.fst = replaceEach vars text := by
  have start : (text.map fun c => ((c, none) : Traced α)).map Prod.fst = text := by
    rw [List.map_map]
    exact List.map_id text
  rw [traceEach, replaceEach]
  generalize (text.map fun c => ((c, none) : Traced α)) = traced at start
  subst start
  induction vars generalizing traced with
  | nil => rfl
  | cons var vars ih =>
    have one : (traceAll var.1 var.2 traced).map Prod.fst =
        replaceAll var.1 var.2 (traced.map Prod.fst) := by
      rw [traceAll, replaceIn_map Prod.fst id Prod.fst fun _ => rfl, replaceAll, List.map_map]
      exact congrArg (replaceIn id var.1 · 0 _) (List.map_id var.2)
    rw [List.foldl_cons, ih, one, List.foldl_cons]

end Replacing

/-- An induction that may pass any number of elements at once. -/
lemma suffix_induction {β : Type} {motive : List β → Prop} (nil : motive [])
    (cons : ∀ c rest, (∀ k, motive (rest.drop k)) → motive (c :: rest)) (items : List β) :
    motive items := by
  have bounded (size : Nat) : ∀ items : List β, items.length ≤ size → motive items := by
    induction size with
    | zero =>
      intro items short
      rwa [List.length_eq_zero_iff.mp (Nat.le_zero.mp short)]
    | succ size ih =>
      intro items short
      cases items with
      | nil => exact nil
      | cons c rest =>
        apply cons
        intro k
        apply ih
        rw [List.length_drop]
        rw [List.length_cons] at short
        omega
  exact bounded items.length items le_rfl

/-! ## Plain names -/

structure Plain (mark : α) (names : List (List α)) : Prop where
  starts : ∀ name ∈ names, name.head? = some mark
  once : ∀ name ∈ names, mark ∉ name.tail
  apart : names.Pairwise fun name other => ¬ name <+: other ∧ ¬ other <+: name

namespace Plain

variable {mark : α} {names others : List (List α)} {c : α} {rest name other text : List α}

variable (plain : Plain mark names)

include plain

section

omit [DecidableEq α]

lemma of_sublist (sub : others.Sublist names) : Plain mark others where
  starts name member := plain.starts name (sub.subset member)
  once name member := plain.once name (sub.subset member)
  apart := plain.apart.sublist sub

lemma of_perm (perm : names.Perm others) : Plain mark others where
  starts name member := plain.starts name (perm.mem_iff.mpr member)
  once name member := plain.once name (perm.mem_iff.mpr member)
  apart := perm.pairwise plain.apart And.symm

lemma nodup : names.Nodup := by
  apply plain.apart.imp
  intro name other apart same
  subst same
  exact apart.1 (List.prefix_refl name)

/-- A text begins with one name at most. -/
lemma unique (member : name ∈ names) (other_member : other ∈ names)
    (here : name <+: text) (other_here : other <+: text) : name = other := by
  by_contra different
  have : Std.Symm fun name other : List α => ¬ name <+: other ∧ ¬ other <+: name :=
    ⟨fun _ _ apart => ⟨apart.2, apart.1⟩⟩
  have apart := plain.apart.forall member other_member different
  rcases List.prefix_or_prefix_of_prefix here other_here with first | second
  · exact apart.1 first
  · exact apart.2 second

lemma eq_cons (member : name ∈ names) : name = mark :: name.tail := by
  obtain ⟨tail, rfl⟩ := List.head?_eq_some_iff.mp (plain.starts name member)
  rfl

/-- A place that begins with a name has a mark, -/
lemma mark_of_hit (member : name ∈ names) (here : name <+: c :: rest) : c = mark := by
  rw [plain.eq_cons member] at here
  exact (List.cons_prefix_cons.mp here).1.symm

lemma hit_eq (member : name ∈ names) (here : name <+: c :: rest) :
    c :: rest.take (name.length - 1) = name := by
  obtain ⟨tail, rfl⟩ := List.head?_eq_some_iff.mp (plain.starts name member)
  exact (List.prefix_iff_eq_take.mp here).symm

/-- and the rest of the name has none. -/
lemma not_mem_of_hit (member : name ∈ names)
    (here : name <+: c :: rest) : mark ∉ rest.take (name.length - 1) := by
  have unmarked := plain.once name member
  rwa [← plain.hit_eq member here] at unmarked

end

lemma longest_iff (name text : List α) :
    longest names text = some name ↔ name ∈ names ∧ name <+: text := by
  have mem (name : List α) : name ∈ names.filter (fun name => name.isPrefixOf text) ↔
      name ∈ names ∧ name <+: text := by
    rw [List.mem_filter, List.isPrefixOf_iff_prefix]
  constructor
  · intro found
    exact (mem name).mp (List.argmax_mem found)
  · rintro ⟨member, here⟩
    cases found : longest names text with
    | none =>
      have filtered := (mem name).mpr ⟨member, here⟩
      rw [List.argmax_eq_none.mp found] at filtered
      cases filtered
    | some other =>
      obtain ⟨other_member, other_here⟩ := (mem other).mp (List.argmax_mem found)
      rw [plain.unique other_member member other_here here]

end Plain

/-! ## Names that are found -/

def found (counts : Option (List α) → Bool) (names : List (List α)) : List (Traced α) → Nat
  | [] => 0
  | p :: rest =>
    found counts names rest +
      if (∃ name ∈ names, name <+: (p :: rest).map Prod.fst) ∧ counts p.2 then 1 else 0

def marks (mark : α) (counts : Option (List α) → Bool) (text : List (Traced α)) : Nat :=
  text.countP fun p => p.1 = mark && counts p.2

def everything : Option (List α) → Bool := fun _ => true

section Found

variable {mark : α} {counts : Option (List α) → Bool} {names : List (List α)} {name : List α}

lemma found_name (name : List α) (text : List (Traced α)) :
    found everything [name] text = occurrences name (text.map Prod.fst) := by
  induction text with
  | nil => rfl
  | cons p rest ih => simp [found, occurrences, ih, everything]

lemma found_counted {text : List (Traced α)} (counted : ∀ p ∈ text, counts p.2 = true) :
    found counts names text = found everything names text := by
  induction text with
  | nil => rfl
  | cons p rest ih =>
    obtain ⟨first, later⟩ := List.forall_mem_cons.mp counted
    simp [found, ih later, first, everything]

lemma found_cons (counts : Option (List α) → Bool) (plain : Plain mark (name :: names))
    (text : List (Traced α)) :
    found counts (name :: names) text = found counts [name] text + found counts names text := by
  induction text with
  | nil => rfl
  | cons p rest ih =>
    have one : name <+: (p :: rest).map Prod.fst →
        ¬ ∃ other ∈ names, other <+: (p :: rest).map Prod.fst := by
      rintro here ⟨other, member, other_here⟩
      have same := plain.unique List.mem_cons_self (List.mem_cons_of_mem _ member) here other_here
      exact (List.nodup_cons.mp plain.nodup).1 (same ▸ member)
    simp only [found, List.exists_mem_cons_iff, List.not_mem_nil, false_and, exists_false]
    generalize (p :: rest).map Prod.fst = chars at one ⊢
    by_cases here : name <+: chars
    · simp only [one here, false_and, if_false]
      omega
    · simp only [here, false_or, false_and, if_false]
      omega

lemma found_none (text : List (Traced α)) : found counts [] text = 0 := by
  induction text with
  | nil => rfl
  | cons p rest ih => simp [found, ih]

lemma found_pass (plain : Plain mark names) {front : List (Traced α)}
    (unmarked : mark ∉ front.map Prod.fst) (back : List (Traced α)) :
    found counts names (front ++ back) = found counts names back := by
  induction front with
  | nil => rfl
  | cons p rest ih =>
    rw [List.map_cons, List.mem_cons, not_or] at unmarked
    rw [List.cons_append, found, ih unmarked.2, if_neg, Nat.add_zero]
    rintro ⟨⟨name, member, here⟩, -⟩
    exact unmarked.1 (plain.mark_of_hit member here).symm

lemma found_le_append (front back : List (Traced α)) :
    found counts names back ≤ found counts names (front ++ back) := by
  induction front with
  | nil => exact Nat.le_refl _
  | cons p front ih => exact ih.trans (Nat.le_add_right _ _)

lemma marks_pass {front : List (Traced α)} (uncounted : ∀ p ∈ front, p.1 = mark → counts p.2 = false)
    (back : List (Traced α)) : marks mark counts (front ++ back) = marks mark counts back := by
  rw [marks, List.countP_append, List.countP_eq_zero.mpr, Nat.zero_add, marks]
  intro p member
  simpa using uncounted p member

end Found

/-! ## Filling in -/

/-- Some names of the first text are replaced in the second, as many of them as the number says
with a first character of an origin that counts. -/
inductive Filled (vars : List (List α × List α)) (counts : Option (List α) → Bool) :
    Nat → List (Traced α) → List (Traced α) → Prop where
  | nil : Filled vars counts 0 [] []
  | cons (p : Traced α) {k : Nat} {text filled : List (Traced α)}
      (rest : Filled vars counts k text filled) : Filled vars counts k (p :: text) (p :: filled)
  | name {var : List α × List α} (member : var ∈ vars) (p : Traced α) (tail : List (Traced α))
      (chars : (p :: tail).map Prod.fst = var.1) {k : Nat} {text filled : List (Traced α)}
      (rest : Filled vars counts k text filled) :
      Filled vars counts (k + if counts p.2 then 1 else 0) (p :: (tail ++ text))
        (var.2.map (fun c => (c, some var.1)) ++ filled)

namespace Filled

variable {mark : α} {vars : List (List α × List α)} {counts others : Option (List α) → Bool}
  {names : List (List α)} {k : Nat} {text filled : List (Traced α)}

omit [DecidableEq α] in
lemma append (front : List (Traced α)) (rest : Filled vars counts k text filled) :
    Filled vars counts k (front ++ text) (front ++ filled) := by
  induction front with
  | nil => exact rest
  | cons p front ih => exact ih.cons p

omit [DecidableEq α] in
lemma tail_unmarked (plain : Plain mark (vars.map Prod.fst)) {var : List α × List α}
    (member : var ∈ vars) {p : Traced α} {tail : List (Traced α)}
    (chars : (p :: tail).map Prod.fst = var.1) : p.1 = mark ∧ mark ∉ tail.map Prod.fst := by
  have known := List.mem_map_of_mem (f := Prod.fst) member
  have unmarked := plain.once _ known
  rw [plain.eq_cons known] at chars
  obtain ⟨first, rest⟩ := List.cons.inj chars
  exact ⟨first, rest ▸ unmarked⟩

/-- Each of the names takes a mark away. -/
lemma marks_add (fill : Filled vars counts k text filled) (plain : Plain mark (vars.map Prod.fst))
    (uncounted : ∀ name ∈ vars.map Prod.fst, counts (some name) = false) :
    marks mark counts filled + k = marks mark counts text := by
  induction fill with
  | nil => rfl
  | cons p rest ih =>
    rw [marks, List.countP_cons, marks, List.countP_cons, ← marks, ← marks]
    omega
  | @name var member p tail chars k text filled rest ih =>
    obtain ⟨first, unmarked⟩ := tail_unmarked plain member chars
    have own : marks mark counts (var.2.map (fun c => (c, some var.1)) ++ filled) =
        marks mark counts filled := by
      apply marks_pass
      intro q value _
      obtain ⟨c, -, rfl⟩ := List.mem_map.mp value
      exact uncounted _ (List.mem_map_of_mem member)
    have old : marks mark counts (p :: (tail ++ text)) =
        marks mark counts text + if counts p.2 then 1 else 0 := by
      have passed : marks mark counts (tail ++ text) = marks mark counts text :=
        marks_pass (fun q region is_mark => absurd (is_mark ▸ List.mem_map_of_mem region) unmarked)
          text
      rw [marks, List.countP_cons, ← marks, passed]
      simp [first]
    omega

omit [DecidableEq α] in
/-- What has no mark stays, -/
lemma keeps (fill : Filled vars counts k text filled) (plain : Plain mark (vars.map Prod.fst))
    {front : List α} (unmarked : mark ∉ front) (here : front <+: text.map Prod.fst) :
    front <+: filled.map Prod.fst := by
  induction fill generalizing front with
  | nil => exact here
  | cons p rest ih =>
    cases front with
    | nil => exact List.nil_prefix
    | cons first front =>
      obtain ⟨same, later⟩ := List.cons_prefix_cons.mp here
      apply List.cons_prefix_cons.mpr
      exact ⟨same, ih (fun member => unmarked (List.mem_cons_of_mem _ member)) later⟩
  | name member p tail chars rest ih =>
    cases front with
    | nil => exact List.nil_prefix
    | cons first front =>
      obtain ⟨same, -⟩ := List.cons_prefix_cons.mp here
      exact absurd ((tail_unmarked plain member chars).1 ▸ same ▸ List.mem_cons_self) unmarked

/-- and so do all other names. -/
lemma found_le (fill : Filled vars counts k text filled)
    (plain : Plain mark (names ++ vars.map Prod.fst)) :
    found others names text ≤ found others names filled := by
  have own : Plain mark names := plain.of_sublist (List.sublist_append_left _ _)
  have filling : Plain mark (vars.map Prod.fst) := plain.of_sublist (List.sublist_append_right _ _)
  induction fill with
  | nil => exact Nat.le_refl 0
  | @cons p k text filled rest ih =>
    have stays : (∃ name ∈ names, name <+: (p :: text).map Prod.fst) →
        ∃ name ∈ names, name <+: (p :: filled).map Prod.fst := by
      rintro ⟨name, member, here⟩
      refine ⟨name, member, ?_⟩
      rw [own.eq_cons member] at here ⊢
      obtain ⟨first, later⟩ := List.cons_prefix_cons.mp here
      exact List.cons_prefix_cons.mpr ⟨first, rest.keeps filling (own.once name member) later⟩
    rw [found, found]
    by_cases here : (∃ name ∈ names, name <+: (p :: text).map Prod.fst) ∧ others p.2
    · rw [if_pos here, if_pos ⟨stays here.1, here.2⟩]
      omega
    · rw [if_neg here]
      omega
  | @name var member p tail chars k text filled rest ih =>
    have elsewhere : ¬ ∃ name ∈ names, name <+: (p :: (tail ++ text)).map Prod.fst := by
      rintro ⟨name, listed, here⟩
      have known : var.1 ∈ vars.map Prod.fst := List.mem_map_of_mem member
      have starts : var.1 <+: (p :: (tail ++ text)).map Prod.fst := by
        rw [← chars, ← List.cons_append, List.map_append]
        exact List.prefix_append _ _
      have same := plain.unique (List.mem_append_left _ listed) (List.mem_append_right _ known)
        here starts
      exact (List.nodup_append.mp plain.nodup).2.2 name listed var.1 known same
    rw [found, if_neg fun here => elsewhere here.1, Nat.add_zero,
      found_pass own (tail_unmarked filling member chars).2]
    exact ih.trans (found_le_append _ _)

end Filled

section Runs

variable {mark : α} {name : List α} {vars front back : List (List α × List α)}

def script (text : List α) : List (Traced α) := text.map fun c => (c, none)

omit [DecidableEq α] in
lemma script_text (text : List α) : (script text).map Prod.fst = text := by
  rw [script, List.map_map]
  exact List.map_id text

variable {counts : Option (List α) → Bool}

lemma found_script_drop {names : List (List α)} (plain : Plain mark names) {k : Nat}
    {text : List α} (unmarked : mark ∉ text.take k) :
    found counts names (script text) = found counts names (script (text.drop k)) := by
  have parts : script text = script (text.take k) ++ script (text.drop k) := by
    rw [script, script, script, ← List.map_append, List.take_append_drop]
  rw [parts, found_pass plain]
  rwa [script_text]

lemma found_one (counts : Option (List α) → Bool) (name : List α) (p : Traced α)
    (rest : List (Traced α)) :
    found counts [name] (p :: rest) =
      found counts [name] rest + if name <+: (p :: rest).map Prod.fst ∧ counts p.2 then 1 else 0 := by
  simp [found]

lemma traceAll_filled (plain : Plain mark [name]) (value : List α)
    (counts : Option (List α) → Bool) (text : List (Traced α)) :
    Filled [(name, value)] counts (found counts [name] text) text (traceAll name value text) := by
  have own : name ∈ [name] := List.mem_singleton_self name
  induction text using suffix_induction with
  | nil => exact Filled.nil
  | cons p rest ih =>
    rw [found_one]
    by_cases here : name <+: (p :: rest).map Prod.fst
    · have chars : (p :: rest.take (name.length - 1)).map Prod.fst = name := by
        rw [List.map_cons, List.map_take, plain.hit_eq own here]
      have unmarked := plain.not_mem_of_hit own here
      rw [← List.map_take] at unmarked
      have split := List.take_append_drop (name.length - 1) rest
      have passed : found counts [name] (rest.take (name.length - 1) ++
          rest.drop (name.length - 1)) = _ := found_pass plain unmarked _
      rw [split] at passed
      have filled := (ih (name.length - 1)).name List.mem_cons_self p _ chars
      rw [split] at filled
      simp only [here, true_and, passed]
      rw [traceAll, replaceIn_hit here]
      exact filled
    · simp only [here]
      rw [traceAll, replaceIn_miss here]
      exact (ih 0).cons p

section Single

variable {value : List α} {k : Nat} {text filled : List (Traced α)}

lemma Filled.hit {var : List α × List α} (plain : Plain mark [name])
    (member : var ∈ [(name, value)]) {p : Traced α} {tail : List (Traced α)}
    (chars : (p :: tail).map Prod.fst = var.1) (text : List (Traced α)) :
    var = (name, value) ∧ name <+: (p :: (tail ++ text)).map Prod.fst ∧
      found everything [name] (p :: (tail ++ text)) = found everything [name] text + 1 := by
  have unmarked := (Filled.tail_unmarked plain member chars).2
  obtain rfl := List.mem_singleton.mp member
  have here : name <+: (p :: (tail ++ text)).map Prod.fst := by
    rw [← List.cons_append, List.map_append, chars]
    exact List.prefix_append _ _
  refine ⟨rfl, here, ?_⟩
  rw [found_one, found_pass plain unmarked]
  simp only [here, everything, and_self, if_true]

lemma Filled.le_found (fill : Filled [(name, value)] everything k text filled)
    (plain : Plain mark [name]) : k ≤ found everything [name] text := by
  induction fill with
  | nil => exact Nat.le_refl 0
  | cons p rest ih => exact ih.trans (found_le_append [p] _)
  | @name var member p tail chars k text filled rest ih =>
    rw [(Filled.hit plain member chars text).2.2]
    exact Nat.add_le_add_right ih 1

/-- If all occurrences are filled in, the name is replaced. -/
lemma Filled.eq_traceAll (fill : Filled [(name, value)] everything k text filled)
    (plain : Plain mark [name]) (all : found everything [name] text ≤ k) :
    filled = traceAll name value text := by
  induction fill with
  | nil => rfl
  | @cons p k text filled rest ih =>
    have bound := rest.le_found plain
    rw [found_one] at all
    have elsewhere : ¬ name <+: (p :: text).map Prod.fst := by
      intro here
      simp only [here] at all
      exact absurd (all.trans bound) (Nat.not_succ_le_self _)
    rw [traceAll, replaceIn_miss elsewhere, ih ((Nat.le_add_right _ _).trans all), traceAll]
  | @name var member p tail chars k text filled rest ih =>
    obtain ⟨rfl, here, one⟩ := Filled.hit plain member chars text
    have behind : (tail ++ text).drop (name.length - 1) = text := by
      apply List.drop_left'
      have size := congrArg List.length chars
      rw [List.length_map, List.length_cons] at size
      exact Nat.eq_sub_of_add_eq size
    rw [one] at all
    rw [traceAll, replaceIn_hit here, behind, ih (Nat.le_of_succ_le_succ all), traceAll]

end Single

/-- Every further name of the text costs a mark, whatever else is replaced. -/
lemma marks_run (plain : Plain mark (vars.map Prod.fst))
    (uncounted : ∀ name ∈ vars.map Prod.fst, counts (some name) = false) (text : List (Traced α)) :
    marks mark counts (vars.foldl (fun text var => traceAll var.1 var.2 text) text) +
      found counts (vars.map Prod.fst) text ≤ marks mark counts text := by
  induction vars generalizing text with
  | nil => simp [found_none]
  | cons var vars ih =>
    obtain ⟨own, others⟩ := List.forall_mem_cons.mp uncounted
    have single : Plain mark [var.1] := plain.of_sublist (by simp)
    have later : Plain mark (vars.map Prod.fst) := plain.of_sublist (List.sublist_cons_self _ _)
    have filled := traceAll_filled single var.2 counts text
    have cost := filled.marks_add single (by simpa using own)
    have kept : found counts (vars.map Prod.fst) text ≤
        found counts (vars.map Prod.fst) (traceAll var.1 var.2 text) :=
      filled.found_le (plain.of_perm (List.perm_append_singleton _ _).symm)
    have rest := ih later others (traceAll var.1 var.2 text)
    have parts := found_cons counts plain text
    rw [List.foldl_cons, List.map_cons, parts]
    omega

/-! ## One pass -/

lemma simultaneousFrom_skip (vars : List (List α × List α)) (skip : Nat) (text : List α) :
    simultaneousFrom vars skip text = simultaneous vars (text.drop skip) := by
  induction skip generalizing text with
  | zero => rfl
  | succ skip ih =>
    cases text with
    | nil => rfl
    | cons c rest => exact ih rest

lemma simultaneous_hit {rest : List α} {c : α}
    (found : longest (vars.map Prod.fst) (c :: rest) = some name) :
    simultaneous vars (c :: rest) =
      ((vars.lookup name).getD []).map (fun c => (c, some name)) ++
        simultaneous vars (rest.drop (name.length - 1)) := by
  rw [simultaneous, simultaneousFrom, found, ← simultaneousFrom_skip]

lemma simultaneous_miss {rest : List α} {c : α}
    (missed : longest (vars.map Prod.fst) (c :: rest) = none) :
    simultaneous vars (c :: rest) = (c, none) :: simultaneous vars rest := by
  rw [simultaneous, simultaneousFrom, missed]
  rfl

lemma simultaneous_pass (plain : Plain mark (vars.map Prod.fst)) {front : List α}
    (unmarked : mark ∉ front) (back : List α) :
    simultaneous vars (front ++ back) = script front ++ simultaneous vars back := by
  induction front with
  | nil => rfl
  | cons c rest ih =>
    have missed : longest (vars.map Prod.fst) (c :: (rest ++ back)) = none := by
      apply Option.eq_none_iff_forall_ne_some.mpr
      intro name found
      obtain ⟨member, here⟩ := (plain.longest_iff name _).mp found
      exact unmarked (plain.mark_of_hit member here ▸ List.mem_cons_self)
    rw [List.cons_append, simultaneous_miss missed,
      ih fun later => unmarked (List.mem_cons_of_mem c later)]
    rfl

lemma simultaneous_nil (text : List α) : simultaneous [] text = script text := by
  induction text with
  | nil => rfl
  | cons c rest ih =>
    have missed : longest (([] : List (List α × List α)).map Prod.fst) (c :: rest) = none := rfl
    rw [simultaneous_miss missed, ih]
    rfl

lemma simultaneous_origin (vars : List (List α × List α)) (text : List α) :
    ∀ p ∈ simultaneous vars text, ∀ name, p.2 = some name → name ∈ vars.map Prod.fst := by
  induction text using suffix_induction with
  | nil => exact fun _ member => nomatch member
  | cons c rest ih =>
    cases found : longest (vars.map Prod.fst) (c :: rest) with
    | none =>
      rw [simultaneous_miss found, List.forall_mem_cons]
      exact ⟨fun _ origin => (nomatch origin), ih 0⟩
    | some name =>
      rw [simultaneous_hit found, List.forall_mem_append]
      refine ⟨?_, ih _⟩
      intro p value other origin
      obtain ⟨c, -, rfl⟩ := List.mem_map.mp value
      obtain rfl := Option.some.inj origin
      exact (List.mem_filter.mp (List.argmax_mem found)).1

lemma lookup_mem {vars : List (List α × List α)} (member : name ∈ vars.map Prod.fst) :
    ∃ value, vars.lookup name = some value ∧ (name, value) ∈ vars := by
  obtain ⟨var, known, rfl⟩ := List.mem_map.mp member
  obtain ⟨value, held⟩ := Option.isSome_iff_exists.mp
    (List.lookup_isSome_iff.mpr ⟨var, known, beq_self_eq_true var.1⟩)
  obtain ⟨front, back, split, -⟩ := List.lookup_eq_some_iff.mp held
  refine ⟨value, held, ?_⟩
  rw [split]
  exact List.mem_append_right front List.mem_cons_self

/-- With more names more is filled in, and nothing else changes. -/
lemma simultaneous_filled (counted : counts none = true)
    (plain : Plain mark ((front ++ back).map Prod.fst)) (text : List α) :
    Filled back counts (found counts (back.map Prod.fst) (script text)) (simultaneous front text)
      (simultaneous (front ++ back) text) := by
  have plain_front : Plain mark (front.map Prod.fst) :=
    plain.of_sublist ((List.sublist_append_left front back).map Prod.fst)
  have plain_back : Plain mark (back.map Prod.fst) :=
    plain.of_sublist ((List.sublist_append_right front back).map Prod.fst)
  have known (name : List α) : name ∈ (front ++ back).map Prod.fst ↔
      name ∈ front.map Prod.fst ∨ name ∈ back.map Prod.fst := by
    rw [List.map_append, List.mem_append]
  have disjoint : ∀ name ∈ front.map Prod.fst, name ∉ back.map Prod.fst := by
    have all := plain.nodup
    rw [List.map_append] at all
    exact fun name first second => (List.nodup_append.mp all).2.2 name first name second rfl
  induction text using suffix_induction with
  | nil => exact Filled.nil
  | cons c rest ih =>
    have here_text : ((c, none) :: script rest : List (Traced α)).map Prod.fst = c :: rest := by
      rw [List.map_cons, script_text]
    change Filled back counts (found counts _ ((c, none) :: script rest)) _ _
    rw [found, here_text]
    cases first : longest (front.map Prod.fst) (c :: rest) with
    | some name =>
      obtain ⟨member, here⟩ := (plain_front.longest_iff name _).mp first
      have listed := (known name).mpr (Or.inl member)
      have second := (plain.longest_iff name _).mpr ⟨listed, here⟩
      obtain ⟨value, held, -⟩ := lookup_mem member
      have other : ¬ ∃ other ∈ back.map Prod.fst, other <+: c :: rest := by
        rintro ⟨other, later, other_here⟩
        have same := plain.unique listed ((known other).mpr (Or.inr later)) here other_here
        exact disjoint name member (same ▸ later)
      rw [simultaneous_hit first, simultaneous_hit second, List.lookup_append, held,
        Option.some_or, if_neg fun found => other found.1, Nat.add_zero,
        found_script_drop plain_back (plain.not_mem_of_hit listed here)]
      exact (ih _).append _
    | none =>
      rw [simultaneous_miss first]
      cases second : longest ((front ++ back).map Prod.fst) (c :: rest) with
      | none =>
        have other : ¬ ∃ other ∈ back.map Prod.fst, other <+: c :: rest := by
          rintro ⟨other, later, here⟩
          cases second.symm.trans
            ((plain.longest_iff other _).mpr ⟨(known other).mpr (Or.inr later), here⟩)
        rw [simultaneous_miss second, if_neg fun found => other found.1, Nat.add_zero]
        exact (ih 0).cons _
      | some name =>
        obtain ⟨listed, here⟩ := (plain.longest_iff name _).mp second
        have absent : name ∉ front.map Prod.fst := fun member => by
          cases first.symm.trans ((plain_front.longest_iff name _).mpr ⟨member, here⟩)
        have later := ((known name).mp listed).resolve_left absent
        obtain ⟨value, held, member⟩ := lookup_mem later
        have missing : front.lookup name = none := by
          apply List.lookup_eq_none_iff.mpr
          intro var old
          apply bne_iff_ne.mpr
          exact fun same => absent (same ▸ List.mem_map_of_mem old)
        have unmarked := plain.not_mem_of_hit listed here
        have copied := simultaneous_pass plain_front unmarked (rest.drop (name.length - 1))
        rw [List.take_append_drop] at copied
        have chars : ((c, none) :: script (rest.take (name.length - 1)) :
            List (Traced α)).map Prod.fst = name := by
          rw [List.map_cons, script_text, plain.hit_eq listed here]
        have filled := (ih (name.length - 1)).name member (c, none) _ chars
        rw [if_pos counted] at filled
        rw [simultaneous_hit second, List.lookup_append, missing, Option.none_or, held, copied,
          found_script_drop plain_back unmarked, if_pos ⟨⟨name, later, here⟩, counted⟩]
        exact filled

/-! ## All replacements -/

lemma occurrences_le_of_more (plain : Plain mark (name :: (front ++ back).map Prod.fst))
    (text : List α) :
    occurrences name ((simultaneous front text).map Prod.fst) ≤
      occurrences name ((simultaneous (front ++ back) text).map Prod.fst) := by
  have later := (List.sublist_append_right front back).map Prod.fst
  have filled : Filled back everything _ _ (simultaneous (front ++ back) text) :=
    simultaneous_filled rfl (plain.of_sublist (List.sublist_cons_self _ _)) text
  rw [← found_name, ← found_name]
  exact filled.found_le (plain.of_sublist (later.cons_cons name))

/-- A name that is found as often as in the text is replaced as in one pass. -/
lemma traceAll_exact {value : List α}
    (plain : Plain mark ((front ++ [(name, value)]).map Prod.fst)) {text : List α}
    (same : occurrences name ((simultaneous front text).map Prod.fst) = occurrences name text) :
    traceAll name value (simultaneous front text) =
      simultaneous (front ++ [(name, value)]) text := by
  have filled : Filled [(name, value)] everything _ _ _ := simultaneous_filled rfl plain text
  have single : Plain mark [name] :=
    plain.of_sublist ((List.sublist_append_right front [(name, value)]).map Prod.fst)
  apply (filled.eq_traceAll single _).symm
  rw [List.map_singleton, found_name, found_name, script_text, same]

/-- Once a name is found more often, a mark is missing in the end. -/
lemma occurrences_le_of_final {value : List α}
    (plain : Plain mark ((front ++ (name, value) :: back).map Prod.fst)) {text : List α}
    (first : traceEach front text = simultaneous front text)
    (last : traceEach (front ++ (name, value) :: back) text =
      simultaneous (front ++ (name, value) :: back) text) :
    occurrences name ((simultaneous front text).map Prod.fst) ≤ occurrences name text := by
  -- the origins that count are the text and the names that were replaced before
  let counts : Option (List α) → Bool := fun origin =>
    decide (∀ later ∈ name :: back.map Prod.fst, origin ≠ some later)
  have names := plain
  rw [List.map_append, List.map_cons] at names
  have later : Plain mark (name :: back.map Prod.fst) :=
    names.of_sublist (List.sublist_append_right _ _)
  have uncounted : ∀ other ∈ name :: back.map Prod.fst, counts (some other) = false :=
    fun other member => decide_eq_false fun absent => absent other member rfl
  have fresh : ∀ p ∈ simultaneous front text, counts p.2 = true := by
    intro p member
    apply decide_eq_true
    intro other listed origin
    have earlier := simultaneous_origin front text p member other origin
    exact (List.nodup_append.mp names.nodup).2.2 other earlier other listed rfl
  have counted : counts none = true := decide_eq_true fun _ _ same => nomatch same
  have own : ∀ p ∈ script text, counts p.2 = true := by
    intro p member
    obtain ⟨c, -, rfl⟩ := List.mem_map.mp member
    exact counted
  have bound : marks mark counts (((name, value) :: back).foldl
      (fun text var => traceAll var.1 var.2 text) (simultaneous front text)) + _ ≤ _ :=
    marks_run later uncounted _
  have cost := (simultaneous_filled counted plain text).marks_add later uncounted
  have kept : found counts (back.map Prod.fst) (script text) ≤
      found counts (back.map Prod.fst) (simultaneous front text) := by
    have filled : Filled front counts _ (simultaneous [] text) (simultaneous ([] ++ front) text) :=
      simultaneous_filled counted (names.of_sublist (List.sublist_append_left _ _)) text
    rw [simultaneous_nil] at filled
    apply filled.found_le
    exact (names.of_sublist ((List.sublist_cons_self _ _).append_left _)).of_perm
      List.perm_append_comm
  rw [traceEach, List.foldl_append, ← traceEach, first] at last
  rw [last, List.map_cons, found_cons counts later] at bound
  rw [List.map_cons, found_cons counts later] at cost
  have single : found counts [name] (simultaneous front text) ≤ found counts [name] (script text) := by
    omega
  rwa [found_counted fresh, found_counted own, found_name, found_name, script_text] at single

omit [DecidableEq α] in
lemma plain_split {value : List α} (plain : Plain mark ((front ++ (name, value) :: back).map Prod.fst)) :
    Plain mark (name :: (front ++ back).map Prod.fst) :=
  plain.of_perm (List.perm_middle.map Prod.fst)

lemma occurrences_le_of_any {value : List α}
    (plain : Plain mark ((front ++ (name, value) :: back).map Prod.fst)) (text : List α) :
    occurrences name text ≤ occurrences name ((simultaneous front text).map Prod.fst) := by
  have fewer : ((List.nil ++ front).map Prod.fst).Sublist ((front ++ back).map Prod.fst) :=
    (List.sublist_append_left front back).map Prod.fst
  have more := occurrences_le_of_more ((plain_split plain).of_sublist (fewer.cons_cons name)) text
  rwa [simultaneous_nil, script_text] at more

lemma traceEach_append (front : List (List α × List α)) (name value text : List α) :
    traceEach (front ++ [(name, value)]) text = traceAll name value (traceEach front text) := by
  rw [traceEach, List.foldl_append]
  rfl

/-- The first replacements are those of one pass, if each name is found as often as in the text
when its turn comes. -/
lemma traceEach_eq_of_counts (plain : Plain mark (vars.map Prod.fst)) {text : List α}
    (same : ∀ front name value back, vars = front ++ (name, value) :: back →
      traceEach front text = simultaneous front text →
        occurrences name ((simultaneous front text).map Prod.fst) = occurrences name text) :
    ∀ front back, vars = front ++ back → traceEach front text = simultaneous front text := by
  intro front
  induction front using List.reverseRecOn with
  | nil => exact fun _ _ => (simultaneous_nil text).symm
  | append_singleton front var ih =>
    intro back split
    have sub : ((front ++ [var]).map Prod.fst).Sublist (vars.map Prod.fst) :=
      split ▸ (List.sublist_append_left _ back).map Prod.fst
    rw [List.append_assoc] at split
    have first := ih _ split
    rw [traceEach_append, first]
    exact traceAll_exact (plain.of_sublist sub) (same _ _ _ _ split first)

/-- Replacing one name after the other is the substitution in one pass if and only if each name is,
when its turn comes, as often in the text as it was at first. -/
lemma traceEach_eq_iff (plain : Plain mark (vars.map Prod.fst)) (text : List α) :
    traceEach vars text = simultaneous vars text ↔
      ∀ front name value back, vars = front ++ (name, value) :: back →
        occurrences name ((simultaneous front text).map Prod.fst) = occurrences name text := by
  constructor
  · intro last
    have same : ∀ front name value back, vars = front ++ (name, value) :: back →
        traceEach front text = simultaneous front text →
          occurrences name ((simultaneous front text).map Prod.fst) = occurrences name text := by
      rintro front name value back rfl first
      exact Nat.le_antisymm (occurrences_le_of_final plain first last)
        (occurrences_le_of_any plain text)
    intro front name value back split
    exact same front name value back split (traceEach_eq_of_counts plain same front _ split)
  · intro same
    exact traceEach_eq_of_counts plain (fun front name value back split _ =>
      same front name value back split) vars [] (List.append_nil vars).symm

/-! ## All orders -/

variable {order : List (List α × List α)}

lemma lookup_perm {vars : List (List α × List α)} (perm : vars.Perm order)
    (distinct : (vars.map Prod.fst).Nodup) (name : List α) :
    vars.lookup name = order.lookup name := by
  induction perm with
  | nil => rfl
  | cons var _ ih =>
    rw [List.lookup_cons, List.lookup_cons, ih (List.nodup_cons.mp distinct).2]
  | swap first second vars =>
    obtain ⟨fresh, -⟩ := List.nodup_cons.mp distinct
    have different : second.1 ≠ first.1 := fun same => fresh (same ▸ List.mem_cons_self)
    rw [List.lookup_cons, List.lookup_cons, List.lookup_cons, List.lookup_cons]
    by_cases here : name = second.1
    · have elsewhere : (name == first.1) = false := beq_eq_false_iff_ne.mpr (here ▸ different)
      rw [elsewhere]
    · rw [beq_eq_false_iff_ne.mpr here]
  | trans first_perm _ ih later =>
    exact (ih distinct).trans (later ((first_perm.map Prod.fst).nodup_iff.mp distinct))

/-- The order of the names does not matter in one pass. -/
lemma simultaneous_perm (perm : vars.Perm order) (plain : Plain mark (vars.map Prod.fst))
    (text : List α) : simultaneous order text = simultaneous vars text := by
  have same_longest (text : List α) :
      longest (order.map Prod.fst) text = longest (vars.map Prod.fst) text := by
    have names := perm.map Prod.fst
    have other : Plain mark (order.map Prod.fst) := plain.of_perm names
    apply Option.ext
    intro name
    rw [other.longest_iff, plain.longest_iff, names.mem_iff]
  suffices same : ∀ skip, simultaneousFrom order skip text = simultaneousFrom vars skip text from
    same 0
  intro skip
  induction text generalizing skip with
  | nil =>
    cases skip <;> rfl
  | cons c rest ih =>
    cases skip with
    | succ skip => exact ih skip
    | zero =>
      rw [simultaneousFrom, simultaneousFrom, same_longest]
      cases longest (vars.map Prod.fst) (c :: rest) with
      | none => exact congrArg ((c, none) :: ·) (ih 0)
      | some name =>
        have value := lookup_perm perm plain.nodup name
        exact congrArg₂ (· ++ ·) (congrArg _ (congrArg (Option.getD · []) value.symm)) (ih _)

/-- No name appears when all other names are replaced. -/
def Stable (vars : List (List α × List α)) (text : List α) : Prop :=
  ∀ front name value back, vars = front ++ (name, value) :: back →
    occurrences name ((simultaneous (front ++ back) text).map Prod.fst) = occurrences name text

lemma Stable.perm {text : List α} (stable : Stable vars text)
    (plain : Plain mark (vars.map Prod.fst)) (perm : order.Perm vars) : Stable order text := by
  intro first name value last order_eq
  have member : (name, value) ∈ vars := by
    apply perm.subset
    rw [order_eq]
    exact List.mem_append_right first List.mem_cons_self
  obtain ⟨front, back, vars_eq⟩ := List.append_of_mem member
  have same : (front ++ back).Perm (first ++ last) := by
    apply List.Perm.cons_inv (a := (name, value))
    calc
      ((name, value) :: (front ++ back)).Perm vars := vars_eq ▸ List.perm_middle.symm
      vars.Perm order := perm.symm
      order.Perm ((name, value) :: (first ++ last)) := order_eq ▸ List.perm_middle
  have others : Plain mark ((front ++ back).map Prod.fst) := by
    rw [vars_eq] at plain
    exact (plain.of_perm (List.perm_middle.map Prod.fst)).of_sublist (List.sublist_cons_self _ _)
  rw [simultaneous_perm same others]
  exact stable front name value back vars_eq

/-- In every order the replacements are those of one pass, if and only if no name appears. -/
lemma every_order_iff (plain : Plain mark (vars.map Prod.fst)) (text : List α) :
    (∀ order : List (List α × List α), order.Perm vars →
        traceEach order text = simultaneous vars text) ↔ Stable vars text := by
  constructor
  · intro all front name value back split
    -- the name is replaced last
    have perm : ((front ++ back) ++ [(name, value)]).Perm vars := by
      rw [split, List.append_assoc]
      exact (List.perm_append_singleton (name, value) back).append_left front
    have counts := (traceEach_eq_iff (plain.of_perm (perm.symm.map Prod.fst)) text).mp
      ((all _ perm).trans (simultaneous_perm perm.symm plain text).symm)
    exact counts (front ++ back) name value [] rfl
  · intro stable order perm
    have plain_order := plain.of_perm (perm.symm.map Prod.fst)
    rw [← simultaneous_perm perm.symm plain text]
    apply (traceEach_eq_iff plain_order text).mpr
    rintro front name value back rfl
    apply Nat.le_antisymm
    · exact (stable.perm plain perm front name value back rfl) ▸
        occurrences_le_of_more (plain_split plain_order) text
    · exact occurrences_le_of_any plain_order text

end Runs

end Substitution
