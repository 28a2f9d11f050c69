import AbstractumVpn.Addresses
import AbstractumVpn.AssocList
import AbstractumVpn.Runs

/-!
`DnsUtilsLinux`: the tunnel becomes the default resolver through
systemd-resolved. Requests are handled in the order they were sent; an answer to
the request for the link domains reports the lists in force when the service
came to it, and arrives some time later. The lists are then saved, and the root
search domain is taken from every link and given to the tunnel.
`restoreResolvers` puts back what is saved at that time.

`sent` and `restored` are no fields of the source: all requests made so far, and
whether the last call was `restoreResolvers`.
-/

namespace AbstractumVpn.DnsUtilsLinux

structure LinkDomain where
  domain : String
  search : Bool
  deriving DecidableEq

def root : LinkDomain := ⟨".", true⟩

inductive Request where
  | setLinkDNS (link : Nat) (resolvers : List HostAddress)
  | setLinkDefaultRoute (link : Nat) (enable : Bool)
  | getDomains
  | setLinkDomains (link : Nat) (domains : List LinkDomain)
  | revertLink (link : Nat)
  deriving DecidableEq

def Request.link? : Request → Option Nat
  | .setLinkDNS link _ | .setLinkDefaultRoute link _ | .setLinkDomains link _
  | .revertLink link => some link
  | .getDomains => none

abbrev Table := List (Nat × List LinkDomain)

structure State where
  ifindex : Nat
  linkDomains : Table
  pending : List Request
  replies : List (List (Nat × LinkDomain))
  domains : Nat → List LinkDomain
  sent : List Request
  restored : Bool

/-- `updateResolvers` comes with the index that `if_nametoindex` finds, zero if
there is no such interface. -/
inductive Event where
  | updateResolvers (ifindex : Nat) (resolvers : List HostAddress)
  | restoreResolvers
  | processed
  | replied (index : Nat)

structure Links where
  indices : List Nat
  distinct : indices.Nodup

def send (requests : List Request) (s : State) : State :=
  { s with pending := s.pending ++ requests, sent := s.sent ++ requests }

def updateResolvers (ifindex : Nat) (resolvers : List HostAddress) (s : State) : State :=
  let s := { s with ifindex := ifindex, restored := false }
  if ifindex = 0 then s
  else send [.setLinkDNS ifindex resolvers, .setLinkDefaultRoute ifindex true, .getDomains] s

def restoreResolvers (s : State) : State :=
  let s := send (s.linkDomains.map fun entry => .setLinkDomains entry.1 entry.2) s
  let s := { s with linkDomains := [], restored := true }
  if s.ifindex = 0 then s else { send [.revertLink s.ifindex] s with ifindex := 0 }

def appendDomain (table : Table) (entry : Nat × LinkDomain) : Table :=
  match table.lookup entry.1 with
  | some _ =>
    table.map fun known => (known.1, if known.1 = entry.1 then known.2 ++ [entry.2] else known.2)
  | none => table ++ [(entry.1, [entry.2])]

def collect (list : List (Nat × LinkDomain)) : Table :=
  (list.filter (·.1 ≠ 0)).foldl appendDomain []

def dnsDomainsReceived (list : List (Nat × LinkDomain)) (s : State) : State :=
  let s := { s with linkDomains := collect list }
  let s := send ((s.linkDomains.filter (root ∈ ·.2)).map fun entry =>
    .setLinkDomains entry.1 (entry.2.filter (· ≠ root))) s
  send [.setLinkDomains s.ifindex [root]] s

def handle (domains : Nat → List LinkDomain) : Request → Nat → List LinkDomain
  | .setLinkDomains link list => fun other =>
    if other = link ∧ link ≠ 0 then list else domains other
  | .revertLink link => fun other => if other = link ∧ link ≠ 0 then [] else domains other
  | _ => domains

def report (links : Links) (domains : Nat → List LinkDomain) : List (Nat × LinkDomain) :=
  links.indices.flatMap fun link => (domains link).map fun domain => (link, domain)

def process (links : Links) (s : State) : State :=
  match s.pending with
  | [] => s
  | .getDomains :: rest =>
    { s with pending := rest, replies := s.replies ++ [report links s.domains] }
  | request :: rest => { s with pending := rest, domains := handle s.domains request }

def step (links : Links) (s : State) : Event → State
  | .updateResolvers ifindex resolvers => DnsUtilsLinux.updateResolvers ifindex resolvers s
  | .restoreResolvers => DnsUtilsLinux.restoreResolvers s
  | .processed => process links s
  | .replied index =>
    match s.replies[index]? with
    | some list => dnsDomainsReceived list { s with replies := s.replies.eraseIdx index }
    | none => s

def fresh (domains : Nat → List LinkDomain) : State := ⟨0, [], [], [], domains, [], false⟩

/-! ## The saved table -/

def domainsOf (link : Nat) (list : List (Nat × LinkDomain)) : List LinkDomain :=
  (list.filter (·.1 = link)).map Prod.snd

lemma report_domains (links : Links) (domains : Nat → List LinkDomain) (link : Nat)
    (known : link ∈ links.indices) : domainsOf link (report links domains) = domains link := by
  have none_of : ∀ indices : List Nat, link ∉ indices →
      domainsOf link (indices.flatMap fun link => (domains link).map fun d => (link, d)) = [] := by
    intro indices absent
    simp only [domainsOf, List.map_eq_nil_iff, List.filter_eq_nil_iff, List.mem_flatMap,
      List.mem_map, decide_eq_true_eq]
    rintro entry ⟨other, member, domain, -, rfl⟩ rfl
    exact absent member
  obtain ⟨indices, distinct⟩ := links
  simp only [report] at known ⊢
  induction indices with
  | nil => cases known
  | cons first rest ih =>
    obtain ⟨fresh, distinct⟩ := List.nodup_cons.mp distinct
    have parts : domainsOf link ((first :: rest).flatMap fun link =>
        (domains link).map fun d => (link, d)) =
        domainsOf link ((domains first).map fun d => (first, d)) ++
          domainsOf link (rest.flatMap fun link => (domains link).map fun d => (link, d)) := by
      simp [domainsOf]
    rw [parts]
    rcases List.mem_cons.mp known with rfl | later
    · rw [none_of rest fresh, List.append_nil]
      simp [domainsOf, List.filter_map]
    · have other : first ≠ link := fun same => fresh (same ▸ later)
      rw [ih distinct later]
      simp [domainsOf, other]

variable (list : List (Nat × LinkDomain)) (table : Table)

lemma lookup_append (entry : Nat × LinkDomain) (link : Nat) :
    (appendDomain table entry).lookup link =
      if link = entry.1 then some ((table.lookup link).getD [] ++ [entry.2])
      else table.lookup link := by
  cases known : table.lookup entry.1 with
  | some list =>
    simp only [appendDomain, known]
    rw [AssocList.lookup_map fun name held => if name = entry.1 then held ++ [entry.2] else held]
    by_cases same : link = entry.1
    · simp [same, known]
    · simp [same]
  | none =>
    simp only [appendDomain, known, List.lookup_append]
    by_cases same : link = entry.1
    · simp [same, known]
    · have missed : (link == entry.1) = false := beq_eq_false_iff_ne.mpr same
      simp [same, List.lookup_cons, missed]

lemma lookup_collected (link : Nat) :
    (list.foldl appendDomain table).lookup link =
      if domainsOf link list = [] then table.lookup link
      else some ((table.lookup link).getD [] ++ domainsOf link list) := by
  induction list generalizing table with
  | nil => rfl
  | cons entry rest ih =>
    rw [List.foldl_cons, ih, lookup_append]
    by_cases same : link = entry.1
    · have first : domainsOf link (entry :: rest) = entry.2 :: domainsOf link rest := by
        simp [domainsOf, same]
      rw [first, if_pos same]
      split
      · rename_i none_left
        simp [none_left]
      · simp
    · have skipped : domainsOf link (entry :: rest) = domainsOf link rest := by
        simp [domainsOf, Ne.symm same]
      rw [skipped, if_neg same]

lemma collect_lookup (link : Nat) (real : link ≠ 0) :
    (collect list).lookup link =
      if domainsOf link list = [] then none else some (domainsOf link list) := by
  have kept : domainsOf link (list.filter (·.1 ≠ 0)) = domainsOf link list := by
    simp only [domainsOf, List.filter_filter]
    congr 1
    apply List.filter_congr
    intro entry _
    by_cases same : entry.1 = link
    · simp [same, real]
    · simp [same]
  rw [collect, lookup_collected, kept]
  simp

structure Keyed (table : Table) : Prop where
  distinct : (table.map Prod.fst).Nodup
  real : ∀ entry ∈ table, entry.1 ≠ 0

lemma append_keyed (entry : Nat × LinkDomain) (keyed : Keyed table) (real : entry.1 ≠ 0) :
    Keyed (appendDomain table entry) := by
  cases known : table.lookup entry.1 with
  | some list =>
    simp only [appendDomain, known]
    constructor
    · rw [List.map_map]
      exact keyed.distinct
    · intro changed member
      obtain ⟨old, inside, rfl⟩ := List.mem_map.mp member
      exact keyed.real old inside
  | none =>
    have absent := AssocList.not_mem_of_lookup known
    simp only [appendDomain, known]
    constructor
    · rw [List.map_append]
      exact List.nodup_append.mpr ⟨keyed.distinct, by simp, by
        rintro old member new last rfl
        rw [List.map_singleton, List.mem_singleton] at last
        exact absent (last ▸ member)⟩
    · intro other member
      rcases List.mem_append.mp member with old | new
      · exact keyed.real other old
      · rw [List.mem_singleton.mp new]
        exact real

lemma collect_keyed : Keyed (collect list) := by
  apply List.foldlRecOn (motive := Keyed)
  · exact ⟨by simp, by simp⟩
  · intro table keyed entry member
    exact append_keyed table entry keyed (by simpa using (List.mem_filter.mp member).2)

/-! ## The lists when all requests are handled -/

def settled (s : State) : Nat → List LinkDomain := s.pending.foldl handle s.domains

@[simp] lemma settled_send (requests : List Request) (s : State) :
    settled (send requests s) = requests.foldl handle (settled s) := by
  simp [settled, send]

lemma settled_process (links : Links) (s : State) : settled (process links s) = settled s := by
  unfold process
  split
  · rfl
  · rename_i rest pending
    simp [settled, pending, handle]
  · rename_i request rest other pending
    simp [settled, pending]

lemma set_all (keyed : Keyed table) (domains : Nat → List LinkDomain) (link : Nat) :
    (table.map fun entry => Request.setLinkDomains entry.1 entry.2).foldl handle domains link =
      (table.lookup link).getD (domains link) := by
  obtain ⟨distinct, real⟩ := keyed
  induction table generalizing domains with
  | nil => rfl
  | cons entry rest ih =>
    obtain ⟨name, list⟩ := entry
    simp only [List.map_cons, List.nodup_cons] at distinct
    have nonzero : name ≠ 0 := real _ List.mem_cons_self
    rw [List.map_cons, List.foldl_cons,
      ih _ distinct.2 fun other member => real other (List.mem_cons_of_mem _ member)]
    by_cases same : link = name
    · subst same
      have gone := AssocList.lookup_of_not_mem distinct.1
      simp [gone, handle, nonzero]
    · rw [AssocList.lookup_cons_other rest list same]
      simp [handle, same]

lemma set_other (requests : List Request) (domains : Nat → List LinkDomain) (link : Nat)
    (other : ∀ request ∈ requests, request.link? ≠ some link) :
    requests.foldl handle domains link = domains link := by
  induction requests generalizing domains with
  | nil => rfl
  | cons request rest ih =>
    rw [List.foldl_cons, ih _ fun later member => other later (List.mem_cons_of_mem _ member)]
    have apart := other request List.mem_cons_self
    cases request with
    | setLinkDomains name list | revertLink name =>
      have missed : link ≠ name := fun same => apart (by simp [Request.link?, same])
      simp [handle, missed]
    | _ => rfl

section Restoring

variable (links : Links) (vpn : List Nat) (original : Nat → List LinkDomain)

def Other (link : Nat) : Prop := link ∈ links.indices ∧ link ≠ 0 ∧ link ∉ vpn

instance (link : Nat) : Decidable (Other links vpn link) :=
  inferInstanceAs (Decidable (_ ∧ _ ∧ _))

/-- The service answers while the lists of the other links are the original
ones, and the answer arrives while an interface is set. -/
def inTime (s : State) : Event → Prop
  | .processed =>
    s.pending.head? = some .getDomains →
      ∀ link ∈ links.indices, Other links vpn link → s.domains link = original link
  | .replied index => index < s.replies.length → s.ifindex ≠ 0
  | _ => True

instance (s : State) : ∀ event, Decidable (inTime links vpn original s event)
  | .processed =>
    inferInstanceAs (Decidable (_ → ∀ link ∈ links.indices, Other links vpn link → _))
  | .replied _ => inferInstanceAs (Decidable (_ → _))
  | .updateResolvers .. | .restoreResolvers => isTrue trivial

/-- The list of each other link is the original one, or will be when what is
saved is put back. -/
structure Recoverable (s : State) : Prop where
  tunnel : s.ifindex = 0 ∨ s.ifindex ∈ vpn
  keyed : Keyed s.linkDomains
  saved : ∀ link, Other links vpn link →
    (s.linkDomains.lookup link = none ∧ settled s link = original link) ∨
      (s.linkDomains.lookup link = some (original link) ∧ original link ≠ [])
  answers : ∀ list ∈ s.replies, ∀ link, Other links vpn link →
    domainsOf link list = original link
  real : ∀ request ∈ s.sent, request.link? ≠ some 0
  idle : s.restored = true → s.ifindex = 0 ∧ s.linkDomains = []

variable {links vpn original}

lemma Recoverable.apart {s : State} (inv : Recoverable links vpn original s) {link : Nat}
    (other : Other links vpn link) : link ≠ s.ifindex := by
  rintro rfl
  rcases inv.tunnel with zero | tunnel
  · exact other.2.1 zero
  · exact other.2.2 tunnel

variable (s : State)

lemma update_recoverable (ifindex : Nat) (resolvers : List HostAddress)
    (known : ifindex = 0 ∨ ifindex ∈ vpn) (inv : Recoverable links vpn original s) :
    Recoverable links vpn original (updateResolvers ifindex resolvers s) := by
  by_cases missing : ifindex = 0
  · rw [updateResolvers, if_pos missing]
    exact ⟨known, inv.keyed, inv.saved, inv.answers, inv.real, by simp⟩
  · rw [updateResolvers, if_neg missing]
    constructor
    · exact known
    · exact inv.keyed
    · -- none of the three requests touches a list
      intro link other
      rw [settled_send]
      exact inv.saved link other
    · exact inv.answers
    · intro request member
      rcases List.mem_append.mp member with old | new
      · exact inv.real request old
      · simp only [List.mem_cons, List.not_mem_nil, or_false] at new
        rcases new with rfl | rfl | rfl <;> simp [Request.link?, missing]
    · simp [send]

lemma restore_settled (link : Nat) (keyed : Keyed s.linkDomains) (other : link ≠ s.ifindex) :
    settled (restoreResolvers s) link = (s.linkDomains.lookup link).getD (settled s link) := by
  have put_back := set_all s.linkDomains keyed (settled s) link
  by_cases idle : s.ifindex = 0
  · simpa [restoreResolvers, send, idle, settled] using put_back
  · have reverted : ∀ domains, handle domains (.revertLink s.ifindex) link = domains link := by
      intro domains
      simp [handle, other]
    simpa [restoreResolvers, send, idle, settled, reverted] using put_back

lemma restore_sent (keyed : Keyed s.linkDomains)
    (real : ∀ request ∈ s.sent, request.link? ≠ some 0) :
    ∀ request ∈ (restoreResolvers s).sent, request.link? ≠ some 0 := by
  have put_back : ∀ request ∈ s.sent ++ s.linkDomains.map
      (fun entry => Request.setLinkDomains entry.1 entry.2), request.link? ≠ some 0 := by
    intro request member
    rcases List.mem_append.mp member with old | new
    · exact real request old
    · obtain ⟨entry, inside, rfl⟩ := List.mem_map.mp new
      simpa [Request.link?] using keyed.real entry inside
  by_cases idle : s.ifindex = 0
  · simpa [restoreResolvers, send, idle] using put_back
  · intro request member
    have parts : request ∈ (s.sent ++ s.linkDomains.map
        (fun entry => Request.setLinkDomains entry.1 entry.2)) ++ [.revertLink s.ifindex] := by
      simpa [restoreResolvers, send, idle] using member
    rcases List.mem_append.mp parts with earlier | last
    · exact put_back request earlier
    · rw [List.mem_singleton.mp last]
      simpa [Request.link?] using idle

lemma restore_idle :
    (restoreResolvers s).ifindex = 0 ∧ (restoreResolvers s).linkDomains = [] ∧
      (restoreResolvers s).replies = s.replies := by
  by_cases idle : s.ifindex = 0
  · simp [restoreResolvers, send, idle]
  · simp [restoreResolvers, send, idle]

lemma restore_recoverable (inv : Recoverable links vpn original s) :
    Recoverable links vpn original (restoreResolvers s) := by
  obtain ⟨none_set, none_saved, answers⟩ := restore_idle s
  constructor
  · exact Or.inl none_set
  · rw [none_saved]
    exact ⟨by simp, by simp⟩
  · intro link other
    left
    rw [none_saved, restore_settled s link inv.keyed (inv.apart other)]
    rcases inv.saved link other with ⟨missing, same⟩ | ⟨found, -⟩
    · exact ⟨rfl, by rw [missing, Option.getD_none, same]⟩
    · exact ⟨rfl, by rw [found, Option.getD_some]⟩
  · rw [answers]
    exact inv.answers
  · exact restore_sent s inv.keyed inv.real
  · exact fun _ => ⟨none_set, none_saved⟩

lemma process_recoverable (guarded : inTime links vpn original s .processed)
    (inv : Recoverable links vpn original s) :
    Recoverable links vpn original (process links s) := by
  have lists := settled_process links s
  unfold process at lists ⊢
  split
  · exact inv
  · rename_i rest pending
    simp only [pending] at lists
    constructor
    · exact inv.tunnel
    · exact inv.keyed
    · intro link other
      rw [lists]
      exact inv.saved link other
    · intro list member link other
      rcases List.mem_append.mp member with old | new
      · exact inv.answers list old link other
      · rw [List.mem_singleton.mp new, report_domains links s.domains link other.1]
        exact guarded (by simp [pending]) link other.1 other
    · exact inv.real
    · exact inv.idle
  · rename_i request rest plain pending
    simp only [pending] at lists
    refine ⟨inv.tunnel, inv.keyed, ?_, inv.answers, inv.real, inv.idle⟩
    intro link other
    rw [lists]
    exact inv.saved link other

def takeRoot (table : Table) (ifindex : Nat) : List Request :=
  (table.filter (root ∈ ·.2)).map (fun entry =>
    Request.setLinkDomains entry.1 (entry.2.filter (· ≠ root))) ++
  [.setLinkDomains ifindex [root]]

lemma received_eq (list : List (Nat × LinkDomain)) (s : State) :
    dnsDomainsReceived list s =
      send (takeRoot (collect list) s.ifindex) { s with linkDomains := collect list } := by
  simp [dnsDomainsReceived, takeRoot, send]

lemma take_root_link (table : Table) (ifindex : Nat) (request : Request)
    (member : request ∈ takeRoot table ifindex) :
    (∃ entry ∈ table, request.link? = some entry.1) ∨ request.link? = some ifindex := by
  rcases List.mem_append.mp member with dropped | given
  · obtain ⟨entry, inside, rfl⟩ := List.mem_map.mp dropped
    exact Or.inl ⟨entry, (List.mem_filter.mp inside).1, rfl⟩
  · rw [List.mem_singleton.mp given]
    exact Or.inr rfl

lemma received_recoverable (list : List (Nat × LinkDomain)) (s : State)
    (reported : ∀ link, Other links vpn link → domainsOf link list = original link)
    (up : s.ifindex ≠ 0) (inv : Recoverable links vpn original s) :
    Recoverable links vpn original (dnsDomainsReceived list s) := by
  rw [received_eq]
  have keyed := collect_keyed list
  constructor
  · exact inv.tunnel
  · exact keyed
  · intro link other
    have found := collect_lookup list link other.2.1
    rw [reported link other] at found
    by_cases empty : original link = []
    · -- a link without domains has no entry, and no request is about it
      left
      rw [if_pos empty] at found
      refine ⟨found, ?_⟩
      rw [settled_send, set_other]
      · rcases inv.saved link other with ⟨-, same⟩ | ⟨-, nonempty⟩
        · exact same
        · exact absurd empty nonempty
      · intro request member about
        rcases take_root_link _ _ request member with ⟨entry, inside, named⟩ | named
        · have key : link = entry.1 := Option.some.inj (about.symm.trans named)
          exact absurd (key ▸ List.mem_map_of_mem inside) (AssocList.not_mem_of_lookup found)
        · exact inv.apart other (Option.some.inj (about.symm.trans named))
    · right
      rw [if_neg empty] at found
      exact ⟨found, empty⟩
  · exact inv.answers
  · intro request member
    rcases List.mem_append.mp member with old | new
    · exact inv.real request old
    · rcases take_root_link _ _ request new with ⟨entry, inside, about⟩ | about
      · rw [about]
        simpa using keyed.real entry inside
      · rw [about]
        simpa using up
  · intro restored
    exact absurd (inv.idle restored).1 up

lemma step_recoverable (event : Event)
    (uses : ∀ ifindex resolvers, event = .updateResolvers ifindex resolvers →
      ifindex = 0 ∨ ifindex ∈ vpn) (guarded : inTime links vpn original s event)
    (inv : Recoverable links vpn original s) :
    Recoverable links vpn original (step links s event) := by
  cases event with
  | updateResolvers ifindex resolvers =>
    exact update_recoverable s ifindex resolvers (uses ifindex resolvers rfl) inv
  | restoreResolvers => exact restore_recoverable s inv
  | processed => exact process_recoverable s guarded inv
  | replied index =>
    simp only [step]
    split
    · rename_i list found
      obtain ⟨inside, same⟩ := List.getElem?_eq_some_iff.mp found
      have member : list ∈ s.replies := same ▸ List.getElem_mem inside
      apply received_recoverable list
      · exact inv.answers list member
      · exact guarded inside
      · exact ⟨inv.tunnel, inv.keyed, inv.saved,
          fun other rest => inv.answers other (List.mem_of_mem_eraseIdx rest),
          inv.real, inv.idle⟩
    · exact inv

end Restoring

def vpnLinks (events : List Event) : List Nat :=
  events.filterMap fun event =>
    match event with
    | .updateResolvers ifindex _ => some ifindex
    | _ => none

lemma run_recoverable (links : Links) (vpn : List Nat) (original : Nat → List LinkDomain)
    (s : State) (events : List Event) (uses : ∀ ifindex ∈ vpnLinks events, ifindex ∈ vpn)
    (guarded : Runs.Guarded (step links) (inTime links vpn original) s events)
    (inv : Recoverable links vpn original s) :
    Recoverable links vpn original (Runs.run (step links) s events) := by
  induction events generalizing s with
  | nil => exact inv
  | cons event rest ih =>
    apply ih (step links s event)
    · intro ifindex member
      apply uses
      simp only [vpnLinks, List.filterMap_cons]
      split
      · exact member
      · exact List.mem_cons_of_mem _ member
    · exact guarded.2
    · apply step_recoverable s event _ guarded.1 inv
      rintro ifindex resolvers rfl
      exact Or.inr (uses ifindex (by simp [vpnLinks]))

/-- In every run whose answers are given and arrive in time, no request is about
link zero; and once the last call was `restoreResolvers` and nothing is under
way any more, every link but the tunnel has its old list. -/
theorem restores_links (links : Links) (domains : Nat → List LinkDomain) (events : List Event)
    (guarded : Runs.Guarded (step links) (inTime links (vpnLinks events) domains)
      (fresh domains) events) :
    let s := Runs.run (step links) (fresh domains) events
    (∀ request ∈ s.sent, request.link? ≠ some 0) ∧
      (s.restored = true → s.pending = [] → s.replies = [] →
        ∀ link, Other links (vpnLinks events) link → s.domains link = domains link) := by
  intro s
  have start : Recoverable links (vpnLinks events) domains (fresh domains) :=
    ⟨Or.inl rfl, ⟨by simp [fresh], by simp [fresh]⟩, fun _ _ => Or.inl ⟨rfl, rfl⟩,
      by simp [fresh], by simp [fresh], by simp [fresh]⟩
  have inv : Recoverable links (vpnLinks events) domains s :=
    run_recoverable links _ domains _ events (fun _ member => member) guarded start
  constructor
  · exact inv.real
  · intro restored handled _ link other
    obtain ⟨-, none_saved⟩ := inv.idle restored
    rcases inv.saved link other with ⟨-, same⟩ | ⟨found, -⟩
    · rw [← same, settled, handled]
      rfl
    · rw [none_saved] at found
      cases found

/-! The tunnel is link 5; link 2 searches the root domain and `lan`. -/

def twoLinks : Links := ⟨[2, 5], by decide⟩

def lanDomains (link : Nat) : List LinkDomain :=
  if link = 2 then [root, ⟨"lan", true⟩] else []

def connected : List Event :=
  [.updateResolvers 5 [], .processed, .processed, .processed, .replied 0, .processed, .processed]

def disconnected : List Event := [.restoreResolvers, .processed, .processed]

theorem lan_restored :
    let s := Runs.run (step twoLinks) (fresh lanDomains)
      (connected ++ disconnected ++ connected ++ disconnected)
    (∀ request ∈ s.sent, request.link? ≠ some 0) ∧
      (s.restored = true → s.pending = [] → s.replies = [] →
        ∀ link, Other twoLinks (vpnLinks (connected ++ disconnected ++ connected ++ disconnected))
          link → s.domains link = lanDomains link) :=
  restores_links twoLinks lanDomains (connected ++ disconnected ++ connected ++ disconnected)
    (by decide)

/-- The answer comes after `restoreResolvers`: a request for link zero is sent,
and link 2 stays without the root domain. -/
theorem late_answer_loses_root :
    let events : List Event := [.updateResolvers 5 [], .processed, .processed, .processed,
      .restoreResolvers, .replied 0, .processed, .processed, .processed]
    let s := Runs.run (step twoLinks) (fresh lanDomains) events
    s.restored = true ∧ s.pending = [] ∧ s.replies = [] ∧ Other twoLinks (vpnLinks events) 2 ∧
      s.domains 2 = [⟨"lan", true⟩] ∧ .setLinkDomains 0 [root] ∈ s.sent := by
  decide

end AbstractumVpn.DnsUtilsLinux
