import AbstractumVpn.AppSettings
import AbstractumVpn.AssocList
import AbstractumVpn.Runs

/-!
`IpSplitTunnelingController`: the list of the split-tunnel sites the user edits,
kept beside the sites of the settings. A new host name is looked up, and the
answer comes through `onHostResolved` at any later time. It names its host itself:
for a text that is read as an address, such as `127.1`, that is what the reverse
lookup gives. The settings hold one map per route mode; a lookup is listed here
with the mode it was started in.
-/

namespace AbstractumVpn.IpSplitTunnelingController

open AppSettings AssocList

structure Lookup where
  site : String
  mode : RouteMode

structure State where
  currentRouteMode : RouteMode
  sites : Sites
  vpnSites : RouteMode → Sites
  routeMode : RouteMode
  lookups : List Lookup

inductive Event where
  | addSite (hostname : String)
  | removeSite (hostname : String)
  | removeSites
  | setRouteMode (routeMode : RouteMode)
  | hostResolved (index : Nat) (hostName : String) (addresses : List HostAddress)

def mergeIps (known ips : List String) : List String :=
  ips.foldl (fun merged ip => if ip ≠ "" ∧ ip ∉ merged then merged ++ [ip] else merged) known

def mergeEntry (hostname : String) (ips : List String) : Sites → Sites
  | [] => []
  | (name, known) :: rest =>
    if name = hostname then (name, mergeIps known ips) :: rest
    else (name, known) :: mergeEntry hostname ips rest

def setVpnSites (sites : Sites) (s : State) : State :=
  { s with vpnSites := fun mode => if mode = s.currentRouteMode then sites else s.vpnSites mode }

def listed (sites : Sites) : Sites := sites.map fun entry => (entry.1, siteIpList entry.2)

def fillSites (s : State) : State := { s with sites := listed (s.vpnSites s.currentRouteMode) }

def construct (routeMode : RouteMode) (vpnSites : RouteMode → Sites) : State :=
  let mode := if routeMode = .vpnAllSites then .vpnOnlyForwardSites else routeMode
  fillSites ⟨mode, [], vpnSites, mode, []⟩

def addSiteInternal (hostname : String) (ips : List String) (s : State) : Option State :=
  let existing := s.vpnSites s.currentRouteMode
  let stored := setVpnSites (addVpnSite existing hostname ips) s
  if (existing.lookup hostname).isSome ∧ ips = [] then none
  else match s.sites.lookup hostname with
    | some known =>
      if mergeIps known ips = known then none
      else some { stored with sites := mergeEntry hostname ips s.sites }
    | none => some { stored with sites := s.sites ++ [(hostname, ips)] }

def without (normalized text : String) : String := String.join (QtText.split normalized text)

/-- The source takes `first()` of an empty list where there is none here. -/
def normalizeHostname (hostname : String) : Option String :=
  let normalized := without (without (without hostname "https://") "http://") "ftp://"
  ((QtText.split normalized "/").filter (· ≠ "")).head?

def isOctet (text : String) : Bool :=
  match QtText.decimal text.toList with
  | some value => decide (value ≤ 255) && text == Nat.repr value
  | none => false

def ipAddressWithSubnet (text : String) : Bool :=
  let isAddress (address : String) :=
    match QtText.split address "." with
    | [first, second, third, fourth] => [first, second, third, fourth].all isOctet
    | _ => false
  match QtText.split text "/" with
  | [address] => isAddress address
  | [address, length] =>
    isAddress address && (QtText.decimal length.toList).isSome && decide (length.length ≤ 2)
  | _ => false

def validateHostname (hostname : String) : Bool :=
  hostname ≠ "" && ('.' ∈ hostname.toList || ipAddressWithSubnet hostname)

def addNormalized (normalized : String) (s : State) : State :=
  if validateHostname normalized then
    match addSiteInternal normalized [] s with
    | some added =>
      if ipAddressWithSubnet normalized then added
      else { added with lookups := s.lookups ++ [⟨normalized, s.currentRouteMode⟩] }
    | none => s
  else s

def addSite (hostname : String) (s : State) : State :=
  (normalizeHostname hostname).elim s fun normalized => addNormalized normalized s

def removeSite (hostname : String) (s : State) : State :=
  if (s.sites.lookup hostname).isSome then
    { setVpnSites ((s.vpnSites s.currentRouteMode).filter (·.1 ≠ hostname)) s with
      sites := s.sites.eraseP (·.1 = hostname) }
  else s

def removeSites (s : State) : State := { setVpnSites [] s with sites := [] }

def setRouteMode (routeMode : RouteMode) (s : State) : State :=
  { fillSites { s with currentRouteMode := routeMode } with routeMode := routeMode }

def processSiteAfterResolve (hostname : String) (ips : List String) (s : State) : State :=
  { setVpnSites (addVpnSite (s.vpnSites s.currentRouteMode) hostname ips) s with
    sites := mergeEntry hostname ips s.sites }

def allIpv4 (addresses : List HostAddress) : List String :=
  (addresses.filterMap fun address =>
    match address with
    | .ipv4 _ => some address.toString
    | _ => none).eraseDups

def onHostResolved (hostname : String) (addresses : List HostAddress) (s : State) : State :=
  if allIpv4 addresses = [] then s else processSiteAfterResolve hostname (allIpv4 addresses) s

def step (s : State) : Event → State
  | .addSite hostname => addSite hostname s
  | .removeSite hostname => removeSite hostname s
  | .removeSites => removeSites s
  | .setRouteMode routeMode => setRouteMode routeMode s
  | .hostResolved index hostName addresses =>
    match s.lookups[index]? with
    | some _ => onHostResolved hostName addresses { s with lookups := s.lookups.eraseIdx index }
    | none => s

/-! ## Merged addresses -/

structure Clean (ips : List String) : Prop where
  nodup : ips.Nodup
  no_empty : "" ∉ ips

/-- Only the first of equal texts stays, by induction on the length: the rest of
the list is filtered before it is searched. -/
lemma nodup_eraseDups (texts : List String) : texts.eraseDups.Nodup := by
  induction length : texts.length using Nat.strong_induction_on generalizing texts with
  | _ n ih =>
    cases texts with
    | nil => exact List.nodup_nil
    | cons first rest =>
      rw [List.eraseDups_cons, List.nodup_cons]
      constructor
      · simp
      · apply ih _ _ _ rfl
        have shorter := List.length_filter_le (fun text => !text == first) rest
        rw [← length]
        exact Nat.lt_succ_of_le shorter

lemma eraseDups_nodup (texts : List String) (nodup : texts.Nodup) : texts.eraseDups = texts := by
  induction texts with
  | nil => rfl
  | cons first rest ih =>
    obtain ⟨fresh, distinct⟩ := List.nodup_cons.mp nodup
    have kept : rest.filter (fun text => !text == first) = rest := by
      apply List.filter_eq_self.mpr
      intro text member
      simpa using fun same : text = first => fresh (same ▸ member)
    rw [List.eraseDups_cons, kept, ih distinct]

lemma siteIpList_clean (value : List String) : Clean (siteIpList value) := by
  constructor
  · exact nodup_eraseDups _
  · simp [siteIpList]

lemma Clean.siteIpList {ips : List String} (clean : Clean ips) : siteIpList ips = ips := by
  have kept : ips.filter (· ≠ "") = ips := by
    apply List.filter_eq_self.mpr
    intro ip member
    simpa using fun empty : ip = "" => clean.no_empty (empty ▸ member)
  rw [AppSettings.siteIpList, kept, eraseDups_nodup ips clean.nodup]

lemma Clean.mergeIps {known : List String} (clean : Clean known) (ips : List String) :
    Clean (mergeIps known ips) := by
  induction ips generalizing known with
  | nil => exact clean
  | cons ip rest ih =>
    apply ih
    by_cases fresh : ip ≠ "" ∧ ip ∉ known
    · simp only [if_pos fresh]
      constructor
      · exact List.nodup_append.mpr ⟨clean.nodup, List.nodup_singleton ip, by
          intro old member new same equal
          rw [List.mem_singleton.mp same] at equal
          exact fresh.2 (equal ▸ member)⟩
      · simp only [List.mem_append, List.mem_singleton, not_or]
        exact ⟨clean.no_empty, Ne.symm fresh.1⟩
    · simpa only [if_neg fresh] using clean

/-! ## The list and the stored map -/

def Distinct (sites : Sites) : Prop := (sites.map Prod.fst).Nodup

variable {s : State} (sites : Sites) (site : String) (ips : List String)

lemma lookup_listed : (listed sites).lookup site = (sites.lookup site).map siteIpList :=
  lookup_map (fun _ => siteIpList) sites site

lemma listed_names : (listed sites).map Prod.fst = sites.map Prod.fst := by
  simp [listed]

lemma mergeEntry_absent (sites : Sites) (absent : sites.lookup site = none) :
    mergeEntry site ips sites = sites := by
  induction sites with
  | nil => rfl
  | cons entry rest ih =>
    obtain ⟨name, known⟩ := entry
    by_cases here : name = site
    · simp [here] at absent
    · rw [lookup_cons_other rest known (Ne.symm here)] at absent
      rw [mergeEntry, if_neg here, ih absent]

/-- The entry of the site gets the merged addresses, every other one stays. -/
lemma lookup_mergeEntry (sites : Sites) (other : String) :
    (mergeEntry site ips sites).lookup other =
      if other = site then (sites.lookup site).map (mergeIps · ips) else sites.lookup other := by
  induction sites with
  | nil => simp [mergeEntry]
  | cons entry rest ih =>
    obtain ⟨name, known⟩ := entry
    by_cases here : name = site
    · subst here
      rw [mergeEntry, if_pos rfl]
      by_cases same : other = name
      · simp [same]
      · rw [if_neg same, lookup_cons_other rest _ same,
          lookup_cons_other rest known same]
    · rw [mergeEntry, if_neg here, lookup_cons_other rest known (Ne.symm here)]
      by_cases same : other = name
      · subst same
        simp [here]
      · rw [lookup_cons_other _ known same, ih,
          lookup_cons_other rest known same]

lemma mergeEntry_known (sites : Sites) (known : List String)
    (found : sites.lookup site = some known) (nothing_new : mergeIps known ips = known) :
    mergeEntry site ips sites = sites := by
  induction sites with
  | nil => cases found
  | cons entry rest ih =>
    obtain ⟨name, value⟩ := entry
    by_cases here : name = site
    · subst here
      obtain rfl : value = known := by simpa using found
      rw [mergeEntry, if_pos rfl, nothing_new]
    · rw [lookup_cons_other rest value (Ne.symm here)] at found
      rw [mergeEntry, if_neg here, ih found]

lemma addVpnSite_absent (absent : sites.lookup site = none) :
    addVpnSite sites site ips = sites ++ [(site, mergeIps [] ips)] := by
  simp only [addVpnSite, absent]
  rfl

lemma addVpnSite_present (raw : List String) (found : sites.lookup site = some raw) :
    addVpnSite sites site ips = sites.map fun entry =>
      if entry.1 = site ∧ mergeIps (siteIpList raw) ips ≠ siteIpList raw
      then (site, mergeIps (siteIpList raw) ips) else entry := by
  simp only [addVpnSite, found]
  rfl

lemma addVpnSite_known (raw : List String) (found : sites.lookup site = some raw)
    (nothing_new : mergeIps (siteIpList raw) ips = siteIpList raw) :
    addVpnSite sites site ips = sites := by
  rw [addVpnSite_present sites site ips raw found]
  simp [nothing_new]

/-- The stored map and the list take new addresses in the same way. -/
lemma listed_addVpnSite (distinct : Distinct sites) (site : String) (ips raw : List String)
    (found : sites.lookup site = some raw) :
    listed (addVpnSite sites site ips) = mergeEntry site ips (listed sites) := by
  have known : (listed sites).lookup site = some (siteIpList raw) := by
    rw [lookup_listed, found]
    rfl
  by_cases nothing_new : mergeIps (siteIpList raw) ips = siteIpList raw
  · rw [addVpnSite_known sites site ips raw found nothing_new,
      mergeEntry_known site ips (listed sites) _ known nothing_new]
  · rw [addVpnSite_present sites site ips raw found]
    have merged : Clean (mergeIps (siteIpList raw) ips) := (siteIpList_clean raw).mergeIps ips
    clear known
    induction sites with
    | nil => cases found
    | cons entry rest ih =>
      obtain ⟨name, value⟩ := entry
      obtain ⟨fresh, distinct⟩ := List.nodup_cons.mp distinct
      change _ = mergeEntry site ips ((name, siteIpList value) :: listed rest)
      by_cases here : name = site
      · -- the names are distinct, so the entries after this one stay
        subst here
        obtain rfl : value = raw := by simpa using found
        have others : rest.map (fun entry =>
            if entry.1 = name ∧ mergeIps (siteIpList value) ips ≠ siteIpList value
            then (name, mergeIps (siteIpList value) ips) else entry) = rest := by
          apply (List.map_congr_left _).trans (List.map_id rest)
          intro entry member
          have other : entry.1 ≠ name := fun same => fresh (List.mem_map.mpr ⟨entry, member, same⟩)
          exact if_neg fun both => other both.1
        rw [mergeEntry, if_pos rfl, List.map_cons, others]
        simp [listed, nothing_new, merged.siteIpList]
      · rw [lookup_cons_other rest value (Ne.symm here)] at found
        rw [mergeEntry, if_neg here, ← ih distinct found]
        simp [listed, here]

lemma addVpnSite_distinct (distinct : Distinct sites) (site : String) (ips : List String) :
    Distinct (addVpnSite sites site ips) := by
  cases found : sites.lookup site with
  | none =>
    have fresh := not_mem_of_lookup found
    rw [addVpnSite_absent sites site ips found, Distinct, List.map_append]
    apply List.Nodup.append distinct (List.nodup_singleton site)
    simpa using fresh
  | some raw =>
    rw [addVpnSite_present sites site ips raw found, Distinct, List.map_map]
    apply (congrArg List.Nodup (List.map_congr_left _)).mpr distinct
    intro entry member
    simp only [Function.comp]
    split
    · next both => exact both.1.symm
    · rfl

lemma lookup_addVpnSite_other (name : String) (other : name ≠ site) :
    (addVpnSite sites site ips).lookup name = sites.lookup name := by
  cases found : sites.lookup site with
  | none =>
    rw [addVpnSite_absent sites site ips found, List.lookup_append,
      lookup_cons_other [] _ other, List.lookup_nil, Option.or_none]
  | some raw =>
    let update (entry : String) (value : List String) : List String :=
      if entry = site ∧ mergeIps (siteIpList raw) ips ≠ siteIpList raw
      then mergeIps (siteIpList raw) ips else value
    have changed : addVpnSite sites site ips =
        sites.map fun entry => (entry.1, update entry.1 entry.2) := by
      rw [addVpnSite_present sites site ips raw found]
      apply List.map_congr_left
      intro entry member
      by_cases new : entry.1 = site ∧ mergeIps (siteIpList raw) ips ≠ siteIpList raw
      · rw [if_pos new]
        exact Prod.ext new.1.symm (if_pos new).symm
      · rw [if_neg new]
        exact Prod.ext rfl (if_neg new).symm
    rw [changed, lookup_map update]
    simp [update, other]

lemma eraseP_distinct (distinct : Distinct sites) (site : String) :
    sites.eraseP (·.1 = site) = sites.filter (·.1 ≠ site) := by
  induction sites with
  | nil => rfl
  | cons entry rest ih =>
    obtain ⟨fresh, distinct⟩ := List.nodup_cons.mp distinct
    by_cases here : entry.1 = site
    · rw [List.eraseP_cons_of_pos (by simpa using here),
        List.filter_cons_of_neg (by simpa using here), filter_of_not_mem (here ▸ fresh)]
    · rw [List.eraseP_cons_of_neg (by simpa using here),
        List.filter_cons_of_pos (by simpa using here), ih distinct]

lemma listed_filter :
    listed (sites.filter (·.1 ≠ site)) = (listed sites).filter (·.1 ≠ site) := by
  rw [listed, listed, List.filter_map]
  rfl

/-! ## Steps -/

structure Mirrored (s : State) : Prop where
  sites : s.sites = listed (s.vpnSites s.currentRouteMode)
  distinct : ∀ mode, Distinct (s.vpnSites mode)

section

variable (mirrored : Mirrored s)

include mirrored

lemma stored_mirrored (stored shown : Sites) (distinct : Distinct stored)
    (same : shown = listed stored) : Mirrored { setVpnSites stored s with sites := shown } := by
  constructor
  · change shown = listed (if s.currentRouteMode = s.currentRouteMode then stored else _)
    rw [if_pos rfl, same]
  · intro mode
    change Distinct (if mode = s.currentRouteMode then stored else s.vpnSites mode)
    split
    · exact distinct
    · exact mirrored.distinct mode

lemma Mirrored.lookup (site : String) :
    s.sites.lookup site = ((s.vpnSites s.currentRouteMode).lookup site).map siteIpList := by
  rw [mirrored.sites, lookup_listed]

lemma Mirrored.lookups (lookups : List Lookup) : Mirrored { s with lookups := lookups } :=
  ⟨mirrored.sites, mirrored.distinct⟩

lemma addSiteInternal_mirrored {added : State} (hostname : String)
    (accepted : addSiteInternal hostname [] s = some added) : Mirrored added := by
  have shown := mirrored.lookup hostname
  cases found : (s.vpnSites s.currentRouteMode).lookup hostname with
  | some raw => simp [addSiteInternal, found] at accepted
  | none =>
    rw [found, Option.map_none] at shown
    simp only [addSiteInternal, found, shown, Option.isSome_none, Bool.false_eq_true, false_and,
      if_false, Option.some.injEq] at accepted
    subst accepted
    apply stored_mirrored mirrored
    · exact addVpnSite_distinct _ (mirrored.distinct _) hostname []
    · rw [addVpnSite_absent _ _ _ found, mirrored.sites, listed, listed, List.map_append]
      rfl

lemma addNormalized_mirrored (normalized : String) : Mirrored (addNormalized normalized s) := by
  rw [addNormalized]
  split
  · split
    · next added accepted =>
        have kept := addSiteInternal_mirrored mirrored normalized accepted
        split
        · exact kept
        · exact kept.lookups _
    · exact mirrored
  · exact mirrored

lemma addSite_mirrored (hostname : String) : Mirrored (addSite hostname s) := by
  rw [addSite]
  cases normalizeHostname hostname with
  | none => exact mirrored
  | some normalized => exact addNormalized_mirrored mirrored normalized

lemma removeSite_mirrored (hostname : String) : Mirrored (removeSite hostname s) := by
  have names : Distinct s.sites := by
    rw [Distinct, mirrored.sites, listed_names]
    exact mirrored.distinct s.currentRouteMode
  by_cases found : (s.sites.lookup hostname).isSome
  · rw [removeSite, if_pos found]
    apply stored_mirrored mirrored
    · exact (mirrored.distinct s.currentRouteMode).sublist (List.filter_sublist.map _)
    · rw [eraseP_distinct s.sites names, listed_filter, mirrored.sites]
  · rwa [removeSite, if_neg found]

lemma process_mirrored (site : String) (ips : List String)
    (present : (s.sites.lookup site).isSome) : Mirrored (processSiteAfterResolve site ips s) := by
  rw [mirrored.lookup, Option.isSome_map] at present
  obtain ⟨raw, found⟩ := Option.isSome_iff_exists.mp present
  apply stored_mirrored mirrored
  · exact addVpnSite_distinct _ (mirrored.distinct _) site ips
  · rw [mirrored.sites, listed_addVpnSite _ (mirrored.distinct _) site ips raw found]

/-! ## Answers of lookups -/

def Shows (s : State) : Prop := s.sites.Perm (listed (s.vpnSites s.currentRouteMode))

instance (s : State) : Decidable (Shows s) :=
  inferInstanceAs (Decidable (s.sites.Perm _))

/-- An answer changes at most the entry of its site in the mode of its request,
and nothing when the site has been removed there. -/
structure OwnEntry (lookup : Lookup) (before after : State) : Prop where
  stored : ∀ mode site, (mode = lookup.mode ∧ site = lookup.site) ∨
    (after.vpnSites mode).lookup site = (before.vpnSites mode).lookup site
  shown : ∀ site, (before.currentRouteMode = lookup.mode ∧ site = lookup.site) ∨
    after.sites.lookup site = before.sites.lookup site
  removed : (before.vpnSites lookup.mode).lookup lookup.site = none →
    after.vpnSites = before.vpnSites ∧ after.sites = before.sites

def Answered (s : State) (event : Event) : Prop :=
  match event with
  | .hostResolved index _ _ => ∀ lookup ∈ s.lookups[index]?, OwnEntry lookup s (step s event)
  | _ => True

/-- An answer with addresses finds the host it names in the list. The host is the
site that was looked up, in the mode of the request, or the list has all the
addresses already. -/
def InTime (s : State) : Event → Prop
  | .hostResolved index hostName addresses =>
    ∀ lookup ∈ s.lookups[index]?, allIpv4 addresses ≠ [] →
      ∃ known ∈ s.sites.lookup hostName,
        (hostName = lookup.site ∧ lookup.mode = s.currentRouteMode) ∨
          mergeIps known (allIpv4 addresses) = known
  | _ => True

instance (s : State) : ∀ event, Decidable (InTime s event)
  | .hostResolved index hostName _ =>
    inferInstanceAs (Decidable (∀ lookup ∈ s.lookups[index]?, _ →
      ∃ known ∈ s.sites.lookup hostName, _ ∨ _))
  | .addSite _ | .removeSite _ | .removeSites | .setRouteMode _ => isTrue trivial

lemma process_known (site : String) (ips known : List String)
    (found : s.sites.lookup site = some known) (nothing_new : mergeIps known ips = known) :
    (processSiteAfterResolve site ips s).vpnSites = s.vpnSites ∧
      (processSiteAfterResolve site ips s).sites = s.sites := by
  constructor
  · rw [mirrored.lookup, Option.map_eq_some_iff] at found
    obtain ⟨raw, stored, rfl⟩ := found
    funext mode
    change (if mode = s.currentRouteMode then _ else _) = _
    rw [addVpnSite_known _ site ips raw stored nothing_new]
    split
    · next current => rw [current]
    · rfl
  · exact mergeEntry_known site ips s.sites known found nothing_new

end

lemma process_own (lookup : Lookup) (ips : List String)
    (present : ((s.vpnSites s.currentRouteMode).lookup lookup.site).isSome)
    (mode : lookup.mode = s.currentRouteMode) :
    OwnEntry lookup s (processSiteAfterResolve lookup.site ips s) := by
  constructor
  · intro other site
    by_cases here : other = lookup.mode ∧ site = lookup.site
    · exact Or.inl here
    · right
      change (if other = s.currentRouteMode then _ else _ : Sites).lookup site = _
      split
      · next current =>
          have away : site ≠ lookup.site := fun same => here ⟨current.trans mode.symm, same⟩
          rw [lookup_addVpnSite_other _ _ _ _ away, current]
      · rfl
  · intro site
    by_cases same : site = lookup.site
    · exact Or.inl ⟨mode.symm, same⟩
    · right
      change (mergeEntry lookup.site ips s.sites).lookup site = _
      rw [lookup_mergeEntry, if_neg same]
  · intro absent
    rw [mode] at absent
    simp [absent] at present

lemma unchanged_own (lookup : Lookup) {before after : State}
    (same : after.vpnSites = before.vpnSites ∧ after.sites = before.sites) :
    OwnEntry lookup before after :=
  ⟨fun _ _ => Or.inr (by rw [same.1]), fun _ => Or.inr (by rw [same.2]), fun _ => same⟩

lemma step_answer {index : Nat} {lookup : Lookup} (found : s.lookups[index]? = some lookup)
    (hostName : String) (addresses : List HostAddress) :
    step s (.hostResolved index hostName addresses) =
      onHostResolved hostName addresses { s with lookups := s.lookups.eraseIdx index } := by
  simp [step, found]

lemma answer_kept (mirrored : Mirrored s) (index : Nat) (hostName : String)
    (addresses : List HostAddress) (lookup : Lookup) (found : s.lookups[index]? = some lookup)
    (inTime : InTime s (.hostResolved index hostName addresses)) :
    Mirrored (step s (.hostResolved index hostName addresses)) ∧
      OwnEntry lookup s (step s (.hostResolved index hostName addresses)) := by
  have later := mirrored.lookups (s.lookups.eraseIdx index)
  rw [step_answer found, onHostResolved]
  by_cases nothing : allIpv4 addresses = []
  · rw [if_pos nothing]
    exact ⟨later, unchanged_own lookup ⟨rfl, rfl⟩⟩
  · obtain ⟨known, listed, own⟩ := inTime lookup found nothing
    rw [if_neg nothing]
    constructor
    · exact process_mirrored later hostName _ (Option.isSome_of_mem listed)
    · rcases own with ⟨rfl, mode⟩ | nothing_new
      · have present : ((s.vpnSites s.currentRouteMode).lookup lookup.site).isSome := by
          rw [← Option.isSome_map (f := siteIpList), ← mirrored.lookup]
          exact Option.isSome_of_mem listed
        obtain ⟨stored, shown, removed⟩ :=
          process_own (s := { s with lookups := s.lookups.eraseIdx index }) lookup
            (allIpv4 addresses) present mode
        exact ⟨stored, shown, removed⟩
      · exact unchanged_own lookup (process_known later hostName _ known listed nothing_new)

/-- Guarded steps keep the list, and their answers change their own entry. -/
lemma step_kept (s : State) (event : Event) (mirrored : Mirrored s) (inTime : InTime s event) :
    Mirrored (step s event) ∧ Answered s event := by
  cases event with
  | addSite hostname => exact ⟨addSite_mirrored mirrored hostname, trivial⟩
  | removeSite hostname => exact ⟨removeSite_mirrored mirrored hostname, trivial⟩
  | removeSites => exact ⟨stored_mirrored mirrored [] [] List.nodup_nil rfl, trivial⟩
  | setRouteMode routeMode => exact ⟨⟨rfl, mirrored.distinct⟩, trivial⟩
  | hostResolved index hostName addresses =>
    constructor
    · cases found : s.lookups[index]? with
      | none =>
        simp only [step, found]
        exact mirrored
      | some lookup => exact (answer_kept mirrored index hostName addresses lookup found inTime).1
    · intro lookup found
      exact (answer_kept mirrored index hostName addresses lookup found inTime).2

/-- An answer for a host outside the list is stored beside the list; one in another
mode or with another name changes an entry that is not its own. -/
lemma step_forced (s : State) (event : Event) (mirrored : Mirrored s)
    (shows : Shows (step s event)) (answered : Answered s event) : InTime s event := by
  cases event with
  | hostResolved index hostName addresses =>
    intro lookup found some_ips
    have own := answered lookup found
    rw [step_answer found, onHostResolved, if_neg some_ips] at shows own
    cases entry : s.sites.lookup hostName with
    | none =>
      -- the stored map has one more entry than the list
      have absent : (s.vpnSites s.currentRouteMode).lookup hostName = none := by
        rwa [mirrored.lookup, Option.map_eq_none_iff] at entry
      have lengths := shows.length_eq
      change (mergeEntry hostName _ s.sites).length = (listed (if s.currentRouteMode =
        s.currentRouteMode then addVpnSite (s.vpnSites s.currentRouteMode) _ _ else _)).length
        at lengths
      rw [mergeEntry_absent _ _ _ entry, if_pos rfl, addVpnSite_absent _ _ _ absent,
        mirrored.sites] at lengths
      simp [listed] at lengths
    | some known =>
      have merged : (mergeEntry hostName (allIpv4 addresses) s.sites).lookup hostName =
          some (mergeIps known (allIpv4 addresses)) := by
        rw [lookup_mergeEntry, if_pos rfl, entry, Option.map_some]
      rcases own.shown hostName with here | same
      · exact ⟨known, rfl, Or.inl ⟨here.2, here.1.symm⟩⟩
      · exact ⟨known, rfl, Or.inr (Option.some.inj (merged.symm.trans (same.trans entry)))⟩
  | addSite hostname => trivial
  | removeSite hostname => trivial
  | removeSites => trivial
  | setRouteMode routeMode => trivial

/-- Along a run from the stored settings the list shows the stored sites and
every answer changes its own entry alone, if and only if the answers come in
time. -/
theorem site_list_iff (routeMode : RouteMode) (vpnSites : RouteMode → Sites)
    (distinct : ∀ mode, Distinct (vpnSites mode)) (events : List Event) :
    ((∀ s, Runs.Visits step (construct routeMode vpnSites) events s → Shows s) ∧
        Runs.Guarded step Answered (construct routeMode vpnSites) events) ↔
      Runs.Guarded step InTime (construct routeMode vpnSites) events := by
  have shown : ∀ s, Mirrored s → Shows s := fun s mirrored => by rw [Shows, mirrored.sites]
  exact Runs.visits_steps_iff shown step_kept step_forced _ events ⟨rfl, distinct⟩

def answer : Event := .hostResolved 0 "example.org" [.ipv4 0x5db8d822#32]

/-- A name given as a URL, and its answer. -/
theorem prompt_answer_listed :
    (∀ s, Runs.Visits step (construct .vpnAllSites fun _ => [])
        [.addSite "https://example.org/news", answer] s → Shows s) ∧
      Runs.Guarded step Answered (construct .vpnAllSites fun _ => [])
        [.addSite "https://example.org/news", answer] :=
  (site_list_iff .vpnAllSites (fun _ => []) (fun _ => List.nodup_nil) _).mpr (by decide +kernel)

/-- The answer stores a site that has been removed, and a site in the mode that
has been chosen meanwhile. The list shows neither. -/
theorem late_answer_stored :
    let removed := Runs.run step (construct .vpnAllSites fun _ => [])
      [.addSite "example.org", .removeSite "example.org", answer]
    let switched := Runs.run step (construct .vpnAllSites fun _ => [])
      [.addSite "example.org", .setRouteMode .vpnAllExceptSites, answer]
    (¬ Shows removed ∧ removed.sites = [] ∧
        removed.vpnSites .vpnOnlyForwardSites = [("example.org", ["93.184.216.34"])]) ∧
      ¬ Shows switched ∧ switched.sites = [] ∧
        switched.vpnSites .vpnOnlyForwardSites = [("example.org", [])] ∧
        switched.vpnSites .vpnAllExceptSites = [("example.org", ["93.184.216.34"])] := by
  decide +kernel

end AbstractumVpn.IpSplitTunnelingController
