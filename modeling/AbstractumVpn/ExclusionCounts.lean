import AbstractumVpn.DaemonFrames
import AbstractumVpn.Runs
import AbstractumVpn.Triples

/-!
The reference counts of the exclusion routes. Only two calls touch them;
everything else keeps the `ledger`. The counts are those of the active configs
in every run in which no request behind the exclusion of an address is refused
and a server switch takes back each entry under the prefix it was added for.
-/

namespace AbstractumVpn.Daemon

open WireguardUtilsLinux Frames Runs AssocList

variable (ok : Nat → Bool) (qt : Qt)

def ledger (s : State) : List (IPAddress × Nat) × (HopType → Option ConnectionState) :=
  (s.excludedAddrSet, s.connections)

lemma system_ledger {α : Type} (action : StateM System α) : Keeps ledger (onSystem action) :=
  fun _ => rfl

lemma ledger_blind : BlindToResolvers ledger where
  outcome _ := system_ledger _
  resolvers _ _ := rfl

lemma add_exclusion_ledger (range : IPAddress) (s : State) :
    let after := perform (addExclusionRoute ok range) s
    ledger after.2 = (if after.1 then acquire s.excludedAddrSet range else s.excludedAddrSet,
      s.connections) := by
  cases found : s.excludedAddrSet.lookup range with
  | some held => simp [addExclusionRoute, found, ledger, acquire, change]
  | none =>
    cases added : (perform (onSystem (WireguardUtilsLinux.addExclusionRoute ok range)) s).1 with
    | true => simp [addExclusionRoute, found, added, ledger, acquire]; exact ⟨rfl, rfl⟩
    | false => simp [addExclusionRoute, found, added, ledger]; exact ⟨rfl, rfl⟩

lemma del_exclusion_ledger (range : IPAddress) (s : State) :
    ledger (perform (delExclusionRoute ok range) s).2 =
      (release s.excludedAddrSet range, s.connections) := by
  by_cases several : (s.excludedAddrSet.lookup range).getD 0 > 1
  · simp [delExclusionRoute, several, ledger, release, count, change]
  · have last : ¬ count s.excludedAddrSet range > 1 := several
    simp only [delExclusionRoute, perform_bind, perform_get, several, release, last]
    rfl

def excludedPrefixes (config : InterfaceConfig) : List IPAddress :=
  config.excludedAddresses.map (IPAddress.ofString qt)

def releasedPrefixes (config : InterfaceConfig) : List IPAddress :=
  config.excludedAddresses.map fun text => IPAddress.ofHostAddress (qt.hostAddress text)

section Answers

variable (start : Nat)

/-- A request from `start` on was refused. -/
def Refused (s : System) : Prop := ∃ n < s.requests, start ≤ n ∧ ok n = false

/-- The tunnel is up and this is so, unless a request was refused. -/
def Fine (fact : Prop) (s : System) : Prop :=
  (start ≤ s.requests ∧ s.tunnelRunning = true ∧ s.rtmonitor = true ∧ fact) ∨ Refused ok start s

/-- The action fails for no other reason than a refused request. -/
def Goes (fact : Prop) (action : StateM System Bool) : Prop :=
  Triple (Fine ok start fact) action (onward (Fine ok start fact) (Refused ok start))

def upkeep (s : System) : Nat × Bool × Bool := (s.requests, s.tunnelRunning, s.rtmonitor)

variable {ok start} {fact : Prop}

lemma fine_of_upkeep {s after : System} (same : upkeep after = upkeep s)
    (fine : Fine ok start fact s) : Fine ok start fact after := by
  simp only [upkeep, Prod.mk.injEq] at same
  simpa only [Fine, Refused, same.1, same.2.1, same.2.2] using fine

lemma Goes.preserves {action : StateM System Bool} (goes : Goes ok start fact action) :
    Preserves (Fine ok start fact) action :=
  Triple.either goes (fun _ fine => fine) fun _ refused => Or.inr refused

lemma request_goes {effect : System → System} (same : ∀ s, upkeep (effect s) = upkeep s) :
    Goes ok start fact (request ok effect) := by
  intro s fine
  by_cases granted : ok s.requests = true
  · have counted : Fine ok start fact { s with requests := s.requests + 1 } := by
      rcases fine with ⟨later, up⟩ | ⟨n, before, refused⟩
      · exact Or.inl ⟨Nat.le_succ_of_le later, up⟩
      · exact Or.inr ⟨n, Nat.lt_succ_of_lt before, refused⟩
    simpa [request, granted, onward] using fine_of_upkeep (same _) counted
  · have refused : Refused ok start { s with requests := s.requests + 1 } := by
      rcases fine with ⟨later, -⟩ | ⟨n, before, refused⟩
      · exact ⟨s.requests, Nat.lt_succ_self _, later, by simpa using granted⟩
      · exact ⟨n, Nat.lt_succ_of_lt before, refused⟩
    simpa [request, granted, onward] using refused

/-- What is only tried while a part of the tunnel is up. -/
lemma if_up_goes {part : System → Bool} {action : StateM System Bool}
    (up : ∀ s, s.tunnelRunning = true → s.rtmonitor = true → part s = true)
    (goes : Goes ok start fact action) :
    Goes ok start fact (do if part (← get) then action else return false) := by
  intro s fine
  by_cases present : part s = true
  · simpa [present] using goes s fine
  · have refused : Refused ok start s :=
      fine.resolve_left fun good => present (up s good.2.1 good.2.2.1)
    simpa [present, onward] using refused

lemma uapi_goes {effect : System → System} (same : ∀ s, upkeep (effect s) = upkeep s) :
    Goes ok start fact (uapiCommand ok effect) :=
  if_up_goes (fun _ running _ => running) (request_goes same)

section Routes

variable {effect : System → System} (same : ∀ s, upkeep (effect s) = upkeep s) {range : IPAddress}

include same

lemma rtm_goes (built : buildAllowedIp range.address = true) :
    Goes ok start fact (rtmSendRoute ok range effect) := by
  rw [rtmSendRoute, if_pos built]
  exact request_goes same

lemma rtm_fine : Preserves (Fine ok start fact) (rtmSendRoute ok range effect) :=
  Preserves.ite (request_goes same).preserves (Preserves.pure false)

end Routes

lemma exclusion_goes {range : IPAddress} (built : buildAllowedIp range.address = true) :
    Goes ok start fact (WireguardUtilsLinux.addExclusionRoute ok range) :=
  if_up_goes (fun _ _ monitor => monitor) (rtm_goes (fun _ => by rfl) built)

lemma monitored_fine {action : StateM System Bool} (kept : Preserves (Fine ok start fact) action) :
    Preserves (Fine ok start fact) (do if (← get).rtmonitor then action else return false) :=
  Preserves.bind (fun _ fine => fine) fun _ => Preserves.ite kept (Preserves.pure false)

lemma exclusion_fine (range : IPAddress) :
    Preserves (Fine ok start fact) (WireguardUtilsLinux.addExclusionRoute ok range) ∧
      Preserves (Fine ok start fact) (deleteExclusionRoute ok range) :=
  ⟨monitored_fine (rtm_fine fun _ => by rfl), monitored_fine (rtm_fine fun _ => by rfl)⟩

lemma halved_fine {whole half : IPAddress → StateM System Bool}
    (kept_whole : ∀ range, Preserves (Fine ok start fact) (whole range))
    (kept_half : ∀ range, Preserves (Fine ok start fact) (half range)) (range : IPAddress) :
    Preserves (Fine ok start fact) (if range.prefixLength > 0 then whole range
      else match halves range.address with
        | some (low, high) => do if ← half low then half high else return false
        | none => return false) := by
  apply Preserves.ite (kept_whole range)
  split
  · exact Preserves.bind (kept_half _) fun _ => Preserves.ite (kept_half _) (Preserves.pure false)
  · exact Preserves.pure false

lemma prefix_fine (range : IPAddress) :
    Preserves (Fine ok start fact) (updateRoutePrefix ok range) ∧
      Preserves (Fine ok start fact) (deleteRoutePrefix ok range) :=
  have insert (range : IPAddress) : Preserves (Fine ok start fact) (insertRoute ok range) :=
    rtm_fine fun _ => by rfl
  have delete (range : IPAddress) : Preserves (Fine ok start fact) (deleteRoute ok range) :=
    rtm_fine fun _ => by rfl
  ⟨monitored_fine (halved_fine insert insert range), monitored_fine (halved_fine insert delete range)⟩

abbrev Routable (range : IPAddress) : Prop :=
  buildAllowedIp range.address = true ∧ 0 ≤ range.prefixLength

lemma prefix_goes {range : IPAddress} (routable : Routable range) :
    Goes ok start fact (updateRoutePrefix ok range) := by
  refine if_up_goes (fun _ _ monitor => monitor) ?_
  have insert (range : IPAddress) (built : buildAllowedIp range.address = true) :
      Goes ok start fact (insertRoute ok range) := rtm_goes (fun _ => by rfl) built
  have both (low high : IPAddress) (first : buildAllowedIp low.address = true)
      (second : buildAllowedIp high.address = true) :
      Goes ok start fact (do if ← insertRoute ok low then insertRoute ok high else return false) := by
    refine Triple.bind _ (insert low first) fun goes => ?_
    cases goes with
    | true => exact insert high second
    | false => exact fun _ refused => refused
  split
  · exact insert range routable.1
  · have readable := routable.1
    cases address : range.address with
    | null => simp [address, buildAllowedIp] at readable
    | ipv4 bits => exact both _ _ rfl rfl
    | ipv6 bits text => exact both _ _ (by decide) (by decide)

variable (config : InterfaceConfig)

lemma update_peer_goes
    (server : config.serverIpv4AddrIn.isSome = true ∨ config.serverIpv6AddrIn.isSome = true) :
    Goes ok start fact (updatePeer ok qt config) := by
  have given : ¬ (config.serverIpv4AddrIn.isNone && config.serverIpv6AddrIn.isNone) = true := by
    rcases server with server | server <;> simp [Option.isNone_eq_false_iff.mpr server]
  rw [updatePeer, if_neg given]
  refine Triple.bind _ (Preserves.forM (fun range => ?_) _) fun _ => uapi_goes fun _ => rfl
  exact Preserves.bind (exclusion_fine range).1 fun _ => Preserves.pure ()

lemma delete_peer_goes : Goes ok start fact (deletePeer ok qt config) := by
  refine Triple.bind _ (Preserves.forM (fun range => ?_) _) fun _ => uapi_goes fun _ => rfl
  exact Preserves.bind (exclusion_fine range).2 fun _ => Preserves.pure ()

end Answers

def stored (connections : HopType → Option ConnectionState) (config : InterfaceConfig) :
    HopType → Option ConnectionState :=
  fun hop => if hop = config.hopType then some { config } else connections hop

/-- What is done for the peer once the interface is set up. -/
def peerSteps (config : InterfaceConfig) : List (StateM State Bool) :=
  [excludeAddresses ok qt config, onSystem (updatePeer ok qt config), maybeUpdateResolvers ok qt config,
    onSystem (untilFalse (updateRoutePrefix ok) config.allowedIPAddressRanges),
    storeConnection config, startHandshake]

lemma stored_again (connections : HopType → Option ConnectionState) (config : InterfaceConfig) :
    stored (stored connections config) config = stored connections config := by
  funext hop
  by_cases same : hop = config.hopType <;> simp [stored, same]

section Ledgers

variable (start : Nat)

abbrev Ledger := List (IPAddress × Nat) × (HopType → Option ConnectionState)

def Holds (view : Ledger) (s : State) : Prop := Fine ok start (ledger s = view) s.system

def Lost (s : State) : Prop := Refused ok start s.system

variable {ok start} {view : Ledger}

lemma on_system {action : StateM System Bool} (goes : ∀ fact, Goes ok start fact action) :
    Triple (Holds ok start view) (onSystem action) (onward (Holds ok start view) (Lost ok start)) := by
  intro s held
  have after := goes (ledger s = view) s.system held
  rw [perform_onSystem]
  cases outcome : (perform action s.system).1 with
  | true =>
    rw [outcome] at after
    exact after
  | false =>
    rw [outcome] at after
    exact after

lemma on_system_holds {α : Type} {action : StateM System α}
    (kept : ∀ fact, Preserves (Fine ok start fact) action) :
    Preserves (Holds ok start view) (onSystem action) :=
  fun s held => kept (ledger s = view) s.system held

lemma holds_step {action : StateM State Bool} (kept : Preserves (Holds ok start view) action)
    (goes : ∀ s, (perform action s).1 = true) :
    Triple (Holds ok start view) action (onward (Holds ok start view) (Lost ok start)) := by
  intro s held
  simpa [onward, goes s] using kept s held

/-- The ledger of a state with the same system. -/
lemma holds_ledger {s after : State} {next : Ledger} (held : Holds ok start view s)
    (system : after.system = s.system) (changes : ledger s = view → ledger after = next) :
    Holds ok start next after := by
  rw [Holds, system]
  exact held.imp_left fun up => ⟨up.1, up.2.1, up.2.2.1, changes up.2.2.2⟩

variable {counts : List (IPAddress × Nat)} {connections : HopType → Option ConnectionState}

lemma add_exclusion_holds {range : IPAddress} (built : buildAllowedIp range.address = true) :
    Triple (Holds ok start (counts, connections)) (addExclusionRoute ok range)
      fun _ => Holds ok start (acquire counts range, connections) := by
  intro s held
  have changes := add_exclusion_ledger ok range s
  have known : ledger s = (counts, connections) →
      s.excludedAddrSet = counts ∧ s.connections = connections := Prod.mk.inj
  cases found : s.excludedAddrSet.lookup range with
  | some number =>
    have goes : (perform (addExclusionRoute ok range) s).1 = true := by simp [addExclusionRoute, found]
    refine holds_ledger held (by simp [addExclusionRoute, found]) fun same => ?_
    rw [changes, if_pos goes, (known same).1, (known same).2]
  | none =>
    have asked := on_system (fun _ => exclusion_goes built) s held
    have same : (perform (addExclusionRoute ok range) s).1 =
        (perform (onSystem (WireguardUtilsLinux.addExclusionRoute ok range)) s).1 ∧
        (perform (addExclusionRoute ok range) s).2.system =
          (perform (onSystem (WireguardUtilsLinux.addExclusionRoute ok range)) s).2.system := by
      simp only [addExclusionRoute, perform_bind, perform_get, found]
      cases (perform (onSystem (WireguardUtilsLinux.addExclusionRoute ok range)) s).1 <;> simp
    cases added : (perform (onSystem (WireguardUtilsLinux.addExclusionRoute ok range)) s).1 with
    | true =>
      rw [added] at asked same
      refine holds_ledger asked same.2 fun before => ?_
      rw [changes, if_pos same.1, (known before).1, (known before).2]
    | false =>
      rw [added] at asked
      rw [Holds, same.2]
      exact Or.inr asked

lemma exclude_holds (config : InterfaceConfig)
    (built : ∀ text ∈ config.excludedAddresses, buildAllowedIp (IPAddress.ofString qt text).address = true) :
    Triple (Holds ok start (counts, connections)) (excludeAddresses ok qt config)
      (onward (Holds ok start ((excludedPrefixes qt config).foldl acquire counts, connections))
        (Lost ok start)) := by
  suffices loop : ∀ texts : List String,
      (∀ text ∈ texts, buildAllowedIp (IPAddress.ofString qt text).address = true) → ∀ counts,
      Triple (Holds ok start (counts, connections))
        (texts.forM fun text => discard (addExclusionRoute ok (IPAddress.ofString qt text)))
        fun _ => Holds ok start ((texts.map (IPAddress.ofString qt)).foldl acquire counts, connections) from
    Triple.bind _ (loop _ built counts) fun _ => Triple.pure fun _ held => held
  intro texts
  induction texts with
  | nil => exact fun _ _ _ held => held
  | cons text rest ih =>
    intro built counts
    rw [List.forall_mem_cons] at built
    exact Triple.bind _ (Triple.bind _ (add_exclusion_holds built.1) fun _ => Triple.pure fun _ held => held)
      fun _ => ih built.2 _

lemma del_exclusion_holds (range : IPAddress) :
    Triple (Holds ok start (counts, connections)) (delExclusionRoute ok range)
      fun _ => Holds ok start (release counts range, connections) := by
  intro s held
  have changes := del_exclusion_ledger ok range s
  have known : ledger s = (counts, connections) →
      s.excludedAddrSet = counts ∧ s.connections = connections := Prod.mk.inj
  by_cases several : (s.excludedAddrSet.lookup range).getD 0 > 1
  · refine holds_ledger held (by simp [delExclusionRoute, several]) fun same => ?_
    rw [changes, (known same).1, (known same).2]
  · have asked := on_system_holds (fun _ => (exclusion_fine range).2) s held
    refine holds_ledger asked (by simp [delExclusionRoute, several, perform_onSystem]) fun same => ?_
    rw [changes, (known same).1, (known same).2]

lemma release_loop_holds (last : InterfaceConfig) :
    Triple (Holds ok start (counts, connections))
      (last.excludedAddresses.forM fun text =>
        discard (delExclusionRoute ok (IPAddress.ofHostAddress (qt.hostAddress text))))
      fun _ => Holds ok start ((releasedPrefixes qt last).foldl release counts, connections) := by
  unfold releasedPrefixes
  induction last.excludedAddresses generalizing counts with
  | nil => exact fun _ held => held
  | cons text rest ih =>
    exact Triple.bind _ (Triple.bind _ (del_exclusion_holds _) fun _ => Triple.pure fun _ held => held)
      fun _ => ih

variable (config : InterfaceConfig)

lemma release_holds (last : InterfaceConfig) :
    Triple (Holds ok start (counts, connections)) (releaseConfig ok qt config last)
      (onward (Holds ok start ((releasedPrefixes qt last).foldl release counts, connections))
        (Lost ok start)) := by
  refine Triple.bind _ (release_loop_holds qt last) fun _ => ?_
  refine Triple.bind _ (Preserves.forM (fun range => ?_) _) fun _ => ?_
  · refine Preserves.ite (Preserves.pure ()) (Preserves.bind ?_ fun _ => Preserves.pure ())
    exact on_system_holds fun _ => (prefix_fine range).2
  · exact Triple.ite (fun _ => Triple.pure fun _ held => held)
      fun _ => on_system fun _ => delete_peer_goes qt last

lemma store_holds : Triple (Holds ok start view) (storeConnection config)
    (onward (Holds ok start (view.1, stored view.2 config)) (Lost ok start)) := by
  intro s held
  refine holds_ledger held rfl fun same => ?_
  rw [← same]
  rfl

lemma resolvers_hold : Triple (Holds ok start view) (maybeUpdateResolvers ok qt config)
    (onward (Holds ok start view) (Lost ok start)) := by
  refine Triple.ite (fun _ => Triple.pure fun _ held => held) fun _ => ?_
  refine Triple.bind _ (on_system fun _ => request_goes fun _ => rfl) fun goes => ?_
  cases goes with
  | true => exact fun s held => holds_ledger held rfl id
  | false => exact Triple.pure fun _ lost => lost

/-- The server has an address, and each excluded entry is one that can be routed. -/
abbrev Usable : Prop :=
  (config.serverIpv4AddrIn.isSome = true ∨ config.serverIpv6AddrIn.isSome = true) ∧
    ∀ text ∈ config.excludedAddresses, buildAllowedIp (IPAddress.ofString qt text).address = true

variable {config} (usable : Usable qt config)

include usable

lemma bring_up_holds (routes : ∀ range ∈ config.allowedIPAddressRanges, Routable range) :
    Triple (Holds ok start (counts, connections))
      (untilFalse id (peerSteps ok qt config))
      (onward (Holds ok start ((excludedPrefixes qt config).foldl acquire counts,
        stored connections config)) (Lost ok start)) := by
  refine Triple.steps _ (exclude_holds qt config usable.2) ?_
  refine Triple.steps _ (on_system fun _ => update_peer_goes qt config usable.1) ?_
  refine Triple.steps _ (resolvers_hold qt config) ?_
  refine Triple.steps _ (on_system fun _ => Triple.untilFalse fun range member =>
    prefix_goes (routes range member)) ?_
  refine Triple.steps _ (store_holds config) ?_
  exact Triple.steps _ (holds_step (fun _ held => held) fun _ => rfl) Triple.steps_end

/-- A server switch adds the new config's prefixes before it takes back the old ones. -/
lemma replace_holds (last : InterfaceConfig) :
    Triple (Holds ok start (counts, connections)) (replaceServer ok qt config last)
      (onward (Holds ok start ((releasedPrefixes qt last).foldl release
        ((excludedPrefixes qt config).foldl acquire counts), stored connections config))
        (Lost ok start)) := by
  have switched : Triple (Holds ok start (counts, connections)) (switchServer ok qt config last)
      (onward (Holds ok start ((releasedPrefixes qt last).foldl release
        ((excludedPrefixes qt config).foldl acquire counts), stored connections config))
        (Lost ok start)) := by
    refine Triple.steps _ (exclude_holds qt config usable.2) ?_
    refine Triple.steps _ (on_system fun _ => update_peer_goes qt config usable.1) ?_
    refine Triple.steps _ ?_ (Triple.steps _ (release_holds qt config last)
      (Triple.steps _ (store_holds config) Triple.steps_end))
    refine Triple.bind _ (Preserves.bind (on_system_holds fun _ => Preserves.untilFalse
      fun range _ => (prefix_fine range).1) fun _ => Preserves.pure ()) fun _ => ?_
    exact Triple.pure fun _ held => held
  refine Triple.steps _ switched ?_
  refine Triple.steps _ (holds_step (fun _ held => held) fun _ => rfl) ?_
  refine Triple.steps _ (resolvers_hold qt config) ?_
  refine Triple.steps _ (store_holds config) ?_
  simp only [stored_again]
  exact Triple.steps _ (holds_step (fun _ held => held) fun _ => rfl) Triple.steps_end

end Ledgers

def neededPrefixes (connections : HopType → Option ConnectionState) : List IPAddress :=
  hops.flatMap fun hop =>
    match connections hop with
    | none => []
    | some c => excludedPrefixes qt c.config

abbrev ReadAlike (text : String) : Prop :=
  IPAddress.ofString qt text = IPAddress.ofHostAddress (qt.hostAddress text)

def ExclusionsCounted (s : State) : Prop :=
  (∀ range, count s.excludedAddrSet range = (neededPrefixes qt s.connections).count range) ∧
    ((∀ hop, s.connections hop = none) → s.excludedAddrSet = [])

/-- A text without a slash is read alike when it is an address at all. -/
lemma single_address_alike (text : String) (single : '/' ∉ text.toList)
    (address : qt.hostAddress text ≠ .null) : ReadAlike qt text := by
  simp only [ReadAlike, IPAddress.ofString, single]
  cases found : qt.hostAddress text with
  | null => exact absurd found address
  | ipv4 bits => rfl
  | ipv6 bits printed => rfl

section Activations

variable (config : InterfaceConfig)

/-- The counts are the same, with or without the new connection. -/
def Stays (view : Ledger) (s : State) : Prop :=
  ledger s = view ∨ ledger s = (view.1, stored view.2 config)

variable {config} {view : Ledger}

lemma stays_of {α : Type} {action : StateM State α} (kept : Keeps ledger action) :
    Preserves (Stays config view) action :=
  kept.preserves fun after => after = view ∨ after = (view.1, stored view.2 config)

lemma store_stays : Preserves (Stays config view) (storeConnection config) := by
  rintro s (same | same)
  · exact Or.inr (by rw [← same]; rfl)
  · right
    rw [← stored_again, ← (Prod.mk.inj same).1, ← (Prod.mk.inj same).2]
    rfl

lemma exclude_nothing (nothing : config.excludedAddresses = []) :
    Keeps ledger (excludeAddresses ok qt config) := by
  intro s
  rw [excludeAddresses, nothing]
  rfl

variable (config) in
lemma create_ledger : Keeps ledger (createInterface ok config) :=
  (keeps_get ledger).bind fun _ => (keeps_pure ledger true).ite (system_ledger _)

lemma establish_stays (nothing : config.excludedAddresses = []) :
    Preserves (Stays config view) (establish ok qt config) := by
  refine Preserves.bind (stays_of (create_ledger ok config)) fun _ => Preserves.ite ?_ (Preserves.pure false)
  apply Preserves.untilFalse
  simp only [List.forall_mem_cons, List.not_mem_nil, false_imp_iff, implies_true, and_true]
  exact ⟨stays_of (keeps_interface_ips ok ledger_blind), stays_of (system_ledger _),
    stays_of (exclude_nothing ok qt nothing), stays_of (system_ledger _),
    stays_of (keeps_resolvers ok qt ledger_blind config), stays_of (system_ledger _), store_stays,
    stays_of fun _ => rfl⟩

lemma release_nothing {last : InterfaceConfig} (nothing : last.excludedAddresses = []) :
    Keeps ledger (releaseConfig ok qt config last) := by
  rw [releaseConfig, nothing]
  exact (Keeps.forM (fun _ => (keeps_pure ledger ()).ite fun _ => rfl) _).bind fun _ =>
    (keeps_pure ledger true).ite (system_ledger _)

lemma replace_stays {last : InterfaceConfig} (nothing : config.excludedAddresses = [])
    (before : last.excludedAddresses = []) :
    Preserves (Stays config view) (replaceServer ok qt config last) := by
  have switched : Preserves (Stays config view) (switchServer ok qt config last) := by
    apply Preserves.untilFalse
    simp only [List.forall_mem_cons, List.not_mem_nil, false_imp_iff, implies_true, and_true]
    exact ⟨stays_of (exclude_nothing ok qt nothing), stays_of (system_ledger _),
      stays_of fun _ => rfl, stays_of (release_nothing ok qt before), store_stays⟩
  apply Preserves.untilFalse
  simp only [List.forall_mem_cons, List.not_mem_nil, false_imp_iff, implies_true, and_true]
  exact ⟨switched, stays_of fun _ => rfl,
    stays_of (keeps_resolvers ok qt ledger_blind config), store_stays,
    stays_of fun _ => rfl⟩

/-- The request that sets the addresses of the interface. -/
def addressRequest (s : System) : Nat := if s.tunnelRunning then s.requests else s.requests + 2

/-- The interface is there, or is made, and is set up. -/
abbrev Prepared (s : System) : Prop :=
  (s.tunnelRunning = true ∨ ok s.requests = true ∧ ok (s.requests + 1) = true) ∧
    ok (addressRequest s) = true ∧ ok (addressRequest s + 2) = true

variable (config) in
lemma create_made (s : State) :
    ((perform (createInterface ok config) s).1 = true ↔
      s.system.tunnelRunning = true ∨
        ok s.system.requests = true ∧ ok (s.system.requests + 1) = true) ∧
    ((perform (createInterface ok config) s).1 = true →
      (perform (createInterface ok config) s).2.system.requests = addressRequest s.system ∧
      (perform (createInterface ok config) s).2.system.tunnelRunning = true ∧
      ((s.system.tunnelRunning = true → s.system.rtmonitor = true) →
        (perform (createInterface ok config) s).2.system.rtmonitor = true)) := by
  cases running : s.system.tunnelRunning with
  | true => simp [create_existing ok config running, addressRequest, running]
  | false =>
    rw [create_missing ok config running, perform_onSystem]
    by_cases starts : ok s.system.requests = true
    · by_cases accepts : ok (s.system.requests + 1) = true
      · cases on : config.killSwitchEnabled <;>
          simp [addInterface, running, request, starts, uapiCommand, accepts, addressRequest, on]
      · simp [addInterface, running, request, starts, uapiCommand, accepts]
    · simp [addInterface, running, request, starts]

lemma setting_outcomes (s : State) :
    (perform (addInterfaceIPs ok) s).1 = ok s.system.requests ∧
      (perform (setMTUAndUp ok) (perform (addInterfaceIPs ok) s).2).1 = ok (s.system.requests + 2) ∧
      upkeep (perform (setMTUAndUp ok) (perform (addInterfaceIPs ok) s).2).2.system =
        (s.system.requests + 3, s.system.tunnelRunning, s.system.rtmonitor) := by
  cases first : ok s.system.requests <;> cases second : ok (s.system.requests + 1) <;>
    cases third : ok (s.system.requests + 2) <;>
    simp [addInterfaceIPs, setMTUAndUp, perform_onSystem, request, first, second, third, upkeep]

lemma establish_unprepared {s : State} (unprepared : ¬ Prepared ok s.system) :
    ledger (perform (establish ok qt config) s).2 = ledger s := by
  obtain ⟨made_iff, after⟩ := create_made ok config s
  have same := create_ledger ok config s
  cases made : (perform (createInterface ok config) s).1 with
  | false => rw [establish_refused ok qt config made, same]
  | true =>
    obtain ⟨requests, -⟩ := after made
    obtain ⟨addresses, up, -⟩ := setting_outcomes ok (perform (createInterface ok config) s).2
    rw [requests] at addresses up
    rw [establish_created ok qt config made, bringUp, perform_untilFalse_cons, id, addresses]
    have ips := keeps_interface_ips ok ledger_blind (perform (createInterface ok config) s).2
    cases set : ok (addressRequest s.system) with
    | false => simpa using ips.trans same
    | true =>
      have down : ok (addressRequest s.system + 2) = false := by
        by_contra goes
        exact unprepared ⟨made_iff.mp made, set, by simpa using goes⟩
      rw [if_pos rfl, perform_untilFalse_cons, id, up, down]
      exact ips.trans same

lemma establish_prepared {s : State} (prepared : Prepared ok s.system)
    (monitor : s.system.tunnelRunning = true → s.system.rtmonitor = true) :
    ∃ middle, perform (establish ok qt config) s =
        perform (untilFalse id (peerSteps ok qt config)) middle ∧
      Holds ok (addressRequest s.system + 3) (ledger s) middle := by
  obtain ⟨made_iff, after⟩ := create_made ok config s
  obtain ⟨there, set, up⟩ := prepared
  have made := made_iff.mpr there
  obtain ⟨requests, running, watched⟩ := after made
  obtain ⟨addresses, mtu, upkept⟩ := setting_outcomes ok (perform (createInterface ok config) s).2
  rw [requests] at addresses mtu upkept
  refine ⟨(perform (setMTUAndUp ok)
    (perform (addInterfaceIPs ok) (perform (createInterface ok config) s).2).2).2, ?_, Or.inl ?_⟩
  · rw [establish_created ok qt config made, bringUp, perform_untilFalse_cons, id, addresses, set,
      if_pos rfl, perform_untilFalse_cons, id, mtu, up, if_pos rfl, peerSteps]
  · simp only [upkeep, Prod.mk.injEq] at upkept
    refine ⟨upkept.1.ge, upkept.2.1.trans running, upkept.2.2.trans (watched monitor), ?_⟩
    exact (keeps_interface_ips ok ledger_blind _).trans (create_ledger ok config s)

abbrev Answered (start stop : Nat) : Prop := ∀ n < stop, start ≤ n → ok n = true

lemma answered_ledger {start : Nat} {s : State} (answered : Answered ok start s.system.requests)
    (held : Holds ok start view s) : ledger s = view := by
  rcases held with up | ⟨n, before, later, refused⟩
  · exact up.2.2.2
  · rw [answered n before later] at refused
    cases refused

variable (config)

/-- What is asked of the answers to an activation that makes a new connection. -/
abbrev Establishes (s : State) (stop : Nat) : Prop :=
  config.excludedAddresses = [] ∨ ¬ Prepared ok s.system ∨
    Usable qt config ∧ (∀ range ∈ config.allowedIPAddressRanges, Routable range) ∧
      (s.system.tunnelRunning = true → s.system.rtmonitor = true) ∧
      Answered ok (addressRequest s.system + 3) stop

abbrev Switches (last : InterfaceConfig) (s : State) (stop : Nat) : Prop :=
  config.excludedAddresses = [] ∧ last.excludedAddresses = [] ∨
    (∀ text ∈ last.excludedAddresses, ReadAlike qt text) ∧ Usable qt config ∧
      s.system.tunnelRunning = true ∧ s.system.rtmonitor = true ∧
      Answered ok s.system.requests stop

variable {config} {s : State}

lemma establish_ledger
    (fits : Establishes ok qt config s (perform (establish ok qt config) s).2.system.requests) :
    ledger (perform (establish ok qt config) s).2 = ledger s ∨
      ledger (perform (establish ok qt config) s).2 =
        ((excludedPrefixes qt config).foldl acquire s.excludedAddrSet, stored s.connections config) := by
  rcases fits with nothing | unprepared | ⟨usable, routes, monitor, answered⟩
  · have none : excludedPrefixes qt config = [] := by rw [excludedPrefixes, nothing, List.map_nil]
    rw [none]
    exact establish_stays ok qt nothing s (Or.inl rfl)
  · exact Or.inl (establish_unprepared ok qt unprepared)
  · by_cases prepared : Prepared ok s.system
    · obtain ⟨middle, rest, held⟩ := establish_prepared ok qt prepared monitor
      rw [rest] at answered ⊢
      refine Or.inr (answered_ledger ok answered ?_)
      exact (bring_up_holds qt usable routes).either (fun _ good => good) (fun _ lost => Or.inr lost)
        middle held
    · exact Or.inl (establish_unprepared ok qt prepared)

lemma replace_ledger {last : InterfaceConfig}
    (fits : Switches ok qt config last s
      (perform (replaceServer ok qt config last) s).2.system.requests) :
    ledger (perform (replaceServer ok qt config last) s).2 = ledger s ∨
      ledger (perform (replaceServer ok qt config last) s).2 =
        ((releasedPrefixes qt last).foldl release
          ((excludedPrefixes qt config).foldl acquire s.excludedAddrSet),
          stored s.connections config) := by
  rcases fits with ⟨nothing, before⟩ | ⟨-, usable, running, monitor, answered⟩
  · have none : excludedPrefixes qt config = [] := by rw [excludedPrefixes, nothing, List.map_nil]
    have none_before : releasedPrefixes qt last = [] := by
      rw [releasedPrefixes, before, List.map_nil]
    rw [none, none_before]
    exact replace_stays ok qt nothing before s (Or.inl rfl)
  · refine Or.inr (answered_ledger ok answered ?_)
    exact (replace_holds qt usable last).either (fun _ good => good) (fun _ lost => Or.inr lost) s
      (Or.inl ⟨le_rfl, running, monitor, rfl⟩)

end Activations

/-- What is asked of the answers to a call, by the state it is made in. -/
def Fits (s : State) : Call → Prop
  | .activate config =>
    let stop := (step ok qt s (.activate config)).system.requests
    match switchedFrom s config with
    | some last => Switches ok qt config last s stop
    | none =>
      let before := if rebuildsInterface s config then (perform (deactivate ok qt false) s).2 else s
      Establishes ok qt config before stop
  | .deactivate _ => True

instance (s : State) : ∀ call, Decidable (Fits ok qt s call)
  | .activate config => by
    rw [Fits]
    cases switchedFrom s config <;> infer_instance
  | .deactivate _ => isTrue trivial

structure Balanced (view : Ledger) : Prop where
  counts : ∀ range, count view.1 range = (neededPrefixes qt view.2).count range
  live : Live view.1

lemma needed_stored (connections : HopType → Option ConnectionState) (config : InterfaceConfig)
    (range : IPAddress) :
    (neededPrefixes qt (stored connections config)).count range +
        (match connections config.hopType with
          | none => []
          | some c => excludedPrefixes qt c.config).count range =
      (neededPrefixes qt connections).count range + (excludedPrefixes qt config).count range := by
  cases place : config.hopType <;> simp [neededPrefixes, hops, stored, place] <;> omega

lemma balanced_empty : Balanced qt ([], fun _ => none) where
  counts range := by simp [count, neededPrefixes, hops]
  live := by simp [Live]

section Balances

variable {view : Ledger} {config : InterfaceConfig} (balanced : Balanced qt view)

include balanced

lemma fresh_balanced (idle : view.2 config.hopType = none) :
    Balanced qt ((excludedPrefixes qt config).foldl acquire view.1, stored view.2 config) where
  counts range := by
    have stores := needed_stored qt view.2 config range
    simp only [idle, List.count_nil, Nat.add_zero] at stores
    rw [count_acquire_all, balanced.counts range, stores]
  live := acquire_all_live balanced.live _

lemma switched_balanced {current : ConnectionState}
    (active : view.2 config.hopType = some current)
    (alike : releasedPrefixes qt current.config = excludedPrefixes qt current.config) :
    Balanced qt ((releasedPrefixes qt current.config).foldl release
      ((excludedPrefixes qt config).foldl acquire view.1), stored view.2 config) where
  counts range := by
    have stores := needed_stored qt view.2 config range
    simp only [active] at stores
    rw [alike, count_release_all, count_acquire_all, balanced.counts range]
    exact Nat.sub_eq_of_eq_add stores.symm
  live := release_all_live (acquire_all_live balanced.live _) _

end Balances

lemma Switches.alike {config last : InterfaceConfig} {s : State} {stop : Nat}
    (fits : Switches ok qt config last s stop) :
    releasedPrefixes qt last = excludedPrefixes qt last := by
  rcases fits with ⟨-, nothing⟩ | ⟨alike, -⟩
  · simp [releasedPrefixes, excludedPrefixes, nothing]
  · exact List.map_congr_left fun text member => (alike text member).symm

lemma guarded_view (action : StateM State Bool) (s : State) :
    ledger (perform (guarded action) s).2 = ledger (perform action s).2 ∧
      (perform (guarded action) s).2.system = (perform action s).2.system := by
  cases outcome : (perform action s).1 <;> simp [guarded, outcome, ledger]

lemma establish_balanced {config : InterfaceConfig} {s : State} (balanced : Balanced qt (ledger s))
    (idle : s.connections config.hopType = none)
    (fits : Establishes ok qt config s (perform (establish ok qt config) s).2.system.requests) :
    Balanced qt (ledger (perform (establish ok qt config) s).2) := by
  rcases establish_ledger ok qt fits with same | counted
  · rwa [same]
  · rw [counted]
    exact fresh_balanced qt balanced idle

lemma step_balanced (s : State) (call : Call) (balanced : Balanced qt (ledger s))
    (fits : Fits ok qt s call) : Balanced qt (ledger (step ok qt s call)) := by
  cases call with
  | deactivate emitSignals => exact balanced_empty qt
  | activate config =>
    obtain ⟨same, system⟩ := guarded_view (activateHop ok qt config) s
    simp only [Fits, step, activate, system] at fits
    change Balanced qt (ledger (perform (guarded (activateHop ok qt config)) s).2)
    rw [same]
    cases active : s.connections config.hopType with
    | none =>
      simp only [switchedFrom, rebuildsInterface, active, activate_fresh ok qt active] at fits
      rw [activate_fresh ok qt active]
      exact establish_balanced ok qt balanced active fits
    | some current =>
      cases switches : supportServerSwitching current.config config with
      | true =>
        simp only [switchedFrom, active, switches, if_true,
          activate_switch ok qt active switches] at fits
        rw [activate_switch ok qt active switches]
        rcases replace_ledger ok qt fits with kept | counted
        · rwa [kept]
        · rw [counted]
          exact switched_balanced qt balanced active fits.alike
      | false =>
        rw [activate_rebuild ok qt active switches] at fits ⊢
        simp only [switchedFrom, rebuildsInterface, active, switches, Bool.not_false, if_true,
          Bool.false_eq_true, if_false] at fits
        split
        · next down =>
          obtain ⟨kept, inner⟩ := guarded_view (establish ok qt config) (perform (deactivate ok qt false) s).2
          rw [if_pos down, inner] at fits
          rw [kept]
          exact establish_balanced ok qt (balanced_empty qt) rfl fits
        · exact balanced_empty qt

/-- In a run whose calls are answered like that, the counts are those of the active configs. -/
theorem exclusion_counts_exact (killSwitch : KillSwitch.State) (calls : List Call)
    (fits : Guarded (step ok qt) (Fits ok qt) (created killSwitch) calls) (s : State)
    (visited : Visits (step ok qt) (created killSwitch) calls s) : ExclusionsCounted qt s := by
  have start : Balanced qt (ledger (created killSwitch)) := balanced_empty qt
  have balanced : Balanced qt (ledger s) :=
    guarded_invariant (step_balanced ok qt) _ calls start fits s visited
  refine ⟨balanced.counts, fun idle => live_empty balanced.live fun range => ?_⟩
  have held : count s.excludedAddrSet range = _ := balanced.counts range
  have nothing : neededPrefixes qt s.connections = [] := by simp [neededPrefixes, idle]
  exact held.trans (by rw [show (ledger s).2 = s.connections from rfl, nothing, List.count_nil])

/-! One server, with a network or a single address excluded. -/

def networkQt : Qt where
  hostAddress text := if text = "203.0.113.5" then .ipv4 (203#8 ++ 0#8 ++ 113#8 ++ 5#8) else .null
  parseSubnet text := if text = "10.0.0.0/8" then (.ipv4 (10#8 ++ 0#24), 8) else (.null, -1)

def excludingServer (excludedAddresses : List String) : InterfaceConfig :=
  { serverPublicKey := "first", serverIpv4AddrIn := some "203.0.113.5", excludedAddresses }

/-- The third call gets no interface, and a later one switches. -/
def mixedCalls : List Call :=
  [.activate (excludingServer ["10.0.0.0/8"]), .deactivate true,
    .activate (excludingServer ["203.0.113.5"]), .activate (excludingServer ["203.0.113.5"]),
    .activate (excludingServer [])]

theorem single_address_counted :
    ExclusionsCounted networkQt (run (step (· ≠ 12) networkQt) (created noKillSwitch) mixedCalls) :=
  exclusion_counts_exact (· ≠ 12) networkQt noKillSwitch mixedCalls (by decide) _ (visits_last _ _ _)

/-- A switch looks for the excluded network under another key and leaves its
count behind. -/
theorem network_count_left_behind :
    let s := run (step (fun _ => true) networkQt) (created noKillSwitch)
      [.activate (excludingServer ["10.0.0.0/8"]), .activate (excludingServer [])]
    count s.excludedAddrSet ⟨.ipv4 (10#8 ++ 0#24), 8⟩ = 1 ∧
      (s.connections .singleHop).map (fun c => c.config.excludedAddresses) = some [] ∧
      neededPrefixes networkQt s.connections = [] := by
  decide

end AbstractumVpn.Daemon
