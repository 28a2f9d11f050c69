import AbstractumVpn.InterfaceConfig
import AbstractumVpn.Runs
import AbstractumVpn.Transactions
import AbstractumVpn.Triples

/-!
The kill switch on Windows: `WindowsFirewall` and the filters it puts into the
Windows Filtering Platform. The class keeps the numbers of the filters in two
tables, `activeRules` and, by peer, `peerRules`. Every call of the platform may
fail. `ok call n` is the outcome of `call` when it is the `n`-th of all calls; a
transaction is gone after a failed commit. The result of an abort is not looked
at, nor that of a deletion: there the outcome says that no filter with the number
is left, so a filter that is not found counts as deleted.
-/

namespace AbstractumVpn.WindowsFirewall

open Frames Transactions

inductive Layer where
  | connectV4
  | acceptV4
  | connectV6
  | acceptV6
  | outboundMacFrame
  | inboundMacFrame
  deriving DecidableEq

inductive Condition where
  | appId (path : String)
  | interfaceIndex (index : Int)
  | ipProtocol (number : Nat)
  | localPort (port : Nat)
  | remotePort (port : Nat)
  | remoteAddress (address : HostAddress)
  | remoteRange (range : IPAddress)
  | vm2vm
  deriving DecidableEq

structure Filter where
  layer : Layer
  permit : Bool
  weight : Nat
  conditions : List Condition
  title : String
  description : String
  deriving DecidableEq

inductive Call where
  | transactionBegin
  | transactionCommit
  | filterAdd
  | filterDelete
  | getAppId
  deriving DecidableEq

structure State where
  platform : Store Filter
  activeRules : List Nat
  peerRules : List (String × Nat)
  clock : Nat

/-- What the class reads of the machine and of the settings. `baseName` is the
name of the program file, `loopbacks` are index and name of each loopback
interface. -/
structure Machine where
  currentPath : String
  baseName : String
  loopbacks : List (Int × String)
  strictKillSwitch : Bool

def lowWeight : Nat := 0
def medWeight : Nat := 7
def highWeight : Nat := 13
def maxWeight : Nat := 15

def udp : Nat := 17
def tcp : Nat := 6

variable (ok : Call → Nat → Bool) (qt : Qt) (machine : Machine)

/-! ## The platform -/

def outcome (call : Call) : StateM State Bool := do
  let s ← get
  set { s with clock := s.clock + 1 }
  return ok call s.clock

def onPlatform (update : Store Filter → Store Filter) : StateM State Unit :=
  modify fun s => { s with platform := update s.platform }

def transactionBegin : StateM State Bool := do
  if ← outcome ok .transactionBegin then
    onPlatform Store.open
    return true
  else return false

def transactionAbort : StateM State Unit := onPlatform Store.abort

def transactionCommit : StateM State Bool := do
  if ← outcome ok .transactionCommit then
    onPlatform Store.commit
    return true
  else
    onPlatform Store.abort
    return false

def filterDelete (id : Nat) : StateM State Unit := do
  if ← outcome ok .filterDelete then onPlatform (Store.erase id)

def record (peer : String) (id : Nat) (s : State) : State :=
  if peer = "" then { s with activeRules := s.activeRules ++ [id] }
  else { s with peerRules := (peer, id) :: s.peerRules }

def enableFilter (peer : String) (filter : Filter) : StateM State Bool := do
  if ← outcome ok .filterAdd then
    modify fun s =>
      record peer s.platform.nextId { s with platform := s.platform.insert filter }
    return true
  else return false

def enableFilters (peer : String) (filters : List Filter) : StateM State Bool :=
  untilFalse (enableFilter ok peer) filters

/-! ## The rules -/

def allowTrafficForAppOnAll (weight : Nat) (title : String) : StateM State Bool := do
  if ← outcome ok .getAppId then
    let conditions := [Condition.appId machine.currentPath]
    enableFilters ok "" [
      ⟨.connectV4, true, weight, conditions, title,
        "Permit (out) IPv4 Traffic of: " ++ machine.baseName⟩,
      ⟨.acceptV4, true, weight, conditions, title,
        "Permit (in) IPv4 Traffic of: " ++ machine.baseName⟩]
  else return false

def allowTrafficOfAdapter (networkAdapter : Int) (weight : Nat) (title : String) :
    StateM State Bool :=
  let description (way : String) :=
    "Allow " ++ way ++ " traffic on Adapter " ++ Int.repr networkAdapter
  let filter (layer : Layer) (way : String) : Filter :=
    ⟨layer, true, weight, [.interfaceIndex networkAdapter], title, description way⟩
  enableFilters ok "" [filter .connectV4 "out", filter .acceptV4 "in", filter .connectV6 "out",
    filter .acceptV6 "in"]

def isIPv4 : HostAddress → Bool
  | .ipv4 _ => true
  | _ => false

def layerOut (address : HostAddress) : Layer := if isIPv4 address then .connectV4 else .connectV6

def layerIn (address : HostAddress) : Layer := if isIPv4 address then .acceptV4 else .acceptV6

def allowTrafficToRange (range : IPAddress) (weight : Nat) (title peer : String) :
    StateM State Bool :=
  let filter (layer : Layer) (way : String) : Filter :=
    ⟨layer, true, weight, [.remoteRange range], title,
      "Permit traffic " ++ way ++ " " ++ range.toString⟩
  enableFilters ok peer [filter (layerOut range.address) "to", filter (layerIn range.address) "from"]

def allowTrafficTo (targetIP : HostAddress) (port weight : Nat) (title peer : String) :
    StateM State Bool :=
  let filter (layer : Layer) (way : String) : Filter :=
    ⟨layer, true, weight,
      [.ipProtocol udp, .ipProtocol tcp, .remotePort port, .remoteAddress targetIP], title,
      "Permit traffic " ++ way ++ " " ++ targetIP.toString ++ " on port " ++ Nat.repr port⟩
  enableFilters ok peer [filter (layerOut targetIP) "to", filter (layerIn targetIP) "from"]

def allowDHCPTraffic (weight : Nat) (title : String) : StateM State Bool :=
  let dhcp : List Condition := [.ipProtocol udp, .localPort 68, .remotePort 67]
  enableFilters ok "" [
    ⟨.connectV4, true, weight, dhcp ++ [.remoteAddress (.ipv4 0xffffffff#32)], title,
      "Allow Outbound DHCP"⟩,
    ⟨.acceptV4, true, weight, dhcp, title, "Allow inbound DHCP"⟩,
    ⟨.connectV6, true, weight, dhcp, title, "Allow outbound DHCPv6"⟩,
    ⟨.acceptV6, true, weight, dhcp, title, "Allow inbound DHCPv6"⟩]

def allowHyperVTraffic (weight : Nat) (title : String) : StateM State Bool :=
  enableFilters ok "" [
    ⟨.outboundMacFrame, true, weight, [.vm2vm], title, "Permit Hyper-V => Hyper-V outbound"⟩,
    ⟨.inboundMacFrame, true, weight, [.vm2vm], title, "Permit Hyper-V => Hyper-V inbound"⟩]

def blockTrafficTo (range : IPAddress) (weight : Nat) (title peer : String) : StateM State Bool :=
  let filter (layer : Layer) (way : String) : Filter :=
    ⟨layer, false, weight, [.remoteRange range], title,
      "Block traffic " ++ way ++ " " ++ range.toString ++ " "⟩
  enableFilters ok peer [filter (layerOut range.address) "to", filter (layerIn range.address) "from"]

def blockTrafficOnPort (port weight : Nat) (title : String) : StateM State Bool :=
  let filter (layer : Layer) (way : String) : Filter :=
    ⟨layer, false, weight, [.ipProtocol udp, .ipProtocol tcp, .remotePort port], title,
      "Block " ++ way ++ " on Port " ++ Nat.repr port⟩
  enableFilters ok "" [filter .connectV6 "outgoing v6", filter .connectV4 "outgoing v4",
    filter .acceptV4 "incoming v4", filter .acceptV6 "incoming v6"]

def allowLoopbackTraffic (weight : Nat) (title : String → String) : StateM State Bool :=
  untilFalse (fun interface : Int × String =>
    allowTrafficOfAdapter ok interface.1 weight (title interface.2)) machine.loopbacks

/-! ## The calls -/

def recordedIds (s : State) : List Nat := s.peerRules.map Prod.snd ++ s.activeRules

def allowAllTraffic : StateM State Bool := do
  if ← transactionBegin ok then
    let s ← get
    (recordedIds s).forM (filterDelete ok)
    if ← transactionCommit ok then
      modify fun s => { s with peerRules := [], activeRules := [] }
      return true
    else return false
  else return false

def fwOk (disableKillSwitch : StateM State Bool) (rule : StateM State Bool) : StateM State Bool := do
  if ← transactionBegin ok then
    if ← rule then transactionCommit ok
    else
      transactionAbort
      discard disableKillSwitch
      return false
  else
    discard disableKillSwitch
    return false

def blockInternet (range : IPAddress) : StateM State Bool :=
  blockTrafficTo ok range medWeight "Block Internet" "killswitch"

/-- `enableInterface`, given what `disableKillSwitch` does. A negative index
stands for no adapter: everything is blocked, outside any transaction. -/
def enableInterfaceWith (disableKillSwitch : StateM State Bool) (vpnAdapterIndex : Int) :
    StateM State Bool :=
  let fwOk := fwOk ok disableKillSwitch
  untilFalse id (
    (if vpnAdapterIndex < 0 then
      [blockInternet ok ⟨.ipv4 0, 0⟩, blockInternet ok ⟨.ipv6 0 "::", 0⟩]
    else
      [fwOk (allowTrafficOfAdapter ok vpnAdapterIndex medWeight "Allow usage of VPN Adapter")]) ++
    [fwOk (allowDHCPTraffic ok medWeight "Allow DHCP Traffic"),
      fwOk (allowHyperVTraffic ok maxWeight "Allow Hyper-V Traffic"),
      fwOk (allowTrafficForAppOnAll ok machine maxWeight "Allow all for AbstractumVPN.exe"),
      fwOk (blockTrafficOnPort ok 53 medWeight "Block all DNS"),
      fwOk (allowLoopbackTraffic ok machine medWeight
        fun name => "Allow Loopback traffic on device " ++ name)])

/-- `KillSwitch::disableKillSwitch`. The strict kill switch blocks everything
instead, and comes back here when that fails; `depth` bounds how often. -/
def disableKillSwitch : Nat → StateM State Bool
  | 0 => if machine.strictKillSwitch then pure false else allowAllTraffic ok
  | depth + 1 =>
    if machine.strictKillSwitch then do
      discard (enableInterfaceWith ok machine (disableKillSwitch depth) (-1))
      return true
    else allowAllTraffic ok

def enableInterface (depth : Nat) (vpnAdapterIndex : Int) : StateM State Bool :=
  enableInterfaceWith ok machine (disableKillSwitch ok machine depth) vpnAdapterIndex

/-- A rule in a transaction with the scope guard of `enablePeerTraffic` and its
siblings: after any failure the transaction is aborted. -/
def inTransaction (depth : Nat) (rule : StateM State Bool) : StateM State Bool := do
  if ← transactionBegin ok then
    if ← untilFalse id [rule, transactionCommit ok] then return true
    else
      transactionAbort
      discard (disableKillSwitch ok machine depth)
      return false
  else
    discard (disableKillSwitch ok machine depth)
    return false

def enableLanBypass (depth : Nat) (ranges : List IPAddress) : StateM State Bool :=
  inTransaction ok machine depth (untilFalse (fun range =>
    allowTrafficToRange ok range (lowWeight + 1) "Allow LAN bypass traffic" "") ranges)

def allowTrafficRange (depth : Nat) (ranges : List String) : StateM State Bool :=
  inTransaction ok machine depth (untilFalse (fun range =>
    allowTrafficToRange ok (.ofHostAddress (qt.hostAddress range)) highWeight
      "Allow killswitch bypass traffic" "") ranges)

def allowDnsServer (config : InterfaceConfig) (server : String) : StateM State Bool :=
  let allow (address title : String) : StateM State Bool :=
    allowTrafficTo ok (qt.hostAddress address) 53 highWeight title config.serverPublicKey
  untilFalse id (
    if server = "" then []
    else allow server "Allow DNS-Server" ::
      (if server = config.serverIpv4Gateway
        then [allow config.serverIpv6Gateway "Allow extra IPv6 DNS-Server"] else []))

def enablePeerTraffic (depth : Nat) (config : InterfaceConfig) : StateM State Bool :=
  let peer := config.serverPublicKey
  inTransaction ok machine depth (untilFalse id [
    untilFalse (fun range => blockTrafficTo ok range lowWeight "Block Internet" peer)
      config.allowedIPAddressRanges,
    allowDnsServer ok qt config config.primaryDnsServer,
    allowDnsServer ok qt config config.secondaryDnsServer,
    untilFalse (fun dns =>
      allowTrafficTo ok (qt.hostAddress dns) 53 highWeight "Allow DNS-Server" peer)
      config.allowedDnsServers,
    untilFalse (fun address =>
      allowTrafficToRange ok (.ofString qt address) highWeight "Allow Ecxlude route" peer)
      config.excludedAddresses])

def peerIds (s : State) (pubkey : String) : List Nat :=
  (s.peerRules.filter (·.1 = pubkey)).map Prod.snd

def forget (pubkey : String) (id : Nat) : StateM State Unit := do
  filterDelete ok id
  modify fun s => { s with peerRules := s.peerRules.filter (· ≠ (pubkey, id)) }

def disablePeerTraffic (pubkey : String) : StateM State Bool := do
  if ← transactionBegin ok then
    let s ← get
    (peerIds s pubkey).forM (forget ok pubkey)
    transactionCommit ok
  else return false

inductive Event where
  | enableInterface (vpnAdapterIndex : Int)
  | enableLanBypass (ranges : List IPAddress)
  | allowTrafficRange (ranges : List String)
  | enablePeerTraffic (config : InterfaceConfig)
  | disablePeerTraffic (pubkey : String)
  | allowAllTraffic

def call (depth : Nat) : Event → StateM State Bool
  | .enableInterface vpnAdapterIndex => enableInterface ok machine depth vpnAdapterIndex
  | .enableLanBypass ranges => enableLanBypass ok machine depth ranges
  | .allowTrafficRange ranges => allowTrafficRange ok qt machine depth ranges
  | .enablePeerTraffic config => enablePeerTraffic ok qt machine depth config
  | .disablePeerTraffic pubkey => disablePeerTraffic ok pubkey
  | .allowAllTraffic => allowAllTraffic ok

/-- A call, with what the class reads of the machine during it. -/
def step (depth : Nat) (s : State) (served : Machine × Event) : State :=
  (perform (call ok qt served.1 depth served.2) s).2

/-! ## Every filter has its number in a table -/

/-- The numbers of all filters are recorded, those of a transaction included. -/
def Recorded (s : State) : Prop := Covered (recordedIds s) s.platform

variable {ok}

lemma outcome_recorded (which : Call) : Preserves Recorded (outcome ok which) :=
  fun _ recorded => recorded

lemma platform_recorded {update : Store Filter → Store Filter}
    (kept : ∀ {numbers : List Nat} {store}, Covered numbers store → Covered numbers (update store)) :
    Preserves Recorded (onPlatform update) :=
  Preserves.modify fun _ recorded => kept recorded

lemma begin_recorded : Preserves Recorded (transactionBegin ok) :=
  Preserves.bind (outcome_recorded _) fun _ =>
    Preserves.ite (Preserves.bind (platform_recorded Covered.open) fun _ => Preserves.pure true)
      (Preserves.pure false)

lemma abort_recorded : Preserves Recorded transactionAbort := platform_recorded Covered.abort

lemma commit_recorded : Preserves Recorded (transactionCommit ok) :=
  Preserves.bind (outcome_recorded _) fun _ =>
    Preserves.ite (Preserves.bind (platform_recorded Covered.commit) fun _ => Preserves.pure true)
      (Preserves.bind (platform_recorded Covered.abort) fun _ => Preserves.pure false)

lemma record_ids (peer : String) (id : Nat) (s : State) :
    (record peer id s).platform = s.platform ∧
      ∀ other, other ∈ recordedIds (record peer id s) ↔ other ∈ recordedIds s ∨ other = id := by
  unfold record
  split
  · exact ⟨rfl, fun other => by simp [recordedIds, or_assoc]⟩
  · refine ⟨rfl, fun other => ?_⟩
    simp only [recordedIds, List.map_cons, List.cons_append, List.mem_cons]
    exact or_comm

lemma enable_filter_recorded (peer : String) (filter : Filter) :
    Preserves Recorded (enableFilter ok peer filter) := by
  apply Preserves.bind (outcome_recorded _)
  intro added
  apply Preserves.ite _ (Preserves.pure false)
  apply Preserves.bind _ fun _ => Preserves.pure true
  apply Preserves.modify
  intro s recorded
  obtain ⟨platform, tables⟩ :=
    record_ids peer s.platform.nextId { s with platform := s.platform.insert filter }
  rw [Recorded, platform]
  apply Covered.insert filter recorded
  · exact fun id member => (tables id).mpr (Or.inl member)
  · exact (tables _).mpr (Or.inr rfl)

lemma enable_filters_recorded (peer : String) (filters : List Filter) :
    Preserves Recorded (enableFilters ok peer filters) :=
  Preserves.untilFalse fun filter _ => enable_filter_recorded peer filter

lemma app_recorded (weight : Nat) (title : String) :
    Preserves Recorded (allowTrafficForAppOnAll ok machine weight title) :=
  Preserves.bind (outcome_recorded _) fun _ =>
    Preserves.ite (enable_filters_recorded "" _) (Preserves.pure false)

/-! ## Deleting -/

lemma perform_begin (s : State) :
    perform (transactionBegin ok) s =
      if ok .transactionBegin s.clock
      then (true, { s with platform := s.platform.open, clock := s.clock + 1 })
      else (false, { s with clock := s.clock + 1 }) := by
  cases begun : ok .transactionBegin s.clock <;>
    simp [transactionBegin, outcome, onPlatform, begun]

lemma perform_commit (s : State) :
    perform (transactionCommit ok) s =
      if ok .transactionCommit s.clock
      then (true, { s with platform := s.platform.commit, clock := s.clock + 1 })
      else (false, { s with platform := s.platform.abort, clock := s.clock + 1 }) := by
  cases committed : ok .transactionCommit s.clock <;>
    simp [transactionCommit, outcome, onPlatform, committed]

/-- The numbers of other peers stay on the lists when those of one peer are forgotten. -/
lemma other_recorded {s : State} {pubkey : String} {id : Nat} (listed : id ∈ recordedIds s)
    (away : id ∉ peerIds s pubkey) (platform : Store Filter) (clock : Nat) :
    id ∈ recordedIds { s with
      platform := platform
      peerRules := s.peerRules.filter fun entry =>
        ¬ (entry.1 = pubkey ∧ entry.2 ∈ peerIds s pubkey)
      clock := clock } := by
  apply List.mem_append.mpr
  rcases List.mem_append.mp listed with peers | active
  · left
    obtain ⟨entry, inside, rfl⟩ := List.mem_map.mp peers
    apply List.mem_map_of_mem
    simp [inside, away]
  · right
    exact active

section Deleting

variable (deletes : ∀ n, ok .filterDelete n = true)
include deletes

lemma perform_delete (id : Nat) (s : State) :
    perform (filterDelete ok id) s =
      ((), { s with platform := s.platform.erase id, clock := s.clock + 1 }) := by
  simp [filterDelete, outcome, onPlatform, deletes]

lemma perform_delete_all (numbers : List Nat) (s : State) :
    perform (numbers.forM (filterDelete ok)) s =
      ((), { s with
        platform := numbers.foldl (fun store id => store.erase id) s.platform
        clock := s.clock + numbers.length }) := by
  induction numbers generalizing s with
  | nil => rfl
  | cons id rest ih =>
    rw [perform_forM_cons, perform_delete deletes, ih]
    simp [Nat.add_assoc, Nat.add_comm 1]

/-- Every recorded filter goes; and if every filter is recorded, all of them. -/
lemma allow_all_recorded (s : State) (recorded : Recorded s) :
    Recorded (perform (allowAllTraffic ok) s).2 ∧
      ((perform (allowAllTraffic ok) s).1 = true →
        (perform (allowAllTraffic ok) s).2.platform.inEffect = []) := by
  have emptied : (recordedIds s).foldl (fun store id => store.erase id) s.platform.open =
      { s.platform with staged := some [] } := by
    rw [erase_all s.platform.inEffect rfl]
    have none_left : s.platform.inEffect.filter (·.1 ∉ recordedIds s) = [] := by
      apply List.filter_eq_nil_iff.mpr
      intro entry member
      simpa using recorded.inEffect entry.1 (List.mem_map_of_mem member)
    rw [none_left]
    rfl
  have tables : ∀ platform clock,
      recordedIds { s with platform := platform, clock := clock } = recordedIds s :=
    fun _ _ => rfl
  simp only [allowAllTraffic, perform_bind, perform_begin]
  split
  · simp only [if_true, perform_bind, perform_get, tables, perform_delete_all deletes, emptied,
      perform_commit]
    split
    · -- nothing is left in effect, so empty tables are enough
      exact ⟨⟨by simp [Store.commit, ids], by simp [Store.commit]⟩, fun _ => rfl⟩
    · exact ⟨⟨recorded.inEffect, by simp [Store.abort]⟩, by simp⟩
  · exact ⟨recorded, by simp⟩

lemma perform_forget_all (pubkey : String) (numbers : List Nat) (s : State) :
    perform (numbers.forM (forget ok pubkey)) s =
      ((), { s with
        platform := numbers.foldl (fun store id => store.erase id) s.platform
        peerRules := s.peerRules.filter fun entry => ¬ (entry.1 = pubkey ∧ entry.2 ∈ numbers)
        clock := s.clock + numbers.length }) := by
  induction numbers generalizing s with
  | nil => simp
  | cons id rest ih =>
    have one : perform (forget ok pubkey id) s =
        ((), { s with
          platform := s.platform.erase id
          peerRules := s.peerRules.filter (· ≠ (pubkey, id))
          clock := s.clock + 1 }) := by
      simp [forget, perform_delete deletes]
    rw [perform_forM_cons, one, ih]
    simp only [List.filter_filter]
    grind

/-! ## The calls keep the tables complete -/

lemma allow_all_preserves : Preserves Recorded (allowAllTraffic ok) :=
  fun s recorded => (allow_all_recorded deletes s recorded).1

omit deletes in
lemma interface_recorded {disable : StateM State Bool} (kept : Preserves Recorded disable)
    (vpnAdapterIndex : Int) :
    Preserves Recorded (enableInterfaceWith ok machine disable vpnAdapterIndex) := by
  have given_up : Preserves Recorded (discard disable) := fun s recorded => kept s recorded
  have one : ∀ {rule : StateM State Bool}, Preserves Recorded rule →
      Preserves Recorded (fwOk ok disable rule) := by
    intro rule ruled
    apply Preserves.bind begin_recorded
    intro begun
    apply Preserves.ite
    · apply Preserves.bind ruled
      intro added
      apply Preserves.ite commit_recorded
      exact Preserves.bind abort_recorded fun _ =>
        Preserves.bind given_up fun _ => Preserves.pure false
    · exact Preserves.bind given_up fun _ => Preserves.pure false
  apply Preserves.untilFalse
  intro action member
  rcases List.mem_append.mp member with first | rules
  · split at first
    · simp only [List.mem_cons, List.not_mem_nil, or_false] at first
      rcases first with rfl | rfl <;> exact enable_filters_recorded "killswitch" _
    · rw [List.mem_singleton.mp first]
      exact one (enable_filters_recorded "" _)
  · simp only [List.mem_cons, List.not_mem_nil, or_false] at rules
    rcases rules with rfl | rfl | rfl | rfl | rfl
    · exact one (enable_filters_recorded "" _)
    · exact one (enable_filters_recorded "" _)
    · exact one (app_recorded machine maxWeight _)
    · exact one (enable_filters_recorded "" _)
    · exact one (Preserves.untilFalse fun _ _ => enable_filters_recorded "" _)

lemma disable_recorded (depth : Nat) :
    Preserves Recorded (disableKillSwitch ok machine depth) := by
  induction depth with
  | zero => exact Preserves.ite (Preserves.pure false) (allow_all_preserves deletes)
  | succ depth ih =>
    apply Preserves.ite _ (allow_all_preserves deletes)
    have blocked : Preserves Recorded
        (enableInterfaceWith ok machine (disableKillSwitch ok machine depth) (-1)) :=
      interface_recorded machine ih (-1)
    exact Preserves.bind (fun s recorded => blocked s recorded) fun _ => Preserves.pure true

lemma transaction_recorded (depth : Nat) {rule : StateM State Bool}
    (ruled : Preserves Recorded rule) :
    Preserves Recorded (inTransaction ok machine depth rule) := by
  have given_up : Preserves Recorded (discard (disableKillSwitch ok machine depth)) :=
    fun s recorded => disable_recorded machine deletes depth s recorded
  apply Preserves.bind begin_recorded
  intro begun
  apply Preserves.ite
  · apply Preserves.bind
    · apply Preserves.untilFalse
      simp only [List.mem_cons, List.not_mem_nil, or_false]
      rintro action (rfl | rfl)
      · exact ruled
      · exact commit_recorded
    · intro committed
      apply Preserves.ite (Preserves.pure true)
      exact Preserves.bind abort_recorded fun _ =>
        Preserves.bind given_up fun _ => Preserves.pure false
  · exact Preserves.bind given_up fun _ => Preserves.pure false

omit deletes in
lemma dns_recorded (config : InterfaceConfig) (server : String) :
    Preserves Recorded (allowDnsServer ok qt config server) := by
  apply Preserves.untilFalse
  intro action member
  split at member
  · cases member
  · rcases List.mem_cons.mp member with rfl | member
    · exact enable_filters_recorded config.serverPublicKey _
    · split at member
      · rw [List.mem_singleton.mp member]
        exact enable_filters_recorded config.serverPublicKey _
      · cases member

lemma peer_recorded (depth : Nat) (config : InterfaceConfig) :
    Preserves Recorded (enablePeerTraffic ok qt machine depth config) := by
  apply transaction_recorded machine deletes depth
  apply Preserves.untilFalse
  simp only [List.mem_cons, List.not_mem_nil, or_false]
  rintro action (rfl | rfl | rfl | rfl | rfl)
  · exact Preserves.untilFalse fun _ _ => enable_filters_recorded _ _
  · exact dns_recorded qt config config.primaryDnsServer
  · exact dns_recorded qt config config.secondaryDnsServer
  · exact Preserves.untilFalse fun _ _ => enable_filters_recorded _ _
  · exact Preserves.untilFalse fun _ _ => enable_filters_recorded _ _

/-- The numbers of a peer may leave the table when its filters are gone for
good: the commit succeeds, or there was none in effect. -/
lemma disable_peer_recorded (pubkey : String) (s : State) (recorded : Recorded s)
    (gone : ok .transactionBegin s.clock = true →
      (∃ id ∈ peerIds s pubkey, id ∈ ids s.platform.inEffect) →
      ok .transactionCommit (s.clock + 1 + (peerIds s pubkey).length) = true) :
    Recorded (perform (disablePeerTraffic ok pubkey) s).2 := by
  simp only [disablePeerTraffic, perform_bind, perform_begin]
  split
  · rename_i begun
    simp only [if_true, perform_bind, perform_forget_all deletes,
      perform_commit]
    rw [erase_all s.platform.inEffect rfl]
    split
    · constructor
      · intro id member
        obtain ⟨inside, away⟩ := (ids_filter s.platform.inEffect (peerIds s pubkey) id).mp member
        exact other_recorded (recorded.inEffect id inside) away _ _
      · simp [Store.commit]
    · rename_i failed
      constructor
      · intro id member
        apply other_recorded (recorded.inEffect id member)
        intro listed
        exact failed (gone begun ⟨id, listed, member⟩)
      · simp [Store.abort]
  · exact recorded

end Deleting

/-- A failed commit of `disablePeerTraffic` is harmless only if the peer has no
filter in effect. -/
def committed (ok : Call → Nat → Bool) (s : State) : Machine × Event → Prop
  | (_, .disablePeerTraffic pubkey) =>
    ok .transactionBegin s.clock = true →
    (∃ id ∈ peerIds s pubkey, id ∈ ids s.platform.inEffect) →
    ok .transactionCommit (s.clock + 1 + (peerIds s pubkey).length) = true
  | _ => True

instance (s : State) : ∀ served, Decidable (committed ok s served)
  | (_, .disablePeerTraffic pubkey) =>
    inferInstanceAs (Decidable (_ → (∃ id ∈ peerIds s pubkey, id ∈ ids s.platform.inEffect) → _))
  | (_, .enableInterface _) | (_, .enableLanBypass _) | (_, .allowTrafficRange _)
  | (_, .enablePeerTraffic _) | (_, .allowAllTraffic) => isTrue trivial

lemma step_recorded (deletes : ∀ n, ok .filterDelete n = true) (depth : Nat) (s : State)
    (served : Machine × Event) (recorded : Recorded s) (guarded : committed ok s served) :
    Recorded (step ok qt depth s served) := by
  obtain ⟨machine, event⟩ := served
  cases event with
  | enableInterface vpnAdapterIndex =>
    exact interface_recorded machine (disable_recorded machine deletes depth)
      vpnAdapterIndex s recorded
  | enableLanBypass ranges =>
    exact transaction_recorded machine deletes depth
      (Preserves.untilFalse fun _ _ => enable_filters_recorded _ _) s recorded
  | allowTrafficRange ranges =>
    exact transaction_recorded machine deletes depth
      (Preserves.untilFalse fun _ _ => enable_filters_recorded _ _) s recorded
  | enablePeerTraffic config => exact peer_recorded qt machine deletes depth config s recorded
  | disablePeerTraffic pubkey => exact disable_peer_recorded deletes pubkey s recorded guarded
  | allowAllTraffic => exact allow_all_preserves deletes s recorded

/-- Whatever else fails, if no deletion fails and every `disablePeerTraffic`
commits, the tables name every filter in effect after each call, and a
successful `allowAllTraffic` leaves no filter behind. -/
theorem tables_complete (depth : Nat) (start : State) (events : List (Machine × Event))
    (deletes : ∀ n, ok .filterDelete n = true) (recorded : Recorded start)
    (guarded : Runs.Guarded (step ok qt depth) (committed ok) start events) :
    ∀ s, Runs.Visits (step ok qt depth) start events s →
      (∀ id ∈ ids s.platform.inEffect, id ∈ recordedIds s) ∧
      ((perform (allowAllTraffic ok) s).1 = true →
        (perform (allowAllTraffic ok) s).2.platform.inEffect = []) := by
  intro s visited
  have complete : Recorded s :=
    Runs.guarded_invariant (step_recorded qt deletes depth) start events recorded guarded s visited
  exact ⟨complete.inEffect, (allow_all_recorded deletes s complete).2⟩

/-! One peer with one range, on a machine without loopback interfaces. The
second commit of two activations in a row fails. -/

def plainMachine : Machine := ⟨"C:\\AbstractumVPN.exe", "AbstractumVPN", [], false⟩

def strictMachine : Machine := { plainMachine with strictKillSwitch := true }

def session : State := ⟨⟨[], none, 1⟩, [], [], 0⟩

def onePeer : InterfaceConfig :=
  { serverPublicKey := "peer", allowedIPAddressRanges := [IPAddress.anyIPv4] }

def commitFails (which : Call) (n : Nat) : Bool := !(which = .transactionCommit && n == 7)

def retried : List (Machine × Event) :=
  [(plainMachine, .enablePeerTraffic onePeer), (plainMachine, .enablePeerTraffic onePeer),
    (strictMachine, .enableInterface 5), (strictMachine, .enablePeerTraffic onePeer),
    (strictMachine, .disablePeerTraffic "peer")]

theorem failed_activation_complete :
    (perform (enablePeerTraffic commitFails noAddresses plainMachine 1 onePeer)
        (Runs.run (step commitFails noAddresses 1) session (retried.take 1))).1 = false ∧
      (perform (allowAllTraffic commitFails)
        (Runs.run (step commitFails noAddresses 1) session retried)).2.platform.inEffect = [] :=
  ⟨by decide +kernel, (tables_complete noAddresses 1 session retried (fun _ => rfl)
    ⟨by decide, by simp [session]⟩ (by decide +kernel) _ (Runs.visits_last _ _ _)).2
    (by decide +kernel)⟩

/-- After the failed commit the two filters of the peer are in no table, and a
successful `allowAllTraffic` leaves them in effect. -/
theorem failed_commit_leaves_filters :
    let s := Runs.run (step commitFails noAddresses 0) session
      [(plainMachine, .enablePeerTraffic onePeer), (plainMachine, .disablePeerTraffic "peer")]
    ids s.platform.inEffect = [1, 2] ∧ recordedIds s = [] ∧
      (perform (allowAllTraffic commitFails) s).1 = true ∧
      ids (perform (allowAllTraffic commitFails) s).2.platform.inEffect = [1, 2] := by
  decide +kernel

end AbstractumVpn.WindowsFirewall
