import AbstractumVpn.StrictMode
import AbstractumVpn.WireguardUtilsLinux

/-!
Ranges allowed on top of a running connection. The service writes the ranges it
was asked to allow over the allow list in the filter, which `enableKillSwitch`
and the WireGuard helper fill as well.
-/

namespace AbstractumVpn.KillSwitch

open LinuxFirewall WireguardUtilsLinux Runs

variable (reads : String → Ip → Bool)

inductive FilterCall where
  | service (call : Call)
  | applyFirewallRules (params : FirewallParams)

def filterStep (ks : State) : FilterCall → State
  | .service call => step ks call
  | .applyFirewallRules params =>
    { ks with firewall := WireguardUtilsLinux.applyFirewallRules ks.firewall params }

/-- Traffic to this destination leaves, whatever device, port or mark it has.
DNS queries have rules of their own. -/
def Open (fw : Firewall) (dst : Ip) : Prop :=
  ∀ packet, packet.dst = dst → isDns packet = false → Accepted reads fw packet

def addedRanges (ranges : List String) : List String := ranges.filter fun range => !range.isEmpty

def exemptLan (fw : Firewall) (dst : Ip) : Bool :=
  fw.enabled dst.family .allowLAN && isLan (webPacket dst)

def blocked (fw : Firewall) (dst : Ip) : Bool :=
  fw.enabled .ipv4 .blockNets && readsAny reads fw.blockNets dst

def front (fw : Firewall) (packet : Packet) : Option Target :=
  if fw.enabled .ipv4 .allowLoopback && viaLoopback packet then some .accept
  else if fw.enabled .ipv4 .allowDNS &&
      (viaVpn packet && isDns packet && readsAny reads fw.dnsServers packet.dst) then some .accept
  else if fw.enabled .ipv4 .blockDNS && isDns packet then some .reject
  else if fw.enabled .ipv4 .allowLAN && isLan packet then some .accept
  else if fw.enabled .ipv4 .allowDHCP && isDhcp packet then some .accept
  else if fw.enabled .ipv4 .allowVPN && viaVpn packet then some .accept
  else if fw.enabled .ipv4 .allowMarkedXray && isMarked packet then some .accept
  else none

/-- No added range is caught before the allow list is looked at. The IPv6 chain
has no allow list. -/
def Passes (fw : Firewall) : Ip → Prop
  | .v4 bits => exemptLan fw (.v4 bits) = true ∨ blocked reads fw (.v4 bits) = false
  | .v6 bits => exemptLan fw (.v6 bits) = true ∨
      (fw.enabled .ipv6 .blockIPv6 = false ∧ fw.enabled .ipv6 .blockAll = false)

structure Fits (ks : State) (ranges : List String) : Prop where
  /-- The service knows the ranges that the allow list in the filter lets out. -/
  known : ks.firewall.enabled .ipv4 .blockAll = true → ks.firewall.enabled .ipv4 .allowNets = true →
    ∀ bits, readsAny reads ks.firewall.allowNets (.v4 bits) = true →
      readsAny reads ks.allowedRanges (.v4 bits) = true ∨
      readsAny reads (addedRanges ranges) (.v4 bits) = true ∨
      exemptLan ks.firewall (.v4 bits) = true ∨ blocked reads ks.firewall (.v4 bits) = true
  added : ∀ dst, readsAny reads (addedRanges ranges) dst = true → Passes reads ks.firewall dst

lemma decided_or {condition : Prop} [Decidable condition] (target : Target)
    (later rest : Option Target) :
    (if condition then some target else later).or rest =
      if condition then some target else later.or rest := by
  split <;> rfl

variable (fw : Firewall)

lemma verdict_front (packet : Packet) (installed : fw.installed = true)
    (family : packet.dst.family = .ipv4) :
    verdict reads fw packet = (front reads fw packet).or
      (if blocked reads fw packet.dst then some .reject
        else if fw.enabled .ipv4 .allowNets && readsAny reads fw.allowNets packet.dst
          then some .accept
        else if fw.enabled .ipv4 .blockAll then some .reject
        else none) := by
  rw [verdict_ipv4 reads fw packet installed family, front]
  simp only [decided_or]
  rfl

/-- An ordinary packet passes the front rules, unless it goes to a local
network that is exempt. -/
lemma front_web (bits : BitVec 32) :
    front reads fw (webPacket (.v4 bits)) =
      if exemptLan fw (.v4 bits) then some .accept else none := by
  obtain ⟨loopback, vpn, dns, dhcp, marked⟩ := web_packet_plain (.v4 bits)
  simp [front, loopback, vpn, dns, dhcp, marked, exemptLan, Ip.family]

lemma front_not_dns (packet : Packet) (not_dns : isDns packet = false) :
    front reads fw packet = some .accept ∨
      (front reads fw packet = none ∧ (fw.enabled .ipv4 .allowLAN && isLan packet) = false) := by
  simp only [front]
  grind

lemma exempt_packet (packet : Packet) (dst : Ip) (same : packet.dst = dst) :
    exemptLan fw dst = (fw.enabled dst.family .allowLAN && isLan packet) := by
  simp [exemptLan, isLan, webPacket, same]

/-- The only packets to an IPv6 destination that may be stopped are those that
leave through a real device. -/
lemma open_ipv6_iff (installed : fw.installed = true) (bits : BitVec 128) :
    Open reads fw (.v6 bits) ↔ exemptLan fw (.v6 bits) = true ∨
      (fw.enabled .ipv6 .blockIPv6 = false ∧ fw.enabled .ipv6 .blockAll = false) := by
  constructor
  · intro opened
    have accepted := opened (webPacket (.v6 bits)) rfl rfl
    obtain ⟨loopback, vpn, dns, dhcp, marked⟩ := web_packet_plain (.v6 bits)
    rw [Accepted, Rejected, verdict_ipv6 reads fw _ installed rfl] at accepted
    simp only [exemptLan, Ip.family]
    grind
  · intro passes packet dst not_dns
    rw [Accepted, Rejected, verdict_ipv6 reads fw packet installed (by rw [dst]; rfl), not_dns]
    simp only [exempt_packet fw packet _ dst, Ip.family] at passes
    grind

lemma reads_known {known : List String} {range : String} (member : range ∈ known) (dst : Ip)
    (hit : reads range dst = true) : readsAny reads known dst = true :=
  List.any_eq_true.mpr ⟨range, member, hit⟩

lemma merge_reads (known ranges : List String) (dst : Ip) :
    readsAny reads (mergeRanges known ranges) dst =
      (readsAny reads known dst || readsAny reads (addedRanges ranges) dst) := by
  induction ranges generalizing known with
  | nil => simp [mergeRanges, addedRanges, readsAny]
  | cons range rest ih =>
    have tail : mergeRanges known (range :: rest) = mergeRanges
        (if !range.isEmpty && !known.contains range then known ++ [range] else known) rest := rfl
    rw [tail, ih]
    by_cases empty : range.isEmpty = true
    · simp [addedRanges, empty]
    · by_cases present : range ∈ known
      · -- a range that is known already adds nothing
        cases hit : reads range dst with
        | false => simp [addedRanges, present, readsAny, hit]
        | true =>
          have seen := reads_known reads present dst hit
          simp [present, seen]
      · simp [addedRanges, empty, present, readsAny, Bool.or_assoc]

lemma add_installed (ks : State) (ranges : List String) :
    (addAllowedRange ks ranges).firewall.installed = ks.firewall.installed := by
  simp [addAllowedRange, resetAllowedRange]

lemma add_enabled (ks : State) (ranges : List String) (installed : ks.firewall.installed = true)
    (family : Family) (anchor : Anchor) :
    (addAllowedRange ks ranges).firewall.enabled family anchor =
      if family = .ipv4 ∧ anchor = .allowNets then true else ks.firewall.enabled family anchor := by
  cases family <;> cases anchor <;>
    simp [addAllowedRange, resetAllowedRange, set_enabled, installed, installedIn,
      IPVersion.includes]

lemma add_lists (ks : State) (ranges : List String) (installed : ks.firewall.installed = true) :
    (addAllowedRange ks ranges).firewall.dnsServers = ks.firewall.dnsServers ∧
      (addAllowedRange ks ranges).firewall.blockNets = ks.firewall.blockNets ∧
      (addAllowedRange ks ranges).firewall.allowNets = mergeRanges ks.allowedRanges ranges := by
  simp [addAllowedRange, resetAllowedRange, installed]

section Installed

variable (ks : State) (ranges : List String) (installed : ks.firewall.installed = true)

include installed

lemma add_verdict_ipv6 (packet : Packet) (family : packet.dst.family = .ipv6) :
    verdict reads (addAllowedRange ks ranges).firewall packet = verdict reads ks.firewall packet := by
  rw [verdict_ipv6 reads _ packet installed family,
    verdict_ipv6 reads _ packet ((add_installed ks ranges).trans installed) family]
  simp [add_enabled ks ranges installed]

/-- The rules in front of the two lists decide as before. -/
lemma add_front (packet : Packet) :
    front reads (addAllowedRange ks ranges).firewall packet = front reads ks.firewall packet := by
  obtain ⟨dns, -, -⟩ := add_lists ks ranges installed
  simp [front, dns, add_enabled ks ranges installed]

lemma add_verdict_ipv4 (packet : Packet) (family : packet.dst.family = .ipv4) :
    verdict reads (addAllowedRange ks ranges).firewall packet =
      (front reads ks.firewall packet).or
        (if blocked reads ks.firewall packet.dst then some .reject
          else if readsAny reads ks.allowedRanges packet.dst ||
            readsAny reads (addedRanges ranges) packet.dst then some .accept
          else if ks.firewall.enabled .ipv4 .blockAll then some .reject
          else none) := by
  obtain ⟨-, block, allow⟩ := add_lists ks ranges installed
  rw [verdict_front reads _ packet ((add_installed ks ranges).trans installed) family,
    add_front reads ks ranges installed, allow, merge_reads]
  simp [blocked, block, add_enabled ks ranges installed]

/-- Traffic is taken away exactly when the allow list in the filter let it out
and the list that replaces it does not. -/
lemma add_keeps_iff :
    (∀ packet, Accepted reads ks.firewall packet →
        Accepted reads (addAllowedRange ks ranges).firewall packet) ↔
      (ks.firewall.enabled .ipv4 .blockAll = true → ks.firewall.enabled .ipv4 .allowNets = true →
        ∀ bits, readsAny reads ks.firewall.allowNets (.v4 bits) = true →
          readsAny reads ks.allowedRanges (.v4 bits) = true ∨
          readsAny reads (addedRanges ranges) (.v4 bits) = true ∨
          exemptLan ks.firewall (.v4 bits) = true ∨ blocked reads ks.firewall (.v4 bits) = true) := by
  constructor
  · intro keeps all allow bits listed
    have kept := keeps (webPacket (.v4 bits))
    rw [Accepted, Rejected, verdict_front reads _ _ installed rfl, Accepted, Rejected,
      add_verdict_ipv4 reads ks ranges installed _ rfl, front_web] at kept
    have dst : (webPacket (.v4 bits)).dst = .v4 bits := rfl
    grind
  · intro known packet accepted
    cases dst : packet.dst with
    | v6 bits =>
      rwa [Accepted, Rejected, add_verdict_ipv6 reads ks ranges installed packet (by rw [dst]; rfl)]
    | v4 bits =>
      have family : packet.dst.family = .ipv4 := by rw [dst]; rfl
      have exempt := exempt_packet ks.firewall packet _ dst
      rw [Accepted, Rejected, verdict_front reads _ packet installed family, dst] at accepted
      rw [Accepted, Rejected, add_verdict_ipv4 reads ks ranges installed packet family, dst]
      cases passed : front reads ks.firewall packet with
      | some target => simpa [passed] using accepted
      | none =>
        -- an exempt packet does not get as far as the lists
        have not_exempt : exemptLan ks.firewall (.v4 bits) = false := by
          simp only [front] at passed
          grind
        grind

lemma add_open_iff (dst : Ip) (added : readsAny reads (addedRanges ranges) dst = true) :
    Open reads (addAllowedRange ks ranges).firewall dst ↔ Passes reads ks.firewall dst := by
  have after := (add_installed ks ranges).trans installed
  cases dst with
  | v6 bits =>
    rw [open_ipv6_iff reads _ after, Passes]
    simp [exemptLan, add_enabled ks ranges installed]
  | v4 bits =>
    constructor
    · intro opened
      have accepted := opened (webPacket (.v4 bits)) rfl rfl
      rw [Accepted, Rejected, add_verdict_ipv4 reads ks ranges installed _ rfl, front_web] at accepted
      have dst : (webPacket (.v4 bits)).dst = .v4 bits := rfl
      simp only [Passes]
      grind
    · intro passes packet dst not_dns
      have family : packet.dst.family = .ipv4 := by rw [dst]; rfl
      have exempt := exempt_packet ks.firewall packet _ dst
      rw [Accepted, Rejected, add_verdict_ipv4 reads ks ranges installed packet family, dst, added]
      rcases front_not_dns reads ks.firewall packet not_dns with accepts | ⟨passed, local_off⟩
      · simp [accepts]
      · simp only [Passes, exempt, Ip.family, local_off] at passes
        simp_all

end Installed

/-- In every state the service can get into, adding ranges takes nothing away
and opens the ranges exactly when the table is not installed or the call fits
the state. -/
theorem added_ranges_extend_iff (start : State) (calls : List FilterCall) (ranges : List String) :
    let ks := run filterStep (init start) calls
    let after := addAllowedRange ks ranges
    ((∀ packet, Accepted reads ks.firewall packet → Accepted reads after.firewall packet) ∧
        ∀ dst, readsAny reads (addedRanges ranges) dst = true → Open reads after.firewall dst) ↔
      (ks.firewall.installed = true → Fits reads ks ranges) := by
  intro ks after
  cases installed : ks.firewall.installed with
  | false =>
    -- without a table no packet is stopped
    have open_all : ∀ packet, Accepted reads after.firewall packet := by
      intro packet
      have absent : after.firewall.installed = false := (add_installed ks ranges).trans installed
      simp [Accepted, Rejected, verdict, absent]
    refine iff_of_true ⟨fun packet _ => open_all packet, fun dst _ packet _ _ => open_all packet⟩ ?_
    simp
  | true =>
    have keeps := add_keeps_iff reads ks ranges installed
    have opens := add_open_iff reads ks ranges installed
    constructor
    · rintro ⟨kept, opened⟩ -
      exact ⟨keeps.mp kept, fun dst added => (opens dst added).mp (opened dst added)⟩
    · intro fits
      exact ⟨keeps.mpr (fits rfl).known,
        fun dst added => (opens dst added).mpr ((fits rfl).added dst added)⟩

def serverReads : String → Ip → Bool :=
  readsTable [("203.0.113.5", ⟨.quad 203 0 113 5, 32⟩), ("198.51.100.7", ⟨.quad 198 51 100 7, 32⟩)]

/-- The server of a running connection is cut off by a range that is added. -/
theorem added_range_cuts_server :
    let ks := run filterStep (init idle)
      [.service (.enableKillSwitch
        [("splitTunnelType", .double 0), ("vpnServer", .string "203.0.113.5")])]
    Accepted serverReads ks.firewall (webPacket (.quad 203 0 113 5)) ∧
      ¬ Accepted serverReads (addAllowedRange ks ["198.51.100.7"]).firewall
        (webPacket (.quad 203 0 113 5)) := by
  decide

end AbstractumVpn.KillSwitch
