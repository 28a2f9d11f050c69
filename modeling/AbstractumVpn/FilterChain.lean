import AbstractumVpn.LinuxFirewall

/-!
What the installed chains do to a packet. All rules of one anchor have one
target, so the verdict is found by looking at anchors alone, in `installOrder`.
-/

namespace AbstractumVpn.LinuxFirewall

variable (reads : String → Ip → Bool)

def Match.hits : Match → Packet → Bool
  | .outgoing pattern, packet => interfaceMatches pattern packet.out
  | .notOutgoing pattern, packet => !interfaceMatches pattern packet.out
  | .destination (.fixed _ net), packet => net.contains packet.dst
  | .destination (.given text), packet => reads text packet.dst
  | .protocol expected, packet => packet.protocol == expected
  | .sport port, packet => packet.sport == port
  | .dport port, packet => packet.dport == port
  | .mark value, packet => packet.mark == value

def Rule.hits (rule : Rule) (packet : Packet) : Bool :=
  rule.conditions.all (·.hits reads packet)

def Anchor.target : Anchor → Target
  | .blockDNS | .blockIPv6 | .blockNets | .blockAll => .reject
  | _ => .accept

def rulesOf (fw : Firewall) (family : Family) : Anchor → List Rule
  | .allowDNS => getDNSRules fw.dnsServers
  | .blockNets => getBlockRule fw.blockNets
  | .allowNets => getAllowRule fw.allowNets
  | anchor => installedRules family anchor

def linked (fw : Firewall) (family : Family) (anchor : Anchor) : Bool :=
  installedIn family anchor && fw.enabled family anchor

def filterRules (fw : Firewall) (family : Family) (anchor : Anchor) :
    List (FirstMatch.Rule Packet Target) :=
  (rulesOf fw family anchor).map fun rule => ⟨rule.hits reads, rule.target⟩

def verdict (fw : Firewall) (packet : Packet) : Option Target :=
  if fw.installed then
    FirstMatch.eval
      (FirstMatch.chain (linked fw packet.dst.family) (filterRules reads fw packet.dst.family)
        installOrder) packet
  else none

def Rejected (fw : Firewall) (packet : Packet) : Prop := verdict reads fw packet = some .reject

/-- Falling through counts as acceptance: nothing of this program stops the
packet any more. -/
def Accepted (fw : Firewall) (packet : Packet) : Prop := ¬ Rejected reads fw packet

instance (fw : Firewall) (packet : Packet) : Decidable (Rejected reads fw packet) :=
  inferInstanceAs (Decidable (_ = _))

instance (fw : Firewall) (packet : Packet) : Decidable (Accepted reads fw packet) :=
  inferInstanceAs (Decidable (¬ _))

variable (fw : Firewall) (anchor : Anchor) (packet : Packet)

lemma rules_uniform (family : Family) (anchor : Anchor) (rule : Rule)
    (member : rule ∈ rulesOf fw family anchor) : rule.target = anchor.target := by
  cases anchor <;> cases family <;>
    simp [rulesOf, getDNSRules, getBlockRule, getAllowRule, installedRules] at member <;>
    grind [Anchor.target]

lemma verdict_by_anchor (installed : fw.installed = true) :
    verdict reads fw packet =
      FirstMatch.decide (linked fw packet.dst.family) (filterRules reads fw packet.dst.family)
        Anchor.target installOrder packet := by
  rw [verdict, if_pos installed]
  apply FirstMatch.chain_decides
  intro anchor rule member
  obtain ⟨original, present, same⟩ := List.mem_map.mp member
  rw [← same]
  exact rules_uniform fw packet.dst.family anchor original present

def viaLoopback (packet : Packet) : Bool := interfaceMatches "lo+" packet.out

def viaVpn (packet : Packet) : Bool :=
  ["abs0+", "tun0+", "tun2+"].any (interfaceMatches · packet.out)

def isDns (packet : Packet) : Bool :=
  (packet.protocol == .udp || packet.protocol == .tcp) && packet.dport == 53

def isLan (packet : Packet) : Bool :=
  (lanNets packet.dst.family).any (·.2.contains packet.dst)

def isDhcp (packet : Packet) : Bool :=
  packet.protocol == .udp &&
    match packet.dst with
    | .v4 bits => bits == 255#8 ++ 255#8 ++ 255#8 ++ 255#8 && packet.sport == 68 && packet.dport == 67
    | .v6 bits => bits >>> 120 == 0xff && packet.sport == 546 && packet.dport == 547

def isMarked (packet : Packet) : Bool := packet.mark == xrayTrafficMark

def readsAny (texts : List String) (ip : Ip) : Bool := texts.any (reads · ip)

def anchorHits (fw : Firewall) (anchor : Anchor) (packet : Packet) : Bool :=
  match anchor with
  | .allowLoopback => viaLoopback packet
  | .allowPIA => false
  | .allowDNS => viaVpn packet && isDns packet && readsAny reads fw.dnsServers packet.dst
  | .blockDNS => isDns packet
  | .allowLAN => isLan packet
  | .allowDHCP => isDhcp packet
  | .blockIPv6 => packet.dst.family == .ipv6 && !viaLoopback packet
  | .allowVPN => viaVpn packet
  | .allowMarkedXray => isMarked packet
  | .blockNets => readsAny reads fw.blockNets packet.dst
  | .allowNets => readsAny reads fw.allowNets packet.dst
  | .blockAll => true

lemma dns_rules_hit (servers : List String) (packet : Packet) :
    (getDNSRules servers).any (·.hits reads packet) =
      (viaVpn packet && isDns packet && readsAny reads servers packet.dst) := by
  induction servers with
  | nil => simp [getDNSRules, readsAny]
  | cons server rest ih =>
    simp only [getDNSRules, List.flatMap_cons, List.any_append] at ih ⊢
    rw [ih]
    -- six rules for each server: three devices, two protocols
    simp [Rule.hits, Match.hits, viaVpn, isDns, readsAny]
    grind

lemma net_rules_hit (target : Target) (servers : List String) (packet : Packet) :
    (servers.map fun server => (⟨[.destination (.given server)], target⟩ : Rule)).any
      (·.hits reads packet) = readsAny reads servers packet.dst := by
  simp [Rule.hits, Match.hits, readsAny, Function.comp_def]

lemma lan_rules_hit :
    (installedRules packet.dst.family .allowLAN).any (·.hits reads packet) = isLan packet := by
  cases family : packet.dst.family <;>
    simp [installedRules, Rule.hits, Match.hits, isLan, Function.comp_def, family]

lemma dhcp_rules_hit :
    (installedRules packet.dst.family .allowDHCP).any (·.hits reads packet) = isDhcp packet := by
  cases ip : packet.dst with
  | v4 bits =>
    simp [installedRules, Rule.hits, Match.hits, isDhcp, Ip.family, ip, Net.contains, Ip.quad]
    grind
  | v6 bits =>
    simp [installedRules, Rule.hits, Match.hits, isDhcp, Ip.family, Net.contains]
    grind

lemma rules_hit :
    (rulesOf fw packet.dst.family anchor).any (·.hits reads packet) =
      anchorHits reads fw anchor packet := by
  cases anchor with
  | allowDNS => exact dns_rules_hit reads fw.dnsServers packet
  | blockNets => exact net_rules_hit reads .reject fw.blockNets packet
  | allowNets => exact net_rules_hit reads .accept fw.allowNets packet
  | allowLAN => exact lan_rules_hit reads packet
  | allowDHCP => exact dhcp_rules_hit reads packet
  | allowLoopback | blockDNS | allowVPN | allowMarkedXray | blockAll | allowPIA | blockIPv6 =>
    -- chains that no configuration value enters
    cases family : packet.dst.family <;>
      simp [rulesOf, installedRules, anchorHits, Rule.hits, Match.hits, viaLoopback, viaVpn,
        isDns, isMarked] <;>
      grind

lemma section_hits :
    FirstMatch.sectionHits (linked fw packet.dst.family) (filterRules reads fw packet.dst.family)
      anchor packet = (linked fw packet.dst.family anchor && anchorHits reads fw anchor packet) := by
  rw [← rules_hit reads fw anchor packet]
  simp [FirstMatch.sectionHits, filterRules, Function.comp_def]

lemma verdict_ipv4 (installed : fw.installed = true) (family : packet.dst.family = .ipv4) :
    verdict reads fw packet =
      if fw.enabled .ipv4 .allowLoopback && viaLoopback packet then some .accept
      else if fw.enabled .ipv4 .allowDNS &&
          (viaVpn packet && isDns packet && readsAny reads fw.dnsServers packet.dst)
        then some .accept
      else if fw.enabled .ipv4 .blockDNS && isDns packet then some .reject
      else if fw.enabled .ipv4 .allowLAN && isLan packet then some .accept
      else if fw.enabled .ipv4 .allowDHCP && isDhcp packet then some .accept
      else if fw.enabled .ipv4 .allowVPN && viaVpn packet then some .accept
      else if fw.enabled .ipv4 .allowMarkedXray && isMarked packet then some .accept
      else if fw.enabled .ipv4 .blockNets && readsAny reads fw.blockNets packet.dst
        then some .reject
      else if fw.enabled .ipv4 .allowNets && readsAny reads fw.allowNets packet.dst
        then some .accept
      else if fw.enabled .ipv4 .blockAll then some .reject
      else none := by
  rw [verdict_by_anchor reads fw packet installed]
  simp only [installOrder, FirstMatch.decide, section_hits]
  simp [family, linked, installedIn, anchorHits, Anchor.target]

lemma verdict_ipv6 (installed : fw.installed = true) (family : packet.dst.family = .ipv6) :
    verdict reads fw packet =
      if fw.enabled .ipv6 .allowLoopback && viaLoopback packet then some .accept
      else if fw.enabled .ipv6 .blockDNS && isDns packet then some .reject
      else if fw.enabled .ipv6 .allowLAN && isLan packet then some .accept
      else if fw.enabled .ipv6 .allowDHCP && isDhcp packet then some .accept
      else if fw.enabled .ipv6 .blockIPv6 && !viaLoopback packet then some .reject
      else if fw.enabled .ipv6 .allowVPN && viaVpn packet then some .accept
      else if fw.enabled .ipv6 .allowMarkedXray && isMarked packet then some .accept
      else if fw.enabled .ipv6 .blockAll then some .reject
      else none := by
  rw [verdict_by_anchor reads fw packet installed]
  simp only [installOrder, FirstMatch.decide, section_hits]
  simp [family, linked, installedIn, anchorHits, Anchor.target]

/-- Traffic that no exemption speaks about: IPv4, no DNS, no DHCP, not to a
local network, not marked, and leaving outside the loopback and VPN devices. -/
structure Outside (packet : Packet) : Prop where
  ipv4 : packet.dst.family = .ipv4
  not_dns : isDns packet = false
  not_loopback : viaLoopback packet = false
  not_vpn : viaVpn packet = false
  not_dhcp : isDhcp packet = false
  not_lan : isLan packet = false
  not_marked : isMarked packet = false

-- Only the last three anchors of the chain can decide about such traffic.
lemma outside_verdict (outside : Outside packet) (installed : fw.installed = true) :
    verdict reads fw packet =
      if fw.enabled .ipv4 .blockNets && readsAny reads fw.blockNets packet.dst then some .reject
      else if fw.enabled .ipv4 .allowNets && readsAny reads fw.allowNets packet.dst
        then some .accept
      else if fw.enabled .ipv4 .blockAll then some .reject
      else none := by
  rw [verdict_ipv4 reads fw packet installed outside.ipv4]
  simp [outside.not_dns, outside.not_loopback, outside.not_vpn, outside.not_dhcp,
    outside.not_lan, outside.not_marked]

/-! ## Concrete traffic

The reading of a few texts, and an ordinary packet, to evaluate chains with. -/

def readsTable (table : List (String × Net)) (text : String) (ip : Ip) : Bool :=
  match table.lookup text with
  | some net => net.contains ip
  | none => false

def webPacket (dst : Ip) : Packet := ⟨"eth0", dst, .tcp, 40000, 443, 0⟩

lemma web_packet_plain (dst : Ip) :
    viaLoopback (webPacket dst) = false ∧ viaVpn (webPacket dst) = false ∧
      isDns (webPacket dst) = false ∧ isDhcp (webPacket dst) = false ∧
      isMarked (webPacket dst) = false := by
  refine ⟨?_, ?_, rfl, rfl, rfl⟩
  · simp only [viaLoopback, webPacket]
    decide
  · simp only [viaVpn, webPacket]
    decide

lemma web_packet_outside (dst : Ip) (ipv4 : dst.family = .ipv4)
    (not_lan : isLan (webPacket dst) = false) : Outside (webPacket dst) := by
  obtain ⟨not_loopback, not_vpn, not_dns, not_dhcp, not_marked⟩ := web_packet_plain dst
  exact { ipv4, not_dns, not_loopback, not_vpn, not_dhcp, not_lan, not_marked }

end AbstractumVpn.LinuxFirewall
