import AbstractumVpn.WireguardUtilsLinux

/-!
DNS under the kill switch. Both ways of enabling it put the anchors that decide
about port 53 in the same positions (`DnsPositions`). Neither switches on the
`blockDNS` anchor of the IPv6 chain.
-/

namespace AbstractumVpn.LinuxFirewall

open KillSwitch WireguardUtilsLinux

variable (reads : String → Ip → Bool)

inductive Enabling where
  | killSwitch (config : Json.Object)
  | wireguard (params : FirewallParams)

def Enabling.apply (ks : KillSwitch.State) : Enabling → Firewall
  | .killSwitch config => (enableKillSwitch ks config).firewall
  | .wireguard params => applyFirewallRules ks.firewall params

def Enabling.servers : Enabling → List String
  | .killSwitch config => dnsServers config
  | .wireguard params => params.dnsServers

structure DnsPositions (before after : Firewall) (servers : List String) : Prop where
  installed : after.installed = true
  loopback : ∀ family, after.enabled family .allowLoopback = true
  allow : after.enabled .ipv4 .allowDNS = true
  block : after.enabled .ipv4 .blockDNS = true
  stale : after.enabled .ipv6 .blockDNS = (ensureInstalled before).enabled .ipv6 .blockDNS
  lan : after.enabled .ipv6 .allowLAN = true
  ipv6 : after.enabled .ipv6 .blockIPv6 = true
  servers : after.dnsServers = servers

lemma enabling_positions (ks : KillSwitch.State) (enabling : Enabling) :
    DnsPositions ks.firewall (enabling.apply ks) enabling.servers := by
  cases enabling with
  | killSwitch config =>
    exact {
      installed := enable_installed ks config
      loopback := fun family => by
        cases family
        · exact enable_ipv4 ks config .allowLoopback rfl
        · exact enable_ipv6 ks config .allowLoopback rfl
      allow := enable_ipv4 ks config .allowDNS rfl
      block := enable_ipv4 ks config .blockDNS rfl
      stale := enable_ipv6 ks config .blockDNS rfl
      lan := enable_ipv6 ks config .allowLAN rfl
      ipv6 := enable_ipv6 ks config .blockIPv6 rfl
      servers := (enable_lists ks config).1 }
  | wireguard params =>
    exact {
      installed := apply_installed ks.firewall params
      loopback := fun family => by
        cases family
        · exact apply_ipv4 ks.firewall params .allowLoopback rfl
        · exact apply_ipv6 ks.firewall params .allowLoopback rfl
      allow := apply_ipv4 ks.firewall params .allowDNS rfl
      block := apply_ipv4 ks.firewall params .blockDNS rfl
      stale := apply_ipv6 ks.firewall params .blockDNS rfl
      lan := apply_ipv6 ks.firewall params .allowLAN rfl
      ipv6 := apply_ipv6 ks.firewall params .blockIPv6 rfl
      servers := (apply_lists ks.firewall params).1 }

lemma dns_not_dhcp (packet : Packet) (dns : isDns packet = true) : isDhcp packet = false := by
  have port : packet.dport = 53 := by
    simp only [isDns, Bool.and_eq_true, beq_iff_eq] at dns
    exact dns.2
  cases ip : packet.dst <;> simp [isDhcp, ip, port]

section Verdicts

variable {before after : Firewall} {servers : List String} (at_positions : DnsPositions before after servers)
  (packet : Packet) (dns : isDns packet = true)

include at_positions dns

lemma dns_accepted_ipv4 (family : packet.dst.family = .ipv4) :
    Accepted reads after packet ↔
      viaLoopback packet = true ∨
        (viaVpn packet = true ∧ readsAny reads servers packet.dst = true) := by
  rw [Accepted, Rejected, verdict_ipv4 reads after packet at_positions.installed family]
  simp only [at_positions.loopback, at_positions.allow, at_positions.block, at_positions.servers,
    dns, Bool.true_and]
  cases viaLoopback packet <;> cases viaVpn packet <;>
    cases readsAny reads servers packet.dst <;> simp

lemma dns_accepted_ipv6 (family : packet.dst.family = .ipv6) :
    Accepted reads after packet ↔
      viaLoopback packet = true ∨
        ((ensureInstalled before).enabled .ipv6 .blockDNS = false ∧ isLan packet = true) := by
  rw [Accepted, Rejected, verdict_ipv6 reads after packet at_positions.installed family]
  simp only [at_positions.loopback, at_positions.stale, at_positions.lan, at_positions.ipv6, dns,
    dns_not_dhcp packet dns, Bool.and_true]
  cases viaLoopback packet <;> cases (ensureInstalled before).enabled .ipv6 .blockDNS <;>
    cases isLan packet <;> simp

end Verdicts

/-- A DNS packet that leaves against the configuration is an IPv6 packet to a
local network, and every such packet leaves unless `blockDNS` was already on
in the IPv6 chain. -/
theorem dns_confined_iff (ks : KillSwitch.State) (enabling : Enabling) (packet : Packet)
    (dns : isDns packet = true) :
    (Accepted reads (enabling.apply ks) packet →
        viaLoopback packet = true ∨
          (viaVpn packet = true ∧ readsAny reads enabling.servers packet.dst = true)) ↔
      (packet.dst.family = .ipv6 → isLan packet = true →
        (ks.firewall.installed && ks.firewall.enabled .ipv6 .blockDNS) = true ∨
          viaLoopback packet = true ∨
          (viaVpn packet = true ∧ readsAny reads enabling.servers packet.dst = true)) := by
  have at_positions := enabling_positions ks enabling
  have stale : (ensureInstalled ks.firewall).enabled .ipv6 .blockDNS =
      (ks.firewall.installed && ks.firewall.enabled .ipv6 .blockDNS) := by
    cases installed : ks.firewall.installed <;>
      simp [ensureInstalled, install, uninstall, installed]
  cases family : packet.dst.family with
  | ipv4 =>
    rw [dns_accepted_ipv4 reads at_positions packet dns family]
    simp
  | ipv6 =>
    rw [dns_accepted_ipv6 reads at_positions packet dns family, stale]
    cases (ks.firewall.installed && ks.firewall.enabled .ipv6 .blockDNS) with
    | false => tauto
    | true => simpa using Or.inl

/-! One server, asked through the tunnel; another one there; and an IPv6 multicast
address on the ordinary interface. -/

def serverQuery : Packet := ⟨"tun0", .quad 10 8 0 1, .udp, 40000, 53, 0⟩

def otherQuery : Packet := ⟨"tun0", .quad 192 0 2 53, .udp, 40000, 53, 0⟩

def localQuery : Packet := ⟨"eth0", .v6 (0xff02#16 ++ 0#112), .udp, 40000, 53, 0⟩

def dnsReads : String → Ip → Bool :=
  readsTable [("10.8.0.1", ⟨.quad 10 8 0 1, 32⟩), ("10.0.0.0/8", ⟨.quad 10 0 0 0, 8⟩)]

def oneServer : Enabling :=
  .wireguard { dnsServers := ["10.8.0.1"], blockAddrs := ["10.0.0.0/8"], blockNets := true }

theorem tunnel_queries_confined :
    Accepted dnsReads (oneServer.apply ⟨uninstall, false, []⟩) serverQuery ∧
      ∀ packet ∈ [serverQuery, otherQuery],
        Accepted dnsReads (oneServer.apply ⟨uninstall, false, []⟩) packet →
          viaLoopback packet = true ∨
            (viaVpn packet = true ∧ readsAny dnsReads ["10.8.0.1"] packet.dst = true) := by
  refine ⟨by decide, fun packet member => ?_⟩
  have query : isDns packet = true ∧ packet.dst.family = .ipv4 := by
    revert packet
    decide
  refine (dns_confined_iff dnsReads ⟨uninstall, false, []⟩ oneServer packet query.1).mpr ?_
  intro ipv6
  rw [query.2] at ipv6
  cases ipv6

theorem local_query_leaks :
    isDns localQuery = true ∧ viaLoopback localQuery = false ∧ viaVpn localQuery = false ∧
      Accepted (fun _ _ => true)
        (Enabling.apply ⟨uninstall, false, []⟩ (.killSwitch [("dns1", .string "10.8.0.1")]))
        localQuery := by
  decide

end AbstractumVpn.LinuxFirewall
