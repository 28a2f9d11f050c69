import AbstractumVpn.WireguardRules

/-!
What the WireGuard rules reject, compared with what a config asks for: traffic
to its allowed ranges must not leave outside the tunnel, except to its excluded
addresses. The excluded addresses are honoured only when one of the ranges is
literally `0.0.0.0/0`.
-/

namespace AbstractumVpn.Daemon

open WireguardUtilsLinux LinuxFirewall Frames

variable (reads : String → Ip → Bool)

def Covered (config : InterfaceConfig) (ip : Ip) : Prop :=
  ∃ range ∈ config.allowedIPAddressRanges, range.Covers ip

def Excluded (config : InterfaceConfig) (ip : Ip) : Prop :=
  ∃ text ∈ config.excludedAddresses, reads text ip = true

lemma apply_rejects_iff (fw : Firewall) (params : FirewallParams) (packet : Packet)
    (outside : Outside packet) :
    Rejected reads (applyFirewallRules fw params) packet ↔
      (params.blockNets && readsAny reads params.blockAddrs packet.dst) = true ∨
        (params.blockAll = true ∧
          (params.allowNets && readsAny reads params.allowAddrs packet.dst) = false) := by
  obtain ⟨-, allow, block⟩ := apply_lists fw params
  rw [Rejected, outside_verdict reads _ packet outside (apply_installed fw params), allow, block,
    apply_ipv4 fw params .blockNets rfl, apply_ipv4 fw params .allowNets rfl,
    apply_ipv4 fw params .blockAll rfl]
  cases params.blockNets && readsAny reads params.blockAddrs packet.dst <;>
    cases params.allowNets && readsAny reads params.allowAddrs packet.dst <;>
    cases params.blockAll <;> simp

lemma config_rejects_iff (fw : Firewall) (config : InterfaceConfig) (packet : Packet)
    (outside : Outside packet)
    (printed : ∀ range ∈ config.allowedIPAddressRanges,
      reads range.toString packet.dst = true ↔ range.Covers packet.dst) :
    Rejected reads (applyFirewallRules fw (firewallParams config)) packet ↔
      if IPAddress.anyIPv4 ∈ config.allowedIPAddressRanges then ¬ Excluded reads config packet.dst
      else Covered config packet.dst := by
  rw [apply_rejects_iff reads fw _ packet outside]
  by_cases all : IPAddress.anyIPv4 ∈ config.allowedIPAddressRanges
  · -- the allow list is switched on only when there are excluded addresses
    by_cases excluded : config.excludedAddresses = []
    · simp [firewallParams, all, excluded, Excluded]
    · simp [firewallParams, all, excluded, Excluded, readsAny]
  · simp only [firewallParams, all, if_false, readsAny, List.any_map]
    simp only [Bool.true_and, Bool.false_eq_true, false_and, or_false,
      List.any_eq_true]
    constructor
    · rintro ⟨range, member, hit⟩
      exact ⟨range, member, (printed range member).mp hit⟩
    · rintro ⟨range, member, covers⟩
      exact ⟨range, member, (printed range member).mpr covers⟩

lemma outside_covered (config : InterfaceConfig) (packet : Packet) (outside : Outside packet)
    (all : IPAddress.anyIPv4 ∈ config.allowedIPAddressRanges) : Covered config packet.dst := by
  refine ⟨_, all, ?_⟩
  cases ip : packet.dst with
  | v4 bits => exact IPAddress.anyIPv4_covers bits
  | v6 bits =>
    have ipv4 := outside.ipv4
    rw [ip] at ipv4
    cases ipv4

/-- The same rules but for those of 320.allowDNS. -/
def SameFilters (params other : FirewallParams) : Prop :=
  { params with dnsServers := [] } = { other with dnsServers := [] }

lemma filters_reject_iff (fw before : Firewall) (params other : FirewallParams) (packet : Packet)
    (outside : Outside packet) (same : SameFilters params other) :
    Rejected reads (applyFirewallRules fw params) packet ↔
      Rejected reads (applyFirewallRules before other) packet := by
  obtain ⟨servers, allowAddrs, blockAddrs, blockAll, allowNets, blockNets⟩ := params
  obtain ⟨otherServers, _, _, _, _, _⟩ := other
  obtain ⟨-, rfl, rfl, rfl, rfl, rfl⟩ := FirewallParams.mk.inj same
  rw [apply_rejects_iff reads fw _ packet outside, apply_rejects_iff reads before _ packet outside]

/-- The interface was set up by this config, or by one with the same rules. -/
def RulesMatch (s : State) (config : InterfaceConfig) : Prop :=
  createsInterface s config = true ∨
    ∃ owner, s.system.device = some owner ∧ owner.killSwitchEnabled = true ∧
      SameFilters (firewallParams owner) (firewallParams config)

/-- After any calls on a daemon without an interface, a successful activation
whose rules are in force does what its config asks for exactly at the
destinations that are not both covered and excluded, and everywhere if
`0.0.0.0/0` is among the ranges. Packets to the server, which the client puts
among the excluded addresses, pass exactly then. -/
theorem wireguard_rules_exact_iff (ok : Nat → Bool) (qt : Qt) (start : State) (calls : List Call)
    (config : InterfaceConfig) (packet : Packet) (fresh : start.system.device = none)
    (on : config.killSwitchEnabled = true) (outside : Outside packet)
    (printed : ∀ range ∈ config.allowedIPAddressRanges,
      reads range.toString packet.dst = true ↔ range.Covers packet.dst)
    (matching : RulesMatch (Runs.run (step ok qt) start calls) config)
    (succeeded :
      (perform (activate ok qt config) (Runs.run (step ok qt) start calls)).1 = true) :
    ((Rejected reads
        (perform (activate ok qt config) (Runs.run (step ok qt) start calls)).2.system.killSwitch.firewall
        packet ↔ Covered config packet.dst ∧ ¬ Excluded reads config packet.dst) ↔
      (IPAddress.anyIPv4 ∈ config.allowedIPAddressRanges ∨
        ¬ (Covered config packet.dst ∧ Excluded reads config packet.dst))) ∧
      ∀ server, config.serverIpv4AddrIn = some server → server ∈ config.excludedAddresses →
        reads server packet.dst = true →
        (¬ Rejected reads
            (perform (activate ok qt config)
              (Runs.run (step ok qt) start calls)).2.system.killSwitch.firewall packet ↔
          IPAddress.anyIPv4 ∈ config.allowedIPAddressRanges ∨ ¬ Covered config packet.dst) := by
  have rejected : Rejected reads
      (perform (activate ok qt config)
        (Runs.run (step ok qt) start calls)).2.system.killSwitch.firewall packet ↔
      if IPAddress.anyIPv4 ∈ config.allowedIPAddressRanges then ¬ Excluded reads config packet.dst
      else Covered config packet.dst := by
    have in_force := activate_rules ok qt start calls config fresh succeeded
    by_cases creates : createsInterface (Runs.run (step ok qt) start calls) config = true
    · obtain ⟨before, rules⟩ := in_force config on (by simp [creates])
      rw [rules, config_rejects_iff reads before config packet outside printed]
    · rcases matching with yes | ⟨owner, device, owner_on, same⟩
      · exact absurd yes creates
      · obtain ⟨before, rules⟩ := in_force owner owner_on (by simp [creates, device])
        rw [rules, filters_reject_iff reads before before _ _ packet outside same,
          config_rejects_iff reads before config packet outside printed]
  rw [rejected]
  by_cases all : IPAddress.anyIPv4 ∈ config.allowedIPAddressRanges
  · have covered := outside_covered config packet outside all
    refine ⟨by simp [covered], ?_⟩
    intro server _ member hit
    have excluded : Excluded reads config packet.dst := ⟨server, member, hit⟩
    simp [all, excluded]
  · simp only [all, if_false]
    exact ⟨by tauto, fun _ _ _ _ => by simp⟩

/-! A server at 203.0.113.5, excluded by its own config, and the whole IPv4
range written as one network or as two. -/

def serverQt : Qt where
  hostAddress text := if text = "203.0.113.5" then .ipv4 (203#8 ++ 0#8 ++ 113#8 ++ 5#8) else .null
  parseSubnet _ := (.null, -1)

def serverReads : String → Ip → Bool :=
  readsTable [("203.0.113.5", ⟨.quad 203 0 113 5, 32⟩), ("0.0.0.0/0", ⟨.quad 0 0 0 0, 0⟩),
    ("0.0.0.0/1", ⟨.quad 0 0 0 0, 1⟩), ("128.0.0.0/1", ⟨.quad 128 0 0 0, 1⟩)]

def serverConfig (ranges : List IPAddress) : InterfaceConfig :=
  { serverIpv4AddrIn := some "203.0.113.5", excludedAddresses := ["203.0.113.5"]
    allowedIPAddressRanges := ranges, killSwitchEnabled := true }

def inHalves : List IPAddress := [⟨.ipv4 0, 1⟩, ⟨.ipv4 (1#1 ++ 0#31), 1⟩]

def activated (ranges : List IPAddress) : Bool × State :=
  perform (activate (fun _ => true) serverQt (serverConfig ranges)) (created noKillSwitch)

theorem whole_range_exact :
    (Rejected serverReads (activated [.anyIPv4]).2.system.killSwitch.firewall
        (webPacket (.quad 198 51 100 7)) ↔
      Covered (serverConfig [.anyIPv4]) (.quad 198 51 100 7) ∧
        ¬ Excluded serverReads (serverConfig [.anyIPv4]) (.quad 198 51 100 7)) ∧
      ¬ Rejected serverReads (activated [.anyIPv4]).2.system.killSwitch.firewall
        (webPacket (.quad 203 0 113 5)) := by
  have printed (bits : BitVec 32) (hit : serverReads IPAddress.anyIPv4.toString (.v4 bits) = true) :
      ∀ range ∈ (serverConfig [.anyIPv4]).allowedIPAddressRanges,
        serverReads range.toString (.v4 bits) = true ↔ range.Covers (.v4 bits) := by
    intro range member
    obtain rfl := List.mem_singleton.mp member
    exact iff_of_true hit (IPAddress.anyIPv4_covers bits)
  constructor
  · exact (wireguard_rules_exact_iff serverReads (fun _ => true) serverQt (created noKillSwitch) []
      (serverConfig [.anyIPv4]) (webPacket (.quad 198 51 100 7)) rfl rfl
      (web_packet_outside _ rfl (by decide)) (printed _ (by decide)) (Or.inl rfl) (by decide)).1.mpr
      (Or.inl (by decide))
  · exact ((wireguard_rules_exact_iff serverReads (fun _ => true) serverQt (created noKillSwitch) []
      (serverConfig [.anyIPv4]) (webPacket (.quad 203 0 113 5)) rfl rfl
      (web_packet_outside _ rfl (by decide)) (printed _ (by decide)) (Or.inl rfl) (by decide)).2
      "203.0.113.5" rfl (by decide) (by decide)).mpr (Or.inl (by decide))

/-- With the range in halves the packets of the tunnel itself are rejected. -/
theorem halved_range_rejects_server :
    (activated inHalves).1 = true ∧ Outside (webPacket (.quad 203 0 113 5)) ∧
      Excluded serverReads (serverConfig inHalves) (.quad 203 0 113 5) ∧
      Rejected serverReads (activated inHalves).2.system.killSwitch.firewall
        (webPacket (.quad 203 0 113 5)) :=
  ⟨by decide, web_packet_outside _ rfl (by decide), ⟨"203.0.113.5", by decide, by decide⟩, by decide⟩

end AbstractumVpn.Daemon
