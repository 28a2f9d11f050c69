import AbstractumVpn.KillSwitch

/-!
Split tunnelling under the kill switch of OpenVPN and Xray connections: which
destinations must not leave outside the tunnel, and what the chain rejects. For
type 1 the anchor with the listed sites is switched with the flag of another
anchor and stays off.
-/

namespace AbstractumVpn.KillSwitch

open LinuxFirewall

variable (reads : String → Ip → Bool)

def BelongsInTunnel (config : Json.Object) (ip : Ip) : Prop :=
  (splitTunnelType config = 0 ∧ reads (vpnServer config) ip = false) ∨
  (splitTunnelType config = 1 ∧ ∃ site ∈ splitTunnelSites config, reads site ip = true) ∨
  (splitTunnelType config = 2 ∧ reads (vpnServer config) ip = false ∧
    ∀ site ∈ splitTunnelSites config, reads site ip = false)

lemma enable_rejects_iff (ks : State) (config : Json.Object) (packet : Packet)
    (outside : Outside packet) :
    Rejected reads (enableKillSwitch ks config).firewall packet ↔
      (tunnelPlan config).blockAll = true ∧
        (readsAny reads (tunnelPlan config).blocknets packet.dst = true ∨
          ((tunnelPlan config).allowNets &&
            readsAny reads (tunnelPlan config).allownets packet.dst) = false) := by
  obtain ⟨-, allow, block⟩ := enable_lists ks config
  rw [Rejected, outside_verdict reads _ packet outside (enable_installed ks config), allow, block,
    enable_ipv4 ks config .blockNets rfl, enable_ipv4 ks config .allowNets rfl,
    enable_ipv4 ks config .blockAll rfl]
  grind

/-- The chain does what the setting says for every destination, except that
under type 1 the listed sites are let out. -/
theorem split_tunnel_enforced_iff (ks : State) (config : Json.Object) (packet : Packet)
    (mode : splitTunnelType config = 0 ∨ splitTunnelType config = 1 ∨ splitTunnelType config = 2)
    (outside : Outside packet) :
    (Rejected reads (enableKillSwitch ks config).firewall packet ↔
        BelongsInTunnel reads config packet.dst) ↔
      (splitTunnelType config = 1 →
        ∀ site ∈ splitTunnelSites config, reads site packet.dst = false) := by
  rw [enable_rejects_iff reads ks config packet outside]
  rcases mode with all | only | except
  · simp [tunnelPlan, BelongsInTunnel, all, readsAny]
  · simp [tunnelPlan, BelongsInTunnel, only]
  · simp [tunnelPlan, BelongsInTunnel, except, readsAny]

/-! A server, one listed site and two hosts outside. -/

def siteReads : String → Ip → Bool :=
  readsTable [("203.0.113.5", ⟨.quad 203 0 113 5, 32⟩),
    ("198.51.100.0/24", ⟨.quad 198 51 100 0, 24⟩)]

def siteConfig (mode : Rat) : Json.Object :=
  [("splitTunnelType", .double mode), ("vpnServer", .string "203.0.113.5"),
   ("splitTunnelSites", .array [.string "198.51.100.0/24"]), ("dns1", .string "10.8.0.1")]

def idle : State := ⟨uninstall, false, []⟩

theorem all_sites_enforced :
    Rejected siteReads (enableKillSwitch idle (siteConfig 0)).firewall
        (webPacket (.quad 198 51 100 7)) ↔
      BelongsInTunnel siteReads (siteConfig 0) (.quad 198 51 100 7) :=
  (split_tunnel_enforced_iff siteReads idle (siteConfig 0) (webPacket (.quad 198 51 100 7))
    (Or.inl (by decide)) (web_packet_outside _ rfl (by decide))).mpr (by decide)

/-- Type 1 with `198.51.100.0/24` listed: a packet to that network leaves
outside the tunnel. -/
theorem listed_site_leaks :
    Outside (webPacket (.quad 198 51 100 7)) ∧
      BelongsInTunnel siteReads (siteConfig 1) (.quad 198 51 100 7) ∧
      ¬ Rejected siteReads (enableKillSwitch idle (siteConfig 1)).firewall
        (webPacket (.quad 198 51 100 7)) := by
  refine ⟨web_packet_outside _ rfl (by decide), ?_, by decide⟩
  exact Or.inr (Or.inl ⟨by decide, "198.51.100.0/24", by decide, by decide⟩)

end AbstractumVpn.KillSwitch
