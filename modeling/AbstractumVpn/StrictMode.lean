import AbstractumVpn.SplitTunnel
import AbstractumVpn.Runs

/-!
The strict kill switch. A service process starts with `init` on whatever filter
table and strict setting it finds, then serves any sequence of calls to the kill
switch. The WireGuard daemon in the same process writes to the same table; its
calls are not among these.
`disableAllTraffic` moves four anchors and leaves the exemptions of an earlier
connection; `Quiet` says when that does no harm.
-/

namespace AbstractumVpn.KillSwitch

open LinuxFirewall Runs

variable (reads : String → Ip → Bool)

inductive Call where
  | enableKillSwitch (config : Json.Object)
  | addAllowedRange (ranges : List String)
  | resetAllowedRange (ranges : List String)
  | disableAllTraffic
  | disableKillSwitch
  | refresh (enabled : Bool)

def step (ks : State) : Call → State
  | .enableKillSwitch config => KillSwitch.enableKillSwitch ks config
  | .addAllowedRange ranges => KillSwitch.addAllowedRange ks ranges
  | .resetAllowedRange ranges => KillSwitch.resetAllowedRange ks ranges
  | .disableAllTraffic => KillSwitch.disableAllTraffic ks
  | .disableKillSwitch => KillSwitch.disableKillSwitch ks
  | .refresh enabled => KillSwitch.refresh ks enabled

def Closes (ks : State) : Call → Prop
  | .disableAllTraffic => True
  | .refresh enabled => enabled = true
  | .disableKillSwitch => ks.strict = true
  | _ => False

def OnlyLoopback (fw : Firewall) : Prop :=
  ∀ packet, Accepted reads fw packet → viaLoopback packet = true

/-- No exemption is in force that `disableAllTraffic` would leave in place. The
two lists do no harm while they read as no address, or as addresses that the
block list in front of them catches. -/
structure Quiet (fw : Firewall) : Prop where
  vpn : fw.enabled .ipv4 .allowVPN = false
  lan : ∀ family, fw.enabled family .allowLAN = false
  dhcp : ∀ family, fw.enabled family .allowDHCP = false
  dns : fw.enabled .ipv4 .allowDNS = true → ∀ bits, readsAny reads fw.dnsServers (.v4 bits) = false
  nets : fw.enabled .ipv4 .allowNets = true → ∀ bits, readsAny reads fw.allowNets (.v4 bits) = true →
    fw.enabled .ipv4 .blockNets = true ∧ readsAny reads fw.blockNets (.v4 bits) = true

def ClosesAll (ks : State) : Call → Prop
  | .disableKillSwitch => True
  | _ => ks.firewall.installed = false ∨ Quiet reads ks.firewall

structure Shut (fw : Firewall) : Prop where
  installed : fw.installed = true
  loopback : ∀ family, fw.enabled family .allowLoopback = true
  all : ∀ family, fw.enabled family .blockAll = true
  marked : ∀ family, fw.enabled family .allowMarkedXray = false
  ipv6 : fw.enabled .ipv6 .blockIPv6 = true

variable (ks : State) (fw : Firewall)

lemma quiet_rejects_ipv4 (shut : Shut fw) (quiet : Quiet reads fw) (packet : Packet)
    (bits : BitVec 32) (dst : packet.dst = .v4 bits) (outside : viaLoopback packet = false) :
    Rejected reads fw packet := by
  have dns := quiet.dns
  have nets := quiet.nets
  rw [Rejected, verdict_ipv4 reads fw packet shut.installed (by rw [dst]; rfl)]
  simp only [quiet.lan, quiet.dhcp, quiet.vpn, shut.marked, shut.all]
  grind

lemma quiet_rejects_ipv6 (shut : Shut fw) (quiet : Quiet reads fw) (packet : Packet)
    (family : packet.dst.family = .ipv6) (outside : viaLoopback packet = false) :
    Rejected reads fw packet := by
  rw [Rejected, verdict_ipv6 reads fw packet shut.installed family]
  simp [outside, quiet.lan, quiet.dhcp, shut.ipv6]

/-! Each exemption in force has a packet that uses it. -/

lemma leak_not_loopback_only (packet : Packet) (outside : viaLoopback packet = false)
    (accepted : verdict reads fw packet = some .accept) : ¬ OnlyLoopback reads fw := by
  intro only
  have loopback := only packet (by simp [Accepted, Rejected, accepted])
  simp [loopback] at outside

lemma exemption_leaks (installed : fw.installed = true) (packet : Packet) (anchor : Anchor)
    (kind : anchor = .allowLAN ∨ anchor = .allowDHCP)
    (on : fw.enabled packet.dst.family anchor = true)
    (hit : anchorHits reads fw anchor packet = true) (outside : viaLoopback packet = false)
    (not_dns : isDns packet = false) : ¬ OnlyLoopback reads fw := by
  apply leak_not_loopback_only reads fw packet outside
  cases family : packet.dst.family with
  | ipv4 =>
    rw [verdict_ipv4 reads fw packet installed family]
    rcases kind with rfl | rfl <;> simp_all [anchorHits]
  | ipv6 =>
    rw [verdict_ipv6 reads fw packet installed family]
    rcases kind with rfl | rfl <;> simp_all [anchorHits]

lemma vpn_accepts (installed : fw.installed = true) (packet : Packet)
    (family : packet.dst.family = .ipv4) (on : fw.enabled .ipv4 .allowVPN = true)
    (vpn : viaVpn packet = true) (not_dns : isDns packet = false) :
    verdict reads fw packet = some .accept := by
  rw [verdict_ipv4 reads fw packet installed family]
  simp [on, vpn, not_dns]

lemma lan_leak (installed : fw.installed = true) (family : Family)
    (on : fw.enabled family .allowLAN = true) : ¬ OnlyLoopback reads fw := by
  cases family with
  | ipv4 =>
    exact exemption_leaks reads fw installed (webPacket (.quad 10 0 0 1)) .allowLAN (Or.inl rfl) on
      (show isLan _ = true by decide) (by decide) (by decide)
  | ipv6 =>
    exact exemption_leaks reads fw installed (webPacket (.v6 (0xfc00#16 ++ 1#112))) .allowLAN
      (Or.inl rfl) on (show isLan _ = true by decide) (by decide) (by decide)

lemma dhcp_leak (installed : fw.installed = true) (family : Family)
    (on : fw.enabled family .allowDHCP = true) : ¬ OnlyLoopback reads fw := by
  cases family with
  | ipv4 =>
    exact exemption_leaks reads fw installed ⟨"eth0", .quad 255 255 255 255, .udp, 68, 67, 0⟩
      .allowDHCP (Or.inr rfl) on (show isDhcp _ = true by decide) (by decide) (by decide)
  | ipv6 =>
    exact exemption_leaks reads fw installed ⟨"eth0", .v6 (0xff00#16 ++ 1#112), .udp, 546, 547, 0⟩
      .allowDHCP (Or.inr rfl) on (show isDhcp _ = true by decide) (by decide) (by decide)

lemma vpn_leak (installed : fw.installed = true) (on : fw.enabled .ipv4 .allowVPN = true) :
    ¬ OnlyLoopback reads fw := by
  have accepted := vpn_accepts reads fw installed ⟨"tun0", .quad 203 0 113 5, .tcp, 40000, 443, 0⟩
    rfl on (by decide) (by decide)
  exact leak_not_loopback_only reads fw _ (by decide) accepted

def lookupPacket (bits : BitVec 32) : Packet := ⟨"tun0", .v4 bits, .udp, 40000, 53, 0⟩

lemma dns_leak (installed : fw.installed = true) (on : fw.enabled .ipv4 .allowDNS = true)
    (bits : BitVec 32) (read : readsAny reads fw.dnsServers (.v4 bits) = true) :
    ¬ OnlyLoopback reads fw := by
  have outside : viaLoopback (lookupPacket bits) = false := by
    simp only [viaLoopback, lookupPacket]
    decide
  have lookup : viaVpn (lookupPacket bits) = true ∧ isDns (lookupPacket bits) = true := by
    simp only [viaVpn, isDns, lookupPacket]
    decide
  have dst : (lookupPacket bits).dst = .v4 bits := rfl
  apply leak_not_loopback_only reads fw (lookupPacket bits) outside
  rw [verdict_ipv4 reads fw _ installed rfl]
  simp [lookup, on, dst, read]

lemma nets_leak (installed : fw.installed = true) (on : fw.enabled .ipv4 .allowNets = true)
    (bits : BitVec 32) (read : readsAny reads fw.allowNets (.v4 bits) = true)
    (passed : (fw.enabled .ipv4 .blockNets && readsAny reads fw.blockNets (.v4 bits)) = false) :
    ¬ OnlyLoopback reads fw := by
  have loopback : viaLoopback (webPacket (.v4 bits)) = false := by
    simp only [viaLoopback, webPacket]
    decide
  have dns : isDns (webPacket (.v4 bits)) = false := rfl
  apply leak_not_loopback_only reads fw (webPacket (.v4 bits)) loopback
  rw [verdict_ipv4 reads fw _ installed rfl]
  have dst : (webPacket (.v4 bits)).dst = .v4 bits := rfl
  simp [dns, on, read, passed, dst]

/-- A shut table lets nothing but loopback out exactly when it is quiet. -/
lemma shut_only_loopback_iff (shut : Shut fw) : OnlyLoopback reads fw ↔ Quiet reads fw := by
  constructor
  · -- each exemption still in force has a packet that leaves through it
    intro only
    have installed := shut.installed
    refine ⟨?_, ?_, ?_, ?_, ?_⟩
    · by_contra on
      exact vpn_leak reads fw installed (by simpa using on) only
    · intro family
      by_contra on
      exact lan_leak reads fw installed family (by simpa using on) only
    · intro family
      by_contra on
      exact dhcp_leak reads fw installed family (by simpa using on) only
    · intro on bits
      by_contra read
      exact dns_leak reads fw installed on bits (by simpa using read) only
    · intro on bits read
      by_contra passed
      exact nets_leak reads fw installed on bits read (by simpa using passed) only
  · intro quiet packet accepted
    by_contra opened
    have outside : viaLoopback packet = false := by simpa using opened
    apply accepted
    cases dst : packet.dst with
    | v4 bits => exact quiet_rejects_ipv4 reads fw shut quiet packet bits dst outside
    | v6 bits => exact quiet_rejects_ipv6 reads fw shut quiet packet (by rw [dst]; rfl) outside

def exemptions : List Anchor :=
  [.allowVPN, .allowLAN, .allowDHCP, .allowDNS, .allowNets, .blockNets]

lemma quiet_of_same (other : Firewall)
    (anchors : ∀ family, ∀ anchor ∈ exemptions, other.enabled family anchor = fw.enabled family anchor)
    (dns : other.dnsServers = fw.dnsServers) (allow : other.allowNets = fw.allowNets)
    (block : other.blockNets = fw.blockNets) (quiet : Quiet reads fw) : Quiet reads other where
  vpn := by rw [anchors .ipv4 .allowVPN (by decide)]; exact quiet.vpn
  lan family := by rw [anchors family .allowLAN (by decide)]; exact quiet.lan family
  dhcp family := by rw [anchors family .allowDHCP (by decide)]; exact quiet.dhcp family
  dns := by rw [anchors .ipv4 .allowDNS (by decide), dns]; exact quiet.dns
  nets := by
    rw [anchors .ipv4 .allowNets (by decide), anchors .ipv4 .blockNets (by decide), allow, block]
    exact quiet.nets

lemma install_quiet : Quiet reads install := by
  constructor <;> simp [install, uninstall]

lemma disable_all_enabled (family : Family) (anchor : Anchor)
    (present : installedIn family anchor = true) :
    (disableAllTraffic ks).firewall.enabled family anchor =
      match anchor with
      | .blockAll | .allowLoopback | .blockIPv6 => true
      | .allowMarkedXray => false
      | _ => (ensureInstalled ks.firewall).enabled family anchor := by
  revert present
  cases family <;> cases anchor <;>
    simp [disableAllTraffic, set_enabled, IPVersion.includes, installedIn]

lemma disable_all_shut : Shut (disableAllTraffic ks).firewall where
  installed := by simp [disableAllTraffic]
  loopback family := disable_all_enabled ks family .allowLoopback (by cases family <;> rfl)
  all family := disable_all_enabled ks family .blockAll (by cases family <;> rfl)
  marked family := disable_all_enabled ks family .allowMarkedXray (by cases family <;> rfl)
  ipv6 := disable_all_enabled ks .ipv6 .blockIPv6 rfl

/-- `disableAllTraffic` moves none of the anchors `Quiet` is about, unless it
has to install the table first. -/
lemma disable_all_quiet_iff :
    Quiet reads (disableAllTraffic ks).firewall ↔
      ks.firewall.installed = false ∨ Quiet reads ks.firewall := by
  have anchors : ∀ family, ∀ anchor ∈ exemptions,
      (disableAllTraffic ks).firewall.enabled family anchor =
        (ensureInstalled ks.firewall).enabled family anchor := by
    intro family anchor member
    simp only [exemptions, List.mem_cons, List.not_mem_nil, or_false] at member
    rcases member with rfl | rfl | rfl | rfl | rfl | rfl <;> simp [disableAllTraffic, set_enabled]
  have dns : (disableAllTraffic ks).firewall.dnsServers = (ensureInstalled ks.firewall).dnsServers := by
    simp [disableAllTraffic]
  have allow : (disableAllTraffic ks).firewall.allowNets = (ensureInstalled ks.firewall).allowNets := by
    simp [disableAllTraffic]
  have block : (disableAllTraffic ks).firewall.blockNets = (ensureInstalled ks.firewall).blockNets := by
    simp [disableAllTraffic]
  have same : Quiet reads (disableAllTraffic ks).firewall ↔
      Quiet reads (ensureInstalled ks.firewall) :=
    ⟨quiet_of_same reads _ _ (fun family anchor member => (anchors family anchor member).symm)
      dns.symm allow.symm block.symm, quiet_of_same reads _ _ anchors dns allow block⟩
  rw [same]
  cases installed : ks.firewall.installed with
  | true => simp [ensureInstalled, installed]
  | false => simp [ensureInstalled, installed, install_quiet]

lemma disable_strict_enabled (strict : ks.strict = true)
    (installed : ks.firewall.installed = true) (family : Family) (anchor : Anchor)
    (present : installedIn family anchor = true) :
    (disableKillSwitch ks).firewall.enabled family anchor =
      match anchor with
      | .blockAll | .allowLoopback | .blockIPv6 => true
      | .allowVPN | .blockDNS => family == .ipv6 && ks.firewall.enabled family anchor
      | _ => false := by
  revert present
  cases family <;> cases anchor <;>
    simp [disableKillSwitch, strict, installed, set_enabled, IPVersion.includes, installedIn]

lemma disable_strict_shut (strict : ks.strict = true) (installed : ks.firewall.installed = true) :
    Shut (disableKillSwitch ks).firewall := by
  have moved := disable_strict_enabled ks strict installed
  exact
    { installed := by simp [disableKillSwitch, strict, installed]
      loopback := fun family => moved family .allowLoopback (by cases family <;> rfl)
      all := fun family => moved family .blockAll (by cases family <;> rfl)
      marked := fun family => moved family .allowMarkedXray (by cases family <;> rfl)
      ipv6 := moved .ipv6 .blockIPv6 rfl }

lemma disable_strict_quiet (strict : ks.strict = true) (installed : ks.firewall.installed = true) :
    Quiet reads (disableKillSwitch ks).firewall := by
  have moved := disable_strict_enabled ks strict installed
  constructor
  · exact moved .ipv4 .allowVPN rfl
  · intro family
    exact moved family .allowLAN (by cases family <;> rfl)
  · intro family
    exact moved family .allowDHCP (by cases family <;> rfl)
  · intro on
    simp [moved .ipv4 .allowDNS rfl] at on
  · intro on
    simp [moved .ipv4 .allowNets rfl] at on

/-- In a running service the strict flag is on only with the table installed:
`init` and `refresh` install it, and only a non-strict call removes it. -/
def StrictInstalled (ks : State) : Prop := ks.strict = true → ks.firewall.installed = true

lemma init_strict_installed : StrictInstalled (init ks) := by
  intro strict
  unfold init at strict ⊢
  split
  · exact (disable_all_shut ks).installed
  · simp_all

lemma step_strict_installed (call : Call) (holds : StrictInstalled ks) :
    StrictInstalled (step ks call) := by
  cases call with
  | enableKillSwitch config => intro _; exact enable_installed ks config
  | addAllowedRange ranges => simpa [StrictInstalled, step, addAllowedRange, resetAllowedRange] using holds
  | resetAllowedRange ranges => simpa [StrictInstalled, step, resetAllowedRange] using holds
  | disableAllTraffic => intro _; exact (disable_all_shut ks).installed
  | disableKillSwitch =>
    intro strict
    have strict : ks.strict = true := strict
    simpa [step, disableKillSwitch, strict] using holds strict
  | refresh enabled =>
    cases enabled with
    | true => intro _; exact (disable_all_shut _).installed
    | false => intro strict; simp [step, refresh, disableKillSwitch] at strict

/-- After a closing call of any run, loopback is the only way out exactly when
the call is the strict `disableKillSwitch`, or the table was not installed or
quiet before it. -/
theorem strict_closing_call_iff (start : State) (calls : List Call) (call : Call)
    (closes : Closes (run step (init start) calls) call) :
    OnlyLoopback reads (step (run step (init start) calls) call).firewall ↔
      ClosesAll reads (run step (init start) calls) call := by
  have strictInstalled : StrictInstalled (run step (init start) calls) :=
    run_invariant step_strict_installed (init start) calls (init_strict_installed start)
  generalize run step (init start) calls = ks at closes strictInstalled
  cases call with
  | disableAllTraffic =>
    exact (shut_only_loopback_iff reads _ (disable_all_shut ks)).trans
      (disable_all_quiet_iff reads ks)
  | disableKillSwitch =>
    -- this call moves every anchor, so the state before it does not matter
    have shut := disable_strict_shut ks closes (strictInstalled closes)
    have quiet := disable_strict_quiet reads ks closes (strictInstalled closes)
    exact iff_of_true ((shut_only_loopback_iff reads _ shut).mpr quiet) trivial
  | refresh enabled =>
    subst enabled
    exact (shut_only_loopback_iff reads _ (disable_all_shut _)).trans
      (disable_all_quiet_iff reads { ks with strict := true })
  | enableKillSwitch config => exact closes.elim
  | addAllowedRange ranges => exact closes.elim
  | resetAllowedRange ranges => exact closes.elim

theorem first_block_closes :
    OnlyLoopback siteReads (step (run step (init idle) [.addAllowedRange ["203.0.113.5"]])
      .disableAllTraffic).firewall :=
  (strict_closing_call_iff siteReads idle [.addAllowedRange ["203.0.113.5"]] .disableAllTraffic
    trivial).mpr (Or.inl rfl)

/-- A connection with the kill switch on, then `refresh(true)`: the local
network is still reachable. -/
theorem connected_refresh_leaks :
    Closes (run step (init idle) [.enableKillSwitch (siteConfig 0)]) (.refresh true) ∧
      ¬ OnlyLoopback siteReads
        (step (run step (init idle) [.enableKillSwitch (siteConfig 0)]) (.refresh true)).firewall := by
  refine ⟨rfl, fun only => ?_⟩
  have loopback := only (webPacket (.quad 10 0 0 1)) (by decide)
  revert loopback
  decide

/-! ## The strict flag over a run -/

def StrictBlocks (ks : State) : Prop :=
  ks.strict = true → ks.firewall.installed = true ∧ ks.firewall.enabled .ipv4 .blockAll = true

/-- The kill switch is not enabled for some sites only while the strict flag is set. -/
def CoversAll (ks : State) : Call → Prop
  | .enableKillSwitch config => ks.strict = true → (tunnelPlan config).blockAll = true
  | _ => True

lemma shut_strict_blocks {ks : State} (shut : Shut ks.firewall) : StrictBlocks ks :=
  fun _ => ⟨shut.installed, shut.all .ipv4⟩

lemma init_strict_blocks : StrictBlocks (init ks) := by
  unfold init
  split
  · exact shut_strict_blocks (disable_all_shut ks)
  · simp_all [StrictBlocks]

lemma step_strict_blocks (call : Call) (holds : StrictBlocks ks) (covers : CoversAll ks call) :
    StrictBlocks (step ks call) := by
  cases call with
  | enableKillSwitch config =>
    intro strict
    exact ⟨enable_installed ks config, (enable_ipv4 ks config .blockAll rfl).trans (covers strict)⟩
  | addAllowedRange ranges =>
    simpa [StrictBlocks, step, addAllowedRange, resetAllowedRange, set_enabled] using holds
  | resetAllowedRange ranges =>
    simpa [StrictBlocks, step, resetAllowedRange, set_enabled] using holds
  | disableAllTraffic => exact shut_strict_blocks (disable_all_shut ks)
  | disableKillSwitch =>
    intro (strict : ks.strict = true)
    exact shut_strict_blocks (disable_strict_shut ks strict (holds strict).1) strict
  | refresh enabled =>
    cases enabled with
    | true => exact shut_strict_blocks (disable_all_shut _)
    | false => simp [StrictBlocks, step, refresh, disableKillSwitch]

/-- However the service was started and called, while the strict flag is set what no exemption
speaks about is rejected, as long as the kill switch is not enabled for some sites only. -/
theorem strict_run_blocks (start : State) (calls : List Call)
    (covers : Guarded step CoversAll (init start) calls) (visited : State)
    (visits : Visits step (init start) calls visited) (strict : visited.strict = true)
    (packet : Packet) (outside : Outside packet)
    (unlisted : readsAny reads visited.firewall.allowNets packet.dst = false) :
    Rejected reads visited.firewall packet := by
  obtain ⟨installed, blocks⟩ := guarded_invariant step_strict_blocks (init start) calls
    (init_strict_blocks start) covers visited visits strict
  simp [Rejected, outside_verdict reads _ packet outside installed, unlisted, blocks]

theorem refreshed_service_blocks :
    Rejected siteReads (run step (init idle) [.refresh true]).firewall (webPacket (.quad 8 8 8 8)) :=
  strict_run_blocks siteReads idle [.refresh true] ⟨trivial, trivial⟩ _ (visits_last _ _ _) rfl _
    (web_packet_outside _ rfl (by decide)) rfl

end AbstractumVpn.KillSwitch
