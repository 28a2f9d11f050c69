import AbstractumVpn.Addresses
import AbstractumVpn.FirstMatch

/-!
The filter table the Linux firewall keeps under the OUTPUT chain. `install`
creates one placeholder chain per anchor, in a fixed order, each next to a chain
with the anchor's rules; enabling an anchor links the two. A command on a chain
that does not exist changes nothing. The nat, raw and mangle tables neither
accept nor reject outgoing traffic and are not modelled.

How `iptables` reads the text after `-d` is the parameter `reads`; a text it
refuses reads as no address, since the rule is then never added.
-/

namespace AbstractumVpn.LinuxFirewall

inductive IPVersion where
  | ipv4
  | ipv6
  | both
  deriving DecidableEq

def IPVersion.includes : IPVersion → Family → Bool
  | .ipv4, family => family == .ipv4
  | .ipv6, family => family == .ipv6
  | .both, _ => true

inductive Protocol where
  | tcp
  | udp
  | other (number : Nat)
  deriving DecidableEq

structure Packet where
  out : String
  dst : Ip
  protocol : Protocol
  sport : Nat
  dport : Nat
  mark : Nat

inductive Target where
  | accept
  | reject
  deriving DecidableEq

/-- The operand of `-d`: a network written in the program, or a text that
comes from a configuration. -/
inductive Destination where
  | fixed (text : String) (net : Net)
  | given (text : String)

inductive Match where
  | outgoing (pattern : String)
  | notOutgoing (pattern : String)
  | destination (destination : Destination)
  | protocol (protocol : Protocol)
  | sport (port : Nat)
  | dport (port : Nat)
  | mark (value : Nat)

structure Rule where
  conditions : List Match
  target : Target

def interfaceMatches (pattern name : String) : Bool :=
  match pattern.toList.reverse with
  | '+' :: stem => stem.reverse.isPrefixOf name.toList
  | _ => pattern == name

inductive Anchor where
  | allowLoopback
  | allowPIA
  | allowDNS
  | blockDNS
  | allowLAN
  | allowDHCP
  | blockIPv6
  | allowVPN
  | allowMarkedXray
  | blockNets
  | allowNets
  | blockAll
  deriving DecidableEq

def Anchor.name : Anchor → String
  | .allowLoopback => "000.allowLoopback"
  | .allowPIA => "400.allowPIA"
  | .allowDNS => "320.allowDNS"
  | .blockDNS => "310.blockDNS"
  | .allowLAN => "300.allowLAN"
  | .allowDHCP => "290.allowDHCP"
  | .blockIPv6 => "250.blockIPv6"
  | .allowVPN => "200.allowVPN"
  | .allowMarkedXray => "130.allowMarkedXray"
  | .blockNets => "120.blockNets"
  | .allowNets => "110.allowNets"
  | .blockAll => "100.blockAll"

def xrayTrafficMark : Nat := 0x82

def getDNSRules (servers : List String) : List Rule :=
  servers.flatMap fun server =>
    ["abs0+", "tun0+", "tun2+"].flatMap fun device =>
      [Protocol.udp, Protocol.tcp].map fun protocol =>
        ⟨[.outgoing device, .destination (.given server), .protocol protocol, .dport 53], .accept⟩

def getAllowRule (servers : List String) : List Rule :=
  servers.map fun server => ⟨[.destination (.given server)], .accept⟩

def getBlockRule (servers : List String) : List Rule :=
  servers.map fun server => ⟨[.destination (.given server)], .reject⟩

def lanNets : Family → List (String × Net)
  | .ipv4 =>
    [("10.0.0.0/8", ⟨.quad 10 0 0 0, 8⟩),
     ("169.254.0.0/16", ⟨.quad 169 254 0 0, 16⟩),
     ("172.16.0.0/12", ⟨.quad 172 16 0 0, 12⟩),
     ("192.168.0.0/16", ⟨.quad 192 168 0 0, 16⟩),
     ("224.0.0.0/4", ⟨.quad 224 0 0 0, 4⟩),
     ("255.255.255.255/32", ⟨.quad 255 255 255 255, 32⟩)]
  | .ipv6 =>
    [("fc00::/7", ⟨.v6 (0xfc00#16 ++ 0#112), 7⟩),
     ("fe80::/10", ⟨.v6 (0xfe80#16 ++ 0#112), 10⟩),
     ("ff00::/8", ⟨.v6 (0xff00#16 ++ 0#112), 8⟩)]

def installedRules : Family → Anchor → List Rule
  | _, .allowLoopback => [⟨[.outgoing "lo+"], .accept⟩]
  | _, .blockDNS =>
    [⟨[.protocol .udp, .dport 53], .reject⟩,
     ⟨[.protocol .tcp, .dport 53], .reject⟩]
  | family, .allowLAN =>
    (lanNets family).map fun net => ⟨[.destination (.fixed net.1 net.2)], .accept⟩
  | .ipv4, .allowDHCP =>
    [⟨[.protocol .udp,
       .destination (.fixed "255.255.255.255" ⟨.quad 255 255 255 255, 32⟩),
       .sport 68, .dport 67], .accept⟩]
  | .ipv6, .allowDHCP =>
    [⟨[.protocol .udp, .destination (.fixed "ff00::/8" ⟨.v6 (0xff00#16 ++ 0#112), 8⟩),
       .sport 546, .dport 547], .accept⟩]
  | .ipv6, .blockIPv6 => [⟨[.notOutgoing "lo+"], .reject⟩]
  | _, .allowVPN =>
    [⟨[.outgoing "abs0+"], .accept⟩,
     ⟨[.outgoing "tun0+"], .accept⟩,
     ⟨[.outgoing "tun2+"], .accept⟩]
  | _, .allowMarkedXray => [⟨[.mark xrayTrafficMark], .accept⟩]
  | _, .blockAll => [⟨[], .reject⟩]
  -- `allowDNS`, `allowNets` and `blockNets` are filled at run time
  | _, _ => []

/-- The order in which `install` links the placeholders into the root chain.
`allowPIA` is enabled and disabled by the callers but never installed. -/
def installOrder : List Anchor :=
  [.allowLoopback, .allowDNS, .blockDNS, .allowLAN, .allowDHCP, .blockIPv6, .allowVPN,
   .allowMarkedXray, .blockNets, .allowNets, .blockAll]

def installedIn : Family → Anchor → Bool
  | _, .allowPIA => false
  | .ipv4, .blockIPv6 => false
  | .ipv6, .allowDNS | .ipv6, .blockNets | .ipv6, .allowNets => false
  | _, _ => true

/-- `enabled` is meaningful while the firewall is installed. The three lists
are what the IPv4 chains rewritten at run time were last written from. -/
structure Firewall where
  installed : Bool
  enabled : Family → Anchor → Bool
  dnsServers : List String
  allowNets : List String
  blockNets : List String

def uninstall : Firewall :=
  { installed := false, enabled := fun _ _ => false, dnsServers := [], allowNets := [], blockNets := [] }

def install : Firewall := { uninstall with installed := true }

def setAnchorEnabled (fw : Firewall) (ip : IPVersion) (anchor : Anchor) (enabled : Bool) :
    Firewall :=
  if fw.installed then
    { fw with enabled := fun family other =>
        if other = anchor ∧ ip.includes family ∧ installedIn family anchor then enabled
        else fw.enabled family other }
  else fw

def updateDNSServers (fw : Firewall) (servers : List String) : Firewall :=
  if fw.installed then { fw with dnsServers := servers } else fw

def updateAllowNets (fw : Firewall) (servers : List String) : Firewall :=
  if fw.installed then { fw with allowNets := servers } else fw

def updateBlockNets (fw : Firewall) (servers : List String) : Firewall :=
  if fw.installed then { fw with blockNets := servers } else fw

def ensureInstalled (fw : Firewall) : Firewall := if fw.installed then fw else install

section Effects

variable (fw : Firewall) (ip : IPVersion) (anchor : Anchor) (on : Bool) (servers : List String)

@[simp] lemma ensure_installed : (ensureInstalled fw).installed = true := by
  unfold ensureInstalled
  split
  · assumption
  · rfl

@[simp] lemma set_installed : (setAnchorEnabled fw ip anchor on).installed = fw.installed := by
  unfold setAnchorEnabled
  split <;> rfl

@[simp] lemma set_dnsServers : (setAnchorEnabled fw ip anchor on).dnsServers = fw.dnsServers := by
  unfold setAnchorEnabled
  split <;> rfl

@[simp] lemma set_allowNets : (setAnchorEnabled fw ip anchor on).allowNets = fw.allowNets := by
  unfold setAnchorEnabled
  split <;> rfl

@[simp] lemma set_blockNets : (setAnchorEnabled fw ip anchor on).blockNets = fw.blockNets := by
  unfold setAnchorEnabled
  split <;> rfl

lemma set_enabled (family : Family) (other : Anchor) :
    (setAnchorEnabled fw ip anchor on).enabled family other =
      if fw.installed ∧ other = anchor ∧ ip.includes family ∧ installedIn family anchor then on
      else fw.enabled family other := by
  by_cases installed : fw.installed = true <;> simp [setAnchorEnabled, installed]

@[simp] lemma update_dns : updateDNSServers fw servers =
    { fw with dnsServers := if fw.installed then servers else fw.dnsServers } := by
  unfold updateDNSServers
  split <;> rfl

@[simp] lemma update_allow : updateAllowNets fw servers =
    { fw with allowNets := if fw.installed then servers else fw.allowNets } := by
  unfold updateAllowNets
  split <;> rfl

@[simp] lemma update_block : updateBlockNets fw servers =
    { fw with blockNets := if fw.installed then servers else fw.blockNets } := by
  unfold updateBlockNets
  split <;> rfl

end Effects

end AbstractumVpn.LinuxFirewall
