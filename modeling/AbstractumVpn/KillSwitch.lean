import AbstractumVpn.FilterChain
import AbstractumVpn.Json

/-!
The kill switch of the privileged service on Linux (`KillSwitch`). Every
operation returns `true` there, so the model keeps the state only.
-/

namespace AbstractumVpn.KillSwitch

open LinuxFirewall

structure State where
  firewall : Firewall
  strict : Bool
  allowedRanges : List String

def amneziaDnsIp : String := "172.29.172.254"

def textContains (text part : String) : Bool :=
  text.toList.tails.any part.toList.isPrefixOf

def splitTunnelType (config : Json.Object) : Int := (config.value "splitTunnelType").toInt

def splitTunnelSites (config : Json.Object) : List String :=
  (config.value "splitTunnelSites").toArray.map Json.Value.toString

def vpnServer (config : Json.Object) : String := (config.value "vpnServer").toString

/-- The servers `enableKillSwitch` hands to `updateDNSServers`. The secondary
server is left out when the primary one is AmneziaDNS. -/
def dnsServers (config : Json.Object) : List String :=
  let dns1 := (config.value "dns1").toString
  let dns2 := (config.value "dns2").toString
  [dns1] ++ (if textContains dns1 amneziaDnsIp then [] else [dns2]) ++
    ["127.0.0.1", "127.0.0.53"] ++
    Json.leadingStrings (config.value "allowedDnsServers").toArray

/-- The flags and lists `enableKillSwitch` derives from the split-tunnel type. -/
structure TunnelPlan where
  blockAll : Bool := false
  allowNets : Bool := false
  blockNets : Bool := false
  allowMarkedXray : Bool := false
  allownets : List String := []
  blocknets : List String := []

def tunnelPlan (config : Json.Object) : TunnelPlan :=
  if splitTunnelType config = 0 then
    { blockAll := true, allowNets := true, allowMarkedXray := true
      allownets := [vpnServer config] }
  else if splitTunnelType config = 1 then
    { blockNets := true, allowMarkedXray := true, blocknets := splitTunnelSites config }
  else if splitTunnelType config = 2 then
    { blockAll := true, allowNets := true
      allownets := vpnServer config :: splitTunnelSites config }
  else {}

def enableKillSwitch (ks : State) (config : Json.Object) : State :=
  let plan := tunnelPlan config
  let fw := ensureInstalled ks.firewall
  let fw := setAnchorEnabled fw .both .allowLoopback true
  let fw := setAnchorEnabled fw .both .blockAll plan.blockAll
  let fw := setAnchorEnabled fw .ipv4 .allowNets plan.allowNets
  let fw := updateAllowNets fw plan.allownets
  -- the source passes `blockAll` here; `plan.blockNets` is never read on Linux
  let fw := setAnchorEnabled fw .ipv4 .blockNets plan.blockAll
  let fw := updateBlockNets fw plan.blocknets
  let fw := setAnchorEnabled fw .both .allowMarkedXray true
  let fw := setAnchorEnabled fw .ipv4 .allowVPN true
  let fw := setAnchorEnabled fw .ipv6 .blockIPv6 true
  let fw := setAnchorEnabled fw .both .allowDHCP true
  let fw := setAnchorEnabled fw .both .allowLAN true
  let fw := setAnchorEnabled fw .ipv4 .blockDNS true
  let fw := updateDNSServers fw (dnsServers config)
  let fw := setAnchorEnabled fw .ipv4 .allowDNS true
  let fw := setAnchorEnabled fw .both .allowPIA true
  { ks with firewall := fw }

/-- In strict mode the anchors move to their closed positions. Otherwise they
move to their open ones and are then deleted with the whole table. -/
def disableKillSwitch (ks : State) : State :=
  let fw := ks.firewall
  let closed :=
    let fw := setAnchorEnabled fw .both .allowLoopback true
    let fw := setAnchorEnabled fw .both .blockAll true
    let fw := setAnchorEnabled fw .ipv4 .allowNets false
    let fw := setAnchorEnabled fw .ipv4 .blockNets false
    let fw := setAnchorEnabled fw .both .allowMarkedXray false
    let fw := setAnchorEnabled fw .ipv4 .allowVPN false
    let fw := setAnchorEnabled fw .ipv6 .blockIPv6 true
    let fw := setAnchorEnabled fw .both .allowDHCP false
    let fw := setAnchorEnabled fw .both .allowLAN false
    let fw := setAnchorEnabled fw .ipv4 .blockDNS false
    let fw := setAnchorEnabled fw .ipv4 .allowDNS false
    setAnchorEnabled fw .both .allowPIA false
  { ks with firewall := if ks.strict then closed else uninstall, allowedRanges := [] }

def disableAllTraffic (ks : State) : State :=
  let fw := ensureInstalled ks.firewall
  let fw := setAnchorEnabled fw .both .blockAll true
  let fw := setAnchorEnabled fw .both .allowMarkedXray false
  let fw := setAnchorEnabled fw .both .allowLoopback true
  let fw := setAnchorEnabled fw .ipv6 .blockIPv6 true
  { ks with firewall := fw, allowedRanges := [] }

def resetAllowedRange (ks : State) (ranges : List String) : State :=
  let fw := setAnchorEnabled ks.firewall .ipv4 .allowNets true
  let fw := updateAllowNets fw ranges
  { ks with firewall := fw, allowedRanges := ranges }

def mergeRanges (known : List String) (ranges : List String) : List String :=
  ranges.foldl (fun known range =>
    if !range.isEmpty && !known.contains range then known ++ [range] else known) known

def addAllowedRange (ks : State) (ranges : List String) : State :=
  resetAllowedRange ks (mergeRanges ks.allowedRanges ranges)

def refresh (ks : State) (enabled : Bool) : State :=
  let ks := { ks with strict := enabled }
  if ks.strict then disableAllTraffic ks else disableKillSwitch ks

def init (ks : State) : State := if ks.strict then disableAllTraffic ks else ks

variable (ks : State) (config : Json.Object)

lemma enable_installed : (enableKillSwitch ks config).firewall.installed = true := by
  simp [enableKillSwitch]

/-- The previous position survives only in the anchors `install` does not
create in this family. -/
lemma enable_ipv4 (anchor : Anchor) (present : installedIn .ipv4 anchor = true) :
    (enableKillSwitch ks config).firewall.enabled .ipv4 anchor =
      match anchor with
      | .blockAll | .blockNets => (tunnelPlan config).blockAll
      | .allowNets => (tunnelPlan config).allowNets
      | _ => true := by
  revert present
  cases anchor <;>
    simp [enableKillSwitch, set_enabled, installedIn, IPVersion.includes]

lemma enable_ipv6 (anchor : Anchor) (present : installedIn .ipv6 anchor = true) :
    (enableKillSwitch ks config).firewall.enabled .ipv6 anchor =
      match anchor with
      | .blockAll => (tunnelPlan config).blockAll
      | .blockDNS | .allowVPN => (ensureInstalled ks.firewall).enabled .ipv6 anchor
      | _ => true := by
  revert present
  cases anchor <;>
    simp [enableKillSwitch, set_enabled, installedIn, IPVersion.includes]

lemma enable_lists :
    (enableKillSwitch ks config).firewall.dnsServers = dnsServers config ∧
      (enableKillSwitch ks config).firewall.allowNets = (tunnelPlan config).allownets ∧
      (enableKillSwitch ks config).firewall.blockNets = (tunnelPlan config).blocknets := by
  simp [enableKillSwitch]

end AbstractumVpn.KillSwitch
