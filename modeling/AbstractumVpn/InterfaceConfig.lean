import AbstractumVpn.Addresses
import AbstractumVpn.Json
import AbstractumVpn.QtText
import Mathlib.Data.List.Sort

/-!
The activation request of the WireGuard daemon: `InterfaceConfig` and
`Daemon::parseConfig`, which checks types and presence, never the text of a
string. A field that may be null is an `Option`.
-/

namespace AbstractumVpn

inductive HopType where
  | singleHop
  | multiHopEntry
  | multiHopExit
  deriving DecidableEq

structure InterfaceConfig where
  hopType : HopType := .singleHop
  privateKey : String := ""
  deviceIpv4Address : Option String := none
  deviceIpv6Address : Option String := none
  serverIpv4Gateway : String := ""
  serverIpv6Gateway : String := ""
  serverPublicKey : String := ""
  serverIpv4AddrIn : Option String := none
  serverPskKey : Option String := none
  serverIpv6AddrIn : Option String := none
  primaryDnsServer : String := ""
  secondaryDnsServer : String := ""
  serverPort : Int := 0
  deviceMTU : Int := 1420
  persistentKeepalive : String := ""
  allowedIPAddressRanges : List IPAddress := []
  excludedAddresses : List String := []
  vpnDisabledApps : List String := []
  allowedDnsServers : List String := []
  killSwitchEnabled : Bool := false
  junkPacketCount : String := ""
  junkPacketMinSize : String := ""
  junkPacketMaxSize : String := ""
  initPacketJunkSize : String := ""
  responsePacketJunkSize : String := ""
  cookieReplyPacketJunkSize : String := ""
  transportPacketJunkSize : String := ""
  initPacketMagicHeader : String := ""
  responsePacketMagicHeader : String := ""
  underloadPacketMagicHeader : String := ""
  transportPacketMagicHeader : String := ""
  specialJunk : List (String × String) := []
  headerProtectionKey : String := ""
  contentPaddingAddition : String := ""
  rekeyAfterTime : String := ""
  rekeyTimeout : String := ""
  rejectAfterTime : String := ""
  keepaliveTimeout : String := ""
  maxHandshakeAttempts : String := ""

namespace Daemon

def getString (obj : Json.Object) (name : String) : Option String := (obj.value name).toString?

def getDouble (obj : Json.Object) (name : String) : Option Int :=
  match obj.value name with
  | .double number => some (number.num.tdiv number.den)
  | _ => none

def getOptional (obj : Json.Object) (name : String) : Option String :=
  if obj.contains name then (obj.value name).toString? else some ""

/-- The names Qt's meta enum knows the values under, with and without scope. -/
def hopTypeOf (text : String) : Option HopType :=
  if text = "SingleHop" ∨ text = "InterfaceConfig::SingleHop" then some .singleHop
  else if text = "MultiHopEntry" ∨ text = "InterfaceConfig::MultiHopEntry" then some .multiHopEntry
  else if text = "MultiHopExit" ∨ text = "InterfaceConfig::MultiHopExit" then some .multiHopExit
  else none

def getHopType (obj : Json.Object) : Option HopType :=
  if obj.contains "hopType" then (obj.value "hopType").toString?.bind hopTypeOf
  else some .singleHop

def parseStringList (obj : Json.Object) (name : String) : Option (List String) :=
  if obj.contains name then
    match obj.value name with
    | .array items => items.mapM Json.Value.toString?
    | _ => none
  else some []

def parseRange (qt : Qt) : Json.Value → Option IPAddress
  | .object entries =>
    match Json.Object.value entries "address", Json.Object.value entries "range",
        Json.Object.value entries "isIpv6" with
    | .string address, .double range, .bool _ =>
      some ⟨qt.hostAddress address, (Json.Value.double range).toInt⟩
    | _, _, _ => none
  | _ => none

/-- The ranges, sorted by decreasing prefix length. -/
def parseRanges (qt : Qt) (obj : Json.Object) : Option (List IPAddress) :=
  match obj.value "allowedIPAddressRanges" with
  | .array items =>
    (items.mapM (parseRange qt)).map
      (List.insertionSort fun a b => a.prefixLength ≥ b.prefixLength)
  | _ => none

def deviceMTU (obj : Json.Object) : Int :=
  let mtu := QtText.toInt (obj.value "deviceMTU").toString
  if mtu = 0 then 1420 else mtu

def specialJunk (obj : Json.Object) : List (String × String) :=
  ["I1", "I2", "I3", "I4", "I5"].filterMap fun key =>
    if obj.contains key then some (key, (obj.value key).toString) else none

def parseConfig (qt : Qt) (obj : Json.Object) : Option InterfaceConfig := do
  let text := fun name => (obj.value name).toString
  let nullable := fun name => (obj.value name).toString?
  let privateKey ← getString obj "privateKey"
  let serverPublicKey ← getString obj "serverPublicKey"
  let serverPort ← getDouble obj "serverPort"
  if (nullable "deviceIpv4Address").isNone && (nullable "deviceIpv6Address").isNone then none
  else if (nullable "serverIpv4AddrIn").isNone && (nullable "serverIpv6AddrIn").isNone then none
  else
    let primaryDnsServer ← getOptional obj "primaryDnsServer"
    let secondaryDnsServer ← getOptional obj "secondaryDnsServer"
    let hopType ← getHopType obj
    let ranges ← parseRanges qt obj
    let excludedAddresses ← parseStringList obj "excludedAddresses"
    let vpnDisabledApps ← parseStringList obj "vpnDisabledApps"
    let allowedDnsServers ← parseStringList obj "allowedDnsServers"
    return {
      hopType
      privateKey
      deviceIpv4Address := nullable "deviceIpv4Address"
      deviceIpv6Address := nullable "deviceIpv6Address"
      serverIpv4Gateway := text "serverIpv4Gateway"
      serverIpv6Gateway := text "serverIpv6Gateway"
      serverPublicKey
      serverIpv4AddrIn := nullable "serverIpv4AddrIn"
      serverPskKey := nullable "serverPskKey"
      serverIpv6AddrIn := nullable "serverIpv6AddrIn"
      primaryDnsServer
      secondaryDnsServer
      serverPort
      deviceMTU := deviceMTU obj
      persistentKeepalive := text "persistentKeepalive"
      allowedIPAddressRanges := ranges
      excludedAddresses
      vpnDisabledApps
      allowedDnsServers
      killSwitchEnabled := Json.textToBool (text "killSwitchOption")
      junkPacketCount := text "Jc"
      junkPacketMinSize := text "Jmin"
      junkPacketMaxSize := text "Jmax"
      initPacketJunkSize := text "S1"
      responsePacketJunkSize := text "S2"
      cookieReplyPacketJunkSize := text "S3"
      transportPacketJunkSize := text "S4"
      initPacketMagicHeader := text "H1"
      responsePacketMagicHeader := text "H2"
      underloadPacketMagicHeader := text "H3"
      transportPacketMagicHeader := text "H4"
      specialJunk := specialJunk obj
      headerProtectionKey := text "HeaderProtectionKey"
      contentPaddingAddition := text "ContentPaddingAddition"
      rekeyAfterTime := text "RekeyAfterTime"
      rekeyTimeout := text "RekeyTimeout"
      rejectAfterTime := text "RejectAfterTime"
      keepaliveTimeout := text "KeepaliveTimeout"
      maxHandshakeAttempts := text "MaxHandshakeAttempts" }

structure Parsed (qt : Qt) (obj : Json.Object) (config : InterfaceConfig) : Prop where
  ranges : parseRanges qt obj = some config.allowedIPAddressRanges
  device : config.deviceIpv4Address ≠ none ∨ config.deviceIpv6Address ≠ none
  server : config.serverIpv4AddrIn ≠ none ∨ config.serverIpv6AddrIn ≠ none
  specialJunk : config.specialJunk = specialJunk obj

lemma some_present {first second : Option String} (present : ¬ (first.isNone && second.isNone) = true) :
    first ≠ none ∨ second ≠ none := by
  cases first <;> cases second <;> simp_all

lemma parsed_fields {qt : Qt} {obj : Json.Object} {config : InterfaceConfig}
    (accepted : parseConfig qt obj = some config) : Parsed qt obj config := by
  obtain ⟨_, -, accepted⟩ := Option.bind_eq_some_iff.mp accepted
  obtain ⟨_, -, accepted⟩ := Option.bind_eq_some_iff.mp accepted
  obtain ⟨_, -, accepted⟩ := Option.bind_eq_some_iff.mp accepted
  split at accepted
  · cases accepted
  · rename_i device
    split at accepted
    · cases accepted
    · rename_i server
      obtain ⟨_, -, accepted⟩ := Option.bind_eq_some_iff.mp accepted
      obtain ⟨_, -, accepted⟩ := Option.bind_eq_some_iff.mp accepted
      obtain ⟨_, -, accepted⟩ := Option.bind_eq_some_iff.mp accepted
      obtain ⟨ranges, read, accepted⟩ := Option.bind_eq_some_iff.mp accepted
      obtain ⟨_, -, accepted⟩ := Option.bind_eq_some_iff.mp accepted
      obtain ⟨_, -, accepted⟩ := Option.bind_eq_some_iff.mp accepted
      obtain ⟨_, -, accepted⟩ := Option.bind_eq_some_iff.mp accepted
      obtain rfl := Option.some.inj accepted
      exact ⟨read, some_present device, some_present server, rfl⟩

end Daemon

end AbstractumVpn
