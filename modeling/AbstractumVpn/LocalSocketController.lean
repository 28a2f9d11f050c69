import AbstractumVpn.InterfaceConfig

/-!
`LocalSocketController::activate`: the request to the WireGuard daemon that the
desktop client makes of a connection's configuration. Inserting an undefined
value into a JSON object leaves the key out.
-/

namespace AbstractumVpn.LocalSocketController

open Json

def isCSpace (c : Char) : Bool := (9 ≤ c.toNat && c.toNat ≤ 13) || c.toNat == 32

def leadingDecimal (text : List Char) : Nat :=
  (text.takeWhile Char.isDigit).foldl (fun value c => value * 10 + (c.toNat - '0'.toNat)) 0

/-- `atoi`: `strtol`, which stops at the bounds of a `long`, cut to an `int`. -/
def atoi (text : String) : Int :=
  let number : Int := match text.toList.dropWhile isCSpace with
    | '-' :: rest => -(leadingDecimal rest : Int)
    | '+' :: rest => leadingDecimal rest
    | rest => leadingDecimal rest
  (max (-9223372036854775808) (min number 9223372036854775807)).bmod 4294967296

def range (address : String) (length : Int) (isIpv6 : Bool) : Value :=
  .object [("address", .string address), ("range", .double length), ("isIpv6", .bool isIpv6)]

def textRange (ipRange : String) : Value :=
  match QtText.split ipRange "/" with
  | address :: length :: _ => range address (atoi length) false
  | _ => range ipRange 32 false

def isDefaultAllowedIP (plainAllowedIP : List Value) : Bool :=
  plainAllowedIP.map Value.toString? == [some "0.0.0.0/0", some "::/0"]

def allowedIPAddresses (plainAllowedIP : List Value) (splitTunnelType : Int)
    (splitTunnelSites : List Value) : List Value :=
  if !isDefaultAllowedIP plainAllowedIP && !plainAllowedIP.isEmpty then
    plainAllowedIP.map fun v => textRange v.toString
  else
    (if splitTunnelType = 0 ∨ splitTunnelType = 2 then
      [range "0.0.0.0" 0 false, range "::" 0 true] else []) ++
    (if splitTunnelType = 1 then splitTunnelSites.map fun v => textRange v.toString else [])

def excludedAddresses (hostName : Value) (splitTunnelType : Int) (splitTunnelSites : List Value) :
    List Value :=
  hostName ::
    if splitTunnelType = 2 then splitTunnelSites.map fun v => .string v.toString else []

def junkKeys : List String :=
  ["Jc", "Jmin", "Jmax", "S1", "S2", "S3", "S4", "H1", "H2", "H3", "H4"]

def obfuscationKeys : List String :=
  junkKeys ++ ["I1", "I2", "I3", "I4", "I5", "HeaderProtectionKey", "ContentPaddingAddition",
    "RekeyAfterTime", "RekeyTimeout", "RejectAfterTime", "KeepaliveTimeout",
    "MaxHandshakeAttempts"]

def isUndefined : Value → Bool
  | .undefined => true
  | _ => false

def obfuscation (protocolName : String) (wgConfig : Object) : Object :=
  if protocolName = "awg" ∨ ∀ key ∈ junkKeys, isUndefined (wgConfig.value key) = false then
    obfuscationKeys.map fun key => (key, wgConfig.value key)
  else []

def activate (rawConfig : Object) : Object :=
  let protocolName := (rawConfig.value "protocol").toString
  let splitTunnelType := (rawConfig.value "splitTunnelType").toInt
  let splitTunnelSites := (rawConfig.value "splitTunnelSites").toArray
  let wgConfig := (rawConfig.value (protocolName ++ "_config_data")).toObject
  let fields : Object :=
    [("allowedIPAddressRanges", .array (allowedIPAddresses
        (wgConfig.value "allowed_ips").toArray splitTunnelType splitTunnelSites)),
      ("excludedAddresses", .array (excludedAddresses
        (wgConfig.value "hostName") splitTunnelType splitTunnelSites)),
      ("vpnDisabledApps", .array (rawConfig.value "splitTunnelApps").toArray),
      ("allowedDnsServers", .array (rawConfig.value "allowedDnsServers").toArray),
      ("killSwitchOption", rawConfig.value "killSwitchOption"),
      ("type", .string "activate"),
      ("privateKey", wgConfig.value "client_priv_key"),
      ("deviceIpv4Address", wgConfig.value "client_ip"),
      ("deviceIpv6Address", .string "fd58:baa6:dead::1"),
      ("serverPublicKey", wgConfig.value "server_pub_key"),
      ("serverPskKey", wgConfig.value "psk_key"),
      ("serverIpv4AddrIn", wgConfig.value "hostName"),
      ("deviceMTU", wgConfig.value "mtu"),
      ("serverPort", .double (wgConfig.value "port").toInt),
      ("serverIpv4Gateway", wgConfig.value "hostName"),
      ("primaryDnsServer", rawConfig.value "dns1")] ++
    (if wgConfig.contains "persistent_keep_alive" then
      [("persistentKeepalive", .string (wgConfig.value "persistent_keep_alive").toString)]
    else []) ++
    -- the second resolver is left out when the first one is the AmneziaDNS
    (if "172.29.172.254".toList <:+: (rawConfig.value "dns1").toString.toList then []
    else [("secondaryDnsServer", rawConfig.value "dns2")]) ++
    obfuscation protocolName wgConfig
  fields.filter fun field => !isUndefined field.2

end AbstractumVpn.LocalSocketController
