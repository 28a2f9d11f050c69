import AbstractumVpn.Json
import AbstractumVpn.ProtocolConfig
import AbstractumVpn.QtText

/-!
The routes that WireGuard and AmneziaWG on Android take from a connection's
configuration. `none` stands for an exception, also for a mask that the system
refuses. The hash sets have the order of the entries here.
-/

namespace AbstractumVpn.Android

open Json ProtocolConfig

/-- Java's conversions of texts, with what is known of them. -/
structure Jvm where
  getByName : String → Option IpAddress
  toInt : String → Option Int
  ipv4_any : getByName "0.0.0.0" = some ipv4DefaultRoute.address
  ipv6_any : getByName "::" = some ipv6DefaultRoute.address
  zero : toInt "0" = some 0

def isWhitespace (c : Char) : Bool :=
  let n := c.toNat
  (9 ≤ n && n ≤ 13) || (0x1c ≤ n && n ≤ 0x20) || n == 0xa0 || n == 0x1680 ||
    (0x2000 ≤ n && n ≤ 0x200a) || n == 0x2028 || n == 0x2029 || n == 0x202f ||
    n == 0x205f || n == 0x3000

def trim (text : String) : String :=
  String.ofList ((text.toList.dropWhile isWhitespace).reverse.dropWhile isWhitespace).reverse

variable (jvm : Jvm)

def InetNetwork.create? (address : IpAddress) (mask : Int) : Option InetNetwork :=
  if fits : 0 ≤ mask ∧ mask.toNat ≤ address.maxMask then some ⟨address, mask.toNat, fits.2⟩
  else none

def InetNetwork.parse (data : String) : Option InetNetwork := do
  let split := QtText.split data "/"
  let address ← jvm.getByName (split.headD "")
  if split.length = 1 then return .single address
  else InetNetwork.create? address (← jvm.toInt (split.getLastD ""))

namespace Wireguard

def parseRoute : Value → Option InetNetwork
  | .string route => InetNetwork.parse jvm (trim route)
  | _ => none

def defRoutes : List InetNetwork := [ipv4DefaultRoute, ipv6DefaultRoute]

def configRoutes (configData : Object) : Option (List InetNetwork) :=
  match configData.value "allowed_ips" with
  | .array items => items.mapM (parseRoute jvm)
  | _ => none

def allowSplitTunneling (routes : List InetNetwork) : Bool := routes.all (· ∈ defRoutes)

def parseSite : Value → Option InetNetwork
  | .string site => InetNetwork.parse jvm site
  | _ => none

def configSplitTunneling (config : Object) : Option (List InetNetwork × List InetNetwork) :=
  let splitTunnelType := (config.value "splitTunnelType").toInt
  if splitTunnelType = 0 then some ([], [])
  else
    match config.value "splitTunnelSites" with
    | .array splitTunnelSites =>
      if splitTunnelType = 1 then
        (splitTunnelSites.mapM (parseSite jvm)).map fun sites => (sites.eraseDups, [])
      else if splitTunnelType = 2 then
        (splitTunnelSites.mapM (parseSite jvm)).map fun sites => ([], sites.eraseDups)
      else none
    | _ => none

def parseConfig (config : Object) : Option Builder := do
  let configData ← match config.value ((config.value "protocol").toString ++ "_config_data") with
    | .object configData => some configData
    | _ => none
  let routes ← configRoutes jvm configData
  let addresses ←
    if allowSplitTunneling routes then configSplitTunneling jvm config else some ([], [])
  return {
    routes := addRoutes routes.eraseDups []
    includedAddresses := addresses.1
    excludedAddresses := addresses.2 }

end Wireguard

end AbstractumVpn.Android
