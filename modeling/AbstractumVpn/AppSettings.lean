import AbstractumVpn.Addresses
import AbstractumVpn.QtText

/-!
The sites of the split-tunnel settings: an address or network, or a host name
with the addresses it was last resolved to. A map of the settings is a list of
its entries; the order of the keys only orders the routes.
-/

namespace AbstractumVpn.AppSettings

inductive RouteMode where
  | vpnAllSites
  | vpnOnlyForwardSites
  | vpnAllExceptSites
  deriving DecidableEq

def RouteMode.code : RouteMode → Nat
  | .vpnAllSites => 0
  | .vpnOnlyForwardSites => 1
  | .vpnAllExceptSites => 2

abbrev Sites := List (String × List String)

def siteIpList (value : List String) : List String := (value.filter (· ≠ "")).eraseDups

def addVpnSite (sites : Sites) (site : String) (ips : List String) : Sites :=
  let siteExisted := (sites.lookup site).isSome
  let known := siteIpList ((sites.lookup site).getD [])
  let mergedIps := ips.foldl
    (fun merged ip => if ip ≠ "" ∧ ip ∉ merged then merged ++ [ip] else merged) known
  if siteExisted then
    sites.map fun entry => if entry.1 = site ∧ mergedIps ≠ known then (site, mergedIps) else entry
  else sites ++ [(site, mergedIps)]

variable (qt : Qt)

def checkIPv4Format (ip : String) : Bool :=
  ip.toList.count '.' == 3 &&
    match qt.hostAddress ip with
    | .ipv4 _ => true
    | _ => false

def checkIpSubnetFormat (ip : String) : Bool :=
  if '/' ∈ ip.toList then
    match QtText.split ip "/" with
    | [address, length] =>
      match QtText.toInt? length with
      | some subnet => decide (0 ≤ subnet ∧ subnet ≤ 32) && checkIPv4Format qt address
      | none => false
    | _ => false
  else checkIPv4Format qt ip

def siteAddresses (entry : String × List String) : List String :=
  if checkIpSubnetFormat qt entry.1 then [entry.1]
  else (siteIpList entry.2).filter (checkIpSubnetFormat qt)

def siteIps (sites : Sites) : List String := (sites.flatMap (siteAddresses qt)).eraseDups

def siteNames (sites : Sites) : List String :=
  (sites.map Prod.fst).filter fun site => !checkIpSubnetFormat qt site

end AbstractumVpn.AppSettings
