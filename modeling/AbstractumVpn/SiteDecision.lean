import AbstractumVpn.AndroidWireguard
import AbstractumVpn.LocalSocketController
import AbstractumVpn.SplitTunnelConfig
import Mathlib.Data.List.ReduceOption

/-!
Whether the user's sites apply to a WireGuard or AmneziaWG connection.
`appendSplitTunnelingConfig` asks whether both default networks are among the
allowed addresses, `LocalSocketController` whether they are the default list in
its order, and the Android client whether any of them is not a default network.
The Android client routes 2000::/3 in the place of ::/0, in every case.

A text stands for the network that Android reads in it, a range of the desktop's
request for the one with the address that Qt reads in it.
-/

namespace AbstractumVpn.SiteDecision

open Android ProtocolConfig Wireguard
open AppSettings Json LocalSocketController SplitTunnelConfig

def bytes (count : Nat) (number : Nat) : List UInt8 :=
  (List.range count).reverse.map fun position => UInt8.ofNat (number / 256 ^ position)

def inetAddress : HostAddress → Option IpAddress
  | .null => none
  | .ipv4 bits => some ⟨bytes 4 bits.toNat, by simp [bytes]⟩
  | .ipv6 bits _ => some ⟨bytes 16 bits.toNat, by simp [bytes]⟩

section Definitions

variable (qt : Qt) (jvm : Jvm)

def rangeNetwork (range : Value) : Option InetNetwork := do
  let parsed ← Daemon.parseRange qt range
  InetNetwork.create? (← inetAddress parsed.address) parsed.prefixLength

def sent (raw : Object) : List (Option InetNetwork) :=
  ((activate raw).value "allowedIPAddressRanges").toArray.map (rangeNetwork qt)

def sentExclusions (raw : Object) : List Value :=
  ((activate raw).value "excludedAddresses").toArray.tail

def Applies (raw : Object) : Prop :=
  (raw.value "splitTunnelSites").toArray ≠ [] ∧
    ((raw.value "splitTunnelType").toInt = 2 ∨
      (raw.value "splitTunnelType").toInt = 1 ∧
        (isDefaultAllowedIP (allowedIps raw) = true ∨ allowedIps raw = []))

instance (raw : Object) : Decidable (Applies raw) := inferInstanceAs (Decidable (_ ∧ _))

def AppliesOnAndroid (builder : Builder) : Prop :=
  builder.includedAddresses ≠ [] ∨ builder.excludedAddresses ≠ []

def SameMembers {α : Type} (first second : List α) : Prop := ∀ x, x ∈ first ↔ x ∈ second

/-- `routes` are the ones the Android client sets up. -/
structure Outcome where
  raw : Object
  builder : Builder
  routes : List Route

def outcome (tiramisu : Bool) (settings : Settings) (configuration : Object) : Option Outcome := do
  let raw ← (appendSplitTunnelingConfig qt settings configuration).toOption
  let builder ← parseConfig jvm raw
  return ⟨raw, builder, ← (configBuild tiramisu builder).toOption⟩

def included (routes : List Route) : List InetNetwork := (routes.filter (·.included)).map (·.inetNetwork)

def excluded (routes : List Route) : List InetNetwork := (routes.filter (!·.included)).map (·.inetNetwork)

def configured (raw : Object) : List (Option InetNetwork) := (allowedIps raw).map (parseRoute jvm)

def reading (entry : Value) : Option InetNetwork := rangeNetwork qt (textRange entry.toString)

def userSites (settings : Settings) : List String :=
  siteIps qt (settings.vpnSites settings.routeMode)

def siteNetworks (sites : List String) : List (Option InetNetwork) :=
  sites.map (InetNetwork.parse jvm)

/-- The clients agree, and what they have routed is what the mode asks for if the
sites apply, and the list of the config if they do not. -/
structure Decided (settings : Settings) (o : Outcome) : Prop where
  agree : Applies o.raw ↔ AppliesOnAndroid o.builder
  only : Applies o.raw → settings.routeMode = .vpnOnlyForwardSites →
    let sites := siteNetworks jvm (userSites qt settings ++
      [(o.raw.value "dns1").toString, (o.raw.value "dns2").toString])
    SameMembers (sent qt o.raw) sites ∧ sentExclusions o.raw = [] ∧
      SameMembers ((included o.routes).map some) sites ∧ excluded o.routes = []
  except : Applies o.raw → settings.routeMode = .vpnAllExceptSites →
    SameMembers (sent qt o.raw) (defRoutes.map some) ∧
      sentExclusions o.raw = (userSites qt settings).map .string ∧
      (∀ network ∈ defRoutes, network ∈ included o.routes) ∧
      SameMembers ((excluded o.routes).map some) (siteNetworks jvm (userSites qt settings))
  config : ¬ Applies o.raw →
    SameMembers (sent qt o.raw) (configured jvm o.raw) ∧ sentExclusions o.raw = [] ∧
      SameMembers ((included o.routes).map some) (configured jvm o.raw) ∧ excluded o.routes = []

structure SameOutcome (o other : Outcome) : Prop where
  applies : Applies o.raw ↔ Applies other.raw
  applies_android : AppliesOnAndroid o.builder ↔ AppliesOnAndroid other.builder
  sent : SameMembers (sent qt o.raw) (sent qt other.raw)
  exclusions : SameMembers (sentExclusions o.raw) (sentExclusions other.raw)
  routes : SameMembers o.routes other.routes

def withAllowedIps (configuration : Object) (items : List Value) : Object :=
  store configuration (some ((configData configuration).insert "allowed_ips" (.array items)))

def Consistent (settings : Settings) (configuration : Object) : Prop :=
  ∀ tiramisu, ∃ o, outcome qt jvm tiramisu settings configuration = some o ∧
    Decided qt jvm settings o ∧
    ∀ items, items.Perm (allowedIps o.raw) →
      ∃ other, outcome qt jvm tiramisu settings (withAllowedIps configuration items) = some other ∧
        SameOutcome qt o other

/-- Both clients read the entries as the same networks. There are some, ::/0 is
not among them, and none is a loopback network. -/
structure Clear (items : List Value) (routes : List InetNetwork) : Prop where
  read : items.mapM (parseRoute jvm) = some routes
  alike : SameMembers (items.map (reading qt)) (routes.map some)
  some_route : routes ≠ []
  not_default : ipv6DefaultRoute ∉ routes
  outside : ∀ network ∈ routes, isLoopbackRoute ⟨network, true⟩ = false

end Definitions

/-! ## What is appended, and the request of the desktop client -/

section Desktop

variable {qt : Qt} {settings : Settings} {raw : Object} (appended : Appended qt settings raw)

include appended

lemma type_of_appended :
    (raw.value "splitTunnelType").toInt = (wireguardSites qt settings raw).1.code := by
  rw [appended.type]
  cases (wireguardSites qt settings raw).1 <;> rfl

omit appended in
/-- Without both default networks in the config there are no sites. -/
lemma no_sites (missing : containsDefaults (allowedIps raw) = false) :
    (wireguardSites qt settings raw).2 = [] := by
  rw [wireguardSites, sitesConfig, missing]
  split <;> rfl

end Desktop

/-- A list that is neither empty nor the default one is sent as it is. -/
lemma sent_readings {qt : Qt} {raw : Object} (some_entry : allowedIps raw ≠ [])
    (other : isDefaultAllowedIP (allowedIps raw) = false) :
    sent qt raw = (allowedIps raw).map (reading qt) := by
  have listed : (allowedIps raw).isEmpty = false := List.isEmpty_eq_false_iff.mpr some_entry
  have ranges : ((activate raw).value "allowedIPAddressRanges").toArray =
      allowedIPAddresses (allowedIps raw) (raw.value "splitTunnelType").toInt
        (raw.value "splitTunnelSites").toArray := rfl
  rw [sent, ranges, allowedIPAddresses, other, listed]
  exact List.map_map

lemma default_contains {items : List Value} (default : isDefaultAllowedIP items = true) :
    containsText items "::/0" = true := by
  have texts : items.map Value.toString? = [some "0.0.0.0/0", some "::/0"] := beq_iff_eq.mp default
  have by_text : containsText items "::/0" =
      (items.map Value.toString?).any (· == some "::/0") := by
    rw [List.any_map]
    rfl
  rw [by_text, texts]
  rfl

/-! ## The routes of the Android client -/

def builderOf (routes : List InetNetwork) (addresses : List InetNetwork × List InetNetwork) :
    Builder where
  routes := addRoutes routes.eraseDups []
  includedAddresses := addresses.1
  excludedAddresses := addresses.2

lemma parse_eq (jvm : Jvm) (raw : Object) {items : List Value}
    (listed : (configData raw).value "allowed_ips" = .array items) :
    parseConfig jvm raw = (items.mapM (parseRoute jvm)).bind fun routes =>
      (if allowSplitTunneling routes then configSplitTunneling jvm raw else some ([], [])).map
        (builderOf routes) := by
  have data : configData raw =
      (raw.value ((raw.value "protocol").toString ++ "_config_data")).toObject := rfl
  have read : configRoutes jvm (configData raw) = items.mapM (parseRoute jvm) := by
    rw [configRoutes, listed]
  rw [← read]
  rw [data] at listed ⊢
  unfold parseConfig
  cases raw.value ((raw.value "protocol").toString ++ "_config_data") with
  | object entries =>
    change (configRoutes jvm entries).bind _ = (configRoutes jvm entries).bind _
    congr 1
    funext routes
    cases allowSplitTunneling routes with
    | false => rfl
    | true => cases configSplitTunneling jvm raw <;> rfl
  | _ => rfl

/-- Without sites nothing is included or excluded by itself. -/
lemma split_eq {qt : Qt} (jvm : Jvm) {settings : Settings} {raw : Object}
    (appended : Appended qt settings raw) (none : (wireguardSites qt settings raw).2 = []) :
    configSplitTunneling jvm raw = some ([], []) := by
  rw [configSplitTunneling, type_of_appended appended, appended.sites, none]
  cases (wireguardSites qt settings raw).1 <;> rfl

lemma mem_quiet (routes : List InetNetwork) (route : Route) :
    route ∈ (builderOf routes ([], [])).routes ↔
      route.included = true ∧ route.inetNetwork ∈ routes := by
  change route ∈ addAll [] (routes.eraseDups.map fun network => ⟨network, true⟩) ↔ _
  rw [mem_addAll, List.mem_map]
  constructor
  · rintro (none_before | ⟨network, member, rfl⟩)
    · cases none_before
    · exact ⟨rfl, List.mem_eraseDups.mp member⟩
  · rintro ⟨kind, member⟩
    exact Or.inr ⟨route.inetNetwork, List.mem_eraseDups.mpr member, by rw [← kind]⟩

lemma parse_ipv6_default (jvm : Jvm) : parseRoute jvm (.string "::/0") = some ipv6DefaultRoute := by
  have trimmed : trim "::/0" = "::/0" := by decide
  have parts : QtText.split "::/0" "/" = ["::", "0"] := by decide
  rw [parseRoute, trimmed, InetNetwork.parse, parts]
  simp only [List.headD_cons, jvm.ipv6_any, List.getLastD_cons, List.getLastD_nil, jvm.zero]
  rfl

section Entries

variable {qt : Qt} {jvm : Jvm} {settings : Settings} {raw : Object} {items : List Value}
  {routes : List InetNetwork}

lemma default_read (read : items.mapM (parseRoute jvm) = some routes)
    (present : containsText items "::/0" = true) : ipv6DefaultRoute ∈ routes := by
  obtain ⟨entry, member, same⟩ := List.any_eq_true.mp present
  have entry_eq : entry = .string "::/0" := by
    cases entry with
    | string own => rw [Option.some.inj (beq_iff_eq.mp same)]
    | _ => cases beq_iff_eq.mp same
  have listed : some ipv6DefaultRoute ∈ items.map (parseRoute jvm) := by
    rw [← parse_ipv6_default jvm, ← entry_eq]
    exact List.mem_map_of_mem member
  rw [(mapM_eq_some_iff _ _ _).mp read, List.mem_map] at listed
  obtain ⟨found, inside, same⟩ := listed
  rwa [← Option.some.inj same]

lemma mapM_perm {α β : Type} {f : α → Option β} {items others : List α} {results : List β}
    (order : others.Perm items) (read : items.mapM f = some results) :
    ∃ reordered, others.mapM f = some reordered ∧ SameMembers reordered results := by
  rw [mapM_eq_some_iff] at read
  have mapped : (others.map f).Perm (results.map some) := read ▸ order.map f
  refine ⟨(others.map f).reduceOption, ?_, fun result => ?_⟩
  · rw [mapM_eq_some_iff]
    symm
    rw [List.reduceOption, List.map_filterMap_some_eq_filter_map_isSome, List.map_id,
      List.filter_eq_self]
    intro result member
    obtain ⟨found, -, rfl⟩ := List.mem_map.mp (mapped.mem_iff.mp member)
    rfl
  · rw [List.reduceOption_mem_iff, mapped.mem_iff, List.mem_map]
    simp

lemma Clear.reordered (clear : Clear qt jvm items routes) {others : List Value}
    (order : others.Perm items) :
    ∃ reordered, SameMembers reordered routes ∧ Clear qt jvm others reordered := by
  obtain ⟨reordered, read, members⟩ := mapM_perm order clear.read
  refine ⟨reordered, members, read, fun network => ?_, fun empty => ?_, ?_, fun network member => ?_⟩
  · rw [(order.map _).mem_iff, clear.alike network, List.mem_map, List.mem_map]
    simp [members _]
  · obtain ⟨route, member⟩ := List.exists_mem_of_ne_nil _ clear.some_route
    have inside := (members route).mpr member
    rw [empty] at inside
    cases inside
  · rw [members]
    exact clear.not_default
  · exact clear.outside network ((members network).mp member)

/-- Without ::/0 the routes are those of the config, and only the loopback ones are
left out. -/
lemma quiet_listed (absent : ipv6DefaultRoute ∉ routes) :
    listed (builderOf routes ([], [])) = (builderOf routes ([], [])).routes := by
  have split : splitRoutes (builderOf routes ([], [])) = (builderOf routes ([], [])).routes := rfl
  rw [listed, split, replaceIpv6Default, if_neg]
  rw [mem_quiet]
  exact fun member => absent member.2

lemma Clear.kept (clear : Clear qt jvm items routes) :
    kept (builderOf routes ([], [])) = (builderOf routes ([], [])).routes := by
  rw [ProtocolConfig.kept, quiet_listed clear.not_default, List.filter_eq_self]
  intro route member
  obtain ⟨kind, inside⟩ := (mem_quiet routes route).mp member
  have outside := clear.outside _ inside
  rw [← kind] at outside
  rw [outside]
  rfl

structure Settled (qt : Qt) (jvm : Jvm) (settings : Settings) (raw : Object) (items : List Value)
    (routes : List InetNetwork) : Prop where
  appended : Appended qt settings raw
  listed : (configData raw).value "allowed_ips" = .array items
  read : items.mapM (parseRoute jvm) = some routes
  not_default : ipv6DefaultRoute ∉ routes

lemma Settled.entries (settled : Settled qt jvm settings raw items routes) :
    allowedIps raw = items := by
  rw [allowedIps, settled.listed]
  rfl

lemma Settled.missing (settled : Settled qt jvm settings raw items routes) :
    containsText (allowedIps raw) "::/0" = false := by
  rw [settled.entries, Bool.eq_false_iff]
  exact fun present => settled.not_default (default_read settled.read present)

lemma Settled.no_defaults (settled : Settled qt jvm settings raw items routes) :
    containsDefaults (allowedIps raw) = false := by
  rw [containsDefaults, settled.missing, Bool.and_false]

/-- Without ::/0 in the config the sites are left out. -/
lemma Settled.parsed (settled : Settled qt jvm settings raw items routes) :
    parseConfig jvm raw = some (builderOf routes ([], [])) := by
  rw [parse_eq jvm raw settled.listed, settled.read, Option.bind_some,
    split_eq jvm settled.appended (no_sites settled.no_defaults)]
  split <;> rfl

lemma Settled.sent (settled : Settled qt jvm settings raw items routes) (some_route : routes ≠ []) :
    sent qt raw = items.map (reading qt) := by
  rw [← settled.entries]
  apply sent_readings
  · intro empty
    have read := settled.read
    rw [← settled.entries, empty] at read
    cases read
    exact some_route rfl
  · rw [Bool.eq_false_iff]
    intro default
    have present := default_contains default
    rw [settled.missing] at present
    cases present

lemma Settled.configured (settled : Settled qt jvm settings raw items routes) :
    configured jvm raw = routes.map some := by
  rw [SiteDecision.configured, settled.entries]
  exact (mapM_eq_some_iff _ _ _).mp settled.read

variable {tiramisu : Bool} {configuration : Object}

end Entries

/-! ## Two configs -/

def oneSite (mode : RouteMode) : Settings where
  isSitesSplitTunnelingEnabled := true
  routeMode := mode
  vpnSites _ := [("192.0.2.7", [])]
  isAppsSplitTunnelingEnabled := false
  appsRouteMode := .vpnAllApps
  vpnApps _ := []

def site : InetNetwork := .single ⟨[192, 0, 2, 7].map UInt8.ofNat, Or.inl rfl⟩

end AbstractumVpn.SiteDecision
