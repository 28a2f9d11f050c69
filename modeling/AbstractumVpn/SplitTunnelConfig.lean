import AbstractumVpn.AppSettings
import AbstractumVpn.Json

/-!
`VpnConnection::appendSplitTunnelingConfig`: what a connection's configuration
says about split tunnelling. Old native configs have the allowed addresses in
one text, or only in the lines of the native config. `QStringList::at` with an
index that is not there stops the program.
-/

namespace AbstractumVpn.SplitTunnelConfig

open AppSettings Json

inductive Crash where
  | outOfRange
  deriving DecidableEq

inductive AppsRouteMode where
  | vpnAllApps
  | vpnOnlyForwardApps
  | vpnAllExceptApps
  deriving DecidableEq

def AppsRouteMode.code : AppsRouteMode → Nat
  | .vpnAllApps => 0
  | .vpnOnlyForwardApps => 1
  | .vpnAllExceptApps => 2

structure InstalledAppInfo where
  packageName : String
  appPath : String

/-- What the settings repository answers. -/
structure Settings where
  isSitesSplitTunnelingEnabled : Bool
  routeMode : RouteMode
  vpnSites : RouteMode → Sites
  isAppsSplitTunnelingEnabled : Bool
  appsRouteMode : AppsRouteMode
  vpnApps : AppsRouteMode → List InstalledAppInfo

def texts (list : List String) : Value := .array (list.map .string)

def nativeLine (configData : Object) (word : String) : Option String :=
  (QtText.split (configData.value "config").toString "\n").find? fun line =>
    decide (word.toList <:+: line.toList)

/-- The config data with the allowed addresses in an array, if that changes it.
`split` gives one piece at least, so the test of its size before `at(1)` always
passes. -/
def splitAllowedIps (configData : Object) : Except Crash (Option Object) :=
  match configData.value "allowed_ips" with
  | .string text => .ok (some (configData.insert "allowed_ips" (texts (QtText.split text ", "))))
  | .undefined =>
    match nativeLine configData "AllowedIPs" with
    | none => .ok none
    | some line =>
      match QtText.split line " = " with
      | _ :: allowedIps :: _ =>
        .ok (some (configData.insert "allowed_ips" (texts (QtText.split allowedIps ", "))))
      | _ => .error .outOfRange
  | _ => .ok none

def addKeepAlive (configData : Object) : Option Object :=
  match configData.value "persistent_keep_alive" with
  | .undefined =>
    match (nativeLine configData "PersistentKeepalive").map (QtText.split · " = ") with
    | some (_ :: keepAlive :: _) =>
      some (configData.insert "persistent_keep_alive" (.string keepAlive))
    | _ => none
  | _ => none

def dataKey (configuration : Object) : String :=
  (configuration.value "protocol").toString ++ "_config_data"

def configData (configuration : Object) : Object :=
  (configuration.value (dataKey configuration)).toObject

def store (configuration : Object) (changed : Option Object) : Object :=
  match changed with
  | some data => configuration.insert (dataKey configuration) (.object data)
  | none => configuration

def complete (configuration : Object) : Except Crash Object := do
  let configuration := store configuration (← splitAllowedIps (configData configuration))
  return store configuration (addKeepAlive (configData configuration))

def isWireguard (configuration : Object) : Bool :=
  let protocolName := (configuration.value "protocol").toString
  protocolName == "awg" || protocolName == "wireguard"

def allowedIps (configuration : Object) : List Value :=
  ((configData configuration).value "allowed_ips").toArray

def containsText (items : List Value) (text : String) : Bool :=
  items.any fun item => item.toString? == some text

def containsDefaults (items : List Value) : Bool :=
  containsText items "0.0.0.0/0" && containsText items "::/0"

variable (qt : Qt)

def sitesConfig (settings : Settings) (allowSiteBasedSplitTunneling : Bool) (dns1 dns2 : String) :
    RouteMode × List String :=
  if settings.isSitesSplitTunnelingEnabled then
    if allowSiteBasedSplitTunneling then
      let sites := siteIps qt (settings.vpnSites settings.routeMode)
      if sites = [] then (.vpnAllSites, [])
      else if settings.routeMode = .vpnOnlyForwardSites then
        (settings.routeMode, sites ++ [dns1, dns2])
      else (settings.routeMode, sites)
    else (settings.routeMode, [])
  else (.vpnAllSites, [])

def appsConfig (settings : Settings) : AppsRouteMode × List String :=
  if settings.isAppsSplitTunnelingEnabled then
    let apps := (settings.vpnApps settings.appsRouteMode).map fun app =>
      if app.appPath = "" then app.packageName else app.appPath
    if apps = [] then (.vpnAllApps, []) else (settings.appsRouteMode, apps)
  else (.vpnAllApps, [])

def addSplitTunneling (settings : Settings) (configuration : Object) : Object :=
  let sites := sitesConfig qt settings
    (!isWireguard configuration || containsDefaults (allowedIps configuration))
    (configuration.value "dns1").toString (configuration.value "dns2").toString
  let apps := appsConfig settings
  (((configuration.insert "splitTunnelType" (.double sites.1.code)).insert
    "splitTunnelSites" (texts sites.2)).insert
    "appSplitTunnelType" (.double apps.1.code)).insert
    "splitTunnelApps" (texts apps.2)

def appendSplitTunnelingConfig (settings : Settings) (configuration : Object) :
    Except Crash Object :=
  if isWireguard configuration then do
    return addSplitTunneling qt settings (← complete configuration)
  else .ok (addSplitTunneling qt settings configuration)

lemma store_value (configuration : Object) (changed : Option Object) {key : String}
    (other : key ≠ dataKey configuration) :
    (store configuration changed).value key = configuration.value key := by
  cases changed with
  | none => rfl
  | some data => exact Object.value_insert_other _ _ _ _ other

lemma add_value (settings : Settings) (configuration : Object) {key : String}
    (other : key ∉ ["splitTunnelType", "splitTunnelSites", "appSplitTunnelType",
      "splitTunnelApps"]) :
    (addSplitTunneling qt settings configuration).value key = configuration.value key := by
  simp only [List.mem_cons, List.not_mem_nil, or_false, not_or] at other
  obtain ⟨site_type, sites, app_type, apps⟩ := other
  rw [addSplitTunneling, Object.value_insert_other _ _ _ _ apps,
    Object.value_insert_other _ _ _ _ app_type, Object.value_insert_other _ _ _ _ sites,
    Object.value_insert_other _ _ _ _ site_type]

lemma add_key (settings : Settings) (configuration : Object) :
    dataKey (addSplitTunneling qt settings configuration) = dataKey configuration := by
  rw [dataKey, add_value qt settings configuration (by decide), dataKey]

def wireguardSites (settings : Settings) (configuration : Object) : RouteMode × List String :=
  sitesConfig qt settings (containsDefaults (allowedIps configuration))
    (configuration.value "dns1").toString (configuration.value "dns2").toString

/-- The split-tunnel entries of a WireGuard config are the ones that the rest of it asks
for. -/
structure Appended (settings : Settings) (raw : Object) : Prop where
  wireguard : isWireguard raw = true
  type : raw.value "splitTunnelType" = .double (wireguardSites qt settings raw).1.code
  sites : raw.value "splitTunnelSites" = texts (wireguardSites qt settings raw).2

section Append

variable {configuration : Object} (wireguard : isWireguard configuration = true)

include wireguard

lemma data_key_cases :
    dataKey configuration = "awg_config_data" ∨ dataKey configuration = "wireguard_config_data" := by
  rw [isWireguard, Bool.or_eq_true, beq_iff_eq, beq_iff_eq] at wireguard
  rcases wireguard with name | name
  · left
    rw [dataKey, name]
    rfl
  · right
    rw [dataKey, name]
    rfl

lemma other_key {key : String} (awg : key ≠ "awg_config_data")
    (plain : key ≠ "wireguard_config_data") : key ≠ dataKey configuration := by
  rcases data_key_cases wireguard with same | same
  · rwa [same]
  · rwa [same]

variable (changed : Option Object)

lemma store_key : dataKey (store configuration changed) = dataKey configuration := by
  rw [dataKey, store_value configuration changed (other_key wireguard (by decide) (by decide)),
    dataKey]

lemma store_wireguard : isWireguard (store configuration changed) = true := by
  rwa [isWireguard, store_value configuration changed (other_key wireguard (by decide) (by decide))]

lemma store_data :
    configData (store configuration changed) = changed.getD (configData configuration) := by
  rw [configData, store_key wireguard]
  cases changed with
  | none => rfl
  | some data =>
    rw [store, Object.value_insert_self]
    rfl

lemma complete_frame {completed : Object} (made : complete configuration = .ok completed) :
    isWireguard completed = true ∧ dataKey completed = dataKey configuration ∧
      ∀ key, key ≠ dataKey configuration → completed.value key = configuration.value key := by
  cases split : splitAllowedIps (configData configuration) with
  | error crash =>
    rw [complete, split] at made
    cases made
  | ok changed =>
    rw [complete, split] at made
    cases made
    have first := store_wireguard wireguard changed
    refine ⟨store_wireguard first _, ?_, fun key other => ?_⟩
    · rw [store_key first, store_key wireguard]
    · rw [store_value _ _ (by rwa [store_key wireguard]), store_value _ _ other]

omit wireguard in
lemma keepAlive_allowed (data : Object) :
    ((addKeepAlive data).getD data).value "allowed_ips" = data.value "allowed_ips" := by
  rw [addKeepAlive]
  split
  · split
    · exact Object.value_insert_other _ _ _ _ (by decide)
    · rfl
  · rfl

lemma complete_allowed {changed : Option Object}
    (split : splitAllowedIps (configData configuration) = .ok changed) :
    ∃ completed, complete configuration = .ok completed ∧
      (configData completed).value "allowed_ips" =
        (changed.getD (configData configuration)).value "allowed_ips" := by
  refine ⟨_, by rw [complete, split]; rfl, ?_⟩
  rw [store_data (store_wireguard wireguard changed), keepAlive_allowed, store_data wireguard]

lemma add_data (settings : Settings) :
    configData (addSplitTunneling qt settings configuration) = configData configuration := by
  rw [configData, add_key, configData]
  rcases data_key_cases wireguard with same | same
  · rw [same, add_value qt settings configuration (by decide)]
  · rw [same, add_value qt settings configuration (by decide)]

lemma add_type (settings : Settings) :
    (addSplitTunneling qt settings configuration).value "splitTunnelType" =
      .double (wireguardSites qt settings configuration).1.code := by
  rw [addSplitTunneling, Object.value_insert_other _ _ _ _ (by decide),
    Object.value_insert_other _ _ _ _ (by decide), Object.value_insert_other _ _ _ _ (by decide),
    Object.value_insert_self, wireguard]
  rfl

lemma add_sites (settings : Settings) :
    (addSplitTunneling qt settings configuration).value "splitTunnelSites" =
      texts (wireguardSites qt settings configuration).2 := by
  rw [addSplitTunneling, Object.value_insert_other _ _ _ _ (by decide),
    Object.value_insert_other _ _ _ _ (by decide), Object.value_insert_self, wireguard]
  rfl

lemma append_ok_iff (settings : Settings) (raw : Object) :
    appendSplitTunnelingConfig qt settings configuration = .ok raw ↔
      ∃ completed, complete configuration = .ok completed ∧
        addSplitTunneling qt settings completed = raw := by
  rw [appendSplitTunnelingConfig, if_pos wireguard]
  cases complete configuration with
  | error crash => simp
  | ok completed => simp

end Append

end AbstractumVpn.SplitTunnelConfig
