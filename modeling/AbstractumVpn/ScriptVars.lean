import AbstractumVpn.AdminServerConfig
import AbstractumVpn.ScriptsRegistry
import AbstractumVpn.Substitution

/-!
`SshSession::replaceVars`: the variables of `genBaseVars` and
`genProtocolVarsForContainer` are replaced in a script one after the other, each
in the text that the ones before it have left. Their values come from the user.
-/

namespace AbstractumVpn.ScriptVars

open AdminServerConfig (ServerCredentials)
open ContainerUtils ScriptsRegistry SiteRoutes Substitution XrayServerConfig

def genBaseVars (getIPAddress : String → String) (credentials : ServerCredentials)
    (container : DockerContainer) (primaryDns secondaryDns : String) : ScriptVars :=
  let serverIp :=
    if !isAwgContainer container && container ≠ .wireGuard && container ≠ .xray then
      getIPAddress credentials.hostName
    else credentials.hostName
  [("$REMOTE_HOST", credentials.hostName), ("$CONTAINER_NAME", containerToString container),
      ("$DOCKERFILE_FOLDER", "/opt/amnezia/" ++ containerToString container)] ++
    (if serverIp = "" then [] else [("$SERVER_IP_ADDRESS", serverIp)]) ++
    [("$PRIMARY_SERVER_DNS", orDefault primaryDns "8.8.8.8"),
      ("$SECONDARY_SERVER_DNS", orDefault secondaryDns "8.8.4.4"),
      ("$IPSEC_VPN_L2TP_NET", "192.168.42.0/24"),
      ("$IPSEC_VPN_L2TP_POOL", "192.168.42.10-192.168.42.250"),
      ("$IPSEC_VPN_L2TP_LOCAL", "192.168.42.1"), ("$IPSEC_VPN_XAUTH_NET", "192.168.43.0/24"),
      ("$IPSEC_VPN_XAUTH_POOL", "192.168.43.10-192.168.43.250"),
      ("$IPSEC_VPN_SHA2_TRUNCBUG", "yes"), ("$IPSEC_VPN_VPN_ANDROID_MTU_FIX", "yes"),
      ("$IPSEC_VPN_DISABLE_IKEV2", "no"), ("$IPSEC_VPN_DISABLE_L2TP", "no"),
      ("$IPSEC_VPN_DISABLE_XAUTH", "no"), ("$IPSEC_VPN_C2C_TRAFFIC", "no")]

def scriptVars (getIPAddress : String → String) (credentials : ServerCredentials)
    (container : DockerContainer) (primaryDns secondaryDns : String) (config : ProtocolConfig) :
    ScriptVars :=
  genBaseVars getIPAddress credentials container primaryDns secondaryDns ++
    genProtocolVarsForContainer container config

def replace (s before after : String) : String :=
  String.ofList (replaceAll before.toList after.toList s.toList)

def replaceVars (script : String) (vars : ScriptVars) : String :=
  vars.foldl (fun s var => replace s var.1 var.2) script

def baseNames : List String :=
  ["$REMOTE_HOST", "$CONTAINER_NAME", "$DOCKERFILE_FOLDER", "$SERVER_IP_ADDRESS",
    "$PRIMARY_SERVER_DNS", "$SECONDARY_SERVER_DNS", "$IPSEC_VPN_L2TP_NET", "$IPSEC_VPN_L2TP_POOL",
    "$IPSEC_VPN_L2TP_LOCAL", "$IPSEC_VPN_XAUTH_NET", "$IPSEC_VPN_XAUTH_POOL",
    "$IPSEC_VPN_SHA2_TRUNCBUG", "$IPSEC_VPN_VPN_ANDROID_MTU_FIX", "$IPSEC_VPN_DISABLE_IKEV2",
    "$IPSEC_VPN_DISABLE_L2TP", "$IPSEC_VPN_DISABLE_XAUTH", "$IPSEC_VPN_C2C_TRAFFIC"]

def protocolNames : List String :=
  ["$OPENVPN_SUBNET_IP", "$OPENVPN_SUBNET_CIDR", "$OPENVPN_SUBNET_MASK", "$OPENVPN_PORT",
    "$OPENVPN_TRANSPORT_PROTO", "$OPENVPN_NCP_DISABLE", "$OPENVPN_CIPHER", "$OPENVPN_HASH",
    "$OPENVPN_TLS_AUTH", "$OPENVPN_TA_KEY", "$OPENVPN_ADDITIONAL_CLIENT_CONFIG",
    "$OPENVPN_ADDITIONAL_SERVER_CONFIG", "$XRAY_SITE_NAME", "$XRAY_SERVER_PORT",
    "$WIREGUARD_SUBNET_IP", "$AWG_SUBNET_IP", "$WIREGUARD_SUBNET_CIDR", "$WIREGUARD_SERVER_PORT",
    "$AWG_SERVER_PORT", "$JUNK_PACKET_COUNT", "$JUNK_PACKET_MIN_SIZE", "$JUNK_PACKET_MAX_SIZE",
    "$INIT_PACKET_JUNK_SIZE", "$RESPONSE_PACKET_JUNK_SIZE", "$INIT_PACKET_MAGIC_HEADER",
    "$RESPONSE_PACKET_MAGIC_HEADER", "$UNDERLOAD_PACKET_MAGIC_HEADER",
    "$TRANSPORT_PACKET_MAGIC_HEADER", "$COOKIE_REPLY_PACKET_JUNK_SIZE",
    "$TRANSPORT_PACKET_JUNK_SIZE", "$SPECIAL_JUNK_1", "$SPECIAL_JUNK_2", "$SPECIAL_JUNK_3",
    "$SPECIAL_JUNK_4", "$SPECIAL_JUNK_5", "$SFTP_PORT", "$SFTP_USER", "$SFTP_PASSWORD",
    "$SOCKS5_PROXY_PORT", "$SOCKS5_USER", "$SOCKS5_AUTH_TYPE", "$MTPROXY_PORT", "$MTPROXY_SECRET",
    "$MTPROXY_REGENERATE_SECRET", "$MTPROXY_TAG", "$MTPROXY_TRANSPORT_MODE", "$MTPROXY_TLS_DOMAIN",
    "$MTPROXY_PUBLIC_HOST", "$MTPROXY_ADDITIONAL_SECRETS", "$MTPROXY_WORKERS",
    "$MTPROXY_NAT_ENABLED", "$MTPROXY_NAT_INTERNAL_IP", "$MTPROXY_NAT_EXTERNAL_IP",
    "$TELEMT_TOML_SECURE", "$TELEMT_TOML_TLS", "$TELEMT_PORT", "$TELEMT_SECRET",
    "$TELEMT_REGENERATE_SECRET", "$TELEMT_TAG", "$TELEMT_TLS_DOMAIN", "$TELEMT_PUBLIC_HOST",
    "$TELEMT_USER_NAME", "$TELEMT_USE_MIDDLE_PROXY", "$TELEMT_MASK", "$TELEMT_TLS_EMULATION",
    "$TELEMT_ADDITIONAL_SECRETS"]

lemma map_toList_cons (name : List Char) {names : List String} {chars : List (List Char)}
    (rest : names.map String.toList = chars) :
    (String.ofList name :: names).map String.toList = name :: chars := by
  rw [List.map_cons, String.toList_ofList, rest]

lemma plain_of_chars {names : List String} {chars : List (List Char)}
    (same : names.map String.toList = chars) (plain : Plain '$' chars) :
    Plain '$' (names.map String.toList) := same ▸ plain

lemma names_plain : Plain '$' ((baseNames ++ protocolNames).map String.toList) := by
  apply plain_of_chars
  · repeat' apply map_toList_cons
    exact List.map_nil
  · constructor
    · decide +kernel
    · decide +kernel
    · decide +kernel

lemma optional_name (omitted : Prop) [Decidable omitted] (name value : String) :
    ((if omitted then [] else [(name, value)]).map Prod.fst).Sublist [name] := by
  split
  · exact List.nil_sublist [name]
  · exact List.Sublist.refl [name]

lemma base_names (getIPAddress : String → String) (credentials : ServerCredentials)
    (container : DockerContainer) (primaryDns secondaryDns : String) :
    ((genBaseVars getIPAddress credentials container primaryDns secondaryDns).map
      Prod.fst).Sublist baseNames := by
  change List.Sublist _ (baseNames.take 3 ++ ["$SERVER_IP_ADDRESS"] ++ baseNames.drop 4)
  rw [genBaseVars, List.map_append, List.map_append]
  exact ((List.Sublist.refl _).append (optional_name _ _ _)).append (List.Sublist.refl _)

lemma openVpn_names (config : OpenVpnServerConfig) :
    ((genOpenVpnVars (.openVpn config)).map Prod.fst).Sublist protocolNames := by
  change List.Sublist _ (protocolNames.take 9 ++ ["$OPENVPN_TA_KEY"] ++ protocolNames.drop 10)
  rw [genOpenVpnVars, List.map_append, List.map_append]
  apply ((List.Sublist.refl _).append (optional_name _ _ _)).append
  exact List.sublist_append_left _ (protocolNames.drop 12)

lemma protocol_names (container : DockerContainer) (config : ProtocolConfig) :
    ((genProtocolVarsForContainer container config).map Prod.fst).Sublist protocolNames := by
  unfold genProtocolVarsForContainer
  -- the variables of a protocol are there for a config of that protocol only
  split <;> cases config
  case h_1.openVpn config => exact openVpn_names config
  -- the other tables are fixed: each name is kept or passed
  all_goals
    repeat first
      | exact List.nil_sublist _
      | apply List.Sublist.cons_cons
      | apply List.Sublist.cons

def charVars (vars : ScriptVars) : List (List Char × List Char) :=
  vars.map fun var => (var.1.toList, var.2.toList)

def ofCharVars (vars : List (List Char × List Char)) : ScriptVars :=
  vars.map fun var => (String.ofList var.1, String.ofList var.2)

lemma ofCharVars_charVars (vars : ScriptVars) : ofCharVars (charVars vars) = vars := by
  rw [ofCharVars, charVars, List.map_map]
  exact (List.map_congr_left fun var _ => by simp).trans (List.map_id vars)

lemma charVars_ofCharVars (vars : List (List Char × List Char)) :
    charVars (ofCharVars vars) = vars := by
  rw [ofCharVars, charVars, List.map_map]
  exact (List.map_congr_left fun var _ => by simp).trans (List.map_id vars)

lemma replaceVars_toList (script : String) (vars : ScriptVars) :
    (replaceVars script vars).toList = replaceEach (charVars vars) script.toList := by
  induction vars generalizing script with
  | nil => rfl
  | cons var vars ih =>
    rw [replaceVars, List.foldl_cons]
    apply (ih _).trans
    rw [replace, String.toList_ofList]
    rfl

/-- Where the characters of the result come from: the script or the value of a variable. -/
def replacedInTurn (script : String) (vars : ScriptVars) : List (Traced Char) :=
  traceEach (charVars vars) script.toList

def replacedAtOnce (script : String) (vars : ScriptVars) : List (Traced Char) :=
  simultaneous (charVars vars) script.toList

/-- No variable's name appears when all the others are replaced. -/
def NoNameAppears (script : String) (vars : ScriptVars) : Prop :=
  Stable (charVars vars) script.toList

lemma scriptVars_plain (getIPAddress : String → String) (credentials : ServerCredentials)
    (container : DockerContainer) (primaryDns secondaryDns : String) (config : ProtocolConfig) :
    Plain '$' ((charVars (scriptVars getIPAddress credentials container primaryDns secondaryDns
      config)).map Prod.fst) := by
  have names : ((scriptVars getIPAddress credentials container primaryDns secondaryDns
      config).map Prod.fst).Sublist (baseNames ++ protocolNames) := by
    rw [scriptVars, List.map_append]
    exact (base_names _ _ _ _ _).append (protocol_names _ _)
  apply names_plain.of_sublist
  have chars := names.map String.toList
  rw [List.map_map] at chars
  rw [charVars, List.map_map]
  exact chars

theorem vars_replaced_at_once_iff (getIPAddress : String → String) (credentials : ServerCredentials)
    (container : DockerContainer) (primaryDns secondaryDns : String) (config : ProtocolConfig)
    (script : String) :
    let vars := scriptVars getIPAddress credentials container primaryDns secondaryDns config
    (∀ order : ScriptVars, order.Perm vars →
      (replaceVars script order).toList = (replacedAtOnce script vars).map Prod.fst ∧
        replacedInTurn script order = replacedAtOnce script vars) ↔ NoNameAppears script vars := by
  intro vars
  have plain := scriptVars_plain getIPAddress credentials container primaryDns secondaryDns config
  apply Iff.trans _ (every_order_iff plain script.toList)
  constructor
  · intro all order perm
    have strings : (ofCharVars order).Perm vars := by
      have mapped := perm.map fun var => (String.ofList var.1, String.ofList var.2)
      exact mapped.trans (.of_eq (ofCharVars_charVars vars))
    have traced := (all (ofCharVars order) strings).2
    rwa [replacedInTurn, charVars_ofCharVars] at traced
  · intro all order perm
    have traced := all (charVars order) (perm.map _)
    constructor
    · rw [replaceVars_toList, ← traceEach_text, traced]
      rfl
    · exact traced

lemma charVars_cons (name : List Char) (value : String) {vars : ScriptVars}
    {chars : List (List Char × List Char)} (rest : charVars vars = chars) :
    charVars ((String.ofList name, value) :: vars) = (name, value.toList) :: chars := by
  rw [charVars, List.map_cons, String.toList_ofList]
  exact congrArg ((name, value.toList) :: ·) rest

lemma texts_of_chars {vars : ScriptVars} {chars : List (List Char × List Char)}
    {text inTurn atOnce inReverse : List Char} (same : charVars vars = chars)
    (turns : replaceEach chars text = inTurn)
    (once : (simultaneous chars text).map Prod.fst = atOnce)
    (backwards : replaceEach chars.reverse text = inReverse) :
    replaceVars (String.ofList text) vars = String.ofList inTurn ∧
      String.ofList ((replacedAtOnce (String.ofList text) vars).map Prod.fst) =
        String.ofList atOnce ∧
      replaceVars (String.ofList text) vars.reverse = String.ofList inReverse := by
  subst same
  rw [replacedAtOnce, String.toList_ofList, once, ← turns, ← backwards]
  refine ⟨?_, rfl, ?_⟩
  · rw [← String.toList_inj, replaceVars_toList, String.toList_ofList, String.toList_ofList]
  · rw [← String.toList_inj, replaceVars_toList, String.toList_ofList, String.toList_ofList,
      charVars, List.map_reverse]
    rfl

/-- A user name is replaced by the password when it is the name of that variable. -/
theorem user_name_replaced :
    let credentials : ServerCredentials := ⟨"198.51.100.7", "root", "key", 22⟩
    let vars := scriptVars id credentials .sftp "" "" (.sftp ⟨"222", "$SFTP_PASSWORD", "secret"⟩)
    replaceVars "adduser $SFTP_USER" vars = "adduser secret" ∧
      String.ofList ((replacedAtOnce "adduser $SFTP_USER" vars).map Prod.fst) =
        "adduser $SFTP_PASSWORD" ∧
      replaceVars "adduser $SFTP_USER" vars.reverse = "adduser $SFTP_PASSWORD" := by
  apply texts_of_chars
  · repeat' apply charVars_cons
    exact List.map_nil
  · decide +kernel
  · decide +kernel
  · decide +kernel

end AbstractumVpn.ScriptVars
