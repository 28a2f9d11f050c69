import AbstractumVpn.Serialization
import AbstractumVpn.XrayReconfiguration

/-!
`ExportController::generateXrayConfig`: the config of an Xray client is turned
into a `vless` link, by way of an object that holds what the link can say. The
link is then read by the deserialiser of share links. A URL is written and read
without loss.
-/

namespace AbstractumVpn.ExportController

open Json Serialization XrayServerConfig XrayConfigurator Vless

structure VlessServerObject where
  address : String
  id : String
  port : Int
  flow : String := "xtls-rprx-vision"
  encryption : String := "none"
  network : String := "tcp"
  security : String := "reality"
  serverName : String := ""
  publicKey : String := ""
  shortId : String := ""
  fingerprint : String := "chrome"
  spiderX : String := ""

/-! ## Writing a link -/

structure UrlParts where
  scheme : String
  userInfo : String
  host : String
  port : Int
  query : List (String × String)
  fragment : String

def itemIf (condition : Bool) (text : String) : Option String :=
  if condition && text ≠ "" then some text else none

def queryFields (server : VlessServerObject) : List (String × Option String) :=
  let reality := decide (server.security = "reality")
  [("type", itemIf (server.network ≠ "tcp") server.network),
    ("encryption", itemIf true server.encryption),
    ("security", itemIf (server.security ≠ "none") server.security),
    ("flow", itemIf (server.security = "xtls" || reality) server.flow),
    ("sni", itemIf true server.serverName),
    ("fp", itemIf reality server.fingerprint),
    ("pbk", itemIf reality server.publicKey),
    ("sid", itemIf reality server.shortId),
    ("spiderX", itemIf reality server.spiderX)]

/-- `QUrl::setPort`, which takes no port where the number is none. -/
def setPort (port : Int) : Int := if 0 ≤ port ∧ port ≤ 65535 then port else -1

lemma setPort_ne_iff (port : Int) : setPort port ≠ -1 ↔ 0 ≤ port ∧ port ≤ 65535 := by
  unfold setPort
  split <;> omega

def serialize (server : VlessServerObject) (aliasName : String) : UrlParts where
  scheme := "vless"
  userInfo := server.id
  host := server.address
  port := setPort server.port
  query := AssocList.present (queryFields server)
  fragment := aliasName

/-- The security of the object decides which section is read. The list of protocols of TLS has no
place in the object. -/
def withSecurity (streamSettings : Object) (server : VlessServerObject) : VlessServerObject :=
  if server.security = "reality" then
    let realitySettings := (streamSettings.value "realitySettings").toObject
    { server with
      serverName := (realitySettings.value "serverName").toString
      publicKey := (realitySettings.value "publicKey").toString
      shortId := (realitySettings.value "shortId").toString
      fingerprint := stringOr (realitySettings.value "fingerprint") "chrome"
      spiderX := (realitySettings.value "spiderX").toString }
  else if server.security = "tls" then
    let tlsSettings := (streamSettings.value "tlsSettings").toObject
    { server with
      serverName := (tlsSettings.value "serverName").toString
      fingerprint := (tlsSettings.value "fingerprint").toString }
  else server

/-- Nothing if there is no outbound, no server or no user. -/
def vlessServer (xrayConfig : Object) : Option VlessServerObject := do
  let outbound ← (xrayConfig.value "outbounds").toArray.head?.map Value.toObject
  let settings := (outbound.value "settings").toObject
  let streamSettings := (outbound.value "streamSettings").toObject
  let server ← (settings.value "vnext").toArray.head?.map Value.toObject
  let user ← (server.value "users").toArray.head?.map Value.toObject
  return withSecurity streamSettings
    { address := (server.value "address").toString
      port := (server.value "port").toInt
      id := (user.value "id").toString
      flow := stringOr (user.value "flow") "xtls-rprx-vision"
      encryption := stringOr (user.value "encryption") "none"
      network := stringOr (streamSettings.value "network") "tcp"
      security := stringOr (streamSettings.value "security") "reality" }

def generateXrayConfig (toText : UrlParts → String) (xrayConfig : Object) : Option String :=
  (vlessServer xrayConfig).map fun server => toText (serialize server "AbstractumVPN")

/-- A URL is read as it was written, and a value that has been read has no encoding left. -/
structure Inverse (toText : UrlParts → String) (readers : Readers) (parts : UrlParts) : Prop where
  scheme : ImportController.startsWith (toText parts) "vless://" = true
  isValid : (readers.url (toText parts)).isValid = true
  host : (readers.url (toText parts)).host = parts.host
  port : (readers.url (toText parts)).port = parts.port
  userInfo : (readers.url (toText parts)).userInfo = parts.userInfo
  query : (readers.url (toText parts)).query = parts.query
  decoded : ∀ entry ∈ parts.query, readers.fromPercentEncoding entry.2 = entry.2

/-! ## The object of a client config -/

def clientObject (hostName : String) (srv : Config) (clientId publicKey shortId : String) :
    VlessServerObject :=
  let named := decide (srv.security = "reality" ∨ srv.security = "tls")
  let reality := decide (srv.security = "reality")
  { address := hostName
    id := clientId
    port := clientPort srv
    flow := orDefault srv.flow "xtls-rprx-vision"
    network := network srv.transport
    security := srv.security
    serverName := if named then orDefault srv.sni defaultSni else ""
    publicKey := if reality then publicKey else ""
    shortId := if reality then shortId else ""
    fingerprint := if named then orDefault srv.fingerprint defaultFingerprint else "chrome" }

lemma clientStream_reality (srv : Config) (publicKey shortId key : String)
    (reality : srv.security = "reality") :
    (Object.value (clientStream srv publicKey shortId) "realitySettings").toObject.value key =
      if key = "spiderX" then .string "" else if key = "shortId" then .string shortId
      else if key = "publicKey" then .string publicKey else Object.value (realitySettings srv) key := by
  rw [clientStream, if_pos reality, value_put_self, Value.toObject, stream_reality, if_pos reality]
  simp only [Object.value, lookup_put]
  split
  · rfl
  · split
    · rfl
    · split <;> rfl

lemma clientStream_tls (srv : Config) (publicKey shortId : String) :
    (Object.value (clientStream srv publicKey shortId) "tlsSettings").toObject =
      if srv.security = "tls" then tlsSettings srv else [] := by
  rw [value_clientStream _ _ _ _ (by decide), stream_tls]

lemma vlessServer_built (hostName : String) (srv : Config) (clientId publicKey shortId : String) :
    vlessServer (buildClientProtocolConfig hostName srv clientId publicKey shortId) =
      some (clientObject hostName srv clientId publicKey shortId) := by
  have port : (Value.double (clientPort srv : Int)).toInt = clientPort srv :=
    toInt_double (QtText.toInt_range _)
  have flow : stringOr ((clientUser srv clientId).value "flow") "xtls-rprx-vision" =
      orDefault srv.flow "xtls-rprx-vision" := by
    rw [flow_clientUser, unlessEmpty, orDefault]
    split <;> rfl
  have id : ((clientUser srv clientId).value "id").toString = clientId := by
    rw [id_clientUser]
    rfl
  have encryption : stringOr ((clientUser srv clientId).value "encryption") "none" = "none" := by
    rfl
  have net : stringOr ((clientStream srv publicKey shortId).value "network") "tcp" =
      network srv.transport := by
    rw [value_clientStream _ _ _ _ (by decide), stream_network]
    rfl
  have security : stringOr ((clientStream srv publicKey shortId).value "security") "reality" =
      srv.security := by
    rw [value_clientStream _ _ _ _ (by decide), stream_security]
    rfl
  have read : vlessServer (buildClientProtocolConfig hostName srv clientId publicKey shortId) =
      some (withSecurity (clientStream srv publicKey shortId)
        { address := hostName
          port := (Value.double (clientPort srv)).toInt
          id := ((clientUser srv clientId).value "id").toString
          flow := stringOr ((clientUser srv clientId).value "flow") "xtls-rprx-vision"
          encryption := stringOr ((clientUser srv clientId).value "encryption") "none"
          network := stringOr ((clientStream srv publicKey shortId).value "network") "tcp"
          security := stringOr ((clientStream srv publicKey shortId).value "security") "reality" }) :=
    rfl
  rw [read, port, flow, id, encryption, net, security, withSecurity]
  by_cases reality : srv.security = "reality"
  · simp only [clientStream_reality srv _ _ _ reality]
    simp [clientObject, reality, Value.toString, Value.toString?, stringOr, realitySettings, Object.value,
      List.lookup_cons]
  · by_cases tls : srv.security = "tls"
    · simp only [tls, clientStream_tls, if_true, tls_name, tls_fingerprint]
      simp [clientObject, tls, Value.toString, Value.toString?]
    · simp [clientObject, reality, tls]

/-! ## Reading the link -/

lemma queryFields_distinct (server : VlessServerObject) :
    ((queryFields server).map Prod.fst).Nodup := by
  change ["type", "encryption", "security", "flow", "sni", "fp", "pbk", "sid", "spiderX"].Nodup
  decide

structure Reads (readers : Readers) (url : Url) (server : VlessServerObject) : Prop where
  host : url.host = server.address
  port : url.port = server.port
  userInfo : url.userInfo = server.id
  item : ∀ key, Vless.item url key = ((queryFields server).lookup key).join
  decoded : ∀ key, Vless.decodedItem readers url key = ((queryFields server).lookup key).join

lemma Inverse.reads {toText : UrlParts → String} {readers : Readers} {server : VlessServerObject}
    {aliasName : String} (inverse : Inverse toText readers (serialize server aliasName))
    (legal : 0 ≤ server.port ∧ server.port ≤ 65535) :
    Reads readers (readers.url (toText (serialize server aliasName))) server := by
  have lookup (key : String) : (serialize server aliasName).query.lookup key =
      ((queryFields server).lookup key).join :=
    AssocList.lookup_present (queryFields_distinct server) key
  have item (key : String) : Vless.item (readers.url (toText (serialize server aliasName))) key =
      ((queryFields server).lookup key).join := by
    rw [Vless.item, inverse.query, lookup]
  refine ⟨inverse.host, inverse.port.trans (if_pos legal), inverse.userInfo, item, ?_⟩
  intro key
  rw [decodedItem, item]
  cases found : ((queryFields server).lookup key).join with
  | none => rfl
  | some text =>
    rw [← lookup] at found
    obtain ⟨front, back, split, -⟩ := List.lookup_eq_some_iff.mp found
    have decoded := inverse.decoded (key, text) (by rw [split]; simp)
    rw [Option.map_some, decoded]

/-! Objects that the deserialiser builds. -/

@[simp] lemma lookup_optional (name key : String) (value : Option Value) :
    (Serialization.optional name value).lookup key = if key = name then value else none := by
  cases value with
  | none => simp [Serialization.optional]
  | some value =>
    by_cases same : key = name
    · simp [Serialization.optional, same]
    · rw [if_neg same]
      exact AssocList.lookup_cons_other [] value same

@[simp] lemma lookup_forType (url : Url) (name section_key key : String) (entries : Object) :
    (forType url name section_key entries).lookup key =
      if key = section_key ∧ Vless.type url = name then settings entries else none := by
  unfold forType
  split
  · rename_i same
    simp [same]
  · rename_i other
    simp [other]

@[simp] lemma lookup_forTls (readers : Readers) (url : Url) (section_key key : String) :
    (forTls readers url section_key).lookup key =
      if key = section_key ∧ tlsKey url = section_key then
        settings (Vless.tlsSettings readers url) else none := by
  unfold forTls
  split
  · rename_i same
    simp [same]
  · rename_i other
    simp [other]

section Client

variable {readers : Readers} {url : Url} {hostName : String} {srv : Config}
  {clientId publicKey shortId : String}
  (reads : Reads readers url (clientObject hostName srv clientId publicKey shortId))

include reads

lemma type_read : Vless.type url = network srv.transport := by
  rw [Vless.type, itemOr, reads.item]
  change (itemIf (network srv.transport ≠ "tcp") (network srv.transport)).getD "tcp" = _
  unfold network
  split_ifs <;> decide

lemma security_read : Vless.security url = orDefault srv.security "none" := by
  rw [Vless.security, itemOr, reads.item]
  change (itemIf (srv.security ≠ "none") srv.security).getD "none" = _
  by_cases none : srv.security = "none"
  · simp [none, itemIf, orDefault]
  · by_cases empty : srv.security = ""
    · simp [empty, itemIf, orDefault]
    · simp [none, empty, itemIf, orDefault]

lemma security_other {name : String} (other : srv.security ≠ name) (named : name ≠ "none") :
    Vless.security url ≠ name := by
  rw [security_read reads, orDefault]
  split
  · exact named.symm
  · exact other

lemma flow_read (secured : srv.security = "xtls" ∨ srv.security = "reality") :
    itemOr url "flow" "" = orDefault srv.flow "xtls-rprx-vision" := by
  have given : orDefault srv.flow "xtls-rprx-vision" ≠ "" := orDefault_ne_empty (by decide)
  rw [itemOr, reads.item]
  change (itemIf (srv.security = "xtls" || srv.security = "reality")
    (orDefault srv.flow "xtls-rprx-vision")).getD "" = _
  simp [itemIf, secured, given]

lemma network_read :
    orDefault ((Vless.streamSettings readers url).value "network").toString "tcp" =
      network srv.transport := by
  have value : (Vless.streamSettings readers url).value "network" =
      (otherThan "tcp" (network srv.transport)).getD .undefined := by
    simp [Object.value, Vless.streamSettings, List.lookup_append, type_read reads]
  rw [value]
  unfold network
  split_ifs <;> decide

lemma security_shown :
    orDefault ((Vless.streamSettings readers url).value "security").toString "none" =
      orDefault srv.security "none" := by
  have value : (Vless.streamSettings readers url).value "security" =
      (otherThan "none" (orDefault srv.security "none")).getD .undefined := by
    simp [Object.value, Vless.streamSettings, List.lookup_append, security_read reads]
  rw [value, otherThan]
  split
  · rename_i none
    rw [none]
    rfl
  · exact orDefault_given (orDefault_ne_empty (by decide))

omit reads in
lemma xhttp_missing : (Vless.streamSettings readers url).value "xhttpSettings" = .undefined := by
  simp [Object.value, Vless.streamSettings, List.lookup_append]

lemma kcp_missing : (Vless.streamSettings readers url).value "kcpSettings" = .undefined := by
  have seed : Vless.item url "seed" = none := reads.item "seed"
  have header : Vless.item url "headerType" = none := reads.item "headerType"
  have empty : Vless.kcpSettings url = [] := by
    simp [Vless.kcpSettings, Vless.header, itemOr, seed, header, otherThan,
      Serialization.optional, settings]
  simp [Object.value, Vless.streamSettings, List.lookup_append, empty, settings]

lemma user_flow :
    ((Vless.user url).value "flow").toString =
      if srv.security = "xtls" ∨ srv.security = "reality" then orDefault srv.flow "xtls-rprx-vision"
      else "" := by
  have secured : (Vless.security url = "xtls" ∨ Vless.security url = "reality") ↔
      (srv.security = "xtls" ∨ srv.security = "reality") := by
    rw [security_read reads]
    by_cases empty : srv.security = ""
    · simp [empty, orDefault]
    · simp [empty, orDefault]
  by_cases flows : srv.security = "xtls" ∨ srv.security = "reality"
  · rw [Vless.user, if_pos (secured.mpr flows), flow_read reads flows, if_pos flows]
    rfl
  · rw [Vless.user, if_neg (secured.not.mpr flows), if_neg flows]
    rfl

omit reads in
lemma settings_entries (entries : Object) :
    ((settings entries).getD .undefined).toObject = entries := by
  unfold settings
  split
  · rename_i empty
    rw [empty]
    rfl
  · rfl

omit reads in
lemma section_read {key : String} (one : key = "realitySettings" ∨ key = "tlsSettings") :
    ((Vless.streamSettings readers url).value key).toObject =
      if tlsKey url = key then Vless.tlsSettings readers url else [] := by
  have found : (Vless.streamSettings readers url).lookup key =
      if tlsKey url = key then settings (Vless.tlsSettings readers url) else none := by
    rcases one with rfl | rfl
    · simp [Vless.streamSettings, List.lookup_append]
    · simp [Vless.streamSettings, List.lookup_append]
  rw [Object.value, found]
  split
  · exact settings_entries _
  · rfl

omit reads in
lemma itemIf_text (text : String) :
    (((itemIf true text).map Value.string).getD .undefined).toString = text := by
  by_cases empty : text = ""
  · simp [itemIf, empty, Value.toString, Value.toString?]
  · simp [itemIf, empty, Value.toString, Value.toString?]

lemma reality_read (reality : srv.security = "reality") (key : String) :
    (((Vless.streamSettings readers url).value "realitySettings").toObject.value key).toString =
      (((clientStream srv publicKey shortId).value "realitySettings").toObject.value key).toString := by
  have security : Vless.security url = "reality" := by
    rw [security_read reads, reality]
    decide
  have here : tlsKey url = "realitySettings" := by
    simp [tlsKey, security]
  have alpn : decodedItem readers url "alpn" = none := reads.decoded "alpn"
  have named : clientObject hostName srv clientId publicKey shortId =
      { address := hostName, id := clientId, port := clientPort srv
        flow := orDefault srv.flow "xtls-rprx-vision", network := network srv.transport
        security := "reality", serverName := orDefault srv.sni defaultSni, publicKey, shortId
        fingerprint := orDefault srv.fingerprint defaultFingerprint } := by
    simp [clientObject, reality]
  rw [named] at reads
  have sni : Vless.item url "sni" = itemIf true (orDefault srv.sni defaultSni) := reads.item "sni"
  have fp : decodedItem readers url "fp" =
      itemIf true (orDefault srv.fingerprint defaultFingerprint) := reads.decoded "fp"
  have pbk : decodedItem readers url "pbk" = itemIf true publicKey := reads.decoded "pbk"
  have sid : decodedItem readers url "sid" = itemIf true shortId := reads.decoded "sid"
  have spiderX : decodedItem readers url "spiderX" = none := reads.decoded "spiderX"
  rw [section_read (Or.inl rfl), if_pos here, clientStream_reality srv _ _ _ reality]
  simp only [Object.value, Vless.tlsSettings, security, if_true, List.lookup_append, lookup_optional,
    Vless.alpn, alpn, Option.bind_none, ite_self, sni, fp, pbk, sid, spiderX]
  have text (shown : String) : (Value.string shown).toString = shown := rfl
  by_cases is_fingerprint : key = "fingerprint"
  · subst is_fingerprint
    simp [itemIf_text, realitySettings, text]
  · by_cases is_name : key = "serverName"
    · subst is_name
      simp [itemIf_text, realitySettings, List.lookup_cons, text]
    · by_cases is_key : key = "publicKey"
      · subst is_key
        simp [itemIf_text, text]
      · by_cases is_id : key = "shortId"
        · subst is_id
          simp [itemIf_text, text]
        · -- no other text has been set but the path of the spider, which is empty
          have missing : (realitySettings srv).lookup key = none := by
            rw [realitySettings, AssocList.lookup_cons_other _ _ is_fingerprint,
              AssocList.lookup_cons_other _ _ is_name]
            rfl
          simp only [is_fingerprint, is_name, is_key, is_id, if_false, missing, Option.or_none]
          split <;> rfl

lemma no_reality_read (other : srv.security ≠ "reality") (no_tls : srv.security ≠ "tls")
    (key : String) :
    (((Vless.streamSettings readers url).value "realitySettings").toObject.value key).toString = "" := by
  have security := security_other reads other (by decide)
  have sni : Vless.item url "sni" = none := by
    rw [reads.item]
    simp [queryFields, clientObject, other, no_tls, itemIf, List.lookup_cons]
  have alpn : decodedItem readers url "alpn" = none := reads.decoded "alpn"
  have empty : Vless.tlsSettings readers url = [] := by
    simp [Vless.tlsSettings, Vless.alpn, alpn, security, sni, Serialization.optional]
  rw [section_read (Or.inl rfl), empty, ite_self]
  rfl

lemma tls_fingerprint_missing (tls : srv.security = "tls") :
    ((Vless.streamSettings readers url).value "tlsSettings").toObject.value "fingerprint" =
      .undefined := by
  have security : Vless.security url = "tls" := by
    rw [security_read reads, tls]
    decide
  have here : tlsKey url = "tlsSettings" := by
    simp [tlsKey, security]
  rw [section_read (Or.inr rfl), if_pos here]
  simp [Object.value, Vless.tlsSettings, security, List.lookup_append]

lemma no_tls_read (other : srv.security ≠ "tls") :
    (Vless.streamSettings readers url).value "tlsSettings" = .undefined := by
  have security := security_other reads other (by decide)
  have elsewhere : tlsKey url ≠ "tlsSettings" := by
    simp only [tlsKey]
    split <;> decide
  simp [Object.value, Vless.streamSettings, List.lookup_append, elsewhere]

end Client

/-! ## Outbounds -/

/-- The same server, user, security and transport. A network that is not named is TCP, a security that
is not named is none, and a text that is not there is empty. -/
structure SameOutbound (outbound again : Object) : Prop where
  address : (vnextOf outbound).value "address" = (vnextOf again).value "address"
  port : (vnextOf outbound).value "port" = (vnextOf again).value "port"
  id : (userOf outbound).value "id" = (userOf again).value "id"
  encryption : (userOf outbound).value "encryption" = (userOf again).value "encryption"
  flow : ((userOf outbound).value "flow").toString = ((userOf again).value "flow").toString
  network : orDefault ((streamOf outbound).value "network").toString "tcp" =
    orDefault ((streamOf again).value "network").toString "tcp"
  security : orDefault ((streamOf outbound).value "security").toString "none" =
    orDefault ((streamOf again).value "security").toString "none"
  tls : (streamOf outbound).value "tlsSettings" = (streamOf again).value "tlsSettings"
  reality : ∀ key, (((streamOf outbound).value "realitySettings").toObject.value key).toString =
    (((streamOf again).value "realitySettings").toObject.value key).toString
  xhttp : (streamOf outbound).value "xhttpSettings" = (streamOf again).value "xhttpSettings"
  kcp : (streamOf outbound).value "kcpSettings" = (streamOf again).value "kcpSettings"

def Bracketed (hostName : String) : Prop :=
  hostName.toList.head? = some '[' ∧ hostName.toList.getLast? = some ']'

/-- The client configs that a link can say. -/
structure Carried (hostName : String) (srv : Config) (clientId : String) : Prop where
  host : hostName ≠ ""
  plain_host : ¬Bracketed hostName
  port : 0 ≤ clientPort srv ∧ clientPort srv ≤ 65535
  id : clientId ≠ ""
  no_tls : srv.security ≠ "tls"
  no_xhttp : srv.transport ≠ "xhttp"
  no_mkcp : srv.transport ≠ "mkcp"
  flow : (srv.security = "xtls" ∨ srv.security = "reality") ↔ srv.flow ≠ ""

lemma host_kept_iff (url : Url) : Vless.host url = url.host ↔ ¬Bracketed url.host := by
  unfold Vless.host Bracketed
  simp only
  split
  · rename_i brackets
    apply iff_of_false
    · intro same
      have shorter := congrArg (fun text => text.toList.length) same
      have some_text : url.host.toList ≠ [] := by
        intro empty
        rw [empty] at brackets
        cases brackets.1
      have positive := List.length_pos_iff.mpr some_text
      simp only [String.toList_ofList, List.length_dropLast, List.length_drop] at shorter
      omega
    · exact not_not.mpr brackets
  · rename_i plain
    exact iff_of_true rfl plain

lemma flow_kept_iff (srv : Config) :
    srv.flow = (if srv.security = "xtls" ∨ srv.security = "reality" then
      orDefault srv.flow "xtls-rprx-vision" else "") ↔
    ((srv.security = "xtls" ∨ srv.security = "reality") ↔ srv.flow ≠ "") := by
  by_cases flows : srv.security = "xtls" ∨ srv.security = "reality"
  · by_cases empty : srv.flow = ""
    · simp [empty, orDefault]
    · simp [flows, empty, orDefault]
  · simp [flows]

lemma network_ne_empty (transport : String) : network transport ≠ "" := by
  unfold network
  split_ifs <;> decide

lemma user_id (url : Url) : (Vless.user url).value "id" = .string url.userInfo := by
  unfold Vless.user
  split <;> rfl

lemma user_encryption (url : Url) :
    (Vless.user url).value "encryption" = .string (itemOr url "encryption" "none") := rfl

section Compare

variable {readers : Readers} {url : Url} {hostName : String} {srv : Config}
  {clientId publicKey shortId : String}

lemma same_outbound_iff
    (reads : Reads readers url (clientObject hostName srv clientId publicKey shortId)) :
    SameOutbound (clientOutbound hostName srv clientId publicKey shortId)
        (Vless.outbound readers url) ↔
      ¬Bracketed hostName ∧ srv.security ≠ "tls" ∧ srv.transport ≠ "xhttp" ∧
        srv.transport ≠ "mkcp" ∧
        ((srv.security = "xtls" ∨ srv.security = "reality") ↔ srv.flow ≠ "") := by
  have host : url.host = hostName := reads.host
  have flow : ((clientUser srv clientId).value "flow").toString = srv.flow := by
    rw [flow_clientUser, unlessEmpty]
    split
    · rename_i empty
      rw [empty]
      rfl
    · rfl
  have xhttp : Object.value (clientStream srv publicKey shortId) "xhttpSettings" =
      if srv.transport = "xhttp" then .object (ofFields (xhttpFields srv.xhttp)) else .undefined := by
    rw [value_clientStream _ _ _ _ (by decide), stream_xhttp]
  have kcp : Object.value (clientStream srv publicKey shortId) "kcpSettings" =
      if srv.transport = "mkcp" then .object (kcpSettings srv.mkcp) else .undefined := by
    rw [value_clientStream _ _ _ _ (by decide), stream_kcp]
  constructor
  · intro same
    refine ⟨?_, ?_, ?_, ?_, ?_⟩
    · have address : hostName = Vless.host url := Value.string.inj same.address
      rw [← host, ← host_kept_iff, ← address, host]
    · intro tls
      have section_same := congrArg (fun value => value.toObject.value "fingerprint") same.tls
      change (Object.value (clientStream srv publicKey shortId) "tlsSettings").toObject.value
        "fingerprint" = _ at section_same
      rw [clientStream_tls, if_pos tls, tls_fingerprint] at section_same
      cases section_same.trans (tls_fingerprint_missing reads tls)
    · intro is_xhttp
      have section_same : Object.value (clientStream srv publicKey shortId) "xhttpSettings" =
        (Vless.streamSettings readers url).value "xhttpSettings" := same.xhttp
      rw [xhttp, if_pos is_xhttp, xhttp_missing] at section_same
      cases section_same
    · intro is_mkcp
      have section_same : Object.value (clientStream srv publicKey shortId) "kcpSettings" =
        (Vless.streamSettings readers url).value "kcpSettings" := same.kcp
      rw [kcp, if_pos is_mkcp, kcp_missing reads] at section_same
      cases section_same
    · have flow_same : ((clientUser srv clientId).value "flow").toString =
          ((Vless.user url).value "flow").toString := same.flow
      rwa [flow, user_flow reads, flow_kept_iff] at flow_same
  · rintro ⟨plain, no_tls, no_xhttp, no_mkcp, flows⟩
    have value (key : String) (no_reality : key ≠ "realitySettings") :
        Object.value (streamOf (clientOutbound hostName srv clientId publicKey shortId)) key =
          (buildStreamSettings srv).value key := value_clientStream srv publicKey shortId key no_reality
    constructor
    · change Value.string hostName = .string (Vless.host url)
      rw [(host_kept_iff url).mpr (host ▸ plain), host]
    · change Value.double (clientPort srv) = .double url.port
      rw [reads.port]
      rfl
    · change Object.value (clientUser srv clientId) "id" = (Vless.user url).value "id"
      rw [id_clientUser, user_id, reads.userInfo]
      rfl
    · change Object.value (clientUser srv clientId) "encryption" = (Vless.user url).value "encryption"
      have none : Vless.item url "encryption" = some "none" := reads.item "encryption"
      rw [value_clientUser, user_encryption, itemOr, none]
      rfl
    · change ((clientUser srv clientId).value "flow").toString = ((Vless.user url).value "flow").toString
      rw [flow, user_flow reads]
      exact (flow_kept_iff srv).mpr flows
    · rw [value "network" (by decide), stream_network]
      exact (if_neg (network_ne_empty srv.transport)).trans (network_read reads).symm
    · rw [value "security" (by decide), stream_security]
      exact (security_shown reads).symm
    · have missing : Object.value (buildStreamSettings srv) "tlsSettings" = .undefined := by
        simp [value_buildStreamSettings, streamFields, no_tls, List.lookup_cons]
      rw [value "tlsSettings" (by decide), missing]
      exact (no_tls_read reads no_tls).symm
    · intro key
      by_cases reality : srv.security = "reality"
      · exact (reality_read reads reality key).symm
      · have missing : ((clientStream srv publicKey shortId).value "realitySettings").toObject = [] := by
          rw [clientStream, if_neg reality, stream_reality, if_neg reality]
        change (((clientStream srv publicKey shortId).value "realitySettings").toObject.value
          key).toString = _
        rw [missing]
        exact (no_reality_read reads reality no_tls key).symm
    · exact (xhttp.trans (if_neg no_xhttp)).trans xhttp_missing.symm
    · exact (kcp.trans (if_neg no_mkcp)).trans (kcp_missing reads).symm

end Compare

section Deserialize

variable {toText : UrlParts → String} {readers : Readers} {server : VlessServerObject} {name : String}
  (aliasName : String) (inverse : Inverse toText readers (serialize server name))

include inverse

/-- A link without a host, a port or a user is refused. -/
lemma deserialize_written :
    (deserialize readers (toText (serialize server name)) aliasName).config =
      if server.address = "" ∨ setPort server.port = -1 ∨ server.id = "" then []
      else assemble (Vless.outbound readers (readers.url (toText (serialize server name)))) := by
  have host : (readers.url (toText (serialize server name))).host = server.address := inverse.host
  have port : (readers.url (toText (serialize server name))).port = setPort server.port := inverse.port
  have user : (readers.url (toText (serialize server name))).userInfo = server.id := inverse.userInfo
  simp only [deserialize, inverse.scheme, inverse.isValid, host, port, user]
  by_cases no_host : server.address = ""
  · simp [no_host]
  · by_cases no_port : setPort server.port = -1
    · simp [no_host, no_port]
    · by_cases no_user : server.id = ""
      · simp [no_host, no_port, no_user]
      · simp [no_host, no_port, no_user]

end Deserialize

/-- A link is always made. What it is read as is the outbound of the client if and only if that is one
that a link can say. -/
theorem exported_link_iff (toText : UrlParts → String) (readers : Readers) (hostName : String)
    (srv : Config) (clientId publicKey shortId aliasName : String)
    (inverse : Inverse toText readers
      (serialize (clientObject hostName srv clientId publicKey shortId) "AbstractumVPN")) :
    ∃ link, generateXrayConfig toText
        (buildClientProtocolConfig hostName srv clientId publicKey shortId) = some link ∧
      (SameOutbound (clientOutbound hostName srv clientId publicKey shortId)
          (outboundOf (Vless.deserialize readers link aliasName).config) ↔
        Carried hostName srv clientId) := by
  refine ⟨_, by rw [generateXrayConfig, vlessServer_built]; rfl, ?_⟩
  by_cases missing : hostName = "" ∨ setPort (clientPort srv) = -1 ∨ clientId = ""
  · rw [(deserialize_written aliasName inverse).trans (if_pos missing)]
    apply iff_of_false
    · intro same
      cases same.address
    · intro carried
      rcases missing with no_host | no_port | no_id
      · exact carried.host no_host
      · exact (setPort_ne_iff _).mpr carried.port no_port
      · exact carried.id no_id
  · rw [(deserialize_written aliasName inverse).trans (if_neg missing)]
    obtain ⟨host, port, id⟩ : hostName ≠ "" ∧ (0 ≤ clientPort srv ∧ clientPort srv ≤ 65535) ∧
        clientId ≠ "" := by
      simpa only [not_or, ← setPort_ne_iff] using missing
    have compared := same_outbound_iff (inverse.reads port)
    constructor
    · intro same
      obtain ⟨plain, no_tls, no_xhttp, no_mkcp, flow⟩ := compared.mp same
      exact ⟨host, plain, port, id, no_tls, no_xhttp, no_mkcp, flow⟩
    · intro carried
      exact compared.mpr ⟨carried.plain_host, carried.no_tls, carried.no_xhttp, carried.no_mkcp,
        carried.flow⟩


/-! Readers of one link, for clients with reality and with TLS. -/

def linkText (parts : UrlParts) : String :=
  parts.scheme ++ "://" ++ parts.userInfo ++ "@" ++ parts.host ++ ":" ++ toString parts.port ++ "?" ++
    "&".intercalate (parts.query.map fun entry => entry.1 ++ "=" ++ entry.2) ++ "#" ++ parts.fragment

def linkReaders (parts : UrlParts) : Readers where
  url text :=
    if text = linkText parts then
      { isValid := true, errorString := "", host := parts.host, port := parts.port
        fragment := parts.fragment, userInfo := parts.userInfo, query := parts.query }
    else
      { isValid := false, errorString := "", host := "", port := -1, fragment := "", userInfo := ""
        query := [] }
  fromPercentEncoding := id

lemma link_inverse (parts : UrlParts) (vless : parts.scheme = "vless") :
    Inverse linkText (linkReaders parts) parts where
  scheme := by
    rw [linkText, vless]
    simp [ImportController.startsWith]
  isValid := by simp [linkReaders]
  host := by simp [linkReaders]
  port := by simp [linkReaders]
  userInfo := by simp [linkReaders]
  query := by simp [linkReaders]
  decoded _ _ := rfl

def realityClient : Config := { security := "reality", flow := "xtls-rprx-vision", port := "443" }

def tlsClient : Config := { security := "tls", port := "443" }

def realityParts : UrlParts :=
  serialize (clientObject "192.0.2.1" realityClient "a" "p" "1f") "AbstractumVPN"

example : linkText realityParts =
    "vless://a@192.0.2.1:443?encryption=none&security=reality&flow=xtls-rprx-vision" ++
      "&sni=www.googletagmanager.com&fp=chrome&pbk=p&sid=1f#AbstractumVPN" := by decide +kernel

theorem reality_link_same :
    let readers := linkReaders realityParts
    ∃ link, generateXrayConfig linkText
        (buildClientProtocolConfig "192.0.2.1" realityClient "a" "p" "1f") = some link ∧
      SameOutbound (clientOutbound "192.0.2.1" realityClient "a" "p" "1f")
        (outboundOf (Vless.deserialize readers link "").config) := by
  intro readers
  obtain ⟨link, made, same⟩ := exported_link_iff linkText readers "192.0.2.1" realityClient "a" "p" "1f"
    "" (link_inverse _ rfl)
  refine ⟨link, made, same.mpr ?_⟩
  constructor
  · decide
  · exact fun brackets => absurd brackets.1 (by decide)
  · decide
  · decide
  · decide
  · decide
  · decide
  · exact iff_of_true (Or.inr rfl) (by decide)

/-- The fingerprint of TLS is not in the link. -/
theorem tls_link_differs :
    let readers := linkReaders (serialize (clientObject "192.0.2.1" tlsClient "a" "" "") "AbstractumVPN")
    ∃ link, generateXrayConfig linkText
        (buildClientProtocolConfig "192.0.2.1" tlsClient "a" "" "") = some link ∧
      ¬SameOutbound (clientOutbound "192.0.2.1" tlsClient "a" "" "")
        (outboundOf (Vless.deserialize readers link "").config) := by
  intro readers
  have inverse : Inverse linkText readers
      (serialize (clientObject "192.0.2.1" tlsClient "a" "" "") "AbstractumVPN") := link_inverse _ rfl
  refine ⟨_, by rw [generateXrayConfig, vlessServer_built]; rfl, ?_⟩
  have complete : ¬("192.0.2.1" = "" ∨ setPort (clientPort tlsClient) = -1 ∨ "a" = "") := by decide
  rw [(deserialize_written "" inverse).trans (if_neg complete)]
  intro same
  exact absurd rfl ((same_outbound_iff (inverse.reads (by decide))).mp same).2.1

end AbstractumVpn.ExportController
