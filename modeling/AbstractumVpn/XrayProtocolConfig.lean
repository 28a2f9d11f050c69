import AbstractumVpn.JsonText
import AbstractumVpn.XrayInstaller

/-!
`XrayProtocolConfig`: the settings of an Xray server and the config of its
client as they are saved. Fields that are empty are left out. A client is saved
as the native config of Xray where it has one, and as an object with that
config, its local port and its id otherwise. The settings of a third-party
config, or of one saved without a transport, are read from the native config.
-/

namespace AbstractumVpn.XrayProtocolConfig

open ImportController (Codec put)
open Json XrayServerConfig XrayInstaller

structure ServerConfig extends XrayServerConfig.Config where
  transportProto : String := ""
  subnetAddress : String := ""

structure ClientConfig where
  nativeConfig : String := ""
  localPort : String := ""
  id : String := ""

structure Config where
  serverConfig : ServerConfig := {}
  clientConfig : Option ClientConfig := none
  needsClientHydration : Bool := false

/-! ## Writing -/

def objectIfAny (object : Object) : Option Value :=
  if object.isEmpty then none else some (.object object)

namespace XPadding

def texts (pad : XPadding) : Texts :=
  [("xpadding_bytes_min", pad.bytesMin), ("xpadding_bytes_max", pad.bytesMax),
    ("xpadding_key", pad.key), ("xpadding_header", pad.header),
    ("xpadding_placement", pad.placement), ("xpadding_method", pad.method)]

def fields (pad : XPadding) : Fields :=
  nonEmpty (texts pad) ++ [("xpadding_obfs_mode", some (.bool pad.obfsMode))]

def toJson (pad : XPadding) : Object := ofFields (fields pad)

end XPadding

namespace Xmux

def bounds (xmux : Xmux) : Texts :=
  [("xmux_max_concurrency_min", xmux.maxConcurrencyMin),
    ("xmux_max_concurrency_max", xmux.maxConcurrencyMax),
    ("xmux_max_connections_min", xmux.maxConnectionsMin),
    ("xmux_max_connections_max", xmux.maxConnectionsMax),
    ("xmux_c_max_reuse_times_min", xmux.cMaxReuseTimesMin),
    ("xmux_c_max_reuse_times_max", xmux.cMaxReuseTimesMax),
    ("xmux_h_max_request_times_min", xmux.hMaxRequestTimesMin),
    ("xmux_h_max_request_times_max", xmux.hMaxRequestTimesMax),
    ("xmux_h_max_reusable_secs_min", xmux.hMaxReusableSecsMin),
    ("xmux_h_max_reusable_secs_max", xmux.hMaxReusableSecsMax)]

def fields (xmux : Xmux) : Fields :=
  nonEmpty (bounds xmux) ++ [("xmux_h_keep_alive_period", unlessEmpty xmux.hKeepAlivePeriod),
    ("xmux_enabled", some (.bool xmux.enabled))]

def toJson (xmux : Xmux) : Object := ofFields (fields xmux)

end Xmux

namespace Xhttp

def texts (xhttp : Xhttp) : Texts :=
  [("xhttp_mode", xhttp.mode), ("xhttp_host", xhttp.host), ("xhttp_path", xhttp.path),
    ("xhttp_headers_template", xhttp.headersTemplate), ("xhttp_uplink_method", xhttp.uplinkMethod),
    ("xhttp_session_placement", xhttp.sessionPlacement), ("xhttp_session_key", xhttp.sessionKey),
    ("xhttp_seq_placement", xhttp.seqPlacement), ("xhttp_seq_key", xhttp.seqKey),
    ("xhttp_uplink_data_placement", xhttp.uplinkDataPlacement),
    ("xhttp_uplink_data_key", xhttp.uplinkDataKey),
    ("xhttp_uplink_chunk_size", xhttp.uplinkChunkSize),
    ("xhttp_sc_max_buffered_posts", xhttp.scMaxBufferedPosts),
    ("xhttp_sc_max_each_post_bytes_min", xhttp.scMaxEachPostBytesMin),
    ("xhttp_sc_max_each_post_bytes_max", xhttp.scMaxEachPostBytesMax),
    ("xhttp_sc_min_posts_interval_ms_min", xhttp.scMinPostsIntervalMsMin),
    ("xhttp_sc_min_posts_interval_ms_max", xhttp.scMinPostsIntervalMsMax),
    ("xhttp_sc_stream_up_server_secs_min", xhttp.scStreamUpServerSecsMin),
    ("xhttp_sc_stream_up_server_secs_max", xhttp.scStreamUpServerSecsMax)]

def fields (xhttp : Xhttp) : Fields :=
  nonEmpty (texts xhttp) ++
    [("xhttp_disable_grpc", some (.bool xhttp.disableGrpc)),
      ("xhttp_disable_sse", some (.bool xhttp.disableSse)),
      ("xPadding", some (.object (XPadding.toJson xhttp.xPadding))),
      ("xmux", some (.object (Xmux.toJson xhttp.xmux)))]

def toJson (xhttp : Xhttp) : Object := ofFields (fields xhttp)

end Xhttp

namespace Mkcp

def texts (mkcp : Mkcp) : Texts :=
  [("mkcp_tti", mkcp.tti), ("mkcp_uplink_capacity", mkcp.uplinkCapacity),
    ("mkcp_downlink_capacity", mkcp.downlinkCapacity),
    ("mkcp_read_buffer_size", mkcp.readBufferSize),
    ("mkcp_write_buffer_size", mkcp.writeBufferSize)]

def fields (mkcp : Mkcp) : Fields :=
  nonEmpty (texts mkcp) ++ [("mkcp_congestion", some (.bool mkcp.congestion))]

def toJson (mkcp : Mkcp) : Object := ofFields (fields mkcp)

end Mkcp

namespace ServerConfig

def texts (config : ServerConfig) : Texts :=
  [("port", config.port), ("transport_proto", config.transportProto),
    ("subnet_address", config.subnetAddress), ("site", config.site),
    ("xray_security", config.security), ("xray_flow", config.flow), ("xray_sni", config.sni),
    ("xray_alpn", config.alpn), ("xray_transport", config.transport),
    ("xray_fingerprint", config.fingerprint)]

def fields (config : ServerConfig) : Fields :=
  nonEmpty config.texts ++
    [("isThirdPartyConfig", if config.isThirdPartyConfig then some (.bool true) else none),
      ("xhttp", objectIfAny (Xhttp.toJson config.xhttp)),
      ("mkcp", objectIfAny (Mkcp.toJson config.mkcp))]

def toJson (config : ServerConfig) : Object := ofFields config.fields

end ServerConfig

def ClientConfig.toJson (config : ClientConfig) : Object :=
  ofFields (nonEmpty [("config", config.nativeConfig), ("local_port", config.localPort),
    ("clientId", config.id)])

variable (codec : Codec)

def document (text : String) : Option Object :=
  match codec.fromJson (codec.toUtf8 text) with
  | some (.object root) => some root
  | _ => none

def isNative (root : Object) : Bool := root.contains "outbounds" && !root.contains "config"

def lastConfig (client : ClientConfig) : String :=
  if (document codec client.nativeConfig).any isNative then client.nativeConfig
  else codec.compact (.object client.toJson)

def Config.toJson (config : Config) : Object :=
  match config.clientConfig with
  | some client => put config.serverConfig.toJson "last_config" (.string (lastConfig codec client))
  | none => config.serverConfig.toJson

/-! ## Reading -/

def readText (json : Object) (key current : String) : String :=
  if json.contains key then json.text key else current

def readBool (json : Object) (key : String) (current : Bool) : Bool :=
  if json.contains key then (json.value key).toBool else current

def XPadding.fromJson (json : Object) : XPadding where
  bytesMin := json.text "xpadding_bytes_min"
  bytesMax := json.text "xpadding_bytes_max"
  obfsMode := boolOr (json.value "xpadding_obfs_mode") true
  key := json.text "xpadding_key"
  header := json.text "xpadding_header"
  placement := stringOr (json.value "xpadding_placement") "Cookie"
  method := stringOr (json.value "xpadding_method") "Repeat-x"

def Xmux.fromJson (json : Object) : Xmux where
  enabled := boolOr (json.value "xmux_enabled") true
  maxConcurrencyMin := stringOr (json.value "xmux_max_concurrency_min") "0"
  maxConcurrencyMax := stringOr (json.value "xmux_max_concurrency_max") "0"
  maxConnectionsMin := stringOr (json.value "xmux_max_connections_min") "0"
  maxConnectionsMax := stringOr (json.value "xmux_max_connections_max") "0"
  cMaxReuseTimesMin := stringOr (json.value "xmux_c_max_reuse_times_min") "0"
  cMaxReuseTimesMax := stringOr (json.value "xmux_c_max_reuse_times_max") "0"
  hMaxRequestTimesMin := stringOr (json.value "xmux_h_max_request_times_min") "0"
  hMaxRequestTimesMax := stringOr (json.value "xmux_h_max_request_times_max") "0"
  hMaxReusableSecsMin := stringOr (json.value "xmux_h_max_reusable_secs_min") "0"
  hMaxReusableSecsMax := stringOr (json.value "xmux_h_max_reusable_secs_max") "0"
  hKeepAlivePeriod := json.text "xmux_h_keep_alive_period"

def clearedXhttpConfig : Xhttp where
  mode := ""
  host := ""
  path := ""
  headersTemplate := ""
  uplinkMethod := ""
  disableGrpc := false
  disableSse := false
  sessionPlacement := ""
  sessionKey := ""
  seqPlacement := ""
  seqKey := ""
  uplinkDataPlacement := ""
  uplinkDataKey := ""
  uplinkChunkSize := ""
  scMaxBufferedPosts := ""
  scMaxEachPostBytesMin := ""
  scMaxEachPostBytesMax := ""
  scMinPostsIntervalMsMin := ""
  scMinPostsIntervalMsMax := ""
  scStreamUpServerSecsMin := ""
  scStreamUpServerSecsMax := ""

def Xhttp.fromJson (json : Object) : Xhttp where
  mode := readText json "xhttp_mode" clearedXhttpConfig.mode
  host := readText json "xhttp_host" clearedXhttpConfig.host
  path := readText json "xhttp_path" clearedXhttpConfig.path
  headersTemplate := readText json "xhttp_headers_template" clearedXhttpConfig.headersTemplate
  uplinkMethod := readText json "xhttp_uplink_method" clearedXhttpConfig.uplinkMethod
  disableGrpc := readBool json "xhttp_disable_grpc" clearedXhttpConfig.disableGrpc
  disableSse := readBool json "xhttp_disable_sse" clearedXhttpConfig.disableSse
  sessionPlacement := readText json "xhttp_session_placement" clearedXhttpConfig.sessionPlacement
  sessionKey := readText json "xhttp_session_key" clearedXhttpConfig.sessionKey
  seqPlacement := readText json "xhttp_seq_placement" clearedXhttpConfig.seqPlacement
  seqKey := readText json "xhttp_seq_key" clearedXhttpConfig.seqKey
  uplinkDataPlacement :=
    readText json "xhttp_uplink_data_placement" clearedXhttpConfig.uplinkDataPlacement
  uplinkDataKey := readText json "xhttp_uplink_data_key" clearedXhttpConfig.uplinkDataKey
  uplinkChunkSize := readText json "xhttp_uplink_chunk_size" clearedXhttpConfig.uplinkChunkSize
  scMaxBufferedPosts :=
    readText json "xhttp_sc_max_buffered_posts" clearedXhttpConfig.scMaxBufferedPosts
  scMaxEachPostBytesMin :=
    readText json "xhttp_sc_max_each_post_bytes_min" clearedXhttpConfig.scMaxEachPostBytesMin
  scMaxEachPostBytesMax :=
    readText json "xhttp_sc_max_each_post_bytes_max" clearedXhttpConfig.scMaxEachPostBytesMax
  scMinPostsIntervalMsMin :=
    readText json "xhttp_sc_min_posts_interval_ms_min" clearedXhttpConfig.scMinPostsIntervalMsMin
  scMinPostsIntervalMsMax :=
    readText json "xhttp_sc_min_posts_interval_ms_max" clearedXhttpConfig.scMinPostsIntervalMsMax
  scStreamUpServerSecsMin :=
    readText json "xhttp_sc_stream_up_server_secs_min" clearedXhttpConfig.scStreamUpServerSecsMin
  scStreamUpServerSecsMax :=
    readText json "xhttp_sc_stream_up_server_secs_max" clearedXhttpConfig.scStreamUpServerSecsMax
  xPadding :=
    if json.contains "xPadding" then XPadding.fromJson (json.value "xPadding").toObject
    else clearedXhttpConfig.xPadding
  xmux :=
    if json.contains "xmux" then Xmux.fromJson (json.value "xmux").toObject
    else clearedXhttpConfig.xmux

def Mkcp.fromJson (json : Object) : Mkcp where
  tti := readText json "mkcp_tti" ""
  uplinkCapacity := readText json "mkcp_uplink_capacity" ""
  downlinkCapacity := readText json "mkcp_downlink_capacity" ""
  readBufferSize := readText json "mkcp_read_buffer_size" ""
  writeBufferSize := readText json "mkcp_write_buffer_size" ""
  congestion := readBool json "mkcp_congestion" true

/-- Old configs have a fingerprint that Xray does not know. -/
def readFingerprint (fingerprint : String) : String :=
  if containsText fingerprint "Mozilla/5.0" then defaultFingerprint else fingerprint

def readObject {Part : Type} (json : Object) (key : String) (read : Object → Part)
    (current : Part) : Part :=
  if json.contains key then
    let part := (json.value key).toObject
    if part.isEmpty then current else read part
  else current

def ServerConfig.fromJson (json : Object) : ServerConfig where
  port := json.text "port"
  transportProto := json.text "transport_proto"
  subnetAddress := json.text "subnet_address"
  site := json.text "site"
  isThirdPartyConfig := (json.value "isThirdPartyConfig").toBool
  security := readText json "xray_security" ""
  flow := readText json "xray_flow" ""
  fingerprint :=
    if json.contains "xray_fingerprint" then readFingerprint (json.text "xray_fingerprint") else ""
  sni := readText json "xray_sni" ""
  alpn := readText json "xray_alpn" ""
  transport := readText json "xray_transport" ""
  xhttp := readObject json "xhttp" Xhttp.fromJson {}
  mkcp := readObject json "mkcp" Mkcp.fromJson {}

/-! ### The client -/

def first (items : List Value) : Object := (items.headD .undefined).toObject

def array (object : Object) (key : String) : List Value := (object.value key).toArray

def nativeId (root : Object) : String :=
  Object.text (first (array (first (array (Object.value (first (array root "outbounds")) "settings").toObject
    "vnext")) "users")) "id"

def nativePort (root : Object) : String :=
  let inbounds := array root "inbounds"
  if inbounds ≠ [] && (first inbounds).contains "port" then
    QtText.number ((first inbounds).value "port").toInt
  else ""

def descend (object : Object) (key : String) : Option Value :=
  if object.contains key then some (object.value key) else none

def searchId (root : Object) : Option String := do
  let outbound ← (← descend root "outbounds").toArray.head?
  let settings ← descend outbound.toObject "settings"
  let server ← (← descend settings.toObject "vnext").toArray.head?
  let user ← (← descend server.toObject "users").toArray.head?
  let id ← descend user.toObject "id"
  return id.toString

def ClientConfig.fromJson (json : Object) : ClientConfig :=
  let config : ClientConfig :=
    ⟨json.text "config", json.text "local_port", json.text "clientId"⟩
  if config.id = "" ∧ config.nativeConfig ≠ "" then
    { config with id := ((document codec config.nativeConfig).bind searchId).getD config.id }
  else config

def readClient (lastConfigStr : String) : Option ClientConfig :=
  if lastConfigStr = "" then none
  else (document codec lastConfigStr).map fun parsed =>
    if isNative parsed then
      { nativeConfig := lastConfigStr, localPort := nativePort parsed, id := nativeId parsed }
    else ClientConfig.fromJson codec parsed

/-! ### Hydration -/

def withServer (outbound : Object) (srv : ServerConfig) : ServerConfig :=
  match array (outbound.value "settings").toObject "vnext" with
  | [] => srv
  | server :: _ =>
    let entry := server.toObject
    let users := array entry "users"
    { srv with
      port := readNumber entry "port" srv.port
      flow := if users = [] then srv.flow else (first users).text "flow" }

def withTransport (stream : Object) (srv : ServerConfig) : ServerConfig :=
  { srv with
    transport := readTransport (stringOr (stream.value "network") "tcp")
    security := readText stream "security" srv.security }

def withReality (stream : Object) (srv : ServerConfig) : ServerConfig :=
  if srv.security = "reality" then
    let rs := (stream.value "realitySettings").toObject
    let sni := rs.text "serverName"
    let fp := rs.text "fingerprint"
    { srv with
      sni := sni
      site := if sni = "" then srv.site else sni
      fingerprint := if fp = "" then srv.fingerprint else readFingerprint fp }
  else srv

def withTls (stream : Object) (srv : ServerConfig) : ServerConfig :=
  if srv.security = "tls" then
    let tls := (stream.value "tlsSettings").toObject
    let fp := tls.text "fingerprint"
    let alpn := (array tls "alpn").map Value.toString
    { srv with
      sni := tls.text "serverName"
      fingerprint := if fp = "" then srv.fingerprint else fp
      alpn := if alpn = [] then srv.alpn else String.intercalate "," alpn }
  else srv

def modeName (mode : String) : String :=
  if mode = "auto" then "Auto"
  else if mode = "packet-up" then "Packet-up"
  else if mode = "stream-up" then "Stream-up"
  else if mode = "stream-one" then "Stream-one"
  else mode

def textIf (object : Object) (key : String) : Option Value :=
  if object.contains key then some (.string (object.text key)) else none

def xhttpEntries (settings : Object) : Fields :=
  [("xhttp_mode", unlessEmpty (modeName (settings.text "mode"))),
    ("xhttp_host", textIf settings "host"), ("xhttp_path", textIf settings "path"),
    ("xhttp_uplink_method", textIf settings "uplinkHTTPMethod"),
    ("xhttp_disable_grpc", some (.bool (boolOr (settings.value "noGRPCHeader") true))),
    ("xhttp_disable_sse", some (.bool (boolOr (settings.value "noSSEHeader") true)))]

def withXhttp (stream : Object) (srv : ServerConfig) : ServerConfig :=
  if srv.transport = "xhttp" then
    { srv with xhttp := Xhttp.fromJson (ofFields (xhttpEntries (stream.value "xhttpSettings").toObject)) }
  else srv

def withMkcp (stream : Object) (srv : ServerConfig) : ServerConfig :=
  if srv.transport = "mkcp" then
    let kcp := (stream.value "kcpSettings").toObject
    { srv with
      mkcp :=
        { tti := readNumber kcp "tti" ""
          uplinkCapacity := readNumber kcp "uplinkCapacity" ""
          downlinkCapacity := readNumber kcp "downlinkCapacity" ""
          readBufferSize := readNumber kcp "readBufferSize" ""
          writeBufferSize := readNumber kcp "writeBufferSize" ""
          congestion := if kcp.contains "congestion" then boolOr (kcp.value "congestion") true
            else true } }
  else srv

def streamOf (outbound : Object) : Object := (outbound.value "streamSettings").toObject

def withOutbound (outbound : Object) (srv : ServerConfig) : ServerConfig :=
  let stream := streamOf outbound
  withMkcp stream (withXhttp stream (withTls stream (withReality stream
    (withTransport stream (withServer outbound srv)))))

def hydrated (srv : ServerConfig) (root : Object) : Option ServerConfig :=
  match array root "outbounds" with
  | [] => none
  | item :: _ =>
    if (streamOf item.toObject).isEmpty then none else some (withOutbound item.toObject srv)

def hydrate (srv : ServerConfig) (client : ClientConfig) : Option ServerConfig :=
  if client.nativeConfig = "" then none
  else (document codec client.nativeConfig).bind (hydrated srv)

def Config.fromJson (json : Object) : Config :=
  let srv := ServerConfig.fromJson json
  match readClient codec (json.text "last_config") with
  | none => ⟨srv, none, false⟩
  | some client =>
    if !json.contains "xray_transport" || srv.isThirdPartyConfig then
      match hydrate codec srv client with
      | some hydrated => ⟨hydrated, some client, false⟩
      | none => ⟨srv, some client, true⟩
    else ⟨srv, some client, false⟩

/-! ## Parts that were written -/

deriving instance DecidableEq for XPadding, Xmux, Xhttp, Mkcp

lemma readText_empty (json : Object) (key : String) : readText json key "" = json.text key := by
  rw [readText]
  split
  · rfl
  · next missing =>
      rw [Object.text, value_missing missing]
      rfl

lemma orDefault_eq_self {text default : String} (given : default ≠ "") :
    orDefault text default = text ↔ text ≠ "" := by
  rw [orDefault]
  split
  · next empty => simp [empty, given]
  · next full => simp [full]

section Fields

variable {fields : Fields} {key : String} (distinct : (fields.map Prod.fst).Nodup)

include distinct

lemma stringOr_of_mem {text : String} (default : String)
    (member : (key, unlessEmpty text) ∈ fields) :
    stringOr (Object.value (ofFields fields) key) default = orDefault text default := by
  rw [value_of_mem distinct member, stringOr, toString?_unlessEmpty]
  rfl

lemma contains_of_mem {value : Value} (member : (key, some value) ∈ fields) :
    Object.contains (ofFields fields) key = true := by
  rw [contains_ofFields distinct, AssocList.lookup_of_mem distinct member]
  rfl

lemma readBool_of_mem {value : Bool} (current : Bool)
    (member : (key, some (Value.bool value)) ∈ fields) :
    readBool (ofFields fields) key current = value := by
  rw [readBool, if_pos (contains_of_mem distinct member), value_of_mem distinct member]
  rfl

lemma boolOr_of_mem {value : Bool} (default : Bool)
    (member : (key, some (Value.bool value)) ∈ fields) :
    boolOr (Object.value (ofFields fields) key) default = value := by
  rw [value_of_mem distinct member]
  rfl

lemma object_of_mem {object : Object} (member : (key, some (Value.object object)) ∈ fields) :
    (Object.value (ofFields fields) key).toObject = object := by
  rw [value_of_mem distinct member]
  rfl

lemma nonempty_of_mem {value : Value} (member : (key, some value) ∈ fields) :
    (ofFields fields).isEmpty = false := by
  cases written : ofFields fields with
  | nil =>
    have present := contains_of_mem distinct member
    rw [written] at present
    cases present
  | cons entry rest => rfl

end Fields

namespace XPadding

variable (pad : XPadding)

lemma distinct : ((fields pad).map Prod.fst).Nodup := by
  change ((fields {}).map Prod.fst).Nodup
  decide +kernel

lemma text_toJson {field : String × String} (member : field ∈ texts pad) :
    (toJson pad).text field.1 = field.2 :=
  text_of_mem (distinct pad) (Or.inl (mem_front member))

def again : XPadding :=
  { pad with
    placement := orDefault pad.placement "Cookie"
    method := orDefault pad.method "Repeat-x" }

lemma placement_mem : ("xpadding_placement", pad.placement) ∈ texts pad := by simp [texts]

lemma method_mem : ("xpadding_method", pad.method) ∈ texts pad := by simp [texts]

lemma fromJson_toJson : fromJson (toJson pad) = again pad := by
  have texts := fun field (member : field ∈ texts pad) => text_toJson pad member
  have mode : ("xpadding_obfs_mode", some (Value.bool pad.obfsMode)) ∈ fields pad := by
    simp [fields]
  simp only [XPadding.texts, List.forall_mem_cons, toJson] at texts
  simp [fromJson, toJson, again, texts, boolOr_of_mem (distinct pad) true mode,
    stringOr_of_mem (distinct pad) "Cookie" (mem_front (placement_mem pad)),
    stringOr_of_mem (distinct pad) "Repeat-x" (mem_front (method_mem pad))]

lemma toJson_inj (pad other : XPadding) : toJson pad = toJson other ↔ pad = other := by
  have keys : (fields pad).map Prod.fst = (fields other).map Prod.fst := rfl
  rw [toJson, toJson, ofFields_inj keys (distinct pad)]
  cases pad
  cases other
  simp [fields, texts, nonEmpty]
  tauto

/-- An empty placement or method is not read back. -/
lemma again_iff : again pad = pad ↔ pad.placement ≠ "" ∧ pad.method ≠ "" := by
  cases pad
  simp [again, orDefault_eq_self]

end XPadding

namespace Xmux

variable (xmux : Xmux)

lemma distinct : ((fields xmux).map Prod.fst).Nodup := by
  change ((fields {}).map Prod.fst).Nodup
  decide +kernel

def again : Xmux :=
  { xmux with
    maxConcurrencyMin := orDefault xmux.maxConcurrencyMin "0"
    maxConcurrencyMax := orDefault xmux.maxConcurrencyMax "0"
    maxConnectionsMin := orDefault xmux.maxConnectionsMin "0"
    maxConnectionsMax := orDefault xmux.maxConnectionsMax "0"
    cMaxReuseTimesMin := orDefault xmux.cMaxReuseTimesMin "0"
    cMaxReuseTimesMax := orDefault xmux.cMaxReuseTimesMax "0"
    hMaxRequestTimesMin := orDefault xmux.hMaxRequestTimesMin "0"
    hMaxRequestTimesMax := orDefault xmux.hMaxRequestTimesMax "0"
    hMaxReusableSecsMin := orDefault xmux.hMaxReusableSecsMin "0"
    hMaxReusableSecsMax := orDefault xmux.hMaxReusableSecsMax "0" }

lemma fromJson_toJson : fromJson (toJson xmux) = again xmux := by
  have bounds := fun field (member : field ∈ bounds xmux) =>
    stringOr_of_mem (distinct xmux) "0" (mem_front member)
  have period : ("xmux_h_keep_alive_period", unlessEmpty xmux.hKeepAlivePeriod) ∈ fields xmux := by
    simp [fields]
  have enabled : ("xmux_enabled", some (Value.bool xmux.enabled)) ∈ fields xmux := by
    simp [fields]
  simp only [Xmux.bounds, List.forall_mem_cons] at bounds
  simp [fromJson, toJson, again, bounds, boolOr_of_mem (distinct xmux) true enabled,
    text_of_mem (distinct xmux) (Or.inl period)]

lemma toJson_inj (xmux other : Xmux) : toJson xmux = toJson other ↔ xmux = other := by
  have keys : (fields xmux).map Prod.fst = (fields other).map Prod.fst := rfl
  rw [toJson, toJson, ofFields_inj keys (distinct xmux)]
  cases xmux
  cases other
  simp [fields, bounds, nonEmpty]
  tauto

lemma again_iff : again xmux = xmux ↔ ∀ field ∈ bounds xmux, field.2 ≠ "" := by
  cases xmux
  simp [again, bounds, orDefault_eq_self]

end Xmux

namespace Xhttp

variable (xhttp : Xhttp)

lemma distinct : ((fields xhttp).map Prod.fst).Nodup := by
  change ((fields {}).map Prod.fst).Nodup
  decide +kernel

lemma padding_mem :
    ("xPadding", some (Value.object (XPadding.toJson xhttp.xPadding))) ∈ fields xhttp := by
  simp [fields]

lemma xmux_mem : ("xmux", some (Value.object (Xmux.toJson xhttp.xmux))) ∈ fields xhttp := by
  simp [fields]

def again : Xhttp :=
  { xhttp with xPadding := XPadding.again xhttp.xPadding, xmux := Xmux.again xhttp.xmux }

lemma fromJson_toJson : fromJson (toJson xhttp) = again xhttp := by
  have texts : ∀ field ∈ texts xhttp, (toJson xhttp).text field.1 = field.2 :=
    texts_of_subset (distinct xhttp) (List.subset_append_left _ _)
  have grpc : ("xhttp_disable_grpc", some (Value.bool xhttp.disableGrpc)) ∈ fields xhttp := by
    simp [fields]
  have sse : ("xhttp_disable_sse", some (Value.bool xhttp.disableSse)) ∈ fields xhttp := by
    simp [fields]
  simp only [Xhttp.texts, List.forall_mem_cons, toJson] at texts
  simp [fromJson, toJson, again, clearedXhttpConfig, readText_empty, texts,
    readBool_of_mem (distinct xhttp) false grpc, readBool_of_mem (distinct xhttp) false sse,
    contains_of_mem (distinct xhttp) (padding_mem xhttp),
    contains_of_mem (distinct xhttp) (xmux_mem xhttp),
    object_of_mem (distinct xhttp) (padding_mem xhttp),
    object_of_mem (distinct xhttp) (xmux_mem xhttp), XPadding.fromJson_toJson,
    Xmux.fromJson_toJson]

lemma toJson_inj (xhttp other : Xhttp) : toJson xhttp = toJson other ↔ xhttp = other := by
  have keys : (fields xhttp).map Prod.fst = (fields other).map Prod.fst := rfl
  rw [toJson, toJson, ofFields_inj keys (distinct xhttp)]
  cases xhttp
  cases other
  simp [fields, texts, nonEmpty, XPadding.toJson_inj, Xmux.toJson_inj]
  tauto

-- objects of parts that are written in full are equal where the parts are
instance (xhttp other : Xhttp) : Decidable (toJson xhttp = toJson other) :=
  decidable_of_iff _ (toJson_inj xhttp other).symm

/-- The settings that are read back as they were. -/
structure Full (xhttp : Xhttp) : Prop where
  placement : xhttp.xPadding.placement ≠ ""
  method : xhttp.xPadding.method ≠ ""
  bounds : ∀ field ∈ Xmux.bounds xhttp.xmux, field.2 ≠ ""

lemma again_iff : again xhttp = xhttp ↔ Full xhttp := by
  constructor
  · intro same
    have padding := (XPadding.again_iff xhttp.xPadding).mp (congrArg Xhttp.xPadding same)
    have xmux := (Xmux.again_iff xhttp.xmux).mp (congrArg Xhttp.xmux same)
    exact ⟨padding.1, padding.2, xmux⟩
  · rintro ⟨placement, method, bounds⟩
    rw [again, (XPadding.again_iff xhttp.xPadding).mpr ⟨placement, method⟩,
      (Xmux.again_iff xhttp.xmux).mpr bounds]

lemma toJson_nonempty : (toJson xhttp).isEmpty = false :=
  nonempty_of_mem (distinct xhttp) (xmux_mem xhttp)

end Xhttp

namespace Mkcp

variable (mkcp : Mkcp)

lemma distinct : ((fields mkcp).map Prod.fst).Nodup := by
  change ((fields {}).map Prod.fst).Nodup
  decide +kernel

lemma congestion_mem : ("mkcp_congestion", some (Value.bool mkcp.congestion)) ∈ fields mkcp := by
  simp [fields]

lemma fromJson_toJson : fromJson (toJson mkcp) = mkcp := by
  have texts : ∀ field ∈ texts mkcp, (toJson mkcp).text field.1 = field.2 :=
    texts_of_subset (distinct mkcp) (List.subset_append_left _ _)
  simp only [Mkcp.texts, List.forall_mem_cons, toJson] at texts
  simp [fromJson, toJson, readText_empty, texts,
    readBool_of_mem (distinct mkcp) true (congestion_mem mkcp)]

lemma toJson_inj (mkcp other : Mkcp) : toJson mkcp = toJson other ↔ mkcp = other := by
  constructor
  · intro same
    rw [← fromJson_toJson mkcp, same, fromJson_toJson other]
  · rintro rfl
    rfl

instance (mkcp other : Mkcp) : Decidable (toJson mkcp = toJson other) :=
  decidable_of_iff _ (toJson_inj mkcp other).symm

lemma toJson_nonempty : (toJson mkcp).isEmpty = false :=
  nonempty_of_mem (distinct mkcp) (congestion_mem mkcp)

end Mkcp

namespace ServerConfig

variable (config : ServerConfig)

def keys : List String :=
  ["port", "transport_proto", "subnet_address", "site", "xray_security", "xray_flow", "xray_sni",
    "xray_alpn", "xray_transport", "xray_fingerprint", "isThirdPartyConfig", "xhttp", "mkcp"]

lemma keys_nodup : keys.Nodup := by decide +kernel

lemma distinct : (config.fields.map Prod.fst).Nodup := keys_nodup

variable {field : String × String}

lemma text_toJson (member : field ∈ config.texts) : config.toJson.text field.1 = field.2 :=
  text_of_mem config.distinct (Or.inl (mem_front member))

lemma contains_toJson (member : field ∈ config.texts) :
    config.toJson.contains field.1 = decide (field.2 ≠ "") := by
  rw [toJson, contains_ofFields config.distinct,
    AssocList.lookup_of_mem config.distinct (mem_front member), Option.join_some, unlessEmpty]
  split
  · next empty => simp [empty]
  · next full => simp [full]

def again : ServerConfig :=
  { config with
    fingerprint := readFingerprint config.fingerprint
    xhttp := Xhttp.again config.xhttp }

lemma again_third : config.again.isThirdPartyConfig = config.isThirdPartyConfig := by
  simp [again]

lemma fingerprint_toJson :
    (if config.toJson.contains "xray_fingerprint"
      then readFingerprint (config.toJson.text "xray_fingerprint") else "") =
      readFingerprint config.fingerprint := by
  have member : ("xray_fingerprint", config.fingerprint) ∈ config.texts := by simp [texts]
  rw [config.contains_toJson member, config.text_toJson member]
  by_cases empty : config.fingerprint = ""
  · rw [empty]
    decide
  · rw [if_pos (decide_eq_true empty)]

lemma part_toJson {Part : Type} {key : String} {object : Object} (read : Object → Part)
    (current : Part) (full : object.isEmpty = false)
    (member : (key, objectIfAny object) ∈ config.fields) :
    readObject config.toJson key read current = read object := by
  rw [objectIfAny, if_neg (by simp [full])] at member
  rw [readObject, toJson, if_pos (contains_of_mem config.distinct member),
    object_of_mem config.distinct member]
  simp [full]

lemma third_toJson :
    (config.toJson.value "isThirdPartyConfig").toBool = config.isThirdPartyConfig := by
  have member : ("isThirdPartyConfig",
      if config.isThirdPartyConfig then some (Value.bool true) else none) ∈ config.fields := by
    simp [fields]
  rw [toJson, value_of_mem config.distinct member]
  cases config.isThirdPartyConfig <;> rfl

lemma fromJson_toJson : fromJson config.toJson = config.again := by
  have texts := fun field (member : field ∈ config.texts) => config.text_toJson member
  have xhttp : ("xhttp", objectIfAny (Xhttp.toJson config.xhttp)) ∈ config.fields := by
    simp [fields]
  have mkcp : ("mkcp", objectIfAny (Mkcp.toJson config.mkcp)) ∈ config.fields := by
    simp [fields]
  simp only [ServerConfig.texts, List.forall_mem_cons] at texts
  simp only [fromJson, again, readText_empty, texts, third_toJson,
    config.part_toJson Xhttp.fromJson {} (Xhttp.toJson_nonempty config.xhttp) xhttp,
    config.part_toJson Mkcp.fromJson {} (Mkcp.toJson_nonempty config.mkcp) mkcp,
    Xhttp.fromJson_toJson, Mkcp.fromJson_toJson]
  have fingerprint := config.fingerprint_toJson
  simp only [texts] at fingerprint
  rw [fingerprint]

lemma fromJson_congr {json other : Object}
    (same : ∀ key ∈ keys, json.lookup key = other.lookup key) :
    fromJson json = fromJson other := by
  have texts : ∀ key ∈ keys, json.text key = other.text key := fun key member => by
    rw [Object.text, Object.value, same key member, Object.text, Object.value]
  have parts : ∀ key ∈ keys, ∀ {Part : Type} (read : Object → Part) (current : Part),
      readObject json key read current = readObject other key read current :=
    fun key member Part read current => by
      rw [readObject, Object.contains, Object.value, same key member, readObject, Object.contains,
        Object.value]
  have third : (json.value "isThirdPartyConfig").toBool =
      (other.value "isThirdPartyConfig").toBool := by
    rw [Object.value, same "isThirdPartyConfig" (by simp [keys]), Object.value]
  have present : json.contains "xray_fingerprint" = other.contains "xray_fingerprint" := by
    rw [Object.contains, same "xray_fingerprint" (by simp [keys]), Object.contains]
  simp only [keys, List.forall_mem_cons] at texts parts
  simp [fromJson, readText_empty, texts, parts, third, present]

def hasEqualServerSettings (other : ServerConfig) : Bool :=
  config.port = other.port && config.transportProto = other.transportProto &&
    config.subnetAddress = other.subnetAddress && config.site = other.site &&
    config.security = other.security && config.flow = other.flow &&
    config.transport = other.transport && config.fingerprint = other.fingerprint &&
    config.sni = other.sni && config.alpn = other.alpn &&
    Xhttp.toJson config.xhttp = Xhttp.toJson other.xhttp &&
    Mkcp.toJson config.mkcp = Mkcp.toJson other.mkcp

lemma equal_iff (other : ServerConfig) : config.hasEqualServerSettings other = true ↔
    config.port = other.port ∧ config.transportProto = other.transportProto ∧
      config.subnetAddress = other.subnetAddress ∧ config.site = other.site ∧
      config.security = other.security ∧ config.flow = other.flow ∧
      config.transport = other.transport ∧ config.fingerprint = other.fingerprint ∧
      config.sni = other.sni ∧ config.alpn = other.alpn ∧ config.xhttp = other.xhttp ∧
      config.mkcp = other.mkcp := by
  simp [hasEqualServerSettings, Xhttp.toJson_inj, Mkcp.toJson_inj, and_assoc]

/-- A fingerprint that is read as it was written. -/
def Known (fingerprint : String) : Prop := containsText fingerprint "Mozilla/5.0" = false

instance (fingerprint : String) : Decidable (Known fingerprint) :=
  inferInstanceAs (Decidable (_ = false))

lemma readFingerprint_iff (fingerprint : String) :
    readFingerprint fingerprint = fingerprint ↔ Known fingerprint := by
  rw [readFingerprint, Known]
  split
  · next old =>
      constructor
      · intro same
        rw [← same] at old
        exact absurd old (by decide)
      · intro unknown
        simp [unknown] at old
  · next new => simpa using new

def Plain : Prop := Known config.fingerprint ∧ Xhttp.Full config.xhttp

lemma again_equal_iff : config.again.hasEqualServerSettings config = true ↔ config.Plain := by
  rw [equal_iff]
  simp [Plain, again, readFingerprint_iff, Xhttp.again_iff]

/-! ### A server that is read from the native config -/

structure RealityAgrees (settings : Object) : Prop where
  sni : settings.text "serverName" = config.sni
  site : settings.text "serverName" ≠ "" → settings.text "serverName" = config.site
  fingerprint : if settings.text "fingerprint" = "" then Known config.fingerprint
    else readFingerprint (settings.text "fingerprint") = config.fingerprint

structure TlsAgrees (settings : Object) : Prop where
  sni : settings.text "serverName" = config.sni
  fingerprint : if settings.text "fingerprint" = "" then Known config.fingerprint
    else settings.text "fingerprint" = config.fingerprint
  alpn : array settings "alpn" ≠ [] →
    String.intercalate "," ((array settings "alpn").map Value.toString) = config.alpn

structure SecurityAgrees (stream : Object) : Prop where
  reality : config.security = "reality" →
    config.RealityAgrees (stream.value "realitySettings").toObject
  tls : config.security = "tls" → config.TlsAgrees (stream.value "tlsSettings").toObject
  other : config.security ≠ "reality" → config.security ≠ "tls" → Known config.fingerprint

/-- What the native config has of the xhttp settings. The others are cleared. -/
def nativeXhttp (settings : Object) : Xhttp :=
  { clearedXhttpConfig with
    mode := modeName (settings.text "mode")
    host := settings.text "host"
    path := settings.text "path"
    uplinkMethod := settings.text "uplinkHTTPMethod"
    disableGrpc := boolOr (settings.value "noGRPCHeader") true
    disableSse := boolOr (settings.value "noSSEHeader") true }

def nativeMkcp (settings : Object) : Mkcp where
  tti := readNumber settings "tti" ""
  uplinkCapacity := readNumber settings "uplinkCapacity" ""
  downlinkCapacity := readNumber settings "downlinkCapacity" ""
  readBufferSize := readNumber settings "readBufferSize" ""
  writeBufferSize := readNumber settings "writeBufferSize" ""
  congestion := boolOr (settings.value "congestion") true

structure TransportAgrees (stream : Object) : Prop where
  xhttp : if config.transport = "xhttp"
    then config.xhttp = nativeXhttp (stream.value "xhttpSettings").toObject
    else Xhttp.Full config.xhttp
  mkcp : config.transport = "mkcp" →
    config.mkcp = nativeMkcp (stream.value "kcpSettings").toObject

/-- The outbound says of the server what is saved, as far as it says something. -/
structure Agrees (outbound : Object) : Prop where
  port : ∀ server ∈ (array (outbound.value "settings").toObject "vnext").head?,
    readNumber server.toObject "port" config.port = config.port
  flow : ∀ server ∈ (array (outbound.value "settings").toObject "vnext").head?,
    ∀ user ∈ (array server.toObject "users").head?, user.toObject.text "flow" = config.flow
  transport : readTransport (stringOr ((streamOf outbound).value "network") "tcp") = config.transport
  security : (streamOf outbound).contains "security" = true →
    (streamOf outbound).text "security" = config.security
  settings : config.SecurityAgrees (streamOf outbound) ∧ config.TransportAgrees (streamOf outbound)

lemma fromJson_native (settings : Object) :
    Xhttp.fromJson (ofFields (xhttpEntries settings)) = nativeXhttp settings := by
  have distinct : ((xhttpEntries settings).map Prod.fst).Nodup := by
    change ["xhttp_mode", "xhttp_host", "xhttp_path", "xhttp_uplink_method", "xhttp_disable_grpc",
      "xhttp_disable_sse"].Nodup
    decide
  have mode (text : String) : ((unlessEmpty text).getD .undefined).toString = text := by
    rw [Value.toString, toString?_unlessEmpty]
    split <;> simp_all
  have known (key : String) : ((textIf settings key).getD .undefined).toString =
      (settings.value key).toString := by
    unfold textIf
    split
    · rfl
    · next missing => rw [value_missing missing, Option.getD_none]
  simp only [Xhttp.fromJson, clearedXhttpConfig, readText_empty, Object.text, readBool,
    value_ofFields distinct, contains_ofFields distinct]
  simp [xhttpEntries, List.lookup_cons, nativeXhttp, clearedXhttpConfig, mode, known, Object.text,
    Value.toBool]
  rfl

lemma withServer_iff (outbound : Object) (srv : ServerConfig) :
    ((withServer outbound srv).port = srv.port ↔
      ∀ server ∈ (array (outbound.value "settings").toObject "vnext").head?,
        readNumber server.toObject "port" srv.port = srv.port) ∧
    ((withServer outbound srv).flow = srv.flow ↔
      ∀ server ∈ (array (outbound.value "settings").toObject "vnext").head?,
        ∀ user ∈ (array server.toObject "users").head?, user.toObject.text "flow" = srv.flow) ∧
    withServer outbound srv =
      { srv with port := (withServer outbound srv).port, flow := (withServer outbound srv).flow } := by
  unfold withServer
  cases array (outbound.value "settings").toObject "vnext" with
  | nil => simp
  | cons server others =>
    cases users : array server.toObject "users" with
    | nil => simp [users]
    | cons user rest => simp [users, first]

lemma fingerprint_iff (found read : String) :
    (if found = "" then readFingerprint config.fingerprint else read) = config.fingerprint ↔
      if found = "" then Known config.fingerprint else read = config.fingerprint := by
  split
  · exact readFingerprint_iff _
  · rfl

lemma reality_iff (settings : Object) :
    ((if settings.text "serverName" = "" then config.site else settings.text "serverName") =
        config.site ∧
      settings.text "serverName" = config.sni ∧
      (if settings.text "fingerprint" = "" then readFingerprint config.fingerprint
        else readFingerprint (settings.text "fingerprint")) = config.fingerprint) ↔
      config.RealityAgrees settings := by
  rw [fingerprint_iff]
  constructor
  · rintro ⟨site, sni, fingerprint⟩
    exact ⟨sni, fun named => by rwa [if_neg named] at site, fingerprint⟩
  · rintro ⟨sni, site, fingerprint⟩
    refine ⟨?_, sni, fingerprint⟩
    split
    · rfl
    · next named => exact site named

lemma tls_iff (settings : Object) :
    (settings.text "serverName" = config.sni ∧
      (if array settings "alpn" = [] then config.alpn
        else String.intercalate "," ((array settings "alpn").map Value.toString)) = config.alpn ∧
      (if settings.text "fingerprint" = "" then readFingerprint config.fingerprint
        else settings.text "fingerprint") = config.fingerprint) ↔ config.TlsAgrees settings := by
  rw [fingerprint_iff]
  constructor
  · rintro ⟨sni, alpn, fingerprint⟩
    exact ⟨sni, fingerprint, fun listed => by rwa [if_neg listed] at alpn⟩
  · rintro ⟨sni, fingerprint, alpn⟩
    refine ⟨sni, ?_, fingerprint⟩
    split
    · rfl
    · next listed => exact alpn listed

section Steps

variable {stream : Object} {srv after : ServerConfig}

lemma security_iff (steps : after = withTls stream (withReality stream srv))
    (site : srv.site = config.site) (sni : srv.sni = config.sni) (alpn : srv.alpn = config.alpn)
    (security : srv.security = config.security)
    (fingerprint : srv.fingerprint = readFingerprint config.fingerprint) :
    (after.site = config.site ∧ after.sni = config.sni ∧ after.alpn = config.alpn ∧
      after.fingerprint = config.fingerprint) ↔ config.SecurityAgrees stream := by
  have fields : config.SecurityAgrees stream ↔ _ ∧ _ ∧ _ :=
    ⟨fun ⟨reality, tls, other⟩ => ⟨reality, tls, other⟩,
      fun ⟨reality, tls, other⟩ => ⟨reality, tls, other⟩⟩
  rw [fields, steps]
  by_cases reality : config.security = "reality"
  · simp [withTls, withReality, security, reality, fingerprint, site, alpn, ← reality_iff]
  · by_cases tls : config.security = "tls"
    · simp [withTls, withReality, security, tls, fingerprint, site, alpn, ← tls_iff]
    · simp [withTls, withReality, security, reality, tls, fingerprint, site, sni, alpn,
        readFingerprint_iff]

lemma security_kept (steps : after = withTls stream (withReality stream srv)) :
    after.port = srv.port ∧ after.transportProto = srv.transportProto ∧
      after.subnetAddress = srv.subnetAddress ∧ after.flow = srv.flow ∧
      after.transport = srv.transport ∧ after.security = srv.security ∧ after.xhttp = srv.xhttp ∧
      after.mkcp = srv.mkcp := by
  rw [steps]
  by_cases reality : srv.security = "reality"
  · simp [withTls, withReality, reality]
  · by_cases tls : srv.security = "tls"
    · simp [withTls, withReality, tls]
    · simp [withTls, withReality, reality, tls]

lemma withParts (stream : Object) (srv : ServerConfig) :
    withMkcp stream (withXhttp stream srv) = { srv with
      xhttp := if srv.transport = "xhttp"
        then nativeXhttp (stream.value "xhttpSettings").toObject else srv.xhttp
      mkcp := if srv.transport = "mkcp"
        then nativeMkcp (stream.value "kcpSettings").toObject else srv.mkcp } := by
  have congestion (kcp : Object) : (if kcp.contains "congestion" = true
      then boolOr (kcp.value "congestion") true else true) = boolOr (kcp.value "congestion") true := by
    split
    · rfl
    · next missing => rw [value_missing missing]; rfl
  simp only [withMkcp, withXhttp, fromJson_native, nativeMkcp, congestion]
  by_cases xhttp : srv.transport = "xhttp"
  · simp [xhttp]
  · by_cases mkcp : srv.transport = "mkcp"
    · simp [mkcp]
    · simp [xhttp, mkcp]

lemma transport_iff :
    (if config.transport = "xhttp" then nativeXhttp (stream.value "xhttpSettings").toObject
        else Xhttp.again config.xhttp) = config.xhttp ∧
      (if config.transport = "mkcp" then nativeMkcp (stream.value "kcpSettings").toObject
        else config.mkcp) = config.mkcp ↔ config.TransportAgrees stream := by
  constructor
  · rintro ⟨xhttp, mkcp⟩
    constructor
    · split
      · next chosen => rw [if_pos chosen] at xhttp; exact xhttp.symm
      · next other => rw [if_neg other] at xhttp; exact (Xhttp.again_iff _).mp xhttp
    · intro chosen
      rw [if_pos chosen] at mkcp
      exact mkcp.symm
  · rintro ⟨xhttp, mkcp⟩
    constructor
    · split at xhttp
      · next chosen => rw [if_pos chosen, ← xhttp]
      · next other => rw [if_neg other, (Xhttp.again_iff _).mpr xhttp]
    · split
      · next chosen => rw [← mkcp chosen]
      · rfl

/-- The transport and the security that were read decide about the steps after them. -/
lemma steps_equal_iff (stream : Object) (srv : ServerConfig)
    (others : srv.transportProto = config.transportProto ∧ srv.subnetAddress = config.subnetAddress)
    (site : srv.site = config.site) (sni : srv.sni = config.sni) (alpn : srv.alpn = config.alpn)
    (fingerprint : srv.fingerprint = readFingerprint config.fingerprint)
    (xhttp : srv.xhttp = Xhttp.again config.xhttp) (mkcp : srv.mkcp = config.mkcp) :
    (withMkcp stream (withXhttp stream (withTls stream (withReality stream srv)))).hasEqualServerSettings
        config = true ↔
      srv.port = config.port ∧ srv.flow = config.flow ∧ srv.transport = config.transport ∧
        srv.security = config.security ∧ config.SecurityAgrees stream ∧
        config.TransportAgrees stream := by
  rw [equal_iff, withParts]
  generalize steps : withTls stream (withReality stream srv) = secured
  obtain ⟨port_eq, proto_eq, subnet_eq, flow_eq, transport_eq, security_eq, xhttp_eq, mkcp_eq⟩ :=
    security_kept steps.symm
  dsimp only
  rw [port_eq, proto_eq, subnet_eq, flow_eq, transport_eq, security_eq, xhttp_eq, mkcp_eq, xhttp, mkcp]
  by_cases security : srv.security = config.security
  · by_cases transport : srv.transport = config.transport
    · rw [← config.security_iff steps.symm site sni alpn security fingerprint, transport,
        ← transport_iff]
      simp only [others, security, true_and]
      tauto
    · simp [transport]
  · simp [security]

end Steps

lemma withOutbound_equal_iff (outbound : Object) :
    (withOutbound outbound config.again).hasEqualServerSettings config = true ↔
      config.Agrees outbound := by
  obtain ⟨port, flow, kept⟩ := withServer_iff outbound config.again
  simp only [again] at port flow kept
  rw [withOutbound, again]
  generalize withServer outbound _ = srv at *
  have named : (withTransport (streamOf outbound) srv).security = config.security ↔
      ((streamOf outbound).contains "security" = true →
        (streamOf outbound).text "security" = config.security) := by
    have before : srv.security = config.security := congrArg (·.security) kept
    simp only [withTransport, readText, before]
    split <;> simp [*]
  rw [config.steps_equal_iff (streamOf outbound) (withTransport (streamOf outbound) srv)
    ⟨congrArg (·.transportProto) kept, congrArg (·.subnetAddress) kept⟩ (congrArg (·.site) kept)
    (congrArg (·.sni) kept) (congrArg (·.alpn) kept) (congrArg (·.fingerprint) kept)
    (congrArg (·.xhttp) kept) (congrArg (·.mkcp) kept), named]
  constructor
  · rintro ⟨port', flow', transport, security, settings⟩
    exact ⟨port.mp port', flow.mp flow', transport, security, settings⟩
  · rintro ⟨port', flow', transport, security, settings⟩
    exact ⟨port.mpr port', flow.mpr flow', transport, security, settings⟩

end ServerConfig

/-! ## The client -/

lemma descend_array (object : Object) (key : String) :
    ((descend object key).bind fun value => value.toArray.head?) = (array object key).head? := by
  rw [descend, array]
  split
  · rfl
  · next missing =>
      rw [value_missing missing]
      rfl

lemma descend_object (object : Object) (key : String) :
    (descend object key).getD .undefined = object.value key := by
  rw [descend]
  split
  · rfl
  · next missing => rw [value_missing missing, Option.getD_none]

/-- Both readers of the id find the same one. -/
lemma searchId_eq (root : Object) : (searchId root).getD "" = nativeId root := by
  have nothing : ∀ key, Object.value [] key = .undefined := fun _ => rfl
  have no_text : Value.undefined.toString = "" := rfl
  have search : searchId root = (array root "outbounds").head?.bind fun outbound =>
      (descend outbound.toObject "settings").bind fun settings =>
        (array settings.toObject "vnext").head?.bind fun server =>
          (array server.toObject "users").head?.bind fun user =>
            (descend user.toObject "id").bind fun id => some id.toString := by
    simp only [← descend_array, Option.bind_assoc]
    rfl
  rw [search, nativeId, Object.text]
  cases outbounds : array root "outbounds" with
  | nil => simp [first, array, nothing, no_text, Value.toObject, Value.toArray]
  | cons outbound others =>
    simp only [List.head?_cons, Option.bind_some, first, List.headD_cons]
    rw [← descend_object outbound.toObject "settings"]
    cases descend outbound.toObject "settings" with
    | none => simp [array, nothing, no_text, Value.toObject, Value.toArray]
    | some settings =>
      simp only [Option.bind_some, Option.getD_some]
      cases array settings.toObject "vnext" with
      | nil => simp [array, nothing, no_text, Value.toObject, Value.toArray]
      | cons server others =>
        simp only [List.head?_cons, Option.bind_some, List.headD_cons]
        cases array server.toObject "users" with
        | nil => simp [nothing, no_text, Value.toObject]
        | cons user others =>
          simp only [List.head?_cons, Option.bind_some, List.headD_cons]
          rw [← descend_object user.toObject "id"]
          cases descend user.toObject "id" <;> rfl

namespace ClientConfig

variable (client : ClientConfig)

def texts : Texts :=
  [("config", client.nativeConfig), ("local_port", client.localPort), ("clientId", client.id)]

lemma distinct : ((nonEmpty client.texts).map Prod.fst).Nodup := by
  change ["config", "local_port", "clientId"].Nodup
  decide

lemma text_toJson {field : String × String} (member : field ∈ client.texts) :
    client.toJson.text field.1 = field.2 :=
  text_of_mem client.distinct (Or.inl (mem_nonEmpty member))

lemma toJson_not_native : isNative client.toJson = false := by
  have absent : "outbounds" ∉ ["config", "local_port", "clientId"] := by decide
  rw [isNative, Object.contains, toJson, lookup_absent absent]
  rfl

def again : ClientConfig :=
  match document codec client.nativeConfig with
  | some root =>
    if isNative root then
      { client with localPort := nativePort root, id := nativeId root }
    else { client with id := if client.id = "" then nativeId root else client.id }
  | none => client

end ClientConfig

section Client

variable {codec}

lemma native_not_blank (blank : document codec "" = none) {text : String} {root : Object}
    (read : document codec text = some root) : text ≠ "" := by
  rintro rfl
  rw [blank] at read
  cases read

lemma readClient_native {client : ClientConfig} {root : Object}
    (blank : document codec "" = none) (read : document codec client.nativeConfig = some root)
    (native : isNative root = true) :
    readClient codec (lastConfig codec client) =
      some { client with localPort := nativePort root, id := nativeId root } := by
  have saved : lastConfig codec client = client.nativeConfig := by
    rw [lastConfig, read, Option.any_some, if_pos native]
  rw [saved, readClient, if_neg (native_not_blank blank read), read, Option.map_some, if_pos native]

lemma fromJson_client (client : ClientConfig) : ClientConfig.fromJson codec client.toJson =
    if client.id = "" ∧ client.nativeConfig ≠ "" then
      { client with id := ((document codec client.nativeConfig).bind searchId).getD client.id }
    else client := by
  have texts := fun field (member : field ∈ client.texts) => client.text_toJson member
  simp only [ClientConfig.texts, List.forall_mem_cons] at texts
  simp [ClientConfig.fromJson, texts]

lemma readClient_saved (blank : document codec "" = none) (client : ClientConfig)
    (written : ReadsBack codec client.toJson) :
    readClient codec (lastConfig codec client) = some (client.again codec) := by
  have object (saved : lastConfig codec client = codec.compact (.object client.toJson)) :
      readClient codec (lastConfig codec client) =
        some (ClientConfig.fromJson codec client.toJson) := by
    have read : document codec (codec.compact (.object client.toJson)) = some client.toJson := by
      rw [document, written.read]
    rw [saved, readClient, if_neg written.nonempty, read, Option.map_some,
      if_neg (by simp [client.toJson_not_native])]
  cases read : document codec client.nativeConfig with
  | none =>
    rw [object (by rw [lastConfig, read]; rfl), fromJson_client, ClientConfig.again, read]
    simp
  | some root =>
    cases native : isNative root with
    | true =>
      rw [readClient_native blank read native, ClientConfig.again, read]
      simp [native]
    | false =>
      have not_blank := native_not_blank blank read
      rw [object (by rw [lastConfig, read, Option.any_some, native]; rfl), fromJson_client,
        ClientConfig.again, read]
      by_cases empty : client.id = ""
      · simp [empty, not_blank, native, searchId_eq]
      · simp [empty, native]

end Client

/-- The port and the id are those of the native config where that is saved, and an
empty id stays empty otherwise. -/
def ClientKept (client : ClientConfig) : Prop :=
  ∀ root ∈ document codec client.nativeConfig,
    if isNative root then client.localPort = nativePort root ∧ client.id = nativeId root
    else client.id = "" → nativeId root = ""

lemma again_client_iff (client : ClientConfig) :
    client.again codec = client ↔ ClientKept codec client := by
  rw [ClientConfig.again, ClientKept]
  cases document codec client.nativeConfig with
  | none => simp
  | some root =>
    simp only [Option.mem_def, Option.some.injEq, forall_eq']
    cases isNative root with
    | true =>
      simp only [if_true]
      constructor
      · intro same
        exact ⟨(congrArg ClientConfig.localPort same).symm, (congrArg ClientConfig.id same).symm⟩
      · rintro ⟨port, id⟩
        rw [← port, ← id]
    | false =>
      simp only [Bool.false_eq_true, if_false]
      constructor
      · intro same empty
        have id := congrArg ClientConfig.id same
        simpa [empty] using id
      · intro kept
        by_cases empty : client.id = ""
        · rw [if_pos empty, kept empty, ← empty]
        · rw [if_neg empty]

/-! ## The whole config -/

/-- The outbound of the native config, where the settings of the server are read from it. -/
def nativeOutbound (config : Config) : Option Object := do
  let client ← config.clientConfig
  let root ← document codec client.nativeConfig
  let outbound ← (array root "outbounds").head?
  if (config.serverConfig.transport = "" ∨ config.serverConfig.isThirdPartyConfig) ∧
      !(streamOf outbound.toObject).isEmpty then some outbound.toObject
  else none

/-- Nothing that is read differs: the settings of the server, and the native config,
the local port and the id of the client. -/
def Persisted (config : Config) : Prop :=
  let again := Config.fromJson codec (config.toJson codec)
  again.serverConfig.hasEqualServerSettings config.serverConfig = true ∧
    again.clientConfig = config.clientConfig

structure ServerKept (config : Config) : Prop where
  agrees : ∀ outbound ∈ nativeOutbound codec config, config.serverConfig.Agrees outbound
  plain : nativeOutbound codec config = none → config.serverConfig.Plain

lemma lookup_saved (config : Config) (key : String) (other : key ≠ "last_config") :
    (config.toJson codec).lookup key = config.serverConfig.toJson.lookup key := by
  rw [Config.toJson]
  split
  · rw [lookup_put, if_neg other]
  · rfl

lemma server_saved (config : Config) :
    ServerConfig.fromJson (config.toJson codec) = config.serverConfig.again := by
  rw [← ServerConfig.fromJson_toJson]
  apply ServerConfig.fromJson_congr
  intro key member
  apply lookup_saved
  rintro rfl
  exact absurd member (by decide +kernel)

lemma transport_saved (config : Config) :
    (config.toJson codec).contains "xray_transport" =
      decide (config.serverConfig.transport ≠ "") := by
  have member : ("xray_transport", config.serverConfig.transport) ∈ config.serverConfig.texts := by
    simp [ServerConfig.texts]
  rw [Object.contains, lookup_saved codec config _ (by decide),
    ← config.serverConfig.contains_toJson member, Object.contains]

lemma last_config_saved (config : Config) :
    (config.toJson codec).text "last_config" =
      (config.clientConfig.map (lastConfig codec)).getD "" := by
  rw [Config.toJson]
  cases config.clientConfig with
  | some client =>
    rw [Object.text, value_put_self]
    rfl
  | none =>
    have absent : "last_config" ∉ ServerConfig.keys := by decide +kernel
    have missing : config.serverConfig.toJson.lookup "last_config" = none := lookup_absent absent
    rw [Object.text, Object.value, missing]
    rfl

lemma clientConfig_fromJson (json : Object) :
    (Config.fromJson codec json).clientConfig = readClient codec (json.text "last_config") := by
  rw [Config.fromJson]
  split
  · next read => exact read.symm
  · next client read =>
      rw [read]
      split
      · split <;> rfl
      · rfl

lemma readClient_blank : readClient codec "" = none := by rw [readClient, if_pos rfl]

lemma again_native (client : ClientConfig) :
    (client.again codec).nativeConfig = client.nativeConfig := by
  rw [ClientConfig.again]
  split
  · split <;> rfl
  · rfl

lemma hydrate_again (blank : document codec "" = none) (srv : ServerConfig) (client : ClientConfig) :
    hydrate codec srv (client.again codec) =
      (document codec client.nativeConfig).bind fun root =>
        (array root "outbounds").head?.bind fun outbound =>
          if (streamOf outbound.toObject).isEmpty then none
          else some (withOutbound outbound.toObject srv) := by
  have same (root : Object) : hydrated srv root = (array root "outbounds").head?.bind fun outbound =>
      if (streamOf outbound.toObject).isEmpty then none
      else some (withOutbound outbound.toObject srv) := by
    unfold hydrated
    cases array root "outbounds" <;> rfl
  rw [hydrate, again_native]
  split
  · next empty => rw [empty, blank, Option.bind_none]
  · exact Option.bind_congr fun root _ => same root

lemma saved_read (blank : document codec "" = none) (config : Config)
    (written : ∀ client ∈ config.clientConfig, ReadsBack codec client.toJson) :
    (Config.fromJson codec (config.toJson codec)).clientConfig =
        config.clientConfig.map (ClientConfig.again codec) ∧
      (Config.fromJson codec (config.toJson codec)).serverConfig =
        ((nativeOutbound codec config).map fun outbound =>
          withOutbound outbound config.serverConfig.again).getD
            config.serverConfig.again := by
  have client : readClient codec ((config.toJson codec).text "last_config") =
      config.clientConfig.map (ClientConfig.again codec) := by
    rw [last_config_saved]
    cases held : config.clientConfig with
    | none => exact readClient_blank codec
    | some client => exact readClient_saved blank client (written client held)
  constructor
  · rw [clientConfig_fromJson, client]
  · simp only [Config.fromJson, client, server_saved, transport_saved, nativeOutbound]
    cases config.clientConfig with
    | none => rfl
    | some client =>
      simp only [Option.map_some, hydrate_again codec blank, ServerConfig.again_third]
      change _ = Option.getD (Option.map _ ((document codec client.nativeConfig).bind _)) _
      by_cases needed : config.serverConfig.transport = "" ∨
          config.serverConfig.isThirdPartyConfig = true
      · rw [if_pos (by simpa using needed)]
        cases document codec client.nativeConfig with
        | none => rfl
        | some root =>
          simp only [Option.bind_some, needed, true_and]
          cases (array root "outbounds").head? with
          | none => rfl
          | some outbound =>
            by_cases empty : streamOf outbound.toObject = [] <;> simp [empty]
      · rw [if_neg (by simpa using needed)]
        simp [needed]

def buildClientProtocolConfig (hostName : String) (srv : ServerConfig)
    (clientId publicKey shortId : String) : Config where
  serverConfig := srv
  clientConfig := some {
    nativeConfig := codec.compact (.object
      (XrayConfigurator.buildClientProtocolConfig hostName srv.toConfig clientId publicKey shortId))
    localPort := "10808"
    id := clientId }

/-- The port of a built config is written as a text and read as a number. -/
lemma built_port (hostName : String) (srv : ServerConfig) (clientId publicKey shortId : String)
    (blank : document codec "" = none)
    (written : ReadsBack codec (XrayConfigurator.buildClientProtocolConfig hostName srv.toConfig
      clientId publicKey shortId)) :
    (Config.fromJson codec (Config.toJson codec
      (buildClientProtocolConfig codec hostName srv clientId publicKey shortId))).clientConfig.map
        ClientConfig.localPort = some "0" := by
  have read : document codec (codec.compact (.object (XrayConfigurator.buildClientProtocolConfig
      hostName srv.toConfig clientId publicKey shortId))) = some
        (XrayConfigurator.buildClientProtocolConfig hostName srv.toConfig clientId publicKey
          shortId) := by
    rw [document, written.read]
  rw [clientConfig_fromJson, last_config_saved, buildClientProtocolConfig, Option.map_some,
    Option.getD_some, readClient_native blank read rfl]
  rfl

/-- When a saved config is read back as it was. No config that
`buildClientProtocolConfig` returns is. -/
theorem persisted_iff (blank : document codec "" = none) :
    (∀ config : Config, (∀ client ∈ config.clientConfig, ReadsBack codec client.toJson) →
      (Persisted codec config ↔
        ServerKept codec config ∧ ∀ client ∈ config.clientConfig, ClientKept codec client)) ∧
    ∀ hostName srv clientId publicKey shortId,
      ReadsBack codec (XrayConfigurator.buildClientProtocolConfig hostName srv.toConfig clientId
        publicKey shortId) →
      ¬ Persisted codec (buildClientProtocolConfig codec hostName srv clientId publicKey shortId) := by
  constructor
  · intro config written
    obtain ⟨client, server⟩ := saved_read codec blank config written
    rw [Persisted, client, server]
    apply and_congr
    · cases native : nativeOutbound codec config with
      | some outbound =>
        apply (config.serverConfig.withOutbound_equal_iff outbound).trans
        constructor
        · exact fun agrees => ⟨by simpa [native] using agrees, by simp [native]⟩
        · exact fun kept => kept.agrees outbound native
      | none =>
        apply config.serverConfig.again_equal_iff.trans
        exact ⟨fun plain => ⟨by simp [native], fun _ => plain⟩, fun kept => kept.plain native⟩
    · cases config.clientConfig with
      | none => simp
      | some held => simpa using again_client_iff codec held
  · intro hostName srv clientId publicKey shortId written persisted
    have port := built_port codec hostName srv clientId publicKey shortId blank written
    have given : (some "10808" : Option String) = some "0" := by
      rw [← port, persisted.2]
      rfl
    exact absurd given (by decide)

lemma server_kept {config : Config} {client : ClientConfig} {root outbound : Object}
    (held : config.clientConfig = some client)
    (read : document codec client.nativeConfig = some root)
    (first : (array root "outbounds").head? = some (.object outbound))
    (thirdParty : config.serverConfig.isThirdPartyConfig = true) (stream : streamOf outbound ≠ [])
    (agrees : config.serverConfig.Agrees outbound) : ServerKept codec config := by
  have hydrated : nativeOutbound codec config = some outbound := by
    have entries : (Value.object outbound).toObject = outbound := rfl
    simp [nativeOutbound, held, read, first, thirdParty, stream, entries]
  exact ⟨by simpa [hydrated] using agrees, by simp [hydrated]⟩

def someServer : ServerConfig :=
  { port := "443", security := "tls", transport := "xhttp", fingerprint := "chrome" }

/-! An imported config: the settings of its server are read from the native config. -/

def outboundJson : Object :=
  [("settings", .object [("vnext", .array [.object [("address", .string "198.51.100.7"),
      ("port", .double 443), ("users", .array [.object [("id", .string "b831381d")]])]])]),
    ("streamSettings", .object [("network", .string "tcp"), ("security", .string "tls"),
      ("tlsSettings", .object [("alpn", .array [.string "h2"]), ("fingerprint", .string "chrome"),
        ("serverName", .string "vpn.example")])])]

def nativeJson : Object :=
  [("inbounds", .array [.object [("port", .double 10808)]]),
    ("outbounds", .array [.object outboundJson])]

def importedClient : ClientConfig := ⟨compactText (.object nativeJson), "10808", "b831381d"⟩

def importedConfig : Config where
  serverConfig :=
    { port := "443", isThirdPartyConfig := true, security := "tls", transport := "raw"
      fingerprint := "chrome", sni := "vpn.example", alpn := "h2" }
  clientConfig := some importedClient

def importedCodec : Codec := documentCodec [nativeJson, importedClient.toJson]

lemma document_blank (documents : List Object) : document (documentCodec documents) "" = none := by
  have nothing : (documentCodec documents).fromJson ((documentCodec documents).toUtf8 "") = none :=
    read_blank documents
  rw [document, nothing]

lemma document_first (root : Object) (rest : List Object) :
    document (documentCodec (root :: rest)) (compactText (.object root)) = some root := by
  have read : (documentCodec (root :: rest)).fromJson
      ((documentCodec (root :: rest)).toUtf8 (compactText (.object root))) = some (.object root) :=
    read_compact root rest
  rw [document, read]

lemma importedClient_read : ReadsBack importedCodec importedClient.toJson := by
  apply reads_second
  simp only [compactText, indentedText, latin1_ofList]
  decide +kernel

lemma importedConfig_agrees : importedConfig.serverConfig.Agrees outboundJson := by
  refine ⟨?_, ?_, by decide +kernel, fun _ => by decide +kernel, ⟨?_, ?_, ?_⟩, ?_, ?_⟩
  · rintro server ⟨⟩
    decide +kernel
  · rintro server ⟨⟩ user ⟨⟩
    decide +kernel
  · exact fun reality => absurd reality (by decide)
  · exact fun _ => ⟨by decide +kernel, by decide +kernel, fun _ => by decide +kernel⟩
  · exact fun _ tls => absurd rfl tls
  · exact ⟨by decide, by decide, by decide +kernel⟩
  · exact fun mkcp => absurd mkcp (by decide)

theorem imported_config_persisted : Persisted importedCodec importedConfig := by
  have held : importedConfig.clientConfig = some importedClient := rfl
  have read : document importedCodec importedClient.nativeConfig = some nativeJson :=
    document_first nativeJson _
  have first : (array nativeJson "outbounds").head? = some (.object outboundJson) := rfl
  have server : ServerKept importedCodec importedConfig := by
    apply server_kept importedCodec held read first rfl ?_ importedConfig_agrees
    decide +kernel
  refine ((persisted_iff importedCodec (document_blank _)).1 importedConfig ?_).mpr ⟨server, ?_⟩
  · intro client given
    rw [Option.mem_def, held, Option.some.injEq] at given
    rw [← given]
    exact importedClient_read
  · intro client given root found
    rw [Option.mem_def, held, Option.some.injEq] at given
    rw [← given, Option.mem_def, read, Option.some.injEq] at found
    rw [← given, ← found]
    decide +kernel

def builtJson : Object :=
  XrayConfigurator.buildClientProtocolConfig "198.51.100.7" someServer.toConfig "b831381d" "" ""

def builtCodec : Codec := documentCodec [builtJson]

def builtConfig : Config :=
  buildClientProtocolConfig builtCodec "198.51.100.7" someServer "b831381d" "" ""

def noBound : Config :=
  { serverConfig := { someServer with xhttp := { xmux := { maxConcurrencyMin := "" } } } }

lemma builtConfig_port :
    (Config.fromJson builtCodec (builtConfig.toJson builtCodec)).clientConfig.map
      ClientConfig.localPort = some "0" :=
  built_port builtCodec "198.51.100.7" someServer "b831381d" "" "" (document_blank _)
    (reads_first builtJson [])

lemma noBound_read :
    (Config.fromJson builtCodec (noBound.toJson builtCodec)).serverConfig =
      noBound.serverConfig.again :=
  (saved_read builtCodec (document_blank _) noBound fun _ held => by cases held).2

/-- A client that was built for a server, and a bound of xmux that is empty. -/
theorem built_config_changed :
    ¬ Persisted builtCodec builtConfig ∧ ¬ Persisted builtCodec noBound ∧
      (Config.fromJson builtCodec (builtConfig.toJson builtCodec)).clientConfig.map
        ClientConfig.localPort = some "0" ∧
      builtConfig.clientConfig.map ClientConfig.localPort = some "10808" := by
  constructor
  · intro persisted
    have port := builtConfig_port
    rw [persisted.2] at port
    exact absurd port (by decide)
  constructor
  · intro persisted
    have equal := persisted.1
    rw [noBound_read, ServerConfig.again_equal_iff] at equal
    exact equal.2.bounds ("xmux_max_concurrency_min", "") (by simp [Xmux.bounds, noBound]) rfl
  · exact ⟨builtConfig_port, rfl⟩

end AbstractumVpn.XrayProtocolConfig
