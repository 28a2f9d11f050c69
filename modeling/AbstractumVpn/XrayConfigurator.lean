import AbstractumVpn.JsonFields
import AbstractumVpn.XrayServerConfig

/-!
`XrayConfigurator`: the settings of an Xray server are written into the config
file of the server, and the config of a client is built from the same settings.
Objects are written with their keys in Qt's order.
-/

namespace AbstractumVpn.XrayConfigurator

open ImportController (put)
open Json XrayServerConfig

def normalizeXhttpMode (mode : String) : String :=
  let t := trimmed mode
  if t = "" || sameText t "Auto" then "auto"
  else if sameText t "Packet-up" then "packet-up"
  else if sameText t "Stream-up" then "stream-up"
  else if sameText t "Stream-one" then "stream-one"
  else toLower t

def normalizeSessionSeqPlacement (placement : String) : String :=
  if placement = "" || sameText placement "None" then "" else toLower placement

def normalizeUplinkDataPlacement (placement : String) : String :=
  if placement = "" || sameText placement "Body" then "body"
  else if sameText placement "Auto" then "auto"
  else if sameText placement "Query" then "header"
  else toLower placement

def normalizeXPaddingPlacement (placement : String) : String :=
  let t := trimmed placement
  if t = "" then "cookie"
  else if sameText t "Body" then "queryInHeader"
  else if containsText t "queryInHeader" || sameText t "Query in header" then "queryInHeader"
  else toLower t

def normalizeXPaddingMethod (method : String) : String :=
  let t := trimmed method
  if t = "" || sameText t "Repeat-x" then "repeat-x"
  else if sameText t "Tokenish" then "tokenish"
  else if sameText t "Random" || sameText t "Zero" then "repeat-x"
  else toLower t

def range (lower upper : Int) : Value :=
  .object [("from", .double lower), ("to", .double upper)]

def rangeIfAny (least most fallbackMin fallbackMax : String) : Option Value :=
  if least = "" && most = "" then none
  else some (range (QtText.toInt (orDefault least fallbackMin))
    (QtText.toInt (orDefault most fallbackMax)))

def longIfAny (text : String) : Option Value :=
  if text = "" then none else some (.double (QtText.toLongLong text))

def network (transport : String) : String :=
  if transport = "xhttp" then "xhttp" else if transport = "mkcp" then "kcp" else "tcp"

def alpnArray (alpn : String) : List Value :=
  (((QtText.split (orDefault alpn defaultAlpn) ",").map trimmed).filter (· ≠ "")).map .string

def tlsFields (srv : Config) : Fields :=
  [("alpn", if alpnArray srv.alpn = [] then none else some (.array (alpnArray srv.alpn))),
    ("fingerprint", some (.string (orDefault srv.fingerprint defaultFingerprint))),
    ("serverName", some (.string (orDefault srv.sni defaultSni)))]

def tlsSettings (srv : Config) : Object := ofFields (tlsFields srv)

def realitySettings (srv : Config) : Object :=
  [("fingerprint", .string (orDefault srv.fingerprint defaultFingerprint)),
    ("serverName", .string (orDefault srv.sni defaultSni))]

def uplinkChunkSize (text : String) : Option Value :=
  let size := orDefault text "0"
  if size ≠ "" && size ≠ "0" then some (range (QtText.toInt size) (QtText.toInt size)) else none

def paddingBytes (bytesMin bytesMax : String) : Option Value :=
  if bytesMin ≠ "" || bytesMax ≠ "" then
    let least := if bytesMin = "" then 1 else QtText.toInt bytesMin
    let most := if bytesMax = "" then 256 else QtText.toInt bytesMax
    some (range least (if most < least then least else most))
  else none

def muxFields (xmux : Xmux) : Fields :=
  [("cMaxReuseTimes", rangeIfAny xmux.cMaxReuseTimesMin xmux.cMaxReuseTimesMax "0" "0"),
    ("hKeepAlivePeriod", longIfAny xmux.hKeepAlivePeriod),
    ("hMaxRequestTimes", rangeIfAny xmux.hMaxRequestTimesMin xmux.hMaxRequestTimesMax "0" "0"),
    ("hMaxReusableSecs", rangeIfAny xmux.hMaxReusableSecsMin xmux.hMaxReusableSecsMax "0" "0"),
    ("maxConcurrency", rangeIfAny xmux.maxConcurrencyMin xmux.maxConcurrencyMax "0" "0"),
    ("maxConnections", rangeIfAny xmux.maxConnectionsMin xmux.maxConnectionsMax "0" "0")]

/-- Xray has no flag for it: the object is left out when the tuning is off. -/
def muxObject (xmux : Xmux) : Option Value :=
  if xmux.enabled && !(ofFields (muxFields xmux)).isEmpty then some (.object (ofFields (muxFields xmux)))
  else none

def xhttpFields (xhttp : Xhttp) : Fields :=
  let host := orDefault xhttp.host "www.googletagmanager.com"
  let pad := xhttp.xPadding
  let padded (value : Option Value) : Option Value := if pad.obfsMode then value else none
  [("headers", if sameText xhttp.headersTemplate "HTTP" then some (.object [("Host", .string host)])
      else none),
    ("host", some (.string host)),
    ("mode", some (.string (normalizeXhttpMode xhttp.mode))),
    ("noGRPCHeader", some (.bool xhttp.disableGrpc)),
    ("noSSEHeader", some (.bool xhttp.disableSse)),
    ("path", unlessEmpty xhttp.path),
    ("scMaxBufferedPosts", longIfAny xhttp.scMaxBufferedPosts),
    ("scMaxEachPostBytes",
      rangeIfAny xhttp.scMaxEachPostBytesMin xhttp.scMaxEachPostBytesMax "1" "100"),
    ("scMinPostsIntervalMs",
      rangeIfAny xhttp.scMinPostsIntervalMsMin xhttp.scMinPostsIntervalMsMax "100" "800"),
    ("scStreamUpServerSecs",
      rangeIfAny xhttp.scStreamUpServerSecsMin xhttp.scStreamUpServerSecsMax "1" "100"),
    ("seqKey", unlessEmpty xhttp.seqKey),
    ("seqPlacement", unlessEmpty (normalizeSessionSeqPlacement xhttp.seqPlacement)),
    ("sessionKey", unlessEmpty xhttp.sessionKey),
    ("sessionPlacement", unlessEmpty (normalizeSessionSeqPlacement xhttp.sessionPlacement)),
    ("uplinkChunkSize", uplinkChunkSize xhttp.uplinkChunkSize),
    ("uplinkDataKey", unlessEmpty xhttp.uplinkDataKey),
    ("uplinkDataPlacement", some (.string (normalizeUplinkDataPlacement xhttp.uplinkDataPlacement))),
    ("uplinkHTTPMethod", some (.string (toUpper (orDefault xhttp.uplinkMethod "POST")))),
    ("xPaddingBytes", padded (paddingBytes pad.bytesMin pad.bytesMax)),
    ("xPaddingHeader", padded (some (.string (orDefault pad.header "X-Padding")))),
    ("xPaddingKey", padded (some (.string (orDefault pad.key "x_padding")))),
    ("xPaddingMethod", padded (some (.string
      (normalizeXPaddingMethod (orDefault pad.method "Repeat-x"))))),
    ("xPaddingObfsMode", some (.bool pad.obfsMode)),
    ("xPaddingPlacement", padded (some (.string
      (normalizeXPaddingPlacement (orDefault pad.placement "Cookie"))))),
    ("xmux", muxObject xhttp.xmux)]

def kcpSettings (mkcp : Mkcp) : Object :=
  let number (text default : String) : Value := .double (QtText.toInt (orDefault text default))
  [("congestion", .bool mkcp.congestion), ("downlinkCapacity", number mkcp.downlinkCapacity "20"),
    ("readBufferSize", number mkcp.readBufferSize "2"), ("tti", number mkcp.tti "50"),
    ("uplinkCapacity", number mkcp.uplinkCapacity "5"),
    ("writeBufferSize", number mkcp.writeBufferSize "2")]

def streamFields (srv : Config) : Fields :=
  [("kcpSettings", if srv.transport = "mkcp" then some (.object (kcpSettings srv.mkcp)) else none),
    ("network", some (.string (network srv.transport))),
    ("realitySettings",
      if srv.security = "reality" then some (.object (realitySettings srv)) else none),
    ("security", some (.string srv.security)),
    ("tlsSettings", if srv.security = "tls" then some (.object (tlsSettings srv)) else none),
    ("xhttpSettings",
      if srv.transport = "xhttp" then some (.object (ofFields (xhttpFields srv.xhttp))) else none)]

def buildStreamSettings (srv : Config) : Object := ofFields (streamFields srv)

def siteName (srv : Config) : String := orDefault srv.site defaultSite

def inboundName (srv : Config) : String := orDefault srv.sni (siteName srv)

def withDest (srv : Config) (rs : Object) : Object :=
  if rs.contains "dest" then rs else put rs "dest" (.string (siteName srv ++ ":443"))

def mergedReality (srv : Config) (oldRs : Object) : Object :=
  let newRs := realitySettings srv
  let merged := if oldRs = [] then newRs else oldRs
  let merged := put merged "fingerprint" (newRs.value "fingerprint")
  withDest srv (put merged "serverNames" (.array [.string (inboundName srv)]))

def mergeStreamSettingsForServerInbound (srv : Config) (existingStreamSettings : Object) : Object :=
  let streamSettings := buildStreamSettings srv
  if srv.security ≠ "reality" then streamSettings
  else
    put streamSettings "realitySettings"
      (.object (mergedReality srv (existingStreamSettings.value "realitySettings").toObject))

inductive ErrorCode where
  | sshError
  | xrayRealityKeysReadFailed
  | xrayServerConfigInvalid
  | xrayServerNoVlessClients

def withFlow (flow : String) (client : Object) : Object :=
  if flow = "" then client.remove "flow" else put client "flow" (.string flow)

def updateClients (srv : Config) (appendNewClient : Bool) (newId : String) (clients : List Value) :
    Except ErrorCode (List Value × String) :=
  if appendNewClient then
    .ok (clients ++ [.object (withFlow srv.flow [("id", .string newId)])], newId)
  else
    let clientId := ((clients.headD .undefined).toObject.value "id").toString
    if clientId = "" then .error .xrayServerNoVlessClients
    else .ok (clients.map fun client => .object (withFlow srv.flow client.toObject), clientId)

def withStream (srv : Config) (inbound : Object) : Object :=
  let existingStream := (inbound.value "streamSettings").toObject
  let inbound := put inbound "streamSettings"
    (.object (mergeStreamSettingsForServerInbound srv existingStream))
  if srv.port ≠ "" then put inbound "port" (.double (QtText.toInt srv.port)) else inbound

def clientsOf (inbound : Object) : List Value :=
  ((inbound.value "settings").toObject.value "clients").toArray

def withClients (clients : List Value) (inbound : Object) : Object :=
  put inbound "settings"
    (.object (put (inbound.value "settings").toObject "clients" (.array clients)))

def updateInbound (srv : Config) (appendNewClient : Bool) (newId : String) (inbound : Object) :
    Except ErrorCode (Object × String) :=
  if !inbound.contains "settings" then .error .xrayServerConfigInvalid
  else
    match updateClients srv appendNewClient newId (clientsOf (withStream srv inbound)) with
    | .error error => .error error
    | .ok (clients, clientId) => .ok (withClients clients (withStream srv inbound), clientId)

def updateServerConfig (srv : Config) (appendNewClient : Bool) (newId : String) (file : Value) :
    Except ErrorCode (Object × String) :=
  match file with
  | .object serverConfig =>
    if !Object.contains serverConfig "inbounds" then .error .xrayServerConfigInvalid
    else
      match (Object.value serverConfig "inbounds").toArray with
      | [] => .error .xrayServerConfigInvalid
      | inbound :: others =>
        match updateInbound srv appendNewClient newId inbound.toObject with
        | .error error => .error error
        | .ok (updated, clientId) =>
          .ok (put serverConfig "inbounds" (.array (.object updated :: others)), clientId)
  | _ => .error .xrayServerConfigInvalid

def userFields (srv : Config) (clientId : String) : Fields :=
  [("encryption", some (.string "none")), ("flow", unlessEmpty srv.flow),
    ("id", some (.string clientId))]

def clientUser (srv : Config) (clientId : String) : Object := ofFields (userFields srv clientId)

def clientStream (srv : Config) (publicKey shortId : String) : Object :=
  let streamObj := buildStreamSettings srv
  if srv.security = "reality" then
    let rs := (streamObj.value "realitySettings").toObject
    let rs := put rs "publicKey" (.string publicKey)
    let rs := put rs "shortId" (.string shortId)
    put streamObj "realitySettings" (.object (put rs "spiderX" (.string "")))
  else streamObj

def clientPort (srv : Config) : Int := QtText.toInt (orDefault srv.port defaultPort)

def clientOutbound (hostName : String) (srv : Config) (clientId publicKey shortId : String) : Object :=
  [("protocol", .string "vless"),
    ("settings", .object [("vnext", .array [.object
      [("address", .string hostName), ("port", .double (clientPort srv)),
        ("users", .array [.object (clientUser srv clientId)])]])]),
    ("streamSettings", .object (clientStream srv publicKey shortId))]

def clientInbound : Object :=
  [("listen", .string "127.0.0.1"), ("port", .string "10808"), ("protocol", .string "socks"),
    ("settings", .object [("udp", .bool true)])]

def buildClientProtocolConfig (hostName : String) (srv : Config)
    (clientId publicKey shortId : String) : Object :=
  [("inbounds", .array [.object clientInbound]),
    ("log", .object [("loglevel", .string "error")]),
    ("outbounds", .array [.object (clientOutbound hostName srv clientId publicKey shortId)])]

/-- What the server answers. The keys are there if both files could be read and neither is
empty. -/
structure Answers where
  hostName : String
  realityKeys : Option (String × String)
  readable : Bool
  newId : String
  uploaded : Bool
  restarted : Bool

/-- What a call does: the config that it uploads, and the config of the client that it builds unless
it fails or has been skipped. -/
structure Applied where
  uploaded : Option Object
  client : Except ErrorCode (Option Object)

def applyServerSettingsToRemote (srv : Config) (appendNewClient : Bool) (answers : Answers)
    (file : Value) : Applied :=
  if srv.isThirdPartyConfig then ⟨none, .ok none⟩
  else if srv.security = "reality" && answers.realityKeys.isNone then
    ⟨none, .error .xrayRealityKeysReadFailed⟩
  else if !answers.readable then ⟨none, .error .sshError⟩
  else
    match updateServerConfig srv appendNewClient answers.newId file with
    | .error error => ⟨none, .error error⟩
    | .ok (serverConfig, clientId) =>
      if !answers.uploaded then ⟨none, .error .sshError⟩
      else if !answers.restarted then ⟨some serverConfig, .error .sshError⟩
      else
        let keys := if srv.security = "reality" then answers.realityKeys.getD ("", "") else ("", "")
        ⟨some serverConfig, .ok (some
          (buildClientProtocolConfig answers.hostName srv clientId keys.1 keys.2))⟩

def firstInbound (serverConfig : Object) : Object :=
  ((serverConfig.value "inbounds").toArray.headD .undefined).toObject

def streamOf (inbound : Object) : Object := (inbound.value "streamSettings").toObject

section Updates

variable {srv : Config} {appendNewClient : Bool} {newId clientId : String}

lemma value_withStream (inbound : Object) (key : String) (no_stream : key ≠ "streamSettings")
    (no_port : key ≠ "port") : Object.value (withStream srv inbound) key = inbound.value key := by
  simp only [withStream]
  split
  · rw [value_put_other _ _ _ _ no_port, value_put_other _ _ _ _ no_stream]
  · rw [value_put_other _ _ _ _ no_stream]

lemma streamOf_withStream (inbound : Object) : streamOf (withStream srv inbound) =
    mergeStreamSettingsForServerInbound srv (streamOf inbound) := by
  simp only [withStream, streamOf]
  split
  · rw [value_put_other _ _ _ _ (by decide), value_put_self]
    rfl
  · rw [value_put_self]
    rfl

lemma clientsOf_withStream (inbound : Object) :
    clientsOf (withStream srv inbound) = clientsOf inbound := by
  rw [clientsOf, value_withStream _ _ (by decide) (by decide), clientsOf]

lemma value_withClients (clients : List Value) (inbound : Object) (key : String)
    (no_settings : key ≠ "settings") :
    Object.value (withClients clients inbound) key = inbound.value key :=
  value_put_other _ _ _ _ no_settings

lemma clientsOf_withClients (clients : List Value) (inbound : Object) :
    clientsOf (withClients clients inbound) = clients := by
  simp [clientsOf, withClients, Value.toObject, Value.toArray]

/-- Whatever the file was, an update that succeeds leaves in the first inbound the merged stream
settings and the updated clients. -/
lemma updateServerConfig_ok {file : Value} {serverConfig : Object}
    (updated : updateServerConfig srv appendNewClient newId file = .ok (serverConfig, clientId)) :
    ∃ clients, updateClients srv appendNewClient newId (clientsOf (firstInbound file.toObject)) =
        .ok (clients, clientId) ∧
      firstInbound serverConfig =
        withClients clients (withStream srv (firstInbound file.toObject)) := by
  unfold updateServerConfig at updated
  split at updated
  · rename_i entries
    split at updated
    · cases updated
    · split at updated
      · cases updated
      · rename_i inbound others inbounds
        have first : firstInbound entries = inbound.toObject := by
          rw [firstInbound, inbounds]
          rfl
        split at updated
        · cases updated
        · rename_i result _ after
          cases updated
          unfold updateInbound at after
          split at after
          · cases after
          · split at after
            · cases after
            · rename_i clients _ same
              cases after
              refine ⟨clients, ?_, ?_⟩
              · rw [clientsOf_withStream] at same
                rw [Value.toObject, first, same]
              · rw [Value.toObject, first]
                simp [firstInbound, Value.toArray, Value.toObject]
  · cases updated

lemma uploaded_some {answers : Answers} {file : Value} {serverConfig : Object}
    (uploaded : (applyServerSettingsToRemote srv appendNewClient answers file).uploaded =
      some serverConfig) :
    ∃ clientId, updateServerConfig srv appendNewClient answers.newId file =
      .ok (serverConfig, clientId) := by
  unfold applyServerSettingsToRemote at uploaded
  split at uploaded
  · cases uploaded
  · split at uploaded
    · cases uploaded
    · split at uploaded
      · cases uploaded
      · split at uploaded
        · cases uploaded
        · rename_i _ clientId updated
          split at uploaded
          · cases uploaded
          · refine ⟨clientId, ?_⟩
            rw [updated]
            split at uploaded <;> cases uploaded <;> rfl

lemma client_some {answers : Answers} {file : Value} {client : Object}
    (built : (applyServerSettingsToRemote srv appendNewClient answers file).client =
      .ok (some client)) :
    ∃ serverConfig clientId publicKey shortId,
      (applyServerSettingsToRemote srv appendNewClient answers file).uploaded = some serverConfig ∧
      updateServerConfig srv appendNewClient answers.newId file = .ok (serverConfig, clientId) ∧
      client = buildClientProtocolConfig answers.hostName srv clientId publicKey shortId := by
  unfold applyServerSettingsToRemote at built ⊢
  split at built
  · cases built
  · split at built
    · cases built
    · split at built
      · cases built
      · split at built
        · cases built
        · split at built
          · cases built
          · split at built
            · cases built
            · rename_i third_party keys readable _ serverConfig clientId updated sent restarted
              cases built
              refine ⟨serverConfig, clientId, _, _, ?_, updated, rfl⟩
              simp [third_party, keys, readable, sent, restarted]

end Updates

end AbstractumVpn.XrayConfigurator
