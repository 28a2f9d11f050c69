import AbstractumVpn.XrayConfigurator

/-!
`XrayInstaller`: the settings of an Xray server are read back from its config
file. What the file does not say is left as it was. Keys of old versions are
read too.
-/

namespace AbstractumVpn.XrayInstaller

open Json XrayServerConfig XrayConfigurator

def boolOr : Value → Bool → Bool
  | .bool value, _ => value
  | _, default => default

/-- `toVariant().toLongLong()`: a number that is not whole is rounded, half away from zero. -/
def toLongLong : Value → Int
  | .double number =>
    let rounded :=
      if number.den = 1 then number.num
      else if 0 ≤ number then (number + 1 / 2).floor
      else (number - 1 / 2).ceil
    if -9223372036854775808 ≤ rounded ∧ rounded ≤ 9223372036854775807 then rounded else 0
  | .string text => QtText.toLongLong text
  | .bool value => if value then 1 else 0
  | _ => 0

def readRange (value : Value) (least most : String) : String × String :=
  let r := value.toObject
  if r = [] then (least, most)
  else (QtText.number (r.value "from").toInt, QtText.number (r.value "to").toInt)

def readNumber (object : Object) (key text : String) : String :=
  if object.contains key then QtText.number (object.value key).toInt else text

def readLong (object : Object) (key text : String) : String :=
  if object.contains key then QtText.number (toLongLong (object.value key)) else text

/-- Old templates of the server have a fingerprint that Xray does not know. -/
def normalizeXrayFingerprint (fp : String) : String :=
  if fp = "" || containsText fp "Mozilla/5.0" then defaultFingerprint else fp

def readTransport (network : String) : String :=
  if network = "xhttp" then "xhttp" else if network = "kcp" then "mkcp" else "raw"

def readMode (m : String) : String :=
  if m = "" || m = "auto" then "Auto"
  else if m = "packet-up" then "Packet-up"
  else if m = "stream-up" then "Stream-up"
  else if m = "stream-one" then "Stream-one"
  else m

def sessionSeqUi (core : String) : String :=
  if core = "" || core = "path" then "Path"
  else if core = "cookie" then "Cookie"
  else if core = "header" then "Header"
  else if core = "query" then "Query"
  else core

def uplinkDataUi (core : String) : String :=
  if core = "" || core = "body" then "Body"
  else if core = "auto" then "Auto"
  else if core = "header" then "Header"
  else if core = "cookie" then "Cookie"
  else core

def placementUi (placement : String) : String :=
  let pl := toLower placement
  if pl = "cookie" then "Cookie"
  else if pl = "header" then "Header"
  else if pl = "query" then "Query"
  else if pl = "queryinheader" then "Query in header"
  else placement

def methodUi (method : String) : String :=
  let met := toLower method
  if met = "repeat-x" then "Repeat-x" else if met = "tokenish" then "Tokenish" else method

def readReality (rs : Object) (srv : Config) : Config :=
  let srv :=
    if rs.contains "serverNames" then
      let sni := ((rs.value "serverNames").toArray.headD .undefined).toString
      { srv with sni := sni, site := sni }
    else if rs.contains "serverName" then
      let sni := (rs.value "serverName").toString
      { srv with sni := sni, site := sni }
    else srv
  { srv with fingerprint := normalizeXrayFingerprint (rs.value "fingerprint").toString }

def readTls (tls : Object) (srv : Config) : Config :=
  { srv with
    sni := (tls.value "serverName").toString
    fingerprint := normalizeXrayFingerprint (tls.value "fingerprint").toString
    alpn := ",".intercalate ((tls.value "alpn").toArray.map Value.toString) }

def loadPaddingFromObject (pad : Object) (old : XPadding) : XPadding :=
  let bytes := readRange (pad.value "xPaddingBytes") old.bytesMin old.bytesMax
  { bytesMin := bytes.1
    bytesMax := bytes.2
    obfsMode :=
      if pad.contains "xPaddingObfsMode" then boolOr (pad.value "xPaddingObfsMode") true
      else old.obfsMode
    key := (pad.value "xPaddingKey").toString
    header := (pad.value "xPaddingHeader").toString
    placement := placementUi (pad.value "xPaddingPlacement").toString
    method := methodUi (pad.value "xPaddingMethod").toString }

def readPadding (xhttpObj : Object) (old : XPadding) : XPadding :=
  if xhttpObj.contains "xPaddingObfsMode" || xhttpObj.contains "xPaddingKey" ||
      !(xhttpObj.value "xPaddingBytes").toObject.isEmpty then
    loadPaddingFromObject xhttpObj old
  else
    let nested := (xhttpObj.value "xPadding").toObject
    if nested.isEmpty then old
    else
      let loaded := loadPaddingFromObject nested old
      if nested.contains "xPaddingObfsMode" then loaded else { loaded with obfsMode := true }

def readMux (mux : Object) (old : Xmux) : Xmux :=
  let maxConcurrency :=
    readRange (mux.value "maxConcurrency") old.maxConcurrencyMin old.maxConcurrencyMax
  let maxConnections :=
    readRange (mux.value "maxConnections") old.maxConnectionsMin old.maxConnectionsMax
  let cMaxReuseTimes :=
    readRange (mux.value "cMaxReuseTimes") old.cMaxReuseTimesMin old.cMaxReuseTimesMax
  let hMaxRequestTimes :=
    readRange (mux.value "hMaxRequestTimes") old.hMaxRequestTimesMin old.hMaxRequestTimesMax
  let hMaxReusableSecs :=
    readRange (mux.value "hMaxReusableSecs") old.hMaxReusableSecsMin old.hMaxReusableSecsMax
  { enabled := true
    maxConcurrencyMin := maxConcurrency.1
    maxConcurrencyMax := maxConcurrency.2
    maxConnectionsMin := maxConnections.1
    maxConnectionsMax := maxConnections.2
    cMaxReuseTimesMin := cMaxReuseTimes.1
    cMaxReuseTimesMax := cMaxReuseTimes.2
    hMaxRequestTimesMin := hMaxRequestTimes.1
    hMaxRequestTimesMax := hMaxRequestTimes.2
    hMaxReusableSecsMin := hMaxReusableSecs.1
    hMaxReusableSecsMax := hMaxReusableSecs.2
    hKeepAlivePeriod := readLong mux "hKeepAlivePeriod" old.hKeepAlivePeriod }

def readChunkSize (xhttpObj : Object) (old : String) : String :=
  if xhttpObj.contains "uplinkChunkSize" then
    let uc := (xhttpObj.value "uplinkChunkSize").toObject
    if uc = [] then old else QtText.number (uc.value "from").toInt
  else readNumber xhttpObj "xhttpUplinkChunkSize" old

def textOrOld (object : Object) (key oldKey : String) : String :=
  orDefault (object.value key).toString (object.value oldKey).toString

def readXhttp (xhttpObj : Object) (old : Xhttp) : Xhttp :=
  let scMaxEachPostBytes :=
    readRange (xhttpObj.value "scMaxEachPostBytes") old.scMaxEachPostBytesMin old.scMaxEachPostBytesMax
  let scMinPostsIntervalMs :=
    readRange (xhttpObj.value "scMinPostsIntervalMs") old.scMinPostsIntervalMsMin
      old.scMinPostsIntervalMsMax
  let scStreamUpServerSecs :=
    readRange (xhttpObj.value "scStreamUpServerSecs") old.scStreamUpServerSecsMin
      old.scStreamUpServerSecsMax
  { mode := readMode (xhttpObj.value "mode").toString
    host := (xhttpObj.value "host").toString
    path := (xhttpObj.value "path").toString
    headersTemplate :=
      if (xhttpObj.value "headers").toObject.isEmpty then old.headersTemplate else "HTTP"
    uplinkMethod :=
      if xhttpObj.contains "uplinkHTTPMethod" then (xhttpObj.value "uplinkHTTPMethod").toString
      else (xhttpObj.value "method").toString
    disableGrpc := boolOr (xhttpObj.value "noGRPCHeader") true
    disableSse := boolOr (xhttpObj.value "noSSEHeader") true
    sessionPlacement := sessionSeqUi (textOrOld xhttpObj "sessionPlacement" "scSessionPlacement")
    sessionKey := (xhttpObj.value "sessionKey").toString
    seqPlacement := sessionSeqUi (textOrOld xhttpObj "seqPlacement" "scSeqPlacement")
    seqKey := (xhttpObj.value "seqKey").toString
    uplinkDataPlacement :=
      uplinkDataUi (textOrOld xhttpObj "uplinkDataPlacement" "scUplinkDataPlacement")
    uplinkDataKey := (xhttpObj.value "uplinkDataKey").toString
    uplinkChunkSize := readChunkSize xhttpObj old.uplinkChunkSize
    scMaxBufferedPosts := readLong xhttpObj "scMaxBufferedPosts" old.scMaxBufferedPosts
    scMaxEachPostBytesMin := scMaxEachPostBytes.1
    scMaxEachPostBytesMax := scMaxEachPostBytes.2
    scMinPostsIntervalMsMin := scMinPostsIntervalMs.1
    scMinPostsIntervalMsMax := scMinPostsIntervalMs.2
    scStreamUpServerSecsMin := scStreamUpServerSecs.1
    scStreamUpServerSecsMax := scStreamUpServerSecs.2
    xPadding := readPadding xhttpObj old.xPadding
    xmux :=
      if xhttpObj.contains "xmux" then readMux (xhttpObj.value "xmux").toObject old.xmux
      else old.xmux }

def readMkcp (kcp : Object) (old : Mkcp) : Mkcp where
  tti := readNumber kcp "tti" old.tti
  uplinkCapacity := readNumber kcp "uplinkCapacity" old.uplinkCapacity
  downlinkCapacity := readNumber kcp "downlinkCapacity" old.downlinkCapacity
  readBufferSize := readNumber kcp "readBufferSize" old.readBufferSize
  writeBufferSize := readNumber kcp "writeBufferSize" old.writeBufferSize
  congestion := boolOr (kcp.value "congestion") true

def readFlow (inbound : Object) (old : String) : String :=
  if inbound.contains "settings" then
    match clientsOf inbound with
    | [] => old
    | client :: _ => (client.toObject.value "flow").toString
  else old

def readInbound (inbound : Object) (srv : Config) : Config :=
  let streamSettings := streamOf inbound
  let srv := { srv with
    port := readNumber inbound "port" srv.port
    transport := readTransport (stringOr (streamSettings.value "network") "tcp")
    security := stringOr (streamSettings.value "security") "reality" }
  let srv :=
    if srv.security = "reality" then readReality (streamSettings.value "realitySettings").toObject srv
    else srv
  let srv :=
    if srv.security = "tls" then readTls (streamSettings.value "tlsSettings").toObject srv else srv
  { srv with
    flow := readFlow inbound srv.flow
    xhttp :=
      if srv.transport = "xhttp" then readXhttp (streamSettings.value "xhttpSettings").toObject srv.xhttp
      else srv.xhttp
    mkcp :=
      if srv.transport = "mkcp" then readMkcp (streamSettings.value "kcpSettings").toObject srv.mkcp
      else srv.mkcp }

inductive ErrorCode where
  | sshError
  | internalError

def extractConfigFromContainer (readable : Bool) (file : Value) (srv : Config) :
    Except ErrorCode Config :=
  if !readable then .error .sshError
  else
    match file with
    | .object serverConfig =>
      if !Object.contains serverConfig "inbounds" then .error .internalError
      else if (Object.value serverConfig "inbounds").toArray.isEmpty then .error .internalError
      else if !(firstInbound serverConfig).contains "streamSettings" then .error .internalError
      else .ok (readInbound (firstInbound serverConfig) srv)
    | _ => .error .internalError

end AbstractumVpn.XrayInstaller
