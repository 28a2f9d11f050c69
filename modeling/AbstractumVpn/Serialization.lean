import AbstractumVpn.ImportController

/-!
The deserialiser of `vless` share links. It turns a link into an Xray config with
one inbound and one outbound, and reports errors through a pointer. Objects are
written with their keys in Qt's order.
-/

namespace AbstractumVpn.Serialization

open ImportController Json

structure Url where
  isValid : Bool
  errorString : String
  host : String
  /-- -1 where the link has none. -/
  port : Int
  fragment : String
  userInfo : String
  query : List (String × String)

structure Readers where
  url : String → Url
  fromPercentEncoding : String → String

variable (readers : Readers)

def optional (key : String) (value : Option Value) : Object :=
  (value.map fun value => (key, value)).toList

def settings (entries : Object) : Option Value := if entries = [] then none else some (.object entries)

def stringList (texts : List String) : Value := .array (texts.map .string)

def generateInboundEntry : Object :=
  [("listen", .string "127.0.0.1"), ("port", .double 10808), ("protocol", .string "socks"),
    ("settings", .object [("udp", .bool true)])]

def assemble (outbound : Object) : Object :=
  [("inbounds", .array [.object generateInboundEntry]), ("outbounds", .array [.object outbound])]

namespace Vless

def item (url : Url) (key : String) : Option String := url.query.lookup key

def itemOr (url : Url) (key default : String) : String := (item url key).getD default

def decodedItem (url : Url) (key : String) : Option String :=
  (item url key).map readers.fromPercentEncoding

def type (url : Url) : String := itemOr url "type" "tcp"

def security (url : Url) : String := itemOr url "security" "none"

def otherThan (default text : String) : Option Value :=
  if text = default then none else some (.string text)

def header (url : Url) : Option Value :=
  settings (optional "type" (otherThan "none" (itemOr url "headerType" "none")))

def path (url : Url) : Option Value := otherThan "/" ((decodedItem readers url "path").getD "/")

def kcpSettings (url : Url) : Object :=
  optional "header" (header url) ++ optional "seed" ((item url "seed").map .string)

def httpSettings (url : Url) : Object :=
  optional "host" ((item url "host").map fun hosts => stringList (QtText.split hosts ",")) ++
    optional "path" (path readers url)

def wsSettings (url : Url) : Object :=
  optional "headers" ((item url "host").map fun host => .object [("Host", .string host)]) ++
    optional "path" (path readers url)

def quicSettings (url : Url) : Object :=
  match item url "quicSecurity" with
  | none => []
  | some quicSecurity =>
    optional "header" (header url) ++
      (if quicSecurity = "none" then [] else [("key", .string (itemOr url "key" ""))]) ++
      [("security", .string quicSecurity)]

def grpcSettings (url : Url) : Object :=
  optional "multiMode" ((decodedItem readers url "mode").map fun mode => .bool (mode = "multi")) ++
    optional "serviceName" ((decodedItem readers url "serviceName").map .string)

def forType (url : Url) (name key : String) (entries : Object) : Object :=
  if type url = name then optional key (settings entries) else []

def tlsKey (url : Url) : String :=
  if security url = "xtls" then "xtlsSettings"
  -- also for a link without any security
  else if security url = "tls" then "tlsSettings" else "realitySettings"

/-- `h2` is taken out of the list, and a list without another name is not set. -/
def alpn (url : Url) : Option Value :=
  (decodedItem readers url "alpn").bind fun names =>
    let kept := (QtText.split names ",").filter (· ≠ "h2")
    if kept = [] then none else some (stringList kept)

def tlsSettings (url : Url) : Object :=
  let reality (key name : String) : Object :=
    if security url = "reality" then optional key ((decodedItem readers url name).map .string) else []
  optional "alpn" (alpn readers url) ++ reality "fingerprint" "fp" ++ reality "publicKey" "pbk" ++
    optional "serverName" ((item url "sni").map .string) ++ reality "shortId" "sid" ++
    reality "spiderX" "spiderX"

def forTls (url : Url) (key : String) : Object :=
  if tlsKey url = key then optional key (settings (tlsSettings readers url)) else []

def streamSettings (url : Url) : Object :=
  forType url "grpc" "grpcSettings" (grpcSettings readers url) ++
    forType url "http" "httpSettings" (httpSettings readers url) ++
    forType url "kcp" "kcpSettings" (kcpSettings url) ++
    optional "network" (otherThan "tcp" (type url)) ++
    forType url "quic" "quicSettings" (quicSettings url) ++
    forTls readers url "realitySettings" ++
    optional "security" (otherThan "none" (security url)) ++
    forTls readers url "tlsSettings" ++
    forType url "ws" "wsSettings" (wsSettings readers url) ++
    forTls readers url "xtlsSettings"

def user (url : Url) : Object :=
  [("encryption", .string (itemOr url "encryption" "none"))] ++
    (if security url = "xtls" ∨ security url = "reality" then
      [("flow", .string (itemOr url "flow" ""))] else []) ++
    [("id", .string url.userInfo)]

def host (url : Url) : String :=
  let raw := url.host.toList
  if raw.head? = some '[' ∧ raw.getLast? = some ']' then String.ofList (raw.drop 1).dropLast
  else url.host

def outbound (url : Url) : Object :=
  [("protocol", .string "vless"),
    ("settings", .object [("vnext", .array [.object
      [("address", .string (host url)), ("port", .double url.port),
        ("users", .array [.object (user url)])]])]),
    ("streamSettings", .object (streamSettings readers url))]

def remarks (url : Url) (aliasName : String) : String :=
  if url.fragment = "" then aliasName else url.fragment

def deserialize (text aliasName : String) : Link :=
  let url := readers.url text
  if !startsWith text "vless://" then ⟨[], aliasName, "VLESS link should start with vless://"⟩
  else if !url.isValid then ⟨[], aliasName, QtText.arg "link parse failed: %1" url.errorString⟩
  else if url.host = "" then ⟨[], aliasName, "empty host"⟩
  else if url.port = -1 then ⟨[], aliasName, "missing port"⟩
  else if url.userInfo = "" then ⟨[], remarks url aliasName, "missing uuid"⟩
  else ⟨assemble (outbound readers url), remarks url aliasName, ""⟩

end Vless

end AbstractumVpn.Serialization
