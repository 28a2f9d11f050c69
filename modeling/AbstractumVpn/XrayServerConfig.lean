import AbstractumVpn.QtNumbers
import Mathlib.Data.List.Infix

/-!
`XrayServerConfig`: the settings of an Xray server as the user edits them, with
the values that a new one has. Numbers are kept as texts. Only ASCII letters
change case here, where Qt folds those of every script; the words that texts are
compared with are ASCII.
-/

namespace AbstractumVpn.XrayServerConfig

def defaultSite : String := "www.googletagmanager.com"

def defaultSni : String := "www.googletagmanager.com"

def defaultPort : String := "443"

def defaultFingerprint : String := "chrome"

def defaultAlpn : String := "HTTP/2"

structure XPadding where
  bytesMin : String := ""
  bytesMax : String := ""
  obfsMode : Bool := true
  key : String := ""
  header : String := ""
  placement : String := "Cookie"
  method : String := "Repeat-x"

structure Xmux where
  enabled : Bool := true
  maxConcurrencyMin : String := "0"
  maxConcurrencyMax : String := "0"
  maxConnectionsMin : String := "0"
  maxConnectionsMax : String := "0"
  cMaxReuseTimesMin : String := "0"
  cMaxReuseTimesMax : String := "0"
  hMaxRequestTimesMin : String := "0"
  hMaxRequestTimesMax : String := "0"
  hMaxReusableSecsMin : String := "0"
  hMaxReusableSecsMax : String := "0"
  hKeepAlivePeriod : String := ""

structure Xhttp where
  mode : String := "Auto"
  host : String := "www.googletagmanager.com"
  path : String := ""
  headersTemplate : String := "HTTP"
  uplinkMethod : String := "POST"
  disableGrpc : Bool := true
  disableSse : Bool := true
  sessionPlacement : String := "Path"
  sessionKey : String := "Path"
  seqPlacement : String := "Path"
  seqKey : String := ""
  uplinkDataPlacement : String := "Body"
  uplinkDataKey : String := ""
  uplinkChunkSize : String := "0"
  scMaxBufferedPosts : String := ""
  scMaxEachPostBytesMin : String := "1"
  scMaxEachPostBytesMax : String := "100"
  scMinPostsIntervalMsMin : String := "100"
  scMinPostsIntervalMsMax : String := "800"
  scStreamUpServerSecsMin : String := "1"
  scStreamUpServerSecsMax : String := "100"
  xPadding : XPadding := {}
  xmux : Xmux := {}

structure Mkcp where
  tti : String := ""
  uplinkCapacity : String := ""
  downlinkCapacity : String := ""
  readBufferSize : String := ""
  writeBufferSize : String := ""
  congestion : Bool := true

structure Config where
  port : String := ""
  site : String := ""
  isThirdPartyConfig : Bool := false
  security : String := ""
  flow : String := ""
  fingerprint : String := ""
  sni : String := ""
  alpn : String := ""
  transport : String := ""
  xhttp : Xhttp := {}
  mkcp : Mkcp := {}

def orDefault (text default : String) : String := if text = "" then default else text

section Default

variable {text default : String}

lemma orDefault_ne_empty (some_default : default ≠ "") : orDefault text default ≠ "" := by
  unfold orDefault
  split
  · exact some_default
  · assumption

lemma orDefault_given (given : text ≠ "") : orDefault text default = text := if_neg given

end Default

def toLower (text : String) : String := String.ofList (text.toList.map Char.toLower)

def toUpper (text : String) : String := String.ofList (text.toList.map Char.toUpper)

def sameText (text other : String) : Bool := toLower text = toLower other

def containsText (text part : String) : Bool :=
  decide ((toLower part).toList <:+: (toLower text).toList)

def trimmed (text : String) : String := String.ofList (QtText.trimmed text.toList)

end AbstractumVpn.XrayServerConfig
