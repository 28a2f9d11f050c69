import AbstractumVpn.ImportController

/-!
`ContainerUtils` and `ProtocolUtils`: what is known of a kind of container. A map
from kinds to configs is visited in the order of the enumeration.
-/

namespace AbstractumVpn.ContainerUtils

open SiteRoutes (DockerContainer)

inductive Proto where
  | unknown
  | openVpn
  | wireGuard
  | awg
  | ikev2
  | xray
  | ssXray
  | torWebSite
  | dns
  | sftp
  | socks5Proxy
  | mtProxy
  | telemt
  deriving DecidableEq

inductive ServiceType where
  | none
  | vpn
  | other
  deriving DecidableEq

def allContainers : List DockerContainer :=
  [.none, .awg, .awg2, .wireGuard, .openVpn, .cloak, .shadowSocks, .ipsec, .xray, .ssXray,
    .torWebSite, .dns, .sftp, .socks5Proxy, .mtProxy, .telemt]

def containerToString : DockerContainer → String
  | .none => "none"
  | .awg => "amnezia-awg"
  | .awg2 => "amnezia-awg2"
  | .wireGuard => "amnezia-wireguard"
  | .openVpn => "amnezia-openvpn"
  | .cloak => "amnezia-openvpn-cloak"
  | .shadowSocks => "amnezia-shadowsocks"
  | .ipsec => "amnezia-ipsec"
  | .xray => "amnezia-xray"
  | .ssXray => "amnezia-ssxray"
  | .torWebSite => "amnezia-torwebsite"
  | .dns => "amnezia-dns"
  | .sftp => "amnezia-sftp"
  | .socks5Proxy => "amnezia-socks5proxy"
  | .mtProxy => "amnezia-mtproxy"
  | .telemt => "amnezia-telemt"

def defaultProtocol : DockerContainer → Proto
  | .none | .cloak | .shadowSocks => .unknown
  | .openVpn => .openVpn
  | .wireGuard => .wireGuard
  | .awg | .awg2 => .awg
  | .xray => .xray
  | .ipsec => .ikev2
  | .ssXray => .ssXray
  | .torWebSite => .torWebSite
  | .dns => .dns
  | .sftp => .sftp
  | .socks5Proxy => .socks5Proxy
  | .mtProxy => .mtProxy
  | .telemt => .telemt

def protocolService : Proto → ServiceType
  | .unknown | .ssXray => .none
  | .openVpn | .wireGuard | .awg | .ikev2 | .xray => .vpn
  | .torWebSite | .dns | .sftp | .socks5Proxy | .mtProxy | .telemt => .other

def isUnsupportedContainer (container : DockerContainer) : Bool :=
  container = .cloak || container = .shadowSocks

def containerService (container : DockerContainer) : ServiceType :=
  if isUnsupportedContainer container then .vpn else protocolService (defaultProtocol container)

inductive Platform where
  | windows
  | ios
  | macosNe
  | macos
  | android
  | linux
  | other
  deriving DecidableEq

def isMobileContainer : DockerContainer → Bool
  | .wireGuard | .openVpn | .awg | .awg2 | .xray | .ssXray | .mtProxy | .telemt => true
  | _ => false

def isSupportedByCurrentPlatform (platform : Platform) (container : DockerContainer) : Bool :=
  match platform with
  | .windows => true
  | .ios | .macosNe | .android => isMobileContainer container
  | .macos | .linux => container ≠ .ipsec
  | .other => false

lemma mem_allContainers (container : DockerContainer) : container ∈ allContainers := by
  cases container <;> decide

lemma containerFromString_toString (container : DockerContainer) :
    ImportController.containerFromString (containerToString container) = container := by
  cases container <;> rfl

abbrev ContainerMap (Config : Type) := DockerContainer → Option Config

namespace ContainerMap

variable {Config : Type}

def keys (map : ContainerMap Config) : List DockerContainer :=
  allContainers.filter fun container => (map container).isSome

def insert (map : ContainerMap Config) (container : DockerContainer) (config : Config) :
    ContainerMap Config :=
  fun other => if other = container then some config else map other

def remove (map : ContainerMap Config) (container : DockerContainer) : ContainerMap Config :=
  fun other => if other = container then none else map other

def first (map : ContainerMap Config) : Option DockerContainer := map.keys.head?

variable (map : ContainerMap Config) (container : DockerContainer)

lemma insert_apply (other : DockerContainer) (config : Config) :
    map.insert container config other = if other = container then some config else map other := rfl

lemma remove_apply (other : DockerContainer) :
    map.remove container other = if other = container then none else map other := rfl

lemma insert_all_other (entries : List (DockerContainer × Config)) {container : DockerContainer}
    (others : ∀ entry ∈ entries, entry.1 ≠ container) (map : ContainerMap Config) :
    entries.foldl (fun found entry => found.insert entry.1 entry.2) map container =
      map container := by
  induction entries generalizing map with
  | nil => rfl
  | cons entry rest ih =>
    rw [List.foldl_cons, ih fun other member => others other (List.mem_cons_of_mem _ member),
      insert_apply, if_neg (others entry List.mem_cons_self).symm]

lemma keys_nodup : map.keys.Nodup := by
  have all : allContainers.Nodup := by decide
  exact all.filter _

lemma mem_keys : container ∈ map.keys ↔ (map container).isSome = true := by
  simp [keys, mem_allContainers]

lemma first_some {map : ContainerMap Config} {container : DockerContainer}
    (found : map.first = some container) : (map container).isSome = true :=
  (mem_keys map container).mp (List.mem_of_mem_head? found)

end ContainerMap

end AbstractumVpn.ContainerUtils
