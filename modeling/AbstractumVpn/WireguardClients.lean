import AbstractumVpn.Addresses
import AbstractumVpn.Runs
import AbstractumVpn.TextScan
import Mathlib.Data.List.Flatten
import Mathlib.Data.List.TakeWhile

/-!
The clients of a WireGuard or AmneziaWG server: `prepareWireguardConfig` appends
a peer to the config file of the server and gives it the address behind the last
one in the file, `revokeWireGuard` takes the section of a peer out of the file.
-/

namespace AbstractumVpn.WireguardClients

open TextScan

abbrev Text := List Char

/-! ## Addresses in a text -/

def digits (text : Text) : Option (Text × Text) :=
  match text.takeWhile Char.isDigit with
  | [] => none
  | found => some (found, text.dropWhile Char.isDigit)

def quad : Nat → Text → Option Text
  | 0, text => (digits text).map Prod.fst
  | points + 1, text =>
    (digits text).bind fun found =>
      if found.2.head? = some '.' then
        (quad points found.2.tail).map fun later => found.1 ++ '.' :: later
      else none

def allowedIps : Text := "AllowedIPs = ".toList

def capture (text : Text) : Option Text :=
  if allowedIps.isPrefixOf text then quad 3 (text.drop allowedIps.length) else none

variable (qt : Qt)

def getIpsFromConf (input : Text) : List HostAddress :=
  ((TextScan.scan capture input).map fun text => qt.hostAddress (String.ofList text)).filter
    (· ≠ .null)

def hasAllowedIps (line : Text) : Bool := decide ("AllowedIPs".toList <:+: line)

def grepAllowedIps (file : Text) : Text :=
  ((file.splitOn '\n').filter hasAllowedIps).flatMap fun line => line ++ ['\n']

/-! ## A new client -/

def toIPv4Address : HostAddress → BitVec 32
  | .ipv4 bits => bits
  | _ => 0

def lastOctet (address : HostAddress) : Nat := (toIPv4Address address).toNat % 256

def increment (lastIp : HostAddress) : Nat :=
  match lastOctet lastIp with
  | 254 => 3
  | 255 => 2
  | _ => 1

def lastIp (subnetAddress : String) (ips : List HostAddress) : HostAddress :=
  ips.getLastD (qt.hostAddress subnetAddress)

def nextIp (subnetAddress : String) (ips : List HostAddress) : HostAddress :=
  let last := lastIp qt subnetAddress ips
  .ipv4 (toIPv4Address last + BitVec.ofNat 32 (increment last))

def isBase64 (c : Char) : Bool := c.isAlphanum || c = '+' || c = '/' || c = '='

structure Key where
  text : Text
  base64 : ∀ c ∈ text, isBase64 c = true

def configPart (clientPubKey pskKey : Key) (clientIP : HostAddress) : Text :=
  "[Peer]\nPublicKey = ".toList ++ clientPubKey.text ++ "\nPresharedKey = ".toList ++ pskKey.text ++
    "\nAllowedIPs = ".toList ++ clientIP.toString.toList ++ "/32\n\n".toList

/-- What the remote side answers while a client is prepared, with no key for a file that could
not be read. -/
structure Answers where
  clientPrivKey : Key
  clientPubKey : Key
  ipsRead : Bool
  serverPubKeyRead : Bool
  pskKey : Option Key
  uploaded : Bool

def prepareWireguardConfig (subnetAddress : String) (answers : Answers) (file : Text) : Text :=
  if answers.clientPrivKey.text = [] || answers.clientPubKey.text = [] || !answers.ipsRead then file
  else
    let stdOut := grepAllowedIps file ++ ['\n']
    let clientIP := nextIp qt subnetAddress (getIpsFromConf qt stdOut)
    match answers.serverPubKeyRead, answers.pskKey with
    | true, some pskKey =>
      if answers.uploaded then file ++ configPart answers.clientPubKey pskKey clientIP else file
    | _, _ => file

/-- Whether `errorCode` is set before the peer is in the file. -/
def failed (answers : Answers) : Bool :=
  answers.clientPrivKey.text = [] || answers.clientPubKey.text = [] || !answers.ipsRead ||
    !answers.serverPubKeyRead || answers.pskKey.isNone || !answers.uploaded

/-! ## A revoked client -/

def removeSection (clientId : Text) (sections : List Text) : List Text :=
  match sections.find? fun part => decide (clientId <:+: part) with
  | some part => sections.erase part
  | none => sections

def revokeWireGuard (clientId : Text) (uploaded : Bool) (file : Text) : Text :=
  let configSections := (file.splitOn '[').filter (· ≠ [])
  if uploaded then '[' :: ['['].intercalate (removeSection clientId configSections) else file

/-! ## Runs -/

inductive Event where
  | create (answers : Answers)
  | revoke (clientId : Text) (uploaded : Bool)

def step (subnetAddress : String) (file : Text) : Event → Text
  | .create answers => prepareWireguardConfig qt subnetAddress answers file
  | .revoke clientId uploaded => revokeWireGuard clientId uploaded file

def peerAddresses (file : Text) : List Nat :=
  (getIpsFromConf qt file).map fun address => (toIPv4Address address).toNat

def Room (subnetAddress : String) (file : Text) : Event → Prop
  | .create _ =>
    let last := lastIp qt subnetAddress (getIpsFromConf qt file)
    (toIPv4Address last).toNat + increment last < 4294967296
  | .revoke _ _ => True

structure Allocated (file : Text) : Prop where
  increasing : (peerAddresses qt file).Pairwise (· < ·)
  octets : ∀ address ∈ peerAddresses qt file, address % 256 ≠ 0 ∧ address % 256 ≠ 255

section Patterns

variable {qt}

lemma digits_append (front back : Text) (separator : Char) (other : separator.isDigit = false) :
    digits (front ++ separator :: back) =
      (digits front).map fun found => (found.1, found.2 ++ separator :: back) := by
  have dropped : (front ++ separator :: back).dropWhile Char.isDigit =
      front.dropWhile Char.isDigit ++ separator :: back := by
    induction front with
    | nil => simp [other]
    | cons c front ih =>
      simp only [List.cons_append, List.dropWhile_cons]
      split
      · exact ih
      · rfl
  have taken : (front ++ separator :: back).takeWhile Char.isDigit = front.takeWhile Char.isDigit := by
    clear dropped
    induction front with
    | nil => simp [other]
    | cons c front ih => simp [List.takeWhile_cons, ih]
  rw [digits, digits, taken, dropped]
  cases front.takeWhile Char.isDigit <;> rfl

lemma quad_append (points : Nat) (front back : Text) (separator : Char)
    (other : separator.isDigit = false) (no_point : separator ≠ '.') :
    quad points (front ++ separator :: back) = quad points front := by
  induction points generalizing front with
  | zero =>
    rw [quad, quad, digits_append front back separator other, Option.map_map]
    rfl
  | succ points ih =>
    rw [quad, quad, digits_append front back separator other]
    cases digits front with
    | none => rfl
    | some found =>
      obtain ⟨found, rest⟩ := found
      cases rest with
      | nil => simp [no_point] -- the separator stands where a point would have to
      | cons c rest => simp [ih]

lemma isPrefixOf_append (word front back : Text) (separator : Char) (absent : separator ∉ word) :
    word.isPrefixOf (front ++ separator :: back) = word.isPrefixOf front := by
  induction word generalizing front with
  | nil => simp
  | cons c word ih =>
    rw [List.mem_cons, not_or] at absent
    cases front with
    | nil => simp [List.isPrefixOf, Ne.symm absent.1]
    | cons d front => simp [List.isPrefixOf, ih front absent.2]

/-- The pattern stays within a line and within a section. -/
lemma capture_stops (separator : Char) (other : separator.isDigit = false)
    (no_point : separator ≠ '.') (absent : separator ∉ allowedIps) :
    TextScan.Stops capture separator where
  nil := rfl
  before front back := by
    rw [capture, capture, isPrefixOf_append allowedIps front back separator absent]
    split
    · rename_i here
      have long : allowedIps.length ≤ front.length :=
        (List.isPrefixOf_iff_prefix.mp here).length_le
      rw [List.drop_append_of_le_length long]
      exact quad_append 3 _ back separator other no_point
    · rfl

lemma line_stops : TextScan.Stops capture '\n' := capture_stops '\n' rfl (by decide) (by decide)

lemma section_stops : TextScan.Stops capture '[' := capture_stops '[' rfl (by decide) (by decide)

lemma capture_some {text : Text} (found : capture text ≠ none) : allowedIps <+: text := by
  rw [capture] at found
  split at found
  · rename_i here
    exact List.isPrefixOf_iff_prefix.mp here
  · exact absurd rfl found

lemma capture_start (c : Char) (rest : Text) (other : c ≠ 'A') : capture (c :: rest) = none := by
  by_contra found
  obtain ⟨after, same⟩ := capture_some found
  exact other (List.cons.inj same).1.symm

lemma scan_no_blank (text : Text) (absent : ' ' ∉ text) : scan capture text = [] := by
  apply scan_nil
  intro rest suffix
  by_contra found
  exact absent (suffix.subset ((capture_some found).subset (by decide)))

lemma scan_no_word (line : Text) (absent : hasAllowedIps line = false) :
    scan capture line = [] := by
  apply scan_nil
  intro rest suffix
  by_contra found
  have word : "AllowedIPs".toList <+: allowedIps := by decide
  exact of_decide_eq_false absent ((word.trans (capture_some found)).isInfix.trans suffix.isInfix)

/-- `grep` leaves out only lines in which there is nothing to find. -/
lemma scan_grep (file : Text) :
    scan capture (grepAllowedIps file ++ ['\n']) = scan capture file := by
  rw [line_stops.scan_append, scan, List.append_nil, grepAllowedIps,
    ← line_stops.scan_splitOn file]
  induction file.splitOn '\n' with
  | nil => rfl
  | cons line rest ih =>
    cases word : hasAllowedIps line with
    | true =>
      rw [List.filter_cons_of_pos word, List.flatMap_cons, List.flatMap_cons,
        List.append_assoc, List.singleton_append, line_stops.scan_append, ih]
    | false =>
      rw [List.filter_cons_of_neg (ne_true_of_eq_false word), ih, List.flatMap_cons,
        scan_no_word line word, List.nil_append]

end Patterns

/-! ## What a creation adds and a revocation takes away -/

def ReadsAddresses : Prop :=
  ∀ bits, qt.hostAddress (HostAddress.ipv4 bits).toString = .ipv4 bits

section Files

variable {qt}

lemma digits_number (number : Nat) (c : Char) (rest : Text) (other : c.isDigit = false) :
    digits (number.repr.toList ++ c :: rest) = some (number.repr.toList, c :: rest) := by
  have all : ∀ d ∈ number.repr.toList, d.isDigit = true := by
    intro d member
    rw [Nat.toList_repr] at member
    exact Nat.isDigit_of_mem_toDigits (by decide) (by decide) member
  have alone : digits number.repr.toList = some (number.repr.toList, []) := by
    have some_digit : number.repr.toList ≠ [] := by
      rw [Nat.toList_repr]
      exact Nat.toDigits_ne_nil
    rw [digits, List.takeWhile_eq_self_iff.mpr all, List.dropWhile_eq_nil_iff.mpr all]
    cases found : number.repr.toList with
    | nil => exact absurd found some_digit
    | cons d ds => rfl
  rw [digits_append _ _ c other, alone]
  rfl

variable (bits : BitVec 32)

lemma address_text : ∃ a b c d : Nat,
    (HostAddress.ipv4 bits).toString.toList =
      a.repr.toList ++ '.' :: (b.repr.toList ++ '.' :: (c.repr.toList ++ '.' :: d.repr.toList)) := by
  refine ⟨(bits >>> 24).toNat, (bits >>> 16).toNat % 256, (bits >>> 8).toNat % 256,
    bits.toNat % 256, ?_⟩
  simp [HostAddress.toString, HostAddress.dotted]

lemma quad_address (c : Char) (rest : Text) (other : c.isDigit = false) :
    quad 3 ((HostAddress.ipv4 bits).toString.toList ++ c :: rest) =
      some (HostAddress.ipv4 bits).toString.toList := by
  obtain ⟨first, second, third, fourth, text⟩ := address_text bits
  rw [text]
  simp only [List.append_assoc, List.cons_append, quad, digits_number _ '.' _ rfl,
    digits_number fourth c rest other, Option.bind_some, List.head?_cons, List.tail_cons, if_true,
    Option.map_some]

lemma address_no_letter : 'A' ∉ (HostAddress.ipv4 bits).toString.toList := by
  have number : ∀ n : Nat, 'A' ∉ Nat.toDigits 10 n := by
    intro n member
    exact absurd (Nat.isDigit_of_mem_toDigits (by decide) (by decide) member) (by decide)
  obtain ⟨first, second, third, fourth, text⟩ := address_text bits
  simp [text, number]

lemma scan_key (name : Text) (key : Key) (absent : 'A' ∉ name) :
    scan capture (name ++ key.text) = [] := by
  rw [scan_pass name key.text 'A' capture_start absent]
  apply scan_no_blank
  intro blank
  exact absurd (key.base64 ' ' blank) (by decide)

lemma scan_allowed :
    scan capture (allowedIps ++ ((HostAddress.ipv4 bits).toString.toList ++ "/32".toList)) =
      [(HostAddress.ipv4 bits).toString.toList] := by
  have here : capture (allowedIps ++ ((HostAddress.ipv4 bits).toString.toList ++ "/32".toList)) =
      some (HostAddress.ipv4 bits).toString.toList := by
    rw [capture, if_pos (List.isPrefixOf_iff_prefix.mpr (List.prefix_append _ _)),
      List.drop_left' rfl]
    exact quad_address bits '/' _ rfl
  have later : scan capture ("llowedIPs = ".toList ++
      ((HostAddress.ipv4 bits).toString.toList ++ "/32".toList)) = [] := by
    rw [scan_pass _ _ 'A' capture_start (by decide),
      scan_pass _ _ 'A' capture_start (address_no_letter bits)]
    rfl
  have start : allowedIps = 'A' :: "llowedIPs = ".toList := by decide
  rw [start, List.cons_append] at here ⊢
  rw [scan, here, later]
  rfl

lemma part_lines (clientPubKey pskKey : Key) (clientIP : HostAddress) :
    configPart clientPubKey pskKey clientIP =
      '[' :: ("Peer]".toList ++ '\n' :: ("PublicKey = ".toList ++ clientPubKey.text ++
        '\n' :: ("PresharedKey = ".toList ++ pskKey.text ++
          '\n' :: (allowedIps ++ (clientIP.toString.toList ++ "/32".toList) ++ '\n' :: ['\n'])))) := by
  have peer : "[Peer]\nPublicKey = ".toList =
      '[' :: ("Peer]".toList ++ '\n' :: "PublicKey = ".toList) := by decide
  have psk : "\nPresharedKey = ".toList = '\n' :: "PresharedKey = ".toList := by decide
  have allowed : "\nAllowedIPs = ".toList = '\n' :: allowedIps := by decide
  have tail : "/32\n\n".toList = "/32".toList ++ '\n' :: ['\n'] := by decide
  delta configPart
  rw [peer, psk, allowed, tail]
  simp

lemma scan_created (file : Text) (clientPubKey pskKey : Key) (bits : BitVec 32) :
    scan capture (file ++ configPart clientPubKey pskKey (.ipv4 bits)) =
      scan capture file ++ [(HostAddress.ipv4 bits).toString.toList] := by
  rw [part_lines, section_stops.scan_append, line_stops.scan_append, line_stops.scan_append,
    line_stops.scan_append, line_stops.scan_append, scan_key _ clientPubKey (by decide),
    scan_key _ pskKey (by decide), scan_allowed]
  rfl

/-- The address of a new client stands behind those of the others. -/
lemma created_addresses (reads : ReadsAddresses qt) (file : Text) (clientPubKey pskKey : Key)
    (bits : BitVec 32) :
    getIpsFromConf qt (file ++ configPart clientPubKey pskKey (.ipv4 bits)) =
      getIpsFromConf qt file ++ [.ipv4 bits] := by
  rw [getIpsFromConf, scan_created, List.map_append, List.filter_append, List.map_singleton,
    String.ofList_toList, reads]
  rfl

lemma scan_sections (file : Text) :
    ((file.splitOn '[').filter (· ≠ [])).flatMap (scan capture) =
      scan capture file := by
  rw [← section_stops.scan_splitOn file]
  induction file.splitOn '[' with
  | nil => rfl
  | cons part rest ih =>
    by_cases empty : part = []
    · subst empty
      rw [List.filter_cons_of_neg (by simp), ih]
      rfl
    · rw [List.filter_cons_of_pos (by simpa using empty), List.flatMap_cons, List.flatMap_cons, ih]

lemma removeSection_sublist (clientId : Text) (sections : List Text) :
    (removeSection clientId sections).Sublist sections := by
  unfold removeSection
  split
  · exact List.erase_sublist
  · exact List.Sublist.refl _

/-- What is left after a revocation was there before, in the same order. -/
lemma scan_revoked (clientId : Text) (uploaded : Bool) (file : Text) :
    (scan capture (revokeWireGuard clientId uploaded file)).Sublist
      (scan capture file) := by
  rw [revokeWireGuard]
  split
  · have front : scan capture ('[' :: ['['].intercalate
        (removeSection clientId ((file.splitOn '[').filter (· ≠ [])))) =
        (removeSection clientId ((file.splitOn '[').filter (· ≠ []))).flatMap
          (scan capture) := by
      rw [← section_stops.scan_intercalate]
      exact section_stops.scan_append [] _
    rw [front, ← scan_sections file]
    exact (removeSection_sublist clientId _).flatMap _
  · exact List.Sublist.refl _

lemma revoked_addresses (qt : Qt) (clientId : Text) (uploaded : Bool) (file : Text) :
    (getIpsFromConf qt (revokeWireGuard clientId uploaded file)).Sublist
      (getIpsFromConf qt file) :=
  ((scan_revoked clientId uploaded file).map _).filter _

lemma getIps_grep (qt : Qt) (file : Text) :
    getIpsFromConf qt (grepAllowedIps file ++ ['\n']) = getIpsFromConf qt file := by
  rw [getIpsFromConf, scan_grep]
  rfl

lemma prepared_failed {answers : Answers} (error : failed answers = true) (subnetAddress : String)
    (file : Text) : prepareWireguardConfig qt subnetAddress answers file = file := by
  obtain ⟨priv, pub, ips, server, psk, uploaded⟩ := answers
  rw [prepareWireguardConfig]
  split
  · rfl
  · cases server <;> cases psk <;> cases uploaded <;> simp_all [failed]

lemma prepared_written (qt : Qt) {answers : Answers} (ok : failed answers = false)
    (subnetAddress : String) (file : Text) : ∃ pskKey, answers.pskKey = some pskKey ∧
      prepareWireguardConfig qt subnetAddress answers file =
        file ++ configPart answers.clientPubKey pskKey
          (nextIp qt subnetAddress (getIpsFromConf qt file)) := by
  obtain ⟨priv, pub, ips, server, psk, uploaded⟩ := answers
  simp only [failed, Bool.or_eq_false_iff, Bool.not_eq_false', Option.isNone_eq_false_iff] at ok
  obtain ⟨⟨⟨⟨keys, rfl⟩, rfl⟩, psk⟩, rfl⟩ := ok
  obtain ⟨pskKey, rfl⟩ := Option.isSome_iff_exists.mp psk
  exact ⟨pskKey, rfl, by simp [prepareWireguardConfig, keys, getIps_grep]⟩

/-- A creation leaves the file as it is, or appends the next address. -/
lemma prepared_addresses (reads : ReadsAddresses qt) (subnetAddress : String) (answers : Answers)
    (file : Text) :
    getIpsFromConf qt (prepareWireguardConfig qt subnetAddress answers file) =
        getIpsFromConf qt file ∨
      getIpsFromConf qt (prepareWireguardConfig qt subnetAddress answers file) =
        getIpsFromConf qt file ++ [nextIp qt subnetAddress (getIpsFromConf qt file)] := by
  cases error : failed answers with
  | true => exact Or.inl (by rw [prepared_failed error])
  | false =>
    obtain ⟨pskKey, -, written⟩ := prepared_written qt error subnetAddress file
    rw [written]
    exact Or.inr (created_addresses reads file _ _ _)

end Files

section Allocation

variable {qt} {subnetAddress : String}

lemma nextIp_toNat (ips : List HostAddress)
    (room : (toIPv4Address (lastIp qt subnetAddress ips)).toNat +
      increment (lastIp qt subnetAddress ips) < 4294967296) :
    (toIPv4Address (nextIp qt subnetAddress ips)).toNat =
      (toIPv4Address (lastIp qt subnetAddress ips)).toNat +
        increment (lastIp qt subnetAddress ips) := by
  change (toIPv4Address (lastIp qt subnetAddress ips) +
    BitVec.ofNat 32 (increment (lastIp qt subnetAddress ips))).toNat = _
  rw [BitVec.toNat_add, BitVec.toNat_ofNat]
  omega

/-- The address behind another one is greater, and its last octet is neither 0 nor 255. -/
lemma increment_octet (address : HostAddress) :
    0 < increment address ∧
      ((toIPv4Address address).toNat + increment address) % 256 ≠ 0 ∧
      ((toIPv4Address address).toNat + increment address) % 256 ≠ 255 := by
  rw [increment]
  split
  · rename_i octet
    rw [lastOctet] at octet
    omega
  · rename_i octet
    rw [lastOctet] at octet
    omega
  · rename_i not_254 not_255
    have below : (toIPv4Address address).toNat % 256 ≠ 254 := not_254
    have bound : (toIPv4Address address).toNat % 256 ≠ 255 := not_255
    omega

lemma le_last {addresses : List HostAddress} (start : HostAddress)
    (increasing : (addresses.map fun address => (toIPv4Address address).toNat).Pairwise (· < ·))
    (address : HostAddress) (member : address ∈ addresses) :
    (toIPv4Address address).toNat ≤ (toIPv4Address (addresses.getLastD start)).toNat := by
  induction addresses using List.reverseRecOn with
  | nil => cases member
  | append_singleton front last _ =>
    rw [List.getLastD_concat]
    rcases List.mem_append.mp member with before | same
    · rw [List.map_append, List.pairwise_append] at increasing
      exact Nat.le_of_lt (increasing.2.2 _ (List.mem_map_of_mem before) _ (by simp))
    · rw [List.mem_singleton.mp same]

lemma step_allocated (reads : ReadsAddresses qt) (file : Text) (event : Event)
    (allocated : Allocated qt file) (room : Room qt subnetAddress file event) :
    Allocated qt (step qt subnetAddress file event) := by
  cases event with
  | revoke clientId uploaded =>
    have left := (revoked_addresses qt clientId uploaded file).map
      fun address => (toIPv4Address address).toNat
    exact ⟨allocated.increasing.sublist left,
      fun address member => allocated.octets address (left.subset member)⟩
  | create answers =>
    rcases prepared_addresses reads subnetAddress answers file with same | added
    · have unchanged : peerAddresses qt (step qt subnetAddress file (.create answers)) =
          peerAddresses qt file := congrArg (List.map fun address => (toIPv4Address address).toNat) same
      exact ⟨unchanged ▸ allocated.increasing, unchanged ▸ allocated.octets⟩
    · have next := nextIp_toNat (getIpsFromConf qt file) room
      have octet := increment_octet (lastIp qt subnetAddress (getIpsFromConf qt file))
      have appended : peerAddresses qt (step qt subnetAddress file (.create answers)) =
          peerAddresses qt file ++
            [(toIPv4Address (nextIp qt subnetAddress (getIpsFromConf qt file))).toNat] := by
        change (getIpsFromConf qt (prepareWireguardConfig qt subnetAddress answers file)).map _ = _
        rw [added, List.map_append]
        rfl
      constructor
      · rw [appended, List.pairwise_append]
        refine ⟨allocated.increasing, List.pairwise_singleton _ _, ?_⟩
        intro address member last is_last
        obtain ⟨held, inside, rfl⟩ := List.mem_map.mp member
        rw [List.mem_singleton.mp is_last, next]
        have bound := le_last (qt.hostAddress subnetAddress) allocated.increasing held inside
        exact Nat.lt_of_le_of_lt bound (Nat.lt_add_of_pos_right octet.1)
      · intro address member
        rw [appended, List.mem_append, List.mem_singleton] at member
        rcases member with before | rfl
        · exact allocated.octets address before
        · rw [next]
          exact octet.2

end Allocation

/-- From a file without peers, the addresses of the peers in every file that is written are strictly
increasing, and none of them ends in 0 or 255. The address of the subnet may be any. -/
theorem addresses_allocated (qt : Qt) (reads : ReadsAddresses qt) (subnetAddress : String)
    (file : Text) (no_peers : peerAddresses qt file = []) (events : List Event)
    (room : Runs.Guarded (step qt subnetAddress) (Room qt subnetAddress) file events)
    (written : Text) (visited : Runs.Visits (step qt subnetAddress) file events written) :
    (peerAddresses qt written).Pairwise (· < ·) ∧ (peerAddresses qt written).Nodup ∧
      ∀ address ∈ peerAddresses qt written, address % 256 ≠ 0 ∧ address % 256 ≠ 255 := by
  have start : Allocated qt file := by
    constructor
    · rw [no_peers]
      exact List.Pairwise.nil
    · rw [no_peers]
      intro address member
      cases member
  have allocated := Runs.guarded_invariant (fun before event held guard =>
    step_allocated reads before event held guard) file events start room written visited
  exact ⟨allocated.increasing, allocated.increasing.imp Nat.ne_of_lt, allocated.octets⟩

/-! A reader of addresses, and a file with one client. -/

def readDotted (text : Text) : HostAddress :=
  match (text.splitOn '.').map fun digits => Nat.ofDigitChars 10 digits 0 with
  | [a, b, c, d] => .ipv4 (BitVec.ofNat 32 (a * 16777216 + b * 65536 + c * 256 + d))
  | _ => .null

def dottedQt : Qt where
  hostAddress text := readDotted text.toList
  parseSubnet _ := (.null, 0)

lemma dottedQt_read (text : String) : dottedQt.hostAddress text = readDotted text.toList := rfl

lemma dotted_reads : ReadsAddresses dottedQt := by
  intro bits
  have no_point : ∀ n : Nat, '.' ∉ Nat.toDigits 10 n := by
    intro n member
    exact absurd (Nat.isDigit_of_mem_toDigits (by decide) (by decide) member) (by decide)
  have number : ∀ n : Nat, Nat.ofDigitChars 10 (Nat.toDigits 10 n) 0 = n :=
    fun n => Nat.ofDigitChars_toDigits (by decide) (by decide)
  have text : (HostAddress.ipv4 bits).toString.toList =
      ['.'].intercalate ((HostAddress.dotted bits).map (Nat.toDigits 10)) := by
    simp [HostAddress.toString, HostAddress.dotted]
  have parts : (HostAddress.ipv4 bits).toString.toList.splitOn '.' =
      (HostAddress.dotted bits).map (Nat.toDigits 10) := by
    rw [text]
    apply List.splitOn_intercalate
    · simp [no_point]
    · simp [HostAddress.dotted]
  have value : BitVec.ofNat 32 ((bits >>> 24).toNat * 16777216 + (bits >>> 16).toNat % 256 * 65536 +
      (bits >>> 8).toNat % 256 * 256 + bits.toNat % 256) = bits := by
    apply BitVec.eq_of_toNat_eq
    simp only [BitVec.toNat_ofNat, BitVec.toNat_ushiftRight]
    omega
  rw [dottedQt_read, readDotted, parts]
  simp only [HostAddress.dotted, List.map_cons, List.map_nil, number, value]

def sampleKey : Key := ⟨['k', '='], by simp [isBase64]⟩

def otherKey : Key := ⟨['l', '='], by simp [isBase64]⟩

def answersFor (key : Key) : Answers where
  clientPrivKey := key
  clientPubKey := key
  ipsRead := true
  serverPubKeyRead := true
  pskKey := some key
  uploaded := true

def sampleAnswers : Answers := answersFor sampleKey

def twoLeft : List Event :=
  [.create sampleAnswers, .create (answersFor otherKey), .revoke sampleKey.text true,
    .create sampleAnswers]

def serverFile : Text := "[Interface]\n".toList

/-- Of three clients the first is revoked. -/
theorem two_clients_allocated :
    let written := Runs.run (step dottedQt "10.8.1.0") serverFile twoLeft
    peerAddresses dottedQt written = [168296706, 168296707] ∧
      (peerAddresses dottedQt written).Pairwise (· < ·) ∧ (peerAddresses dottedQt written).Nodup ∧
      ∀ address ∈ peerAddresses dottedQt written, address % 256 ≠ 0 ∧ address % 256 ≠ 255 := by
  have no_peers : peerAddresses dottedQt serverFile = [] := by decide +kernel
  have guarded : Runs.Guarded (step dottedQt "10.8.1.0") (Room dottedQt "10.8.1.0") serverFile
      twoLeft := by
    refine ⟨?_, ?_, trivial, ?_, trivial⟩ <;> unfold Room <;> decide +kernel
  exact ⟨by decide +kernel, addresses_allocated dottedQt dotted_reads "10.8.1.0" _ no_peers _ guarded _
    (Runs.visits_last _ _ _)⟩

end AbstractumVpn.WireguardClients
