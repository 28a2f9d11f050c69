import AbstractumVpn.KillSwitch
import AbstractumVpn.LocalSocketController

/-!
What becomes of the length of an address text on its way to the daemon and to
the kill switch, which both read it with `atoi` and take a text without a slash
as one with the length 32. The daemon sorts the ranges; `rebuilt` has them in
the order of the texts.
-/

namespace AbstractumVpn

namespace KillSwitch

open LocalSocketController

def siteRange (qt : Qt) (ipRange : String) : IPAddress :=
  match QtText.split ipRange "/" with
  | address :: length :: _ => ⟨qt.hostAddress address, atoi length⟩
  | _ => ⟨qt.hostAddress ipRange, 32⟩

def peerRanges (qt : Qt) (config : Json.Object) : List IPAddress :=
  (if splitTunnelType config = 0 ∨ splitTunnelType config = 2 then
    [⟨qt.hostAddress "0.0.0.0", 0⟩, ⟨qt.hostAddress "::", 0⟩] else []) ++
  (if splitTunnelType config = 1 then (splitTunnelSites config).map (siteRange qt) else [])

end KillSwitch

namespace LocalSocketController

open Json

def width : Family → Nat
  | .ipv4 => 32
  | .ipv6 => 128

structure Entry (qt : Qt) where
  address : String
  length : Option String
  base : Ip
  plain : '/' ∉ address.toList
  read : (qt.hostAddress address).ip = some base
  number : Nat
  counted : ∀ digits, length = some digits → QtText.decimal digits.toList = some number
  whole : length = none → number = width base.family
  bounded : number ≤ width base.family

namespace Entry

variable {qt : Qt}

def text (entry : Entry qt) : String :=
  match entry.length with
  | none => entry.address
  | some digits => entry.address ++ "/" ++ digits

def Denotes (entry : Entry qt) (ip : Ip) : Prop := (Net.mk entry.base entry.number).contains ip = true

def sentLength (entry : Entry qt) : Int :=
  match entry.length with
  | none => 32
  | some _ => entry.number

def sentRange (entry : Entry qt) : IPAddress := ⟨qt.hostAddress entry.address, entry.sentLength⟩

def Explicit (entry : Entry qt) : Prop := entry.base.family = .ipv6 → entry.length ≠ none

end Entry

lemma decimal_digits {text : List Char} {number : Nat} (read : QtText.decimal text = some number) :
    (∀ c ∈ text, c.isDigit = true) ∧ leadingDecimal text = number := by
  unfold QtText.decimal at read
  split at read
  · rename_i digits
    have all : ∀ c ∈ text, c.isDigit = true := List.all_eq_true.mp digits.2
    refine ⟨all, ?_⟩
    rw [leadingDecimal, List.takeWhile_eq_self_iff.mpr all]
    exact Option.some.inj read
  · cases read

lemma digit_no_space {c : Char} (digit : c.isDigit = true) : isCSpace c = false := by
  obtain ⟨low, high⟩ := Char.isDigit_iff_toNat.mp digit
  have low : 48 ≤ c.toNat := low
  simp only [isCSpace, Bool.or_eq_false_iff, Bool.and_eq_false_iff, decide_eq_false_iff_not,
    beq_eq_false_iff_ne]
  omega

lemma atoi_decimal {digits : String} {number : Nat}
    (read : QtText.decimal digits.toList = some number) (small : number ≤ 128) :
    atoi digits = number := by
  obtain ⟨all, value⟩ := decimal_digits read
  have cut : (max (-9223372036854775808) (min (number : Int) 9223372036854775807)).bmod 4294967296 =
      number := by
    rw [Int.min_eq_left (by omega), Int.max_eq_right (by omega)]
    exact Int.bmod_eq_of_le (by omega) (by omega)
  cases text : digits.toList with
  | nil =>
    rw [text] at read
    cases read
  | cons c rest =>
    have digit : c.isDigit = true := all c (text ▸ List.mem_cons_self)
    rw [text] at value
    rw [atoi, text, List.dropWhile_cons_of_neg (by simp [digit_no_space digit])]
    -- a digit is no sign
    split
    · rename_i same
      rw [(List.cons.inj same).1] at digit
      exact absurd digit (by decide)
    · rename_i same
      rw [(List.cons.inj same).1] at digit
      exact absurd digit (by decide)
    · rw [value]
      exact cut

section Texts

variable {qt : Qt} (entry : Entry qt)

lemma digits_plain {digits : String} {number : Nat}
    (read : QtText.decimal digits.toList = some number) : '/' ∉ digits.toList := by
  intro slash
  exact absurd ((decimal_digits read).1 '/' slash) (by decide)

lemma split_text : QtText.split entry.text "/" = entry.address :: entry.length.toList := by
  have separator : "/".toList = ['/'] := rfl
  rw [QtText.split, Entry.text, separator]
  cases written : entry.length with
  | none =>
    rw [QtText.splitFrom_absent ['/'] '/' List.mem_cons_self [] _ entry.plain]
    simp
  | some digits =>
    have plain := digits_plain (entry.counted digits written)
    simp only [String.toList_append, separator, List.append_assoc, List.singleton_append]
    rw [QtText.splitFrom_front '/' [] _ _ entry.plain,
      QtText.splitFrom_absent ['/'] '/' List.mem_cons_self [] _ plain]
    simp

lemma small_number : entry.number ≤ 128 := by
  have bounded := entry.bounded
  cases family : entry.base.family <;> rw [family] at bounded
  · exact bounded.trans (by decide)
  · exact bounded

lemma number_toInt (number : Int) (small : 0 ≤ number ∧ number ≤ 128) :
    (Value.double number).toInt = number := by
  have fits : (number : Rat).den = 1 ∧ -2147483648 ≤ (number : Rat).num ∧
      (number : Rat).num ≤ 2147483647 := by
    rw [Rat.den_intCast, Rat.num_intCast]
    omega
  rw [Value.toInt, if_pos fits, Rat.num_intCast]

lemma sentLength_small : 0 ≤ entry.sentLength ∧ entry.sentLength ≤ 128 := by
  have small := small_number entry
  unfold Entry.sentLength
  split <;> omega

lemma parse_text : Daemon.parseRange qt (textRange entry.text) = some entry.sentRange := by
  have sent : textRange entry.text = range entry.address entry.sentLength false := by
    rw [textRange, split_text]
    cases written : entry.length with
    | none => simp [Entry.text, Entry.sentLength, written]
    | some digits =>
      have read := atoi_decimal (entry.counted digits written) (small_number entry)
      simp [Entry.sentLength, written, read]
  rw [sent, Entry.sentRange]
  have length := number_toInt entry.sentLength (sentLength_small entry)
  change some (IPAddress.mk _ (Value.double entry.sentLength).toInt) = _
  rw [length]

/-- The kill switch reads the text itself, and in the same way. -/
lemma site_text : KillSwitch.siteRange qt entry.text = entry.sentRange := by
  rw [KillSwitch.siteRange, split_text, Entry.sentRange]
  cases written : entry.length with
  | none => simp [Entry.text, Entry.sentLength, written]
  | some digits =>
    have read := atoi_decimal (entry.counted digits written) (small_number entry)
    simp [Entry.sentLength, written, read]

end Texts

section Sets

variable {qt : Qt} (entry : Entry qt)

lemma covers_iff (length : Nat) (bounded : length ≤ width entry.base.family) (ip : Ip) :
    (IPAddress.mk (qt.hostAddress entry.address) length).Covers ip ↔
      (Net.mk entry.base length).contains ip = true := by
  constructor
  · rintro ⟨base, read, -, -, inside⟩
    obtain rfl := Option.some.inj (entry.read.symm.trans read)
    simpa using inside
  · intro inside
    refine ⟨entry.base, entry.read, by simp, ?_, by simpa using inside⟩
    cases family : entry.base.family <;> rw [family] at bounded
    · exact Int.ofNat_le.mpr bounded
    · exact Int.ofNat_le.mpr bounded

lemma neighbour_apart (bits : BitVec 128) :
    (Net.mk (.v6 bits) 32).contains (.v6 (bits ^^^ 1)) = true ∧
      (Net.mk (.v6 bits) 128).contains (.v6 (bits ^^^ 1)) = false := by
  constructor
  · simp [Net.contains, BitVec.ushiftRight_xor_distrib]
  · have different : bits ≠ bits ^^^ 1 := by
      intro same
      have zero : (0 : BitVec 128) = 1 := (BitVec.xor_right_inj bits).mp (by simpa using same)
      exact absurd zero (by decide)
    simpa [Net.contains] using different

lemma sent_faithful_iff :
    (∀ ip, entry.sentRange.Covers ip ↔ entry.Denotes ip) ↔ entry.Explicit := by
  cases written : entry.length with
  | some digits =>
    have same : entry.sentRange = ⟨qt.hostAddress entry.address, entry.number⟩ := by
      simp [Entry.sentRange, Entry.sentLength, written]
    constructor
    · intro _ _ missing
      rw [written] at missing
      cases missing
    · intro _ ip
      rw [same]
      exact covers_iff entry entry.number entry.bounded ip
  | none =>
    have short : entry.sentRange = ⟨qt.hostAddress entry.address, (32 : Nat)⟩ := by
      simp [Entry.sentRange, Entry.sentLength, written]
    have whole := entry.whole written
    rw [short]
    cases base : entry.base with
    | v4 bits =>
      rw [base] at whole
      constructor
      · intro _ six
        rw [base] at six
        cases six
      · intro _ ip
        rw [covers_iff entry 32 (by rw [base]; exact Nat.le_refl _), Entry.Denotes, whole]
        rfl
    | v6 bits =>
      constructor
      · intro faithful
        -- the last bit is one of those that are lost
        have inside := (covers_iff entry 32 (by rw [base]; exact Nat.le_add_right 32 96) (.v6 (bits ^^^ 1))).mpr (by
          rw [base]
          exact (neighbour_apart bits).1)
        have denoted := (faithful _).mp inside
        rw [Entry.Denotes, whole, base] at denoted
        have apart := (neighbour_apart bits).2
        rw [show width (Ip.v6 bits).family = 128 from rfl] at denoted
        rw [denoted] at apart
        cases apart
      · intro explicit
        exact absurd written (explicit (by rw [base]; rfl))

def Faithful (entries : List (Entry qt)) (ranges : List IPAddress) : Prop :=
  List.Forall₂ (fun entry range => ∀ ip, range.Covers ip ↔ entry.Denotes ip) entries ranges

omit entry in
lemma faithful_iff (entries : List (Entry qt)) :
    Faithful entries (entries.map Entry.sentRange) ↔ ∀ entry ∈ entries, entry.Explicit := by
  rw [Faithful, List.forall₂_map_right_iff, List.forall₂_same]
  exact forall₂_congr fun entry _ => sent_faithful_iff entry

end Sets

/-- The texts that the ranges of a request are made of: the list of the config, or
the sites in its place, or the two default networks. -/
def listedTexts (rawConfig : Object) : List String :=
  let protocolName := (rawConfig.value "protocol").toString
  let wgConfig := (rawConfig.value (protocolName ++ "_config_data")).toObject
  let plainAllowedIP := (wgConfig.value "allowed_ips").toArray
  let splitTunnelType := (rawConfig.value "splitTunnelType").toInt
  if !isDefaultAllowedIP plainAllowedIP && !plainAllowedIP.isEmpty then
    plainAllowedIP.map Value.toString
  else
    (if splitTunnelType = 0 ∨ splitTunnelType = 2 then ["0.0.0.0/0", "::/0"] else []) ++
    (if splitTunnelType = 1 then (rawConfig.value "splitTunnelSites").toArray.map Value.toString
      else [])

def listedSites (config : Object) : List String :=
  (if KillSwitch.splitTunnelType config = 0 ∨ KillSwitch.splitTunnelType config = 2 then
    ["0.0.0.0/0", "::/0"] else []) ++
  (if KillSwitch.splitTunnelType config = 1 then KillSwitch.splitTunnelSites config else [])

def rebuilt (qt : Qt) (rawConfig : Object) : Option (List IPAddress) :=
  ((activate rawConfig).value "allowedIPAddressRanges").toArray.mapM (Daemon.parseRange qt)

section Requests

variable {qt : Qt}

lemma sent_listed (rawConfig : Object) :
    ((activate rawConfig).value "allowedIPAddressRanges").toArray.map (Daemon.parseRange qt) =
      (listedTexts rawConfig).map fun text => Daemon.parseRange qt (textRange text) := by
  change (allowedIPAddresses _ _ _).map (Daemon.parseRange qt) = _
  simp only [allowedIPAddresses, listedTexts]
  split
  · rw [List.map_map, List.map_map]
    rfl
  · rw [List.map_append, List.map_append]
    congr 1
    · split
      · rfl
      · rfl
    · split
      · rw [List.map_map, List.map_map]
        rfl
      · rfl

lemma peer_listed (config : Object) :
    KillSwitch.peerRanges qt config = (listedSites config).map (KillSwitch.siteRange qt) := by
  have ipv4 : KillSwitch.siteRange qt "0.0.0.0/0" = ⟨qt.hostAddress "0.0.0.0", 0⟩ := by
    rfl
  have ipv6 : KillSwitch.siteRange qt "::/0" = ⟨qt.hostAddress "::", 0⟩ := by
    rfl
  rw [KillSwitch.peerRanges, listedSites, List.map_append]
  congr 1
  · split
    · rw [List.map_cons, List.map_cons, List.map_nil, ipv4, ipv6]
    · rfl
  · split <;> rfl

lemma rebuilt_texts {rawConfig : Object} {entries : List (Entry qt)}
    (listed : listedTexts rawConfig = entries.map Entry.text) :
    rebuilt qt rawConfig = some (entries.map Entry.sentRange) := by
  rw [rebuilt, mapM_eq_some_iff, sent_listed, listed, List.map_map, List.map_map]
  exact List.map_congr_left fun entry _ => parse_text entry

lemma peer_texts {config : Object} {entries : List (Entry qt)}
    (listed : listedSites config = entries.map Entry.text) :
    KillSwitch.peerRanges qt config = entries.map Entry.sentRange := by
  rw [peer_listed, listed, List.map_map]
  exact List.map_congr_left fun entry _ => site_text entry

lemma config_rebuilt {rawConfig : Object} {config : InterfaceConfig} {ranges : List IPAddress}
    (accepted : Daemon.parseConfig qt (activate rawConfig) = some config)
    (read : rebuilt qt rawConfig = some ranges) : config.allowedIPAddressRanges.Perm ranges := by
  have parsed := (Daemon.parsed_fields accepted).ranges
  have sorted : Daemon.parseRanges qt (activate rawConfig) =
      (rebuilt qt rawConfig).map
        (List.insertionSort fun a b => a.prefixLength ≥ b.prefixLength) := rfl
  rw [sorted, read, Option.map_some, Option.some.injEq] at parsed
  rw [← parsed]
  exact List.perm_insertionSort _ _

end Requests

/-- Whatever entries a request is made of, the ranges of the daemon's config and
those of the kill switch stand entry by entry for the addresses of the texts if and
only if every IPv6 text has its length written out. -/
theorem prefix_fidelity_iff (qt : Qt) (entries : List (Entry qt)) :
    (∀ rawConfig config, listedTexts rawConfig = entries.map Entry.text →
      Daemon.parseConfig qt (activate rawConfig) = some config →
        ∃ ranges, rebuilt qt rawConfig = some ranges ∧
          config.allowedIPAddressRanges.Perm ranges ∧
          (Faithful entries ranges ↔ ∀ entry ∈ entries, entry.Explicit)) ∧
      ∀ config, listedSites config = entries.map Entry.text →
        (Faithful entries (KillSwitch.peerRanges qt config) ↔
          ∀ entry ∈ entries, entry.Explicit) := by
  constructor
  · intro rawConfig config listed accepted
    have read := rebuilt_texts listed
    exact ⟨_, read, config_rebuilt accepted read, faithful_iff entries⟩
  · intro config listed
    rw [peer_texts listed]
    exact faithful_iff entries

/-! One IPv4 network and one IPv6 address, which is read without a length or with
one. -/

def houseQt : Qt where
  hostAddress text :=
    if text = "10.0.0.0" then .ipv4 0x0a000000
    else if text = "2001:db8::1" then .ipv6 0x20010db8000000000000000000000001 text
    else .null
  parseSubnet _ := (.null, -1)

def officeNet : Entry houseQt :=
  ⟨"10.0.0.0", some "8", .v4 0x0a000000, by decide, rfl, 8, by simp; decide, by simp, by decide⟩

def printerAddress : Entry houseQt :=
  ⟨"2001:db8::1", some "128", .v6 0x20010db8000000000000000000000001, by decide, rfl, 128,
    by simp; decide, by simp, by decide⟩

def barePrinter : Entry houseQt :=
  ⟨"2001:db8::1", none, .v6 0x20010db8000000000000000000000001, by decide, rfl, 128, by simp,
    fun _ => rfl, by decide⟩

def officeConfig (allowed : List String) : Object :=
  [("protocol", .string "wireguard"),
    ("wireguard_config_data", .object [("allowed_ips", .array (allowed.map .string)),
      ("client_priv_key", .string ""), ("client_ip", .string "10.8.0.2"),
      ("server_pub_key", .string ""), ("hostName", .string "203.0.113.5"),
      ("port", .double 51820)]),
    ("dns1", .string "1.1.1.1"), ("dns2", .string "1.0.0.1")]

theorem written_lengths_kept :
    ∃ config ranges, Daemon.parseConfig houseQt
          (activate (officeConfig ["10.0.0.0/8", "2001:db8::1/128"])) = some config ∧
      config.allowedIPAddressRanges.Perm ranges ∧ Faithful [officeNet, printerAddress] ranges := by
  have accepted : ∃ config, Daemon.parseConfig houseQt
      (activate (officeConfig ["10.0.0.0/8", "2001:db8::1/128"])) = some config := ⟨_, rfl⟩
  obtain ⟨config, accepted⟩ := accepted
  have listed : listedTexts (officeConfig ["10.0.0.0/8", "2001:db8::1/128"]) =
      [officeNet, printerAddress].map Entry.text := by decide
  obtain ⟨ranges, -, same, faithful⟩ :=
    (prefix_fidelity_iff houseQt [officeNet, printerAddress]).1 _ config listed accepted
  refine ⟨config, ranges, accepted, same, faithful.mpr ?_⟩
  simp [Entry.Explicit, officeNet, printerAddress]

/-- The single address becomes the network of its first 32 bits. -/
theorem bare_ipv6_address_widened :
    listedTexts (officeConfig ["2001:db8::1"]) = [barePrinter.text] ∧
      (∃ config, Daemon.parseConfig houseQt (activate (officeConfig ["2001:db8::1"])) = some config ∧
        config.allowedIPAddressRanges = [⟨houseQt.hostAddress "2001:db8::1", 32⟩]) ∧
      (IPAddress.mk (houseQt.hostAddress "2001:db8::1") 32).Covers
        (.v6 0x20010db8000000000000000000000002) ∧
      ¬ barePrinter.Denotes (.v6 0x20010db8000000000000000000000002) := by
  refine ⟨by decide, ⟨_, rfl, rfl⟩, ?_, by simp [Entry.Denotes]; decide⟩
  exact ⟨.v6 0x20010db8000000000000000000000001, rfl, by decide, by decide, by decide⟩

end LocalSocketController

end AbstractumVpn
