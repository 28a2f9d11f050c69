import AbstractumVpn.ShellWords
import AbstractumVpn.WireguardUtilsLinux

/-!
The rule commands `LinuxFirewall` runs through `/bin/bash -c`. A command is kept
as the words it is meant to have; the shell gets these words joined by blanks.
The scripts that hold no configuration value are not modelled.
-/

namespace AbstractumVpn.LinuxFirewall

open ShellWords WireguardUtilsLinux

def Protocol.word : Protocol → String
  | .tcp => "tcp"
  | .udp => "udp"
  | .other number => number.repr

def Destination.text : Destination → String
  | .fixed text _ => text
  | .given text => text

def Match.words : Match → List String
  | .outgoing pattern => ["-o", pattern]
  | .notOutgoing pattern => ["!", "-o", pattern]
  | .destination operand => ["-d", operand.text]
  | .protocol expected => ["-p", expected.word]
  | .sport port => ["--sport", port.repr]
  | .dport port => ["--dport", port.repr]
  | .mark value => ["-m", "mark", "--mark", value.repr]

def Target.word : Target → String
  | .accept => "ACCEPT"
  | .reject => "REJECT"

def Rule.words (rule : Rule) : List String :=
  rule.conditions.flatMap Match.words ++ ["-j", rule.target.word]

def actualChain (anchor : Anchor) : String := "amnvpn." ++ anchor.name

def getCommand : Family → String
  | .ipv4 => "iptables"
  | .ipv6 => "ip6tables"

def commandText (words : List String) : String := String.intercalate " " words

example : (getDNSRules ["9.9.9.9"]).map (fun rule => commandText rule.words) =
    ["-o abs0+ -d 9.9.9.9 -p udp --dport 53 -j ACCEPT",
     "-o abs0+ -d 9.9.9.9 -p tcp --dport 53 -j ACCEPT",
     "-o tun0+ -d 9.9.9.9 -p udp --dport 53 -j ACCEPT",
     "-o tun0+ -d 9.9.9.9 -p tcp --dport 53 -j ACCEPT",
     "-o tun2+ -d 9.9.9.9 -p udp --dport 53 -j ACCEPT",
     "-o tun2+ -d 9.9.9.9 -p tcp --dport 53 -j ACCEPT"] := by decide

def rewriteCommands (anchor : Anchor) (rules : List Rule) : List (List String) :=
  ["iptables", "-F", actualChain anchor] ::
    rules.map fun rule => ["iptables", "-A", actualChain anchor] ++ rule.words

def installCommands : List (List String) :=
  installOrder.flatMap fun anchor => [Family.ipv4, Family.ipv6].flatMap fun family =>
    if installedIn family anchor then
      (installedRules family anchor).map fun rule =>
        [getCommand family, "-A", actualChain anchor] ++ rule.words ++ ["-t", "filter"]
    else []

inductive Request where
  | enableKillSwitch (config : Json.Object)
  | addAllowedRange (ranges : List String)
  | addInterface (config : InterfaceConfig)

def listCommands (allowNets blockNets dnsServers : List String) : List (List String) :=
  rewriteCommands .allowNets (getAllowRule allowNets) ++
    rewriteCommands .blockNets (getBlockRule blockNets) ++
    rewriteCommands .allowDNS (getDNSRules dnsServers)

def ruleCommands (ks : KillSwitch.State) : Request → List (List String)
  | .enableKillSwitch config =>
    let plan := KillSwitch.tunnelPlan config
    (if ks.firewall.installed then [] else installCommands) ++
      listCommands plan.allownets plan.blocknets (KillSwitch.dnsServers config)
  | .addAllowedRange ranges =>
    rewriteCommands .allowNets (getAllowRule (KillSwitch.addAllowedRange ks ranges).allowedRanges)
  | .addInterface config =>
    let params := firewallParams config
    (if ks.firewall.installed then [] else installCommands) ++
      listCommands params.allowAddrs params.blockAddrs params.dnsServers

/-- The shell reads the command as the one command it is meant to be, every
configuration value being one word of it. -/
def ReadAsMeant (words : List String) : Prop :=
  tokenise (commandText words).toList = some (words.map String.toList)

def LiteralText (text : String) : Prop := Literal text.toList

instance (text : String) : Decidable (LiteralText text) := inferInstanceAs (Decidable (Literal _))

lemma read_as_meant_iff (words : List String) :
    ReadAsMeant words ↔ ∀ word ∈ words, LiteralText word := by
  have blank : " ".toList = [' '] := rfl
  rw [ReadAsMeant, commandText, String.toList_intercalate, blank, tokenise_join_iff]
  simp [LiteralText]

lemma given_rules_iff (target : Target) (servers : List String) :
    (∀ rule ∈ servers.map fun server => (⟨[.destination (.given server)], target⟩ : Rule),
      ∀ word ∈ rule.words, LiteralText word) ↔ ∀ server ∈ servers, LiteralText server := by
  have option : LiteralText "-d" ∧ LiteralText "-j" := by decide
  have jump : LiteralText target.word := by cases target <;> decide
  have words : ∀ server, (⟨[.destination (.given server)], target⟩ : Rule).words =
      ["-d", server, "-j", target.word] := fun _ => rfl
  simp only [List.forall_mem_map, words, List.forall_mem_cons, option, jump]
  simp

lemma dns_rule_words (device : String) (protocol : Protocol) (server : String) :
    (⟨[.outgoing device, .destination (.given server), .protocol protocol, .dport 53],
      .accept⟩ : Rule).words =
      ["-o", device, "-d", server, "-p", protocol.word, "--dport", "53", "-j", "ACCEPT"] := rfl

lemma dns_rules_iff (servers : List String) :
    (∀ rule ∈ getDNSRules servers, ∀ word ∈ rule.words, LiteralText word) ↔
      ∀ server ∈ servers, LiteralText server := by
  have fixed : LiteralText "-o" ∧ LiteralText "-d" ∧ LiteralText "-p" ∧ LiteralText "--dport" ∧
      LiteralText "53" ∧ LiteralText "-j" ∧ LiteralText "ACCEPT" := by decide
  have devices : ∀ device ∈ ["abs0+", "tun0+", "tun2+"], LiteralText device := by decide
  have protocols : LiteralText Protocol.udp.word ∧ LiteralText Protocol.tcp.word := by decide
  simp only [List.forall_mem_cons] at devices
  simp only [getDNSRules, List.forall_mem_flatMap, List.forall_mem_map, dns_rule_words,
    List.forall_mem_cons, fixed, devices, protocols]
  simp

lemma rewrite_iff (anchor : Anchor) (rules : List Rule) :
    (∀ command ∈ rewriteCommands anchor rules, ReadAsMeant command) ↔
      ∀ rule ∈ rules, ∀ word ∈ rule.words, LiteralText word := by
  have fixed : LiteralText "iptables" ∧ LiteralText "-F" ∧ LiteralText "-A" := by decide
  have chain : LiteralText (actualChain anchor) := by cases anchor <;> decide
  simp [rewriteCommands, read_as_meant_iff, fixed, chain]

lemma install_read_as_meant : ∀ command ∈ installCommands, ReadAsMeant command := by
  have literal : ∀ command ∈ installCommands, ∀ word ∈ command, LiteralText word := by
    decide +kernel
  intro command member
  exact (read_as_meant_iff command).mpr (literal command member)

lemma list_commands_iff (allowNets blockNets dnsServers : List String) :
    (∀ command ∈ listCommands allowNets blockNets dnsServers, ReadAsMeant command) ↔
      ∀ value ∈ allowNets ++ blockNets ++ dnsServers, LiteralText value := by
  simp only [listCommands, List.forall_mem_append, rewrite_iff, dns_rules_iff, getAllowRule,
    getBlockRule, given_rules_iff]

lemma first_commands_iff (installed : Bool) (rest : List (List String)) :
    (∀ command ∈ (if installed then [] else installCommands) ++ rest, ReadAsMeant command) ↔
      ∀ command ∈ rest, ReadAsMeant command := by
  have ready : ∀ command ∈ (if installed then [] else installCommands), ReadAsMeant command := by
    cases installed
    · exact install_read_as_meant
    · simp
  rw [List.forall_mem_append]
  exact ⟨And.right, And.intro ready⟩

lemma merge_ranges_literal (known ranges : List String) :
    (∀ value ∈ KillSwitch.mergeRanges known ranges, LiteralText value) ↔
      (∀ value ∈ known, LiteralText value) ∧
        ∀ value ∈ ranges, value = "" ∨ LiteralText value := by
  induction ranges generalizing known with
  | nil => simp [KillSwitch.mergeRanges]
  | cons range rest ih =>
    have step : KillSwitch.mergeRanges known (range :: rest) =
        KillSwitch.mergeRanges
          (if !range.isEmpty && !known.contains range then known ++ [range] else known) rest := rfl
    rw [step, ih, List.forall_mem_cons]
    by_cases empty : range = ""
    · simp [empty]
    · by_cases present : range ∈ known
      · simp only [empty, present, List.contains_eq_mem, decide_true, Bool.not_true,
          Bool.and_false, false_or]
        exact ⟨fun both => ⟨both.1, both.1 range present, both.2⟩, fun all => ⟨all.1, all.2.2⟩⟩
      · -- a new text is appended to the known ones
        have grown : (if !range.isEmpty && !known.contains range then known ++ [range]
            else known) = known ++ [range] := by simp [empty, present]
        rw [grown, List.forall_mem_append, List.forall_mem_singleton, and_assoc]
        simp [empty]

lemma repr_plain (n : Nat) (c : Char) (member : c ∈ n.repr.toList) :
    isBlank c = false ∧ isActive c = false := by
  rw [Nat.toList_repr] at member
  exact plain_digit c (Nat.isDigit_of_mem_toDigits (by decide) (by decide) member)

lemma length_plain (length : Int) (c : Char) (member : c ∈ length.repr.toList) :
    isBlank c = false ∧ isActive c = false := by
  cases length with
  | ofNat n => exact repr_plain n c member
  | negSucc n =>
    rw [Int.repr, String.toList_append, List.mem_append] at member
    rcases member with sign | digits
    · obtain rfl : c = '-' := by simpa using sign
      decide
    · exact repr_plain _ c digits

lemma dotted_plain (bits : BitVec 32) (c : Char)
    (member : c ∈ (HostAddress.ipv4 bits).toString.toList) :
    isBlank c = false ∧ isActive c = false := by
  rw [HostAddress.toString, HostAddress.dotted, String.toList_intercalate] at member
  simp only [List.map_cons, List.map_nil, List.intercalate_cons_cons, List.intercalate_singleton,
    List.mem_append] at member
  have dot : c ∈ ".".toList → isBlank c = false ∧ isActive c = false := by
    intro is_dot
    obtain rfl : c = '.' := by simpa using is_dot
    decide
  rcases member with ((first | d) | ((second | d) | ((third | d) | fourth)))
  all_goals first | exact dot d | exact repr_plain _ c ‹_›

lemma range_literal_of_plain (range : IPAddress)
    (plain : ∀ c ∈ range.address.toString.toList, isBlank c = false ∧ isActive c = false) :
    LiteralText range.toString := by
  rw [LiteralText, IPAddress.toString, String.toList_append, String.toList_append]
  refine ⟨by simp, fun c member => ?_⟩
  rcases List.mem_append.mp member with front | length
  · rcases List.mem_append.mp front with address | slash
    · exact plain c address
    · obtain rfl : c = '/' := by simpa using slash
      decide
  · exact length_plain range.prefixLength c length

def ipv6Ranges (config : InterfaceConfig) : List String :=
  config.allowedIPAddressRanges.filterMap fun range =>
    match range.address with
    | .ipv6 _ _ => some range.toString
    | _ => none

lemma ranges_literal_iff (config : InterfaceConfig) :
    (∀ value ∈ config.allowedIPAddressRanges.map IPAddress.toString, LiteralText value) ↔
      ∀ value ∈ ipv6Ranges config, LiteralText value := by
  simp only [List.forall_mem_map, ipv6Ranges, List.mem_filterMap]
  constructor
  · rintro all value ⟨range, member, printed⟩
    cases address : range.address <;> rw [address] at printed <;> simp at printed
    rw [← printed]
    exact all range member
  · intro all range member
    cases address : range.address with
    | null => exact range_literal_of_plain range (by simp [address, HostAddress.toString])
    | ipv4 bits =>
      exact range_literal_of_plain range (by rw [address]; exact dotted_plain bits)
    | ipv6 bits text => exact all _ ⟨range, member, by rw [address]⟩

def writtenValues (ks : KillSwitch.State) : Request → List String
  | .enableKillSwitch config =>
    let plan := KillSwitch.tunnelPlan config
    plan.allownets ++ plan.blocknets ++ KillSwitch.dnsServers config
  | .addAllowedRange ranges => ks.allowedRanges ++ ranges.filter (· ≠ "")
  | .addInterface config =>
    let params := firewallParams config
    params.allowAddrs ++ (if params.blockNets then ipv6Ranges config else []) ++
      params.dnsServers

/-- A request runs the rule commands it means to run exactly when every text it
writes into them is one literal word. -/
theorem rule_commands_read_as_meant_iff (ks : KillSwitch.State) (request : Request) :
    (∀ command ∈ ruleCommands ks request, ReadAsMeant command) ↔
      ∀ value ∈ writtenValues ks request, LiteralText value := by
  cases request with
  | enableKillSwitch config =>
    simp only [ruleCommands, first_commands_iff, list_commands_iff, writtenValues]
  | addAllowedRange ranges =>
    simp only [ruleCommands, rewrite_iff, getAllowRule, given_rules_iff, writtenValues,
      KillSwitch.addAllowedRange, KillSwitch.resetAllowedRange, merge_ranges_literal,
      List.forall_mem_append]
    simp [or_iff_not_imp_left]
  | addInterface config =>
    simp only [ruleCommands, first_commands_iff, list_commands_iff, writtenValues]
    simp only [List.forall_mem_append]
    by_cases all : IPAddress.anyIPv4 ∈ config.allowedIPAddressRanges
    · by_cases excluded : config.excludedAddresses.isEmpty = true <;>
        simp [firewallParams, all, excluded]
    · simp only [firewallParams, all, if_false, if_true, ranges_literal_iff]

/-! A server name with a second command in it, once in a request to the service
and once as the DNS server of an activation the WireGuard daemon accepts. -/

def injected : String := "1.1.1.1; reboot"

def injectedActivation : Json.Object :=
  [("privateKey", .string ""), ("serverPublicKey", .string ""), ("serverPort", .double 0),
   ("deviceIpv4Address", .string "10.8.0.2"), ("serverIpv4AddrIn", .string "203.0.113.5"),
   ("primaryDnsServer", .string injected), ("allowedIPAddressRanges", .array []),
   ("killSwitchOption", .string "true")]

theorem server_text_adds_command :
    (∃ words ∈ ruleCommands ⟨uninstall, false, []⟩
        (.enableKillSwitch [("vpnServer", .string injected)]),
      commandText words = "iptables -A amnvpn.110.allowNets -d 1.1.1.1; reboot -j ACCEPT" ∧
        ¬ ReadAsMeant words) ∧
      ∃ config, Daemon.parseConfig noAddresses injectedActivation =
          some config ∧ config.killSwitchEnabled = true ∧
        injected ∈ writtenValues ⟨uninstall, false, []⟩ (.addInterface config) ∧
        ¬ LiteralText injected := by
  have active : ¬ LiteralText injected := by decide
  refine ⟨⟨["iptables", "-A", "amnvpn.110.allowNets", "-d", injected, "-j", "ACCEPT"], ?_, rfl, ?_⟩,
    _, rfl, by decide, by decide, active⟩
  · refine List.mem_append_right _ ?_
    decide
  · rw [read_as_meant_iff]
    intro all
    exact active (all injected (by simp))

end AbstractumVpn.LinuxFirewall
