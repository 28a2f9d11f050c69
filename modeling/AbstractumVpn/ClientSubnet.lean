import AbstractumVpn.WireguardClients

/-!
The addresses that `prepareWireguardConfig` gives out against the network that
the server's scripts set up: a subnet of 256 addresses, the first and the last
not for hosts. The length of the subnet is not looked at.
-/

namespace AbstractumVpn.ClientSubnet

open WireguardClients

structure InSubnet (base bits : BitVec 32) : Prop where
  network : bits.toNat / 256 = base.toNat / 256
  not_first : bits.toNat % 256 ≠ 0
  not_last : bits.toNat % 256 ≠ 255

def host (base : BitVec 32) (number : Nat) : HostAddress :=
  .ipv4 (base + BitVec.ofNat 32 (number + 1))

def hosts (base : BitVec 32) (count : Nat) : List HostAddress := (List.range count).map (host base)

/-- The peers of a file begin with the hosts of the subnet, as far as they go. -/
def Filled (base : BitVec 32) (ips : List HostAddress) : Prop :=
  ips.take 254 = hosts base (min ips.length 254)

variable (qt : Qt) (subnetAddress : String)

/-- A call fails, and the file is as it was, or it gives a client an address of the subnet
that no other peer has. -/
def Served (base : BitVec 32) (file : Text) (answers : Answers) : Prop :=
  (failed answers = true ∧ prepareWireguardConfig qt subnetAddress answers file = file) ∨
    ∃ pskKey bits, prepareWireguardConfig qt subnetAddress answers file =
        file ++ configPart answers.clientPubKey pskKey (.ipv4 bits) ∧
      InSubnet base bits ∧ .ipv4 bits ∉ getIpsFromConf qt file

def create (file : Text) (answers : Answers) : Text :=
  prepareWireguardConfig qt subnetAddress answers file

section Subnet

variable {qt subnetAddress} {base : BitVec 32} {ips : List HostAddress}

lemma increment_one (address : HostAddress)
    (below : (toIPv4Address address).toNat % 256 < 254) : increment address = 1 := by
  rw [increment]
  split
  · rename_i octet
    rw [lastOctet] at octet
    omega
  · rename_i octet
    rw [lastOctet] at octet
    omega
  · rfl

lemma filled_hosts (filled : Filled base ips) (room : ips.length < 254) :
    ips = hosts base ips.length := by
  rw [Filled, List.take_of_length_le (Nat.le_of_lt room),
    Nat.min_eq_left (Nat.le_of_lt room)] at filled
  exact filled

lemma run_length (reads : ReadsAddresses qt) (subnetAddress : String) (file : Text)
    (creations : List Answers) :
    (getIpsFromConf qt (Runs.run (create qt subnetAddress) file creations)).length =
      (getIpsFromConf qt file).length + creations.countP (! failed ·) := by
  induction creations generalizing file with
  | nil => rfl
  | cons answers rest ih =>
    rw [Runs.run_cons, ih, List.countP_cons]
    cases error : failed answers with
    | true =>
      rw [create, prepared_failed error]
      rfl
    | false =>
      obtain ⟨pskKey, -, written⟩ := prepared_written qt error subnetAddress file
      rw [create, written, nextIp, created_addresses reads, List.length_append]
      simp only [List.length_singleton, Bool.not_false, if_true]
      omega

lemma served_of_failed {answers : Answers} (error : failed answers = true) (file : Text) :
    Served qt subnetAddress base file answers :=
  Or.inl ⟨error, prepared_failed error subnetAddress file⟩

variable (subnet : qt.hostAddress subnetAddress = .ipv4 base) (network : base.toNat % 256 = 0)

include network

lemma host_toNat {number : Nat} (small : number < 255) :
    (toIPv4Address (host base number)).toNat = base.toNat + (number + 1) := by
  change (base + BitVec.ofNat 32 (number + 1)).toNat = _
  rw [BitVec.toNat_add, BitVec.toNat_ofNat]
  omega

lemma host_inSubnet {number : Nat} (small : number < 254) :
    InSubnet base (base + BitVec.ofNat 32 (number + 1)) := by
  have value : (base + BitVec.ofNat 32 (number + 1)).toNat = base.toNat + (number + 1) :=
    host_toNat network (by omega)
  constructor
  · omega
  · omega
  · omega

lemma host_not_mem {count : Nat} (small : count < 254) :
    host base count ∉ hosts base count := by
  intro member
  obtain ⟨number, below, same⟩ := List.mem_map.mp member
  rw [List.mem_range] at below
  have values := congrArg (fun address => (toIPv4Address address).toNat) same
  simp only [host_toNat network (show number < 255 by omega),
    host_toNat network (show count < 255 by omega)] at values
  omega

lemma full_mem (filled : Filled base ips) (full : 254 ≤ ips.length) {bits : BitVec 32}
    (inside : InSubnet base bits) : .ipv4 bits ∈ ips := by
  obtain ⟨same, first, last⟩ := inside
  apply List.mem_of_mem_take (i := 254)
  rw [filled]
  apply List.mem_map.mpr
  refine ⟨bits.toNat % 256 - 1, List.mem_range.mpr (by omega), ?_⟩
  apply congrArg HostAddress.ipv4
  apply BitVec.eq_of_toNat_eq
  rw [BitVec.toNat_add, BitVec.toNat_ofNat]
  omega

/-- Behind the last host comes the first one of the next subnet. -/
lemma nextIp_full (filled : Filled base ips) (full : ips.length = 254) :
    nextIp qt subnetAddress ips = host base 256 := by
  rw [Filled, full, List.take_of_length_le (Nat.le_of_eq full), Nat.min_self] at filled
  have last : lastIp qt subnetAddress ips = host base 253 := by
    rw [lastIp, filled, hosts, List.range_succ, List.map_append, List.map_singleton,
      List.getLastD_concat]
  have octet : lastOctet (host base 253) = 254 := by
    rw [lastOctet, host_toNat network (by omega)]
    omega
  have step : increment (host base 253) = 3 := by
    rw [increment, octet]
    rfl
  rw [nextIp, last, step, host, host]
  apply congrArg HostAddress.ipv4
  rw [toIPv4Address, BitVec.add_assoc, ← BitVec.ofNat_add]

lemma not_served_of_full {file : Text} {answers : Answers} (ok : failed answers = false)
    (filled : Filled base (getIpsFromConf qt file))
    (full : 254 ≤ (getIpsFromConf qt file).length) :
    ¬ Served qt subnetAddress base file answers := by
  rintro (⟨error, -⟩ | ⟨pskKey, bits, -, inside, unused⟩)
  · rw [ok] at error
    cases error
  · exact unused (full_mem network filled full inside)

include subnet

/-- While there is room, the next address is that of the next host. -/
lemma nextIp_host (filled : Filled base ips) (room : ips.length < 254) :
    nextIp qt subnetAddress ips = host base ips.length := by
  have listed := filled_hosts filled room
  cases count : ips.length with
  | zero =>
    rw [List.eq_nil_of_length_eq_zero count, nextIp, lastIp, List.getLastD_nil, subnet,
      increment_one (.ipv4 base) (show base.toNat % 256 < 254 by omega)]
    rfl
  | succ number =>
    rw [count] at listed room
    -- the last address is that of the host before
    have last : lastIp qt subnetAddress ips = host base number := by
      rw [lastIp, listed, hosts, List.range_succ, List.map_append, List.map_singleton,
        List.getLastD_concat]
    have octet : (toIPv4Address (host base number)).toNat % 256 < 254 := by
      rw [host_toNat network (by omega)]
      omega
    rw [nextIp, last, increment_one _ octet, host, host]
    apply congrArg HostAddress.ipv4
    rw [toIPv4Address, BitVec.add_assoc, ← BitVec.ofNat_add]

lemma filled_append (filled : Filled base ips) :
    Filled base (ips ++ [nextIp qt subnetAddress ips]) := by
  rw [Filled, List.length_append, List.length_singleton]
  by_cases room : ips.length < 254
  · have longer : (ips ++ [host base ips.length]).length ≤ 254 := by
      rw [List.length_append, List.length_singleton]
      omega
    rw [nextIp_host subnet network filled room, List.take_of_length_le longer,
      Nat.min_eq_left (by omega), hosts, List.range_succ, List.map_append]
    exact congrArg (· ++ [host base ips.length]) (filled_hosts filled room)
  · have full : 254 ≤ ips.length := Nat.le_of_not_lt room
    rw [List.take_append_of_le_length full, filled, Nat.min_eq_right full,
      Nat.min_eq_right (by omega)]

lemma create_filled (reads : ReadsAddresses qt) (file : Text) (answers : Answers)
    (filled : Filled base (getIpsFromConf qt file)) :
    Filled base (getIpsFromConf qt (create qt subnetAddress file answers)) := by
  rcases prepared_addresses reads subnetAddress answers file with same | added
  · rw [create, same]
    exact filled
  · rw [create, added]
    exact filled_append subnet network filled

lemma run_filled (reads : ReadsAddresses qt) {file : Text}
    (no_peers : getIpsFromConf qt file = []) (creations : List Answers) :
    Filled base (getIpsFromConf qt (Runs.run (create qt subnetAddress) file creations)) := by
  have start : Filled base (getIpsFromConf qt file) := by
    rw [no_peers]
    rfl
  exact Runs.run_invariant (create_filled subnet network reads) file creations start

lemma served_of_room {file : Text} {answers : Answers}
    (filled : Filled base (getIpsFromConf qt file)) (room : (getIpsFromConf qt file).length < 254) :
    Served qt subnetAddress base file answers := by
  cases error : failed answers with
  | true => exact served_of_failed error file
  | false =>
    obtain ⟨pskKey, -, written⟩ := prepared_written qt error subnetAddress file
    rw [nextIp_host subnet network filled room] at written
    refine Or.inr ⟨pskKey, _, written, host_inSubnet network room, ?_⟩
    rw [filled_hosts filled room, hosts, List.length_map, List.length_range]
    exact host_not_mem network room

end Subnet

/-- In a file that was reached from one without peers by creating clients, the next client
gets an unused address of the subnet if and only if there are fewer than 254 of them, unless
the call fails. -/
theorem next_client_served_iff (reads : ReadsAddresses qt) (base : BitVec 32)
    (subnet : qt.hostAddress subnetAddress = .ipv4 base) (network : base.toNat % 256 = 0)
    (file : Text) (no_peers : getIpsFromConf qt file = []) (creations : List Answers)
    (answers : Answers) :
    Served qt subnetAddress base (Runs.run (create qt subnetAddress) file creations) answers ↔
      failed answers = true ∨ creations.countP (! failed ·) < 254 := by
  have filled := run_filled subnet network reads no_peers creations
  have count := run_length reads subnetAddress file creations
  rw [no_peers, List.length_nil, Nat.zero_add] at count
  rw [← count]
  constructor
  · intro served
    by_contra full
    rw [not_or, Bool.not_eq_true, Nat.not_lt] at full
    exact not_served_of_full network full.1 filled full.2 served
  · rintro (error | room)
    · exact served_of_failed error _
    · exact served_of_room subnet network filled room

/-! The sample clients of the subnet 10.8.1.0. -/

def sampleBase : BitVec 32 := 168296704

def sampleFile : Text := "[Interface]\n".toList

lemma sample_subnet : dottedQt.hostAddress "10.8.1.0" = .ipv4 sampleBase := by decide +kernel

lemma sample_no_peers : getIpsFromConf dottedQt sampleFile = [] := by decide +kernel

lemma sample_failed : failed sampleAnswers = false := rfl

/-- The client after the 254th gets the address 10.8.2.1 -/
theorem client_outside_subnet :
    let reached := Runs.run (create dottedQt "10.8.1.0") sampleFile
      (List.replicate 254 sampleAnswers)
    prepareWireguardConfig dottedQt "10.8.1.0" sampleAnswers reached =
        reached ++ configPart sampleKey sampleKey (.ipv4 168296961) ∧
      ¬ Served dottedQt "10.8.1.0" sampleBase reached sampleAnswers := by
  intro reached
  have filled : Filled sampleBase (getIpsFromConf dottedQt reached) :=
    run_filled sample_subnet rfl dotted_reads sample_no_peers _
  have count : (getIpsFromConf dottedQt reached).length = 254 := by
    rw [run_length dotted_reads, sample_no_peers, List.countP_replicate]
    rfl
  constructor
  · obtain ⟨pskKey, same, written⟩ := prepared_written dottedQt sample_failed "10.8.1.0" reached
    obtain rfl := Option.some.inj same
    rw [written, nextIp_full rfl filled count]
    rfl
  · exact not_served_of_full rfl sample_failed filled (Nat.le_of_eq count.symm)

theorem first_client_served :
    Served dottedQt "10.8.1.0" sampleBase sampleFile sampleAnswers ∧
      ¬ Served dottedQt "10.8.1.0" sampleBase
        (Runs.run (create dottedQt "10.8.1.0") sampleFile (List.replicate 254 sampleAnswers))
        sampleAnswers := by
  have served := next_client_served_iff dottedQt "10.8.1.0" dotted_reads sampleBase sample_subnet rfl
    sampleFile sample_no_peers
  constructor
  · exact (served [] sampleAnswers).mpr (Or.inr (by decide))
  · rw [served, List.countP_replicate]
    decide

end AbstractumVpn.ClientSubnet
