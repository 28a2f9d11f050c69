import AbstractumVpn.Liveness

/-!
`WireguardUtilsLinux::getPeerStatus`: the statuses of the peers in a reply of the
userspace tunnel. The lines before the first peer fill a status without a key,
which is thrown away. Counters are Qt's readings of decimal texts; the limits of
`qint64` are beyond the numbers that a `PeerBlock` has.
-/

namespace AbstractumVpn.WireguardUtilsLinux

open Daemon (PeerStatus)

abbrev Line := List Char

structure StatusReaders where
  /-- From the hexadecimal form of a key to the one in base64. -/
  publicKey : Line → String
  toDouble : Line → Int
  toLongLong : Line → Int
  double_digits : ∀ n < 2 ^ 53, toDouble (Nat.toDigits 10 n) = n
  longLong_digits : ∀ n < 2 ^ 53, toLongLong (Nat.toDigits 10 n) = n

def entry (line : Line) : Option (Line × Line) :=
  let eq := line.idxOf '='
  if eq = 0 ∨ eq = line.length then none else some (line.take eq, line.drop (eq + 1))

variable (readers : StatusReaders)

def noted (name value : Line) (status : PeerStatus) : PeerStatus :=
  { status with
    txBytes := if name = "tx_bytes".toList then readers.toDouble value else status.txBytes
    rxBytes := if name = "rx_bytes".toList then readers.toDouble value else status.rxBytes
    handshake := status.handshake +
      (if name = "last_handshake_time_sec".toList then readers.toLongLong value * 1000 else 0) +
      (if name = "last_handshake_time_nsec".toList then (readers.toLongLong value).tdiv 1000000 else 0) }

def closed (status : PeerStatus) (peerList : List PeerStatus) : List PeerStatus :=
  if status.pubkey = "" then peerList else peerList ++ [status]

def readLine (read : PeerStatus × List PeerStatus) (line : Line) : PeerStatus × List PeerStatus :=
  match entry line with
  | none => read
  | some (name, value) =>
    if name = "public_key".toList then (⟨readers.publicKey value, 0, 0, 0⟩, closed read.1 read.2)
    else (noted readers name value read.1, read.2)

def getPeerStatus (reply : List Char) : List PeerStatus :=
  let read := (reply.splitOn '\n').foldl (readLine readers) (⟨"", 0, 0, 0⟩, [])
  closed read.1 read.2

/-! ## What a reply says -/

def values (name : String) (lines : List Line) : List Line :=
  ((lines.filterMap entry).filter (·.1 = name.toList)).map Prod.snd

/-- The lines give the counter once, or it is zero. -/
def Counter (name : String) (lines : List Line) (n : Nat) : Prop :=
  values name lines = [] ∧ n = 0 ∨ values name lines = [Nat.toDigits 10 n] ∧ n < 2 ^ 53

structure PeerBlock where
  key : Line
  lines : List Line
  rxBytes : Nat
  txBytes : Nat
  sec : Nat
  nsec : Nat
  given : readers.publicKey key ≠ ""
  alone : values "public_key" lines = []
  rx : Counter "rx_bytes" lines rxBytes
  tx : Counter "tx_bytes" lines txBytes
  seconds : Counter "last_handshake_time_sec" lines sec
  nanoseconds : Counter "last_handshake_time_nsec" lines nsec

variable {readers}

def PeerBlock.text (peer : PeerBlock readers) : List Line :=
  ("public_key=".toList ++ peer.key) :: peer.lines

def PeerBlock.status (peer : PeerBlock readers) : PeerStatus :=
  ⟨readers.publicKey peer.key, peer.sec * 1000 + peer.nsec / 1000000, peer.rxBytes, peer.txBytes⟩

/-! ## Reading it -/

lemma values_none {line : Line} (skipped : entry line = none) (name : String) (rest : List Line) :
    values name (line :: rest) = values name rest := by
  simp [values, skipped]

lemma values_some {line label value : Line} (read : entry line = some (label, value)) (name : String)
    (rest : List Line) :
    values name (line :: rest) = (if label = name.toList then [value] else []) ++ values name rest := by
  by_cases own : label = name.toList <;> simp [values, read, own]

/-- Lines without a key change the numbers of the status: the last bytes count, and all times. -/
lemma read_lines (lines : List Line) (alone : values "public_key" lines = []) (status : PeerStatus)
    (peerList : List PeerStatus) :
    lines.foldl (readLine readers) (status, peerList) =
      (⟨status.pubkey,
        status.handshake +
          ((values "last_handshake_time_sec" lines).map (readers.toLongLong · * 1000)).sum +
          ((values "last_handshake_time_nsec" lines).map
            fun value => (readers.toLongLong value).tdiv 1000000).sum,
        (values "rx_bytes" lines).foldl (fun _ value => readers.toDouble value) status.rxBytes,
        (values "tx_bytes" lines).foldl (fun _ value => readers.toDouble value) status.txBytes⟩,
        peerList) := by
  induction lines generalizing status with
  | nil => simp [values]
  | cons line rest ih =>
    cases read : entry line with
    | none =>
      simp only [values_none read] at alone ⊢
      rw [List.foldl_cons, readLine, read]
      exact ih alone status
    | some pair =>
      obtain ⟨label, value⟩ := pair
      rw [values_some read, List.append_eq_nil_iff] at alone
      have plain : label ≠ "public_key".toList := by
        intro own
        rw [if_pos own] at alone
        cases alone.1
      have one {α : Type} (c : Prop) [Decidable c] (f : Line → α) (before : α) :
          (if c then [value] else []).foldl (fun _ value => f value) before =
            if c then f value else before := by
        split <;> rfl
      have term (c : Prop) [Decidable c] (f : Line → Int) :
          ((if c then [value] else []).map f).sum = if c then f value else 0 := by
        split <;> simp
      rw [List.foldl_cons, readLine, read]
      simp only [if_neg plain, ih alone.2, values_some read, noted, List.foldl_append, one,
        List.map_append, List.sum_append, term]
      ac_rfl

lemma counter_last {name : String} {lines : List Line} {n : Nat} (counts : Counter name lines n) :
    (values name lines).foldl (fun _ value => readers.toDouble value) 0 = n := by
  rcases counts with ⟨none, rfl⟩ | ⟨one, small⟩
  · rw [none]; rfl
  · rw [one]; exact readers.double_digits n small

lemma counter_sum {name : String} {lines : List Line} {n : Nat} (counts : Counter name lines n)
    (scale : Int → Int) (zero : scale 0 = 0) :
    ((values name lines).map fun value => scale (readers.toLongLong value)).sum = scale n := by
  rcases counts with ⟨none, rfl⟩ | ⟨one, small⟩
  · simp [none, zero]
  · simp [one, readers.longLong_digits n small]

/-- A block closes the status before it and leaves its own. -/
lemma read_peer (peer : PeerBlock readers) (status : PeerStatus) (peerList : List PeerStatus) :
    peer.text.foldl (readLine readers) (status, peerList) =
      (peer.status, closed status peerList) := by
  have label : entry ("public_key=".toList ++ peer.key) = some ("public_key".toList, peer.key) := by
    simp [entry]
  rw [PeerBlock.text, List.foldl_cons, readLine, label]
  simp only [if_true, read_lines peer.lines peer.alone, counter_last peer.rx, counter_last peer.tx,
    counter_sum peer.seconds (· * 1000) rfl, counter_sum peer.nanoseconds (·.tdiv 1000000) rfl]
  simp [PeerBlock.status]

lemma read_peers (peers : List (PeerBlock readers)) (read : PeerStatus × List PeerStatus) :
    let after := (peers.flatMap PeerBlock.text).foldl (readLine readers) read
    closed after.1 after.2 = closed read.1 read.2 ++ peers.map PeerBlock.status := by
  induction peers generalizing read with
  | nil => simp
  | cons peer rest ih =>
    have own : closed peer.status (closed read.1 read.2) = closed read.1 read.2 ++ [peer.status] :=
      if_neg peer.given
    have one : peer.text.foldl (readLine readers) read = (peer.status, closed read.1 read.2) :=
      read_peer peer read.1 read.2
    simp only [List.flatMap_cons, List.foldl_append, one, ih, own, List.map_cons,
      List.append_assoc, List.singleton_append]

/-- A reply has one status for each of its peers, in their order, with the numbers of the peer's
own block. -/
theorem one_status_per_peer (reply : List Char) (interface : List Line)
    (peers : List (PeerBlock readers)) (alone : values "public_key" interface = [])
    (lines : reply.splitOn '\n' = interface ++ peers.flatMap PeerBlock.text) :
    getPeerStatus readers reply = peers.map PeerBlock.status := by
  rw [getPeerStatus, lines, List.foldl_append, read_lines interface alone]
  exact read_peers peers _

/-! Two peers behind an interface with a counter; the second one is silent. -/

def sampleReaders : StatusReaders where
  publicKey := String.ofList
  toDouble text := Nat.ofDigitChars 10 text 0
  toLongLong text := Nat.ofDigitChars 10 text 0
  double_digits _ _ := by rw [Nat.ofDigitChars_ten_toDigits]
  longLong_digits _ _ := by rw [Nat.ofDigitChars_ten_toDigits]

def activePeer : PeerBlock sampleReaders :=
  ⟨['0', 'a'], ["last_handshake_time_nsec=9000000".toList, "tx_bytes=148".toList, "errno".toList,
    "last_handshake_time_sec=5".toList], 0, 148, 5, 9000000, by decide, by decide,
    Or.inl (by decide), Or.inr (by decide), Or.inr (by decide), Or.inr (by decide)⟩

def silentPeer : PeerBlock sampleReaders :=
  ⟨['0', 'b'], [], 0, 0, 0, 0, by decide, rfl, Or.inl (by decide), Or.inl (by decide),
    Or.inl (by decide), Or.inl (by decide)⟩

theorem two_statuses :
    getPeerStatus sampleReaders (['\n'].intercalate ("tx_bytes=9".toList ::
      (activePeer.text ++ silentPeer.text))) = [⟨"0a", 5009, 0, 148⟩, ⟨"0b", 0, 0, 0⟩] :=
  one_status_per_peer _ ["tx_bytes=9".toList] [activePeer, silentPeer] (by decide) (by decide)

end AbstractumVpn.WireguardUtilsLinux
