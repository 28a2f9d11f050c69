import AbstractumVpn.Substitution
import AbstractumVpn.UsersController

/-!
`UsersController::wgShow`: the statistics of the peers out of what `wg show all`
or `awg show all` prints. The lines of each of four kinds are collected, and the
lines at one position in the four lists make a record.
-/

namespace AbstractumVpn.WgShow

open UsersController (WgShowData)

abbrev Text := List Char

def contains (word line : Text) : Bool := decide (word <:+: line)

inductive Kind where
  | peer
  | latestHandshake
  | transfer
  | allowedIps
  deriving DecidableEq

def Kind.word : Kind → Text
  | .peer => "peer:".toList
  | .latestHandshake => "latest handshake:".toList
  | .transfer => "transfer:".toList
  | .allowedIps => "allowed ips:".toList

def getStrValue (str : Text) : Text :=
  QtText.trimmed (if ':' ∈ str then (str.dropWhile (· ≠ ':')).tail else str)

def changeHandshakeFormat (latestHandshake : Text) : Text :=
  [(" days", "d"), (" hours", "h"), (" minutes", "m"), (" seconds", "s"), (" day", "d"),
    (" hour", "h"), (" minute", "m"), (" second", "s")].foldl
      (fun text item => Substitution.replaceAll item.1.toList item.2.toList text) latestHandshake

def chop (text : Text) (n : Nat) : Text := text.take (text.length - n)

def record (peer latestHandshake transferred allowedIps : Text) : WgShowData :=
  let transferredData := (getStrValue transferred).splitOn ','
  let serverBytesReceived := QtText.trimmed (transferredData.headD [])
  let serverBytesSent := QtText.trimmed (transferredData.getLastD [])
  { clientId := String.ofList (getStrValue peer)
    latestHandshake := String.ofList (changeHandshakeFormat (getStrValue latestHandshake))
    -- the client has received what the server has sent
    dataReceived := String.ofList (chop serverBytesSent " sent".toList.length)
    dataSent := String.ofList (chop serverBytesReceived " received".toList.length)
    allowedIps := String.ofList (getStrValue allowedIps) }

def records : List Text → List Text → List Text → List Text → List WgShowData
  | peer :: peerList, latestHandshake :: latestHandshakeList, transferred :: transferredDataList,
      allowedIps :: allowedIpsList =>
      record peer latestHandshake transferred allowedIps ::
        records peerList latestHandshakeList transferredDataList allowedIpsList
  | _, _, _, _ => []

def wgShow (stdOut : Text) : List WgShowData :=
  if stdOut.isEmpty then []
  else
    let parts := stdOut.splitOn '\n'
    let peerList := parts.filter (contains Kind.peer.word)
    let latestHandshakeList := parts.filter (contains Kind.latestHandshake.word)
    let transferredDataList := parts.filter (contains Kind.transfer.word)
    let allowedIpsList := parts.filter (contains Kind.allowedIps.word)
    if allowedIpsList.isEmpty || latestHandshakeList.isEmpty || transferredDataList.isEmpty ||
        peerList.isEmpty then []
    else records peerList latestHandshakeList transferredDataList allowedIpsList

/-- A line of the output, with the one word it has in it, if any. -/
structure Line where
  text : Text
  kind : Option Kind
  unbroken : '\n' ∉ text
  marked : ∀ k : Kind, contains k.word text = decide (kind = some k)

def ofKind (kind : Kind) (lines : List Line) : List Line :=
  lines.filter fun line => line.kind = some kind

structure Block where
  peer : Line
  body : List Line
  handshake : Option Line
  transfer : Option Line
  allowed : Line
  is_peer : peer.kind = some .peer
  no_other : ofKind .peer body = []
  handshakes : ofKind .latestHandshake body = handshake.toList
  transfers : ofKind .transfer body = transfer.toList
  one_allowed : ofKind .allowedIps body = [allowed]

def Block.lines (block : Block) : List Line := block.peer :: block.body

structure Output where
  front : List Line
  peers : List Block
  no_word : ∀ line ∈ front, line.kind = none

def Output.lines (output : Output) : List Line := output.front ++ output.peers.flatMap Block.lines

def Output.stdOut (output : Output) : Text := ['\n'].intercalate (output.lines.map Line.text)

def Block.Shown (block : Block) (data : WgShowData) : Prop :=
  ∃ handshake transfer, block.handshake = some handshake ∧ block.transfer = some transfer ∧
    data = record block.peer.text handshake.text transfer.text block.allowed.text

/-- Every record has the data of its peer, and every peer with both lines has a record. -/
def Paired (output : Output) : Prop :=
  (∀ data ∈ wgShow output.stdOut, ∃ block ∈ output.peers, block.Shown data) ∧
    ∀ block ∈ output.peers, ∀ data, block.Shown data → data ∈ wgShow output.stdOut

def Block.full (block : Block) : Bool := block.handshake.isSome && block.transfer.isSome

/-- The peers with both lines come first, and the others have only handshakes or only
transfers. -/
def FullFirst (peers : List Block) : Prop :=
  ∃ front back, peers = front ++ back ∧ (∀ block ∈ front, block.full = true) ∧
    ((∀ block ∈ back, block.handshake = none) ∨ ∀ block ∈ back, block.transfer = none)

section Lists

variable (output : Output)

lemma front_ofKind (kind : Kind) : ofKind kind output.front = [] := by
  apply List.filter_eq_nil_iff.mpr
  intro line member
  rw [output.no_word line member]
  simp

lemma ofKind_lines (kind : Kind) :
    ofKind kind output.lines = output.peers.flatMap fun block => ofKind kind block.lines := by
  rw [Output.lines, ofKind, List.filter_append, List.filter_flatMap]
  exact congrArg (· ++ _) (front_ofKind output kind)

lemma filtered_lines (lines : List Line) (kind : Kind) :
    ((['\n'].intercalate (lines.map Line.text)).splitOn '\n').filter (contains kind.word) =
      (ofKind kind lines).map Line.text := by
  have chosen : (lines.map Line.text).filter (contains kind.word) =
      (ofKind kind lines).map Line.text := by
    rw [List.filter_map]
    apply congrArg (List.map Line.text)
    apply List.filter_congr
    intro line _
    exact line.marked kind
  cases lines with
  | nil => cases kind <;> decide
  | cons first rest =>
    rw [List.splitOn_intercalate, chosen]
    · intro text member
      obtain ⟨line, -, rfl⟩ := List.mem_map.mp member
      exact line.unbroken
    · exact List.cons_ne_nil _ _

lemma peers_listed : ofKind .peer output.lines = output.peers.map Block.peer := by
  rw [ofKind_lines, ← List.flatMap_singleton' (output.peers.map Block.peer), List.flatMap_map]
  apply List.flatMap_congr
  intro block _
  rw [Block.lines, ofKind, List.filter_cons_of_pos (by simp [block.is_peer])]
  exact congrArg (block.peer :: ·) block.no_other

lemma body_listed {kind : Kind} (other : kind ≠ .peer) :
    ofKind kind output.lines = output.peers.flatMap fun block => ofKind kind block.body := by
  rw [ofKind_lines]
  apply List.flatMap_congr
  intro block _
  rw [Block.lines, ofKind, List.filter_cons_of_neg (by simp [block.is_peer, other.symm])]
  rfl

lemma allowed_listed : ofKind .allowedIps output.lines = output.peers.map Block.allowed := by
  rw [body_listed output (by decide), ← List.flatMap_singleton' (output.peers.map Block.allowed),
    List.flatMap_map]
  apply List.flatMap_congr
  intro block _
  exact block.one_allowed

lemma handshakes_listed :
    ofKind .latestHandshake output.lines = output.peers.filterMap Block.handshake := by
  rw [body_listed output (by decide), List.filterMap_eq_flatMap_toList]
  apply List.flatMap_congr
  intro block _
  exact block.handshakes

lemma transfers_listed :
    ofKind .transfer output.lines = output.peers.filterMap Block.transfer := by
  rw [body_listed output (by decide), List.filterMap_eq_flatMap_toList]
  apply List.flatMap_congr
  intro block _
  exact block.transfers

end Lists

def paired (peers : List Block) : List WgShowData :=
  records (peers.map fun block => block.peer.text)
    ((peers.filterMap Block.handshake).map Line.text)
    ((peers.filterMap Block.transfer).map Line.text) (peers.map fun block => block.allowed.text)

lemma records_empty {peerList latestHandshakeList transferredDataList allowedIpsList : List Text}
    (empty : allowedIpsList = [] ∨ latestHandshakeList = [] ∨ transferredDataList = [] ∨
      peerList = []) :
    records peerList latestHandshakeList transferredDataList allowedIpsList = [] := by
  rcases empty with rfl | rfl | rfl | rfl
  · cases peerList <;> cases latestHandshakeList <;> cases transferredDataList <;> rfl
  · cases peerList <;> rfl
  · cases peerList <;> cases latestHandshakeList <;> rfl
  · rfl

variable (output : Output) {block : Block}

lemma wgShow_eq : wgShow output.stdOut = paired output.peers := by
  have lists : records ((output.stdOut.splitOn '\n').filter (contains Kind.peer.word))
      ((output.stdOut.splitOn '\n').filter (contains Kind.latestHandshake.word))
      ((output.stdOut.splitOn '\n').filter (contains Kind.transfer.word))
      ((output.stdOut.splitOn '\n').filter (contains Kind.allowedIps.word)) =
        paired output.peers := by
    simp only [Output.stdOut, filtered_lines, peers_listed, handshakes_listed, transfers_listed,
      allowed_listed, List.map_map]
    rfl
  rw [wgShow]
  split
  · rename_i empty
    rw [← lists, List.isEmpty_iff.mp empty]
    rfl
  · dsimp only
    split
    · rename_i empty
      simp only [Bool.or_eq_true, List.isEmpty_iff, or_assoc] at empty
      rw [← lists, records_empty empty]
    · exact lists

lemma paired_full {data : WgShowData} (shown : block.Shown data) (rest : List Block) :
    paired (block :: rest) = data :: paired rest := by
  obtain ⟨handshake, transfer, has_handshake, has_transfer, rfl⟩ := shown
  rw [paired, List.filterMap_cons_some has_handshake, List.filterMap_cons_some has_transfer]
  rfl

lemma shown_of_full (full : block.full = true) : ∃ data, block.Shown data := by
  rw [Block.full, Bool.and_eq_true] at full
  obtain ⟨handshake, has_handshake⟩ := Option.isSome_iff_exists.mp full.1
  obtain ⟨transfer, has_transfer⟩ := Option.isSome_iff_exists.mp full.2
  exact ⟨_, handshake, transfer, has_handshake, has_transfer, rfl⟩

lemma full_of_shown {data : WgShowData} (shown : block.Shown data) : block.full = true := by
  obtain ⟨handshake, transfer, has_handshake, has_transfer, -⟩ := shown
  rw [Block.full, has_handshake, has_transfer]
  rfl

lemma paired_empty {back : List Block}
    (one_kind : (∀ block ∈ back, block.handshake = none) ∨ ∀ block ∈ back, block.transfer = none) :
    paired back = [] := by
  apply records_empty
  rcases one_kind with no_handshake | no_transfer
  · rw [List.filterMap_eq_nil_iff.mpr no_handshake]
    exact Or.inr (Or.inl rfl)
  · rw [List.filterMap_eq_nil_iff.mpr no_transfer]
    exact Or.inr (Or.inr (Or.inl rfl))

lemma mem_paired_append {front : List Block} (full : ∀ block ∈ front, block.full = true)
    (back : List Block) (data : WgShowData) :
    data ∈ paired (front ++ back) ↔ (∃ block ∈ front, block.Shown data) ∨ data ∈ paired back := by
  induction front with
  | nil => simp
  | cons block front ih =>
    rw [List.forall_mem_cons] at full
    obtain ⟨own, shown⟩ := shown_of_full full.1
    have unique : block.Shown data ↔ data = own := by
      obtain ⟨handshake, transfer, has_handshake, has_transfer, rfl⟩ := shown
      constructor
      · rintro ⟨other, another, has_other, has_another, rfl⟩
        obtain rfl := Option.some.inj (has_handshake.symm.trans has_other)
        obtain rfl := Option.some.inj (has_transfer.symm.trans has_another)
        rfl
      · rintro rfl
        exact ⟨handshake, transfer, has_handshake, has_transfer, rfl⟩
    rw [List.cons_append, paired_full shown, List.mem_cons, ih full.2, List.exists_mem_cons_iff,
      unique, or_assoc]

lemma paired_of_fullFirst (first : FullFirst output.peers) : Paired output := by
  obtain ⟨front, back, split, full, one_kind⟩ := first
  have listed : ∀ data, data ∈ wgShow output.stdOut ↔ ∃ block ∈ front, block.Shown data := by
    intro data
    rw [wgShow_eq, split, mem_paired_append full, paired_empty one_kind]
    simp
  constructor
  · intro data member
    obtain ⟨block, inside, shown⟩ := (listed data).mp member
    exact ⟨block, split ▸ List.mem_append_left back inside, shown⟩
  · intro block member data shown
    apply (listed data).mpr
    rw [split] at member
    rcases List.mem_append.mp member with inside | inside
    · exact ⟨block, inside, shown⟩
    · -- one of the two lines would be missing
      obtain ⟨handshake, transfer, has_handshake, has_transfer, -⟩ := shown
      rcases one_kind with no_handshake | no_transfer
      · rw [no_handshake block inside] at has_handshake
        cases has_handshake
      · rw [no_transfer block inside] at has_transfer
        cases has_transfer

def DistinctKeys (output : Output) : Prop :=
  (output.peers.map fun block => getStrValue block.peer.text).Nodup

lemma split_full (peers : List Block) :
    ∃ front back, peers = front ++ back ∧ (∀ block ∈ front, block.full = true) ∧
      ∀ block ∈ back.head?, block.full = false := by
  induction peers with
  | nil => exact ⟨[], [], rfl, by simp, by simp⟩
  | cons block rest ih =>
    cases full : block.full with
    | false => exact ⟨[], block :: rest, rfl, by simp, by simpa using full⟩
    | true =>
      obtain ⟨front, back, rfl, all, lacking⟩ := ih
      exact ⟨block :: front, back, rfl, List.forall_mem_cons.mpr ⟨full, all⟩, lacking⟩

/-- If both kinds of lines are among some peers, the first of them gets a record. -/
lemma paired_first {rest : List Block}
    (handshake : ¬ ∀ peer ∈ block :: rest, peer.handshake = none)
    (transfer : ¬ ∀ peer ∈ block :: rest, peer.transfer = none) :
    ∃ data ∈ paired (block :: rest), data.clientId = String.ofList (getStrValue block.peer.text) := by
  rw [← List.filterMap_eq_nil_iff] at handshake transfer
  obtain ⟨one, ones, shaken⟩ := List.exists_cons_of_ne_nil handshake
  obtain ⟨other, others, moved⟩ := List.exists_cons_of_ne_nil transfer
  rw [paired, shaken, moved]
  exact ⟨_, List.mem_cons_self, rfl⟩

lemma fullFirst_of_paired (distinct : DistinctKeys output) (right : Paired output) :
    FullFirst output.peers := by
  obtain ⟨front, back, split, full, lacking⟩ := split_full output.peers
  by_contra not_first
  have both_kinds : ¬ ((∀ block ∈ back, block.handshake = none) ∨
      ∀ block ∈ back, block.transfer = none) := fun one_kind =>
    not_first ⟨front, back, split, full, one_kind⟩
  rw [not_or] at both_kinds
  cases back with
  | nil => exact both_kinds.1 (by simp)
  | cons block rest =>
    -- the first peer that lacks a line gets the lines of later peers
    obtain ⟨data, member, key⟩ := paired_first both_kinds.1 both_kinds.2
    have listed : data ∈ wgShow output.stdOut := by
      rw [wgShow_eq, split, mem_paired_append full]
      exact Or.inr member
    obtain ⟨other, inside, shown⟩ := right.1 data listed
    have own : other = block := by
      have here : block ∈ output.peers := split ▸ List.mem_append_right front List.mem_cons_self
      apply List.inj_on_of_nodup_map distinct inside here
      obtain ⟨handshake, transfer, -, -, rfl⟩ := shown
      exact String.ofList_injective key
    have complete := full_of_shown shown
    rw [own, lacking block rfl] at complete
    cases complete

/-- Each record belongs to its peer, and no peer with both lines is left out, when the peers with
both lines come first and the others have only handshakes or only transfers; for peers with
different keys also only then. -/
theorem statistics_paired_iff (output : Output) :
    (FullFirst output.peers → Paired output) ∧
      (DistinctKeys output → (Paired output ↔ FullFirst output.peers)) :=
  ⟨paired_of_fullFirst output, fun distinct =>
    ⟨fullFirst_of_paired output distinct, paired_of_fullFirst output⟩⟩

/-! A peer that was never connected, and one that was. -/

def printed (text : Text) (kind : Option Kind) : Bool :=
  decide ('\n' ∉ text) && [Kind.peer, .latestHandshake, .transfer, .allowedIps].all fun k =>
    contains k.word text == decide (kind = some k)

lemma printed_marked {text : Text} {kind : Option Kind} (checked : printed text kind = true)
    (k : Kind) : contains k.word text = decide (kind = some k) := by
  rw [printed, Bool.and_eq_true, List.all_eq_true] at checked
  apply beq_iff_eq.mp
  apply checked.2
  cases k <;> decide

lemma printed_unbroken {text : Text} {kind : Option Kind} (checked : printed text kind = true) :
    '\n' ∉ text := by
  rw [printed, Bool.and_eq_true] at checked
  exact of_decide_eq_true checked.1

def Line.of (text : Text) (kind : Option Kind) (checked : printed text kind = true) : Line :=
  ⟨text, kind, printed_unbroken checked, printed_marked checked⟩

def handshakeLine : Line :=
  .of "  latest handshake: 5 minutes ago".toList (some .latestHandshake) (by decide)

def transferLine : Line :=
  .of "  transfer: 1 KiB received, 2 KiB sent".toList (some .transfer) (by decide)

def quietAddress : Line := .of "  allowed ips: 10.8.1.1/32".toList (some .allowedIps) (by decide)

def activeAddress : Line := .of "  allowed ips: 10.8.1.2/32".toList (some .allowedIps) (by decide)

def quiet : Block where
  peer := .of "peer: quiet".toList (some .peer) (by decide)
  body := [quietAddress]
  handshake := none
  transfer := none
  allowed := quietAddress
  is_peer := rfl
  no_other := rfl
  handshakes := rfl
  transfers := rfl
  one_allowed := rfl

def active : Block where
  peer := .of "peer: active".toList (some .peer) (by decide)
  body := [activeAddress, handshakeLine, transferLine]
  handshake := some handshakeLine
  transfer := some transferLine
  allowed := activeAddress
  is_peer := rfl
  no_other := rfl
  handshakes := rfl
  transfers := rfl
  one_allowed := rfl

def Output.ofPeers (peers : List Block) : Output := ⟨[], peers, List.forall_mem_nil _⟩

/-- The statistics of the second peer are given for the first one. -/
theorem statistics_shifted :
    (wgShow (Output.ofPeers [quiet, active]).stdOut).map (fun data =>
        (data.clientId, data.latestHandshake, data.dataReceived, data.dataSent, data.allowedIps)) =
      [("quiet", "5m ago", "2 KiB", "1 KiB", "10.8.1.1/32")] := by
  decide +kernel

theorem active_first_paired :
    DistinctKeys (.ofPeers [active, quiet]) ∧ Paired (.ofPeers [active, quiet]) := by
  have distinct : DistinctKeys (.ofPeers [active, quiet]) := by
    change [_, _].Nodup
    decide
  refine ⟨distinct, ((statistics_paired_iff (.ofPeers [active, quiet])).2 distinct).mpr ?_⟩
  refine ⟨[active], [quiet], rfl, ?_, Or.inl ?_⟩
  · simp only [List.forall_mem_singleton]
    rfl
  · simp only [List.forall_mem_singleton]
    rfl

end AbstractumVpn.WgShow
