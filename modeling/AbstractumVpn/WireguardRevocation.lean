import AbstractumVpn.ClientSubnet
import AbstractumVpn.LineBuffer

/-!
What `revokeWireGuard` does to a config file that `prepareWireguardConfig` has
written the peers of. The file is split at every `[`, the first part that
contains the id of the client is taken out, and the others are joined again with
a `[` in front of each.
-/

namespace AbstractumVpn.WireguardRevocation

open WireguardClients

structure Peer where
  publicKey : Key
  presharedKey : Key
  address : BitVec 32
  generated : publicKey.text ≠ []

def Peer.body (peer : Peer) : Text :=
  "Peer]".toList ++ '\n' :: ("PublicKey = ".toList ++ peer.publicKey.text ++
    '\n' :: ("PresharedKey = ".toList ++ peer.presharedKey.text ++
      '\n' :: (allowedIps ++ ((HostAddress.ipv4 peer.address).toString.toList ++ "/32".toList) ++
        '\n' :: ['\n'])))

def Peer.part (peer : Peer) : Text :=
  configPart peer.publicKey peer.presharedKey (.ipv4 peer.address)

/-- A file of the server: some text, the interface section, and the peers. -/
structure ServerConfig where
  preamble : Text
  settings : Text
  peers : List Peer

namespace ServerConfig

def front (config : ServerConfig) : Text :=
  config.preamble ++ "[Interface]".toList ++ config.settings

def text (config : ServerConfig) : Text := config.front ++ config.peers.flatMap Peer.part

def without (config : ServerConfig) (clientId : Text) : ServerConfig :=
  { config with peers := config.peers.filter (·.publicKey.text ≠ clientId) }

def add (config : ServerConfig) (peer : Peer) : ServerConfig :=
  { config with peers := config.peers ++ [peer] }

def frontSections (config : ServerConfig) : List Text :=
  (config.front.splitOn '[').filter (· ≠ [])

/-- The file begins with a section, and no section in front of the peers is empty. -/
def Clean (config : ServerConfig) : Prop := config.front.splitOn '[' = [] :: config.frontSections

instance (config : ServerConfig) : Decidable config.Clean :=
  inferInstanceAs (Decidable (_ = _))

end ServerConfig

def contains (clientId part : Text) : Bool := decide (clientId <:+: part)

/-- Behind these parts comes the peer: from the first of them that contains the id, they are all
copies of the peer's own section. In a file without copies none of them contains it. -/
def ReachesOwn (clientId : Text) (before : List Text) (peer : Peer) : Prop :=
  ∀ part ∈ before.dropWhile (! contains clientId ·), part = peer.body

/-- No section contains the id, or one peer has it as its key and is the one that is found. -/
def Finds (clientId : Text) (config : ServerConfig) : Prop :=
  (∀ part ∈ config.frontSections ++ config.peers.map Peer.body, contains clientId part = false) ∨
    ∃ earlier peer later, config.peers = earlier ++ peer :: later ∧
      peer.publicKey.text = clientId ∧
      (∀ other ∈ earlier ++ later, other.publicKey.text ≠ clientId) ∧
      ReachesOwn clientId (config.frontSections ++ earlier.map Peer.body) peer

section Erase

variable {α : Type}

lemma shifted_iff (first own : α) (front back : List α) :
    front ++ own :: back = first :: (front ++ back) ↔ ∀ other ∈ first :: front, other = own := by
  induction front generalizing first with
  | nil => simp [eq_comm]
  | cons next front ih =>
    rw [List.cons_append, List.cons_append, List.cons_eq_cons, ih next]
    simp only [List.forall_mem_cons]
    constructor
    · rintro ⟨rfl, rfl, same⟩
      exact ⟨rfl, rfl, same⟩
    · rintro ⟨rfl, rfl, same⟩
      exact ⟨rfl, rfl, same⟩

lemma erase_find_iff [BEq α] [LawfulBEq α] {p : α → Bool} {front back : List α}
    {own found : α} (holds : p own = true)
    (first : (front ++ own :: back).find? p = some found) :
    (front ++ own :: back).erase found = front ++ back ↔
      ∀ other ∈ front.dropWhile (! p ·), other = own := by
  induction front with
  | nil =>
    rw [List.nil_append, List.find?_cons_of_pos holds, Option.some.injEq] at first
    subst first
    simp
  | cons next front ih =>
    cases here : p next with
    | true =>
      rw [List.cons_append, List.find?_cons_of_pos here, Option.some.injEq] at first
      subst first
      rw [List.cons_append, List.erase_cons_head, List.cons_append, shifted_iff,
        List.dropWhile_cons_of_neg (by simp [here])]
    | false =>
      rw [List.cons_append, List.find?_cons_of_neg (ne_true_of_eq_false here)] at first
      have other : ¬ (next == found) = true := by
        rw [beq_iff_eq]
        rintro rfl
        rw [List.find?_some first] at here
        cases here
      rw [List.cons_append, List.erase_cons_tail other, List.cons_append, List.cons_eq_cons,
        ih first, List.dropWhile_cons_of_pos (by simp [here])]
      simp

end Erase

variable (peer : Peer) {clientId : Text} {sections : List Text}

lemma part_eq : peer.part = '[' :: peer.body := part_lines _ _ _

lemma base64_no_mark (key : Key) : '[' ∉ key.text := by
  intro member
  exact absurd (key.base64 '[' member) (by decide)

lemma address_no_mark (bits : BitVec 32) : '[' ∉ (HostAddress.ipv4 bits).toString.toList := by
  have number : ∀ n : Nat, '[' ∉ Nat.toDigits 10 n := by
    intro n member
    exact absurd (Nat.isDigit_of_mem_toDigits (by decide) (by decide) member) (by decide)
  obtain ⟨first, second, third, fourth, same⟩ := address_text bits
  simp [same, number]

lemma body_no_mark : '[' ∉ peer.body := by
  have peer_name : '[' ∉ "Peer]".toList := by decide
  have public_name : '[' ∉ "PublicKey = ".toList := by decide
  have psk_name : '[' ∉ "PresharedKey = ".toList := by decide
  have allowed_name : '[' ∉ allowedIps := by decide
  have length : '[' ∉ "/32".toList := by decide
  have line : ¬ '[' = '\n' := by decide
  simp only [Peer.body, List.mem_append, List.mem_cons, not_or]
  exact ⟨peer_name, line, ⟨public_name, base64_no_mark _⟩, line, ⟨psk_name, base64_no_mark _⟩, line,
    ⟨allowed_name, address_no_mark _, length⟩, line, line, List.not_mem_nil⟩

lemma body_ne_nil : peer.body ≠ [] := by
  intro empty
  have size := congrArg List.length empty
  simp [Peer.body] at size

lemma contains_own : contains peer.publicKey.text peer.body = true := by
  apply decide_eq_true
  refine ⟨"Peer]".toList ++ '\n' :: "PublicKey = ".toList, '\n' :: ("PresharedKey = ".toList ++
    peer.presharedKey.text ++ '\n' :: (allowedIps ++
      ((HostAddress.ipv4 peer.address).toString.toList ++ "/32".toList) ++ '\n' :: ['\n'])), ?_⟩
  simp only [Peer.body, List.append_assoc, List.cons_append]

lemma splitOn_parts (front : Text) (peers : List Peer) :
    (front ++ peers.flatMap Peer.part).splitOn '[' = front.splitOn '[' ++ peers.map Peer.body := by
  induction peers generalizing front with
  | nil => simp
  | cons peer rest ih =>
    rw [List.flatMap_cons, ← List.append_assoc, ih, part_eq, List.splitOn_append_cons_self,
      List.splitOn_eq_singleton (body_no_mark peer), List.append_assoc, List.map_cons]
    rfl

namespace ServerConfig

lemma splitOn_text (config : ServerConfig) :
    config.text.splitOn '[' = config.front.splitOn '[' ++ config.peers.map Peer.body :=
  splitOn_parts config.front config.peers

lemma bodies_filter (peers : List Peer) :
    (peers.map Peer.body).filter (· ≠ []) = peers.map Peer.body := by
  apply List.filter_eq_self.mpr
  intro body member
  obtain ⟨peer, -, rfl⟩ := List.mem_map.mp member
  exact decide_eq_true (body_ne_nil peer)

lemma sections_eq (config : ServerConfig) :
    (config.text.splitOn '[').filter (· ≠ []) =
      config.frontSections ++ config.peers.map Peer.body := by
  rw [splitOn_text, List.filter_append, bodies_filter, frontSections]

/-- The interface section is one of the parts in front of the peers. -/
lemma frontSections_ne_nil (config : ServerConfig) : config.frontSections ≠ [] := by
  have mark : "[Interface]".toList = '[' :: "Interface]".toList := by decide
  have parts : config.front.splitOn '[' = config.preamble.splitOn '[' ++
      ("Interface]".toList ++ config.settings).splitOn '[' := by
    rw [front, mark, List.append_assoc, List.cons_append, List.splitOn_append_cons_self]
  -- the part begins with a letter, so it is not empty
  obtain ⟨rest, others, split⟩ : ∃ rest others,
      ("Interface]".toList ++ config.settings).splitOn '[' = ('I' :: rest) :: others := by
    have letter : "Interface]".toList ++ config.settings =
        'I' :: ("nterface]".toList ++ config.settings) := rfl
    rw [letter, List.splitOn_cons_eq_if_modifyHead, if_neg (by decide)]
    cases later : ("nterface]".toList ++ config.settings).splitOn '[' with
    | nil => exact absurd later (List.splitOn_ne_nil _ _)
    | cons first others => exact ⟨first, others, rfl⟩
  intro empty
  have member : ('I' :: rest) ∈ config.frontSections := by
    rw [frontSections, parts, split]
    simp
  rw [empty] at member
  cases member

end ServerConfig

lemma joined_iff (some_part : sections ≠ []) (unmarked : ∀ part ∈ sections, '[' ∉ part)
    (text : Text) :
    '[' :: ['['].intercalate sections = text ↔ text.splitOn '[' = [] :: sections := by
  have front : '[' :: ['['].intercalate sections = ['['].intercalate ([] :: sections) := by
    obtain ⟨first, others, rfl⟩ := List.exists_cons_of_ne_nil some_part
    rfl
  rw [front]
  constructor
  · rintro rfl
    apply List.splitOn_intercalate
    · rw [List.forall_mem_cons]
      exact ⟨List.not_mem_nil, unmarked⟩
    · exact List.cons_ne_nil _ _
  · intro split
    rw [← split, List.intercalate_splitOn]

lemma removeSection_of_absent (absent : ∀ part ∈ sections, contains clientId part = false) :
    removeSection clientId sections = sections := by
  have none : sections.find? (fun part => decide (clientId <:+: part)) = none := by
    rw [List.find?_eq_none]
    intro part member
    exact ne_true_of_eq_false (absent part member)
  rw [removeSection, none]

lemma removeSection_of_found {found : Text} {sections : List Text}
    (first : sections.find? (contains clientId) = some found) :
    removeSection clientId sections = sections.erase found := by
  change sections.find? (fun part => decide (clientId <:+: part)) = some found at first
  rw [removeSection, first]

lemma removeSection_length {found : Text} {sections : List Text}
    (first : sections.find? (contains clientId) = some found) :
    (removeSection clientId sections).length + 1 = sections.length := by
  have member := List.mem_of_find?_eq_some first
  have some_part := List.length_pos_of_mem member
  rw [removeSection_of_found first, List.length_erase_of_mem member]
  omega

lemma filter_one {earlier later : List Peer} {peer : Peer} (own : peer.publicKey.text = clientId)
    (others : ∀ other ∈ earlier ++ later, other.publicKey.text ≠ clientId) :
    (earlier ++ peer :: later).filter (·.publicKey.text ≠ clientId) = earlier ++ later := by
  rw [List.filter_append, List.filter_cons_of_neg (by simpa using own), ← List.filter_append]
  apply List.filter_eq_self.mpr
  intro other member
  exact decide_eq_true (others other member)

lemma only_one {peers : List Peer}
    (one : (peers.filter (·.publicKey.text ≠ clientId)).length + 1 = peers.length) :
    ∃ earlier peer later, peers = earlier ++ peer :: later ∧ peer.publicKey.text = clientId ∧
      ∀ other ∈ earlier ++ later, other.publicKey.text ≠ clientId := by
  cases search : peers.find? (fun peer => decide (peer.publicKey.text = clientId)) with
  | none =>
    -- then the filter keeps all of them
    rw [List.find?_eq_none] at search
    have all : peers.filter (·.publicKey.text ≠ clientId) = peers := by
      apply List.filter_eq_self.mpr
      intro peer member
      simpa using search peer member
    rw [all] at one
    omega
  | some peer =>
    obtain ⟨own, earlier, later, rfl, before⟩ := List.find?_eq_some_iff_append.mp search
    have own : peer.publicKey.text = clientId := of_decide_eq_true own
    have kept : earlier.filter (·.publicKey.text ≠ clientId) = earlier := by
      apply List.filter_eq_self.mpr
      intro other member
      simpa using before other member
    rw [List.filter_append, List.filter_cons_of_neg (by simpa using own), kept,
      List.length_append, List.length_append, List.length_cons] at one
    have behind : (later.filter (·.publicKey.text ≠ clientId)).length = later.length := by omega
    rw [List.length_filter_eq_length_iff] at behind
    refine ⟨earlier, peer, later, rfl, own, ?_⟩
    intro other member
    rcases List.mem_append.mp member with inside | inside
    · simpa using before other inside
    · simpa using behind other inside

/-- The first section with the id is found and removed: it is that of the peer, or a copy. -/
lemma removeSection_peer {peer : Peer} (own : peer.publicKey.text = clientId)
    (before after : List Text) :
    removeSection clientId (before ++ peer.body :: after) = before ++ after ↔
      ReachesOwn clientId before peer := by
  have holds : contains clientId peer.body = true := by
    rw [← own]
    exact contains_own peer
  obtain ⟨found, first⟩ : ∃ found,
      (before ++ peer.body :: after).find? (contains clientId) = some found := by
    rw [← Option.isSome_iff_exists, List.find?_isSome]
    exact ⟨peer.body, by simp, holds⟩
  rw [removeSection_of_found first, ReachesOwn]
  exact erase_find_iff holds first

/-- Without a section that contains the id, no peer has it as its key. -/
lemma filter_absent {peers : List Peer}
    (absent : ∀ part ∈ sections ++ peers.map Peer.body, contains clientId part = false) :
    peers.filter (·.publicKey.text ≠ clientId) = peers := by
  apply List.filter_eq_self.mpr
  intro peer member
  apply decide_eq_true
  rintro rfl
  have inside := absent peer.body (List.mem_append_right _ (List.mem_map_of_mem member))
  rw [contains_own] at inside
  cases inside

lemma removeSection_iff (clientId : Text) (config : ServerConfig) :
    removeSection clientId (config.frontSections ++ config.peers.map Peer.body) =
        config.frontSections ++ (config.without clientId).peers.map Peer.body ↔
      Finds clientId config := by
  have split_parts : ∀ {earlier peer later}, config.peers = earlier ++ peer :: later →
      config.frontSections ++ config.peers.map Peer.body =
        (config.frontSections ++ earlier.map Peer.body) ++ peer.body :: later.map Peer.body := by
    intro earlier peer later split
    rw [split, List.map_append, List.map_cons, List.append_assoc]
  have rest_parts : ∀ {earlier peer later}, config.peers = earlier ++ peer :: later →
      peer.publicKey.text = clientId →
      (∀ other ∈ earlier ++ later, other.publicKey.text ≠ clientId) →
      config.frontSections ++ (config.without clientId).peers.map Peer.body =
        (config.frontSections ++ earlier.map Peer.body) ++ later.map Peer.body := by
    intro earlier peer later split own others
    rw [ServerConfig.without, split, filter_one own others, List.map_append, List.append_assoc]
  constructor
  · intro same
    cases search : (config.frontSections ++ config.peers.map Peer.body).find?
        (contains clientId) with
    | none =>
      rw [List.find?_eq_none] at search
      exact Or.inl fun part member => Bool.eq_false_of_not_eq_true (search part member)
    | some found =>
      have one := removeSection_length search
      rw [same, List.length_append, List.length_append, List.length_map, List.length_map] at one
      have left : (config.without clientId).peers.length + 1 = config.peers.length := by omega
      obtain ⟨earlier, peer, later, split, own, others⟩ := only_one left
      rw [split_parts split, rest_parts split own others, removeSection_peer own] at same
      exact Or.inr ⟨earlier, peer, later, split, own, others, same⟩
  · rintro (absent | ⟨earlier, peer, later, split, own, others, reaches⟩)
    · rw [removeSection_of_absent absent, ServerConfig.without, filter_absent absent]
    · rw [split_parts split, rest_parts split own others, removeSection_peer own]
      exact reaches

lemma sections_joined (unmarked : ∀ part ∈ sections, '[' ∉ part)
    (full : ∀ part ∈ sections, part ≠ []) :
    (('[' :: ['['].intercalate sections).splitOn '[').filter (· ≠ []) = sections := by
  cases sections with
  | nil => rfl
  | cons first others =>
    rw [(joined_iff (List.cons_ne_nil _ _) unmarked _).mp rfl, List.filter_cons_of_neg (by simp)]
    apply List.filter_eq_self.mpr
    intro part member
    exact decide_eq_true (full part member)

lemma revoked_text_iff (clientId : Text) (config target : ServerConfig)
    (front : target.front = config.front) :
    revokeWireGuard clientId true config.text = target.text ↔
      config.Clean ∧ removeSection clientId (config.frontSections ++ config.peers.map Peer.body) =
        config.frontSections ++ target.peers.map Peer.body := by
  have target_sections : target.frontSections = config.frontSections := by
    rw [ServerConfig.frontSections, ServerConfig.frontSections, front]
  have revoked : revokeWireGuard clientId true config.text =
      '[' :: ['['].intercalate
        (removeSection clientId (config.frontSections ++ config.peers.map Peer.body)) := by
    rw [revokeWireGuard, ServerConfig.sections_eq, if_pos rfl]
  have all : ∀ part ∈ removeSection clientId (config.frontSections ++ config.peers.map Peer.body),
      '[' ∉ part ∧ part ≠ [] := by
    intro part member
    have inside := (removeSection_sublist clientId _).subset member
    rw [← ServerConfig.sections_eq, List.mem_filter] at inside
    exact ⟨LineBuffer.piece_no_mark '[' _ part inside.1, of_decide_eq_true inside.2⟩
  have split : target.text.splitOn '[' =
      config.front.splitOn '[' ++ target.peers.map Peer.body := by
    rw [ServerConfig.splitOn_text, front]
  have some_part : config.frontSections ++ target.peers.map Peer.body ≠ [] := by
    intro empty
    exact config.frontSections_ne_nil (List.append_eq_nil_iff.mp empty).1
  rw [revoked]
  constructor
  · intro same
    have sections : removeSection clientId (config.frontSections ++ config.peers.map Peer.body) =
        config.frontSections ++ target.peers.map Peer.body := by
      have joined := target.sections_eq
      rw [← same, sections_joined (fun part member => (all part member).1)
        (fun part member => (all part member).2), target_sections] at joined
      exact joined
    rw [sections] at same all
    rw [joined_iff some_part (fun part member => (all part member).1), split,
      ← List.cons_append] at same
    exact ⟨List.append_cancel_right same, sections⟩
  · rintro ⟨clean, sections⟩
    rw [sections] at all ⊢
    rw [joined_iff some_part (fun part member => (all part member).1), split, clean,
      List.cons_append]

lemma prepared_add (qt : Qt) {answers : Answers} (ok : failed answers = false)
    (subnetAddress : String) (config : ServerConfig) :
    ∃ peer, peer.publicKey = answers.clientPubKey ∧
      prepareWireguardConfig qt subnetAddress answers config.text = (config.add peer).text := by
  obtain ⟨pskKey, -, written⟩ := prepared_written qt ok subnetAddress config.text
  have generated : answers.clientPubKey.text ≠ [] := by
    simp only [failed, Bool.or_eq_false_iff, decide_eq_false_iff_not] at ok
    exact ok.1.1.1.1.2
  let address := toIPv4Address (nextIp qt subnetAddress (getIpsFromConf qt config.text))
  refine ⟨⟨answers.clientPubKey, pskKey, address, generated⟩, rfl, written.trans ?_⟩
  rw [ServerConfig.text, ServerConfig.text, ServerConfig.add, List.flatMap_append,
    List.flatMap_singleton, List.append_assoc]
  rfl

/-- A revocation takes out exactly the peer with the key if and only if the file begins with a
section and has no empty one, and the id is found in that peer first or nowhere. A client that
was just created is taken out again if and only if that holds for it. -/
theorem revocation_exact_iff (config : ServerConfig) :
    (∀ clientId, revokeWireGuard clientId true config.text = (config.without clientId).text ↔
      config.Clean ∧ Finds clientId config) ∧
    ∀ (qt : Qt) (subnetAddress : String) (answers : Answers), failed answers = false →
      ∃ peer, peer.publicKey = answers.clientPubKey ∧
        prepareWireguardConfig qt subnetAddress answers config.text = (config.add peer).text ∧
        (revokeWireGuard answers.clientPubKey.text true
            (prepareWireguardConfig qt subnetAddress answers config.text) = config.text ↔
          config.Clean ∧ ReachesOwn answers.clientPubKey.text
            (config.frontSections ++ config.peers.map Peer.body) peer) := by
  constructor
  · intro clientId
    rw [revoked_text_iff clientId config (config.without clientId) rfl, removeSection_iff]
  · intro qt subnetAddress answers ok
    obtain ⟨peer, key, added⟩ := prepared_add qt ok subnetAddress config
    refine ⟨peer, key, added, ?_⟩
    have own : peer.publicKey.text = answers.clientPubKey.text := by rw [key]
    have parts : (config.add peer).frontSections ++ (config.add peer).peers.map Peer.body =
        (config.frontSections ++ config.peers.map Peer.body) ++ [peer.body] := by
      rw [ServerConfig.add, List.map_append, ← List.append_assoc]
      rfl
    rw [added, revoked_text_iff _ (config.add peer) config rfl, parts]
    have found := removeSection_peer own (config.frontSections ++ config.peers.map Peer.body) []
    rw [List.append_nil] at found
    exact and_congr Iff.rfl found

/-! The sample client behind an interface section. -/

def sampleConfig : ServerConfig := ⟨[], ['\n'], []⟩

/-- A comment in front of the first section gets a mark, and an empty id takes the interface
away. -/
theorem revocation_spoils_file :
    let commented : ServerConfig := ⟨['#', '\n'], ['\n'], []⟩
    revokeWireGuard ['k'] true commented.text = '[' :: commented.text ∧
      (commented.without ['k']).text = commented.text ∧
      revokeWireGuard [] true sampleConfig.text = ['['] ∧
      (sampleConfig.without []).text = "[Interface]\n".toList := by
  decide +kernel

theorem revocation_of_sample_client :
    sampleConfig.Clean ∧
      revokeWireGuard ['x'] true sampleConfig.text = (sampleConfig.without ['x']).text ∧
      revokeWireGuard ['k', '='] true
        (prepareWireguardConfig dottedQt "10.8.1.0" sampleAnswers sampleConfig.text) =
          sampleConfig.text := by
  have clean : sampleConfig.Clean := by decide +kernel
  obtain ⟨each, created⟩ := revocation_exact_iff sampleConfig
  have absent : Finds ['x'] sampleConfig := by
    apply Or.inl
    decide +kernel
  obtain ⟨peer, -, -, restored⟩ := created dottedQt "10.8.1.0" sampleAnswers rfl
  refine ⟨clean, (each ['x']).mpr ⟨clean, absent⟩, restored.mpr ⟨clean, ?_⟩⟩
  -- the interface section does not contain the key
  have nothing : (sampleConfig.frontSections ++ sampleConfig.peers.map Peer.body).dropWhile
      (! contains ['k', '='] ·) = [] := by decide +kernel
  intro part member
  change part ∈ (sampleConfig.frontSections ++ sampleConfig.peers.map Peer.body).dropWhile
    (! contains ['k', '='] ·) at member
  rw [nothing] at member
  cases member

end AbstractumVpn.WireguardRevocation
