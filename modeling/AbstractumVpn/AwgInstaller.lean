import AbstractumVpn.AwgProtocolConfig
import AbstractumVpn.Draws
import AbstractumVpn.QtNumbers

/-!
`AwgInstaller::generateAwgParameters`: the parameters of the obfuscation for a
new server. Sizes of junk are drawn again until no two kinds of packets have the
same length. The headers are numbers, or ranges for version 2 of the protocol,
each drawn from the end of the one before.
-/

namespace AbstractumVpn.AwgInstaller

open AwgProtocolConfig Draws QtText

structure JunkSizes where
  s1 : Nat
  s2 : Nat
  s3 : Nat
  s4 : Nat

def junkSizes : Draw JunkSizes := do
  let s1 ← bounded 15 150
  let s2 ← bounded 15 150
  let s3 ← bounded 0 64
  let s4 ← bounded 0 20
  let s2 ← redraw (fun s2 => [s1].contains s2 ||
      s1 + messageInitiationSize == s2 + messageResponseSize) (scaled 15 150) s2
  let s3 ← redraw (fun s3 => [s1, s2].contains s3 ||
      s1 + messageInitiationSize == s3 + messageCookieReplySize ||
      s2 + messageResponseSize == s3 + messageCookieReplySize) (scaled 0 64) s3
  let s4 ← redraw (fun s4 => [s1, s2, s3].contains s4) (scaled 0 20) s4
  return ⟨s1, s2, s3, s4⟩

def maxHeader : Nat := 2147483647

abbrev Range := Nat × Nat

def Range.text (range : Range) : String :=
  QtText.number range.1 ++ "-" ++ QtText.number range.2

def ranges : Nat → Nat → Draw (List Range)
  | 0, _ => return []
  | missing + 1, min => do
      let first ← bounded min maxHeader
      let second ← bounded first maxHeader
      let later ← ranges missing second
      return (first, second) :: later

def plainHeaders : List String → Draw (List String)
  | headersValue, [] => if headersValue.length = 4 then some (headersValue, []) else none
  | headersValue, raw :: rest =>
    if headersValue.length = 4 then some (headersValue, raw :: rest)
    else plainHeaders (headersValue.insert (QtText.number (scaled 5 maxHeader raw))) rest

structure SetOrder where
  values : List String → List String
  perm : ∀ set, (values set).Perm set

def magicHeaders (order : SetOrder) (isAwg2 : Bool) : Draw (List String) :=
  if isAwg2 then do
    let headersValue ← ranges 4 5
    return headersValue.map Range.text
  else do
    let headersValue ← plainHeaders []
    return order.values headersValue

def junk : Draw (Nat × JunkSizes) := do
  let junkPacketCount ← bounded 4 7
  let sizes ← junkSizes
  return (junkPacketCount, sizes)

def defaultSpecialJunk1 : String :=
  "<r 2><b 0x858000010001000000000669636c6f756403636f6d0000010001c00c000100010000105a00044d583737>"

def generateAwgParameters (order : SetOrder) (serverConfig : ServerConfig) (isAwg2 : Bool) :
    Draw ServerConfig := do
  let (junkPacketCount, sizes) ← junk
  let headers ← magicHeaders order isAwg2
  return { serverConfig with
    junkPacketCount := QtText.number junkPacketCount
    junkPacketMinSize := QtText.number 10
    junkPacketMaxSize := QtText.number 50
    initPacketJunkSize := QtText.number sizes.s1
    responsePacketJunkSize := QtText.number sizes.s2
    initPacketMagicHeader := headers.getD 0 ""
    responsePacketMagicHeader := headers.getD 1 ""
    underloadPacketMagicHeader := headers.getD 2 ""
    transportPacketMagicHeader := headers.getD 3 ""
    cookieReplyPacketJunkSize := QtText.number sizes.s3
    transportPacketJunkSize := QtText.number sizes.s4
    specialJunk1 := defaultSpecialJunk1
    specialJunk2 := ""
    specialJunk3 := ""
    specialJunk4 := ""
    specialJunk5 := "" }

def packetSizesEqual (config : ServerConfig) : Bool :=
  isPacketSizeEqual (QtText.toInt config.initPacketJunkSize)
    (QtText.toInt config.responsePacketJunkSize) (QtText.toInt config.cookieReplyPacketJunkSize)
    (QtText.toInt config.transportPacketJunkSize)

def headersEqual (config : ServerConfig) : Bool :=
  isHeadersEqual config.initPacketMagicHeader config.responsePacketMagicHeader
    config.underloadPacketMagicHeader config.transportPacketMagicHeader

def Apart (range other : Range) : Prop :=
  ∀ number, ¬ (range.1 ≤ number ∧ number ≤ range.2 ∧ other.1 ≤ number ∧ number ≤ other.2)

/-- The headers of a config are ranges, no two of which have a number in common. -/
def RangesApart (config : ServerConfig) : Prop :=
  ∃ ranges : List Range,
    [config.initPacketMagicHeader, config.responsePacketMagicHeader,
      config.underloadPacketMagicHeader, config.transportPacketMagicHeader] =
        ranges.map Range.text ∧
    ranges.Pairwise Apart ∧ ∀ range ∈ ranges, range.1 ≤ range.2

/-- The words for the lower ends of the missing ranges are not scaled down to nothing. -/
def Spread : Nat → Nat → List UInt32 → Prop
  | missing + 1, min, first :: second :: supply =>
    4294967296 ≤ first.toNat * (maxHeader - min) ∧
      Spread missing (scaled (scaled min maxHeader first) maxHeader second) supply
  | _, _, _ => True

def LaterSpread : List UInt32 → Prop
  | first :: second :: supply =>
    Spread 3 (scaled (scaled 5 maxHeader first) maxHeader second) supply
  | _ => True

/-- The bounds of the draws, and what the loops have excluded. -/
structure JunkSizes.Drawn (sizes : JunkSizes) : Prop where
  first : 15 ≤ sizes.s1 ∧ sizes.s1 < 150
  second : 15 ≤ sizes.s2 ∧ sizes.s2 < 150
  third : sizes.s3 < 64
  fourth : sizes.s4 < 20
  response : sizes.s1 + messageInitiationSize ≠ sizes.s2 + messageResponseSize
  cookie : sizes.s2 + messageResponseSize ≠ sizes.s3 + messageCookieReplySize

lemma junkSizes_drawn : Gives junkSizes JunkSizes.Drawn := by
  refine Gives.bind (Gives.bounded (by decide)) fun s1 first => ?_
  refine Gives.bind (Gives.bounded (by decide)) fun s2 second => ?_
  refine Gives.bind (Gives.bounded (by decide)) fun s3 third => ?_
  refine Gives.bind (Gives.bounded (by decide)) fun s4 fourth => ?_
  refine Gives.bind (Gives.redraw_scaled second) ?_
  rintro s2' ⟨second', kept⟩
  refine Gives.bind (Gives.redraw_scaled third) ?_
  rintro s3' ⟨third', kept'⟩
  refine Gives.bind (Gives.redraw_scaled fourth) ?_
  rintro s4' ⟨fourth', -⟩
  apply Gives.pure
  simp only [Bool.or_eq_false_iff, beq_eq_false_iff_ne] at kept kept'
  exact ⟨first, second', third'.2, fourth'.2, kept.2, kept'.2⟩

lemma junk_drawn : Gives junk fun drawn => drawn.2.Drawn := by
  refine Gives.bind (Gives.bounded (by decide)) fun count _ => ?_
  exact Gives.bind junkSizes_drawn fun sizes drawn => Gives.pure drawn

/-- The transport packets are shorter than all others, and the handshake longer than a cookie. -/
lemma drawn_sizes_differ {sizes : JunkSizes} (drawn : sizes.Drawn) :
    isPacketSizeEqual sizes.s1 sizes.s2 sizes.s3 sizes.s4 = false := by
  obtain ⟨first, second, third, fourth, response, cookie⟩ := drawn
  simp only [messageInitiationSize, messageResponseSize, messageCookieReplySize] at response cookie
  simp only [isPacketSizeEqual, messageInitiationSize, messageResponseSize,
    messageCookieReplySize, messageTransportSize, Bool.or_eq_false_iff, beq_eq_false_iff_ne]
  omega

lemma number_digits (n : Nat) : (number n).toList = Nat.toDigits 10 n := by
  change (Nat.repr n).toList = _
  exact Nat.toList_repr

lemma text_split (range : Range) :
    range.text.toList.splitOn '-' = [Nat.toDigits 10 range.1, Nat.toDigits 10 range.2] := by
  have no_dash : ∀ n : Nat, '-' ∉ Nat.toDigits 10 n := by
    intro n member
    exact absurd (Nat.isDigit_of_mem_toDigits (by decide) (by decide) member) (by decide)
  have parts : range.text.toList =
      Nat.toDigits 10 range.1 ++ '-' :: Nat.toDigits 10 range.2 := by
    rw [Range.text, String.toList_append, String.toList_append, number_digits, number_digits,
      List.append_assoc]
    rfl
  rw [parts, List.splitOn_append_cons_self_of_not_mem (no_dash _),
    List.splitOn_eq_singleton (no_dash _)]

lemma text_injective : Function.Injective Range.text := by
  intro range other same
  have digits := congrArg (fun text => text.toList.splitOn '-') same
  simp only [text_split, List.cons.injEq, and_true] at digits
  have number : ∀ n : Nat, Nat.ofDigitChars 10 (Nat.toDigits 10 n) 0 = n :=
    fun n => Nat.ofDigitChars_toDigits (by decide) (by decide)
  apply Prod.ext
  · rw [← number range.1, digits.1, number]
  · rw [← number range.2, digits.2, number]

variable {missing min : Nat} {order : SetOrder} {drawn : List Range} {headers : List String}
    {supply left : List UInt32}

lemma ranges_some (finishes : ranges (missing + 1) min supply = some (drawn, left)) :
    ∃ first second rest later, supply = first :: second :: rest ∧
      drawn = (scaled min maxHeader first,
        scaled (scaled min maxHeader first) maxHeader second) :: later ∧
      ranges missing (scaled (scaled min maxHeader first) maxHeader second) rest =
        some (later, left) := by
  obtain ⟨low, rest, lower, finishes⟩ := bind_some finishes
  obtain ⟨first, rfl, rfl⟩ := bounded_some lower
  obtain ⟨high, rest, upper, finishes⟩ := bind_some finishes
  obtain ⟨second, rfl, rfl⟩ := bounded_some upper
  obtain ⟨later, rest, others, finishes⟩ := bind_some finishes
  obtain ⟨rfl, rfl⟩ := pure_some finishes
  exact ⟨first, second, _, later, rfl, rfl, others⟩

lemma ranges_drawn (room : min < maxHeader) {drawn : List Range} {supply left : List UInt32}
    (finishes : ranges missing min supply = some (drawn, left)) :
    drawn.length = missing ∧ ∀ range ∈ drawn, min ≤ range.1 ∧ range.1 ≤ range.2 := by
  induction missing generalizing min drawn supply with
  | zero =>
    obtain ⟨rfl, -⟩ := pure_some finishes
    exact ⟨rfl, by simp⟩
  | succ missing ih =>
    obtain ⟨first, second, rest, later, rfl, rfl, others⟩ := ranges_some finishes
    have lower := scaled_range room first
    have upper := scaled_range lower.2 second
    obtain ⟨count, above⟩ := ih upper.2 others
    refine ⟨congrArg (· + 1) count, ?_⟩
    rw [List.forall_mem_cons]
    refine ⟨⟨lower.1, upper.1⟩, ?_⟩
    intro range member
    have held := above range member
    exact ⟨le_trans (le_trans lower.1 upper.1) held.1, held.2⟩

/-- Ranges behind another one do not touch it if and only if none begins where it ends. -/
lemma apart_iff {range other : Range} (ordered : range.1 ≤ range.2) (behind : range.2 ≤ other.1)
    (proper : other.1 ≤ other.2) : Apart range other ↔ range.2 < other.1 := by
  constructor
  · intro apart
    by_contra touching
    exact apart range.2 (by omega)
  · intro gap number inside
    omega

/-- Ranges that begin behind a number are apart from each other if and only if the words for
their lower ends are large enough. -/
lemma ranges_spread (room : min < maxHeader) {drawn : List Range} {supply left : List UInt32}
    (finishes : ranges missing min supply = some (drawn, left)) :
    (drawn.Pairwise Apart ∧ ∀ range ∈ drawn, min < range.1) ↔ Spread missing min supply := by
  induction missing generalizing min drawn supply with
  | zero =>
    obtain ⟨rfl, -⟩ := pure_some finishes
    simp [Spread]
  | succ missing ih =>
    obtain ⟨first, second, rest, later, rfl, rfl, others⟩ := ranges_some finishes
    have lower := scaled_range room first
    have upper := scaled_range lower.2 second
    have above := (ranges_drawn upper.2 others).2
    rw [Spread, ← ih upper.2 others, ← lowest_lt_scaled, List.pairwise_cons, List.forall_mem_cons]
    have touching : ∀ range ∈ later, Apart (scaled min maxHeader first,
        scaled (scaled min maxHeader first) maxHeader second) range ↔
          scaled (scaled min maxHeader first) maxHeader second < range.1 := by
      intro range member
      exact apart_iff upper.1 (above range member).1 (above range member).2
    constructor
    · rintro ⟨⟨separate, pairs⟩, start, -⟩
      exact ⟨start, pairs, fun range member =>
        (touching range member).mp (separate range member)⟩
    · rintro ⟨start, pairs, gaps⟩
      refine ⟨⟨fun range member => (touching range member).mpr (gaps range member), pairs⟩, start, ?_⟩
      intro range member
      exact lt_of_lt_of_le start (le_trans upper.1 (above range member).1)

/-- The four ranges are apart if and only if the words behind the first range are large enough. -/
lemma four_ranges_apart (finishes : ranges 4 5 supply = some (drawn, left)) :
    drawn.Pairwise Apart ↔ LaterSpread supply := by
  obtain ⟨first, second, rest, later, rfl, rfl, others⟩ := ranges_some finishes
  have lower := scaled_range (show 5 < maxHeader by decide) first
  have upper := scaled_range lower.2 second
  have above := (ranges_drawn upper.2 others).2
  rw [LaterSpread, ← ranges_spread upper.2 others, List.pairwise_cons, and_comm]
  apply and_congr_right
  intro _
  constructor
  · intro separate range member
    exact (apart_iff upper.1 (above range member).1 (above range member).2).mp
      (separate range member)
  · intro gaps range member
    exact (apart_iff upper.1 (above range member).1 (above range member).2).mpr
      (gaps range member)

lemma four_headers (four : headers.length = 4) : ∃ h1 h2 h3 h4, headers = [h1, h2, h3, h4] := by
  obtain ⟨h1, rest, rfl⟩ := List.exists_cons_of_length_eq_add_one four
  obtain ⟨h2, rest, rfl⟩ := List.exists_cons_of_length_eq_add_one (Nat.succ.inj four)
  obtain ⟨h3, rest, rfl⟩ := List.exists_cons_of_length_eq_add_one (Nat.succ.inj (Nat.succ.inj four))
  obtain ⟨h4, rfl⟩ := List.length_eq_one_iff.mp (Nat.succ.inj (Nat.succ.inj (Nat.succ.inj four)))
  exact ⟨h1, h2, h3, h4, rfl⟩

/-- The check on four headers is one for duplicates. -/
lemma four_headers_differ (four : headers.length = 4) :
    isHeadersEqual (headers.getD 0 "") (headers.getD 1 "") (headers.getD 2 "") (headers.getD 3 "") =
      false ↔ headers.Nodup := by
  obtain ⟨h1, h2, h3, h4, rfl⟩ := four_headers four
  simp [isHeadersEqual, and_assoc]

lemma plainHeaders_distinct {set drawn : List String} {supply left : List UInt32}
    (distinct : set.Nodup) (finishes : plainHeaders set supply = some (drawn, left)) :
    drawn.length = 4 ∧ drawn.Nodup := by
  induction supply generalizing set with
  | nil =>
    rw [plainHeaders] at finishes
    split at finishes
    · rename_i four
      obtain ⟨rfl, -⟩ := Prod.mk.inj (Option.some.inj finishes)
      exact ⟨four, distinct⟩
    · cases finishes
  | cons raw rest ih =>
    rw [plainHeaders] at finishes
    split at finishes
    · rename_i four
      obtain ⟨rfl, -⟩ := Prod.mk.inj (Option.some.inj finishes)
      exact ⟨four, distinct⟩
    · exact ih (distinct.insert) finishes

/-- Ranges without a common number have different texts. -/
lemma texts_distinct (apart : drawn.Pairwise Apart) (proper : ∀ range ∈ drawn, range.1 ≤ range.2) :
    (drawn.map Range.text).Nodup := by
  apply List.Nodup.map text_injective
  apply apart.imp_of_mem
  rintro range other member - separate rfl
  exact separate range.1 ⟨le_refl _, proper range member, le_refl _, proper range member⟩

lemma generated_some {serverConfig generated : ServerConfig} {isAwg2 : Bool}
    {supply left : List UInt32}
    (finishes : generateAwgParameters order serverConfig isAwg2 supply = some (generated, left)) :
    ∃ count sizes headers rest, junk supply = some ((count, sizes), rest) ∧
      magicHeaders order isAwg2 rest = some (headers, left) ∧
      packetSizesEqual generated = isPacketSizeEqual (toInt (number sizes.s1))
        (toInt (number sizes.s2)) (toInt (number sizes.s3))
        (toInt (number sizes.s4)) ∧
      [generated.initPacketMagicHeader, generated.responsePacketMagicHeader,
        generated.underloadPacketMagicHeader, generated.transportPacketMagicHeader] =
          [headers.getD 0 "", headers.getD 1 "", headers.getD 2 "", headers.getD 3 ""] := by
  obtain ⟨⟨count, sizes⟩, rest, sized, finishes⟩ := bind_some finishes
  obtain ⟨headers, rest', named, finishes⟩ := bind_some finishes
  obtain ⟨rfl, rfl⟩ := pure_some finishes
  exact ⟨count, sizes, headers, rest, sized, named, rfl, rfl⟩

lemma toInt_drawn {n : Nat} (small : n < 150) : toInt (number n) = n :=
  toInt_number n (by omega) (by omega)

lemma magicHeaders_ranges (named : magicHeaders order true supply = some (headers, left)) :
    ∃ drawn, ranges 4 5 supply = some (drawn, left) ∧ headers = drawn.map Range.text := by
  obtain ⟨drawn, rest, ranged, finishes⟩ := bind_some named
  obtain ⟨rfl, rfl⟩ := pure_some finishes
  exact ⟨drawn, ranged, rfl⟩

lemma magicHeaders_plain (named : magicHeaders order false supply = some (headers, left)) :
    headers.length = 4 ∧ headers.Nodup := by
  obtain ⟨set, rest, collected, finishes⟩ := bind_some named
  obtain ⟨rfl, rfl⟩ := pure_some finishes
  obtain ⟨four, distinct⟩ := plainHeaders_distinct List.nodup_nil collected
  exact ⟨(order.perm set).length_eq.trans four, (order.perm set).nodup_iff.mpr distinct⟩

lemma four_eq (four : headers.length = 4) :
    [headers.getD 0 "", headers.getD 1 "", headers.getD 2 "", headers.getD 3 ""] = headers := by
  obtain ⟨h1, h2, h3, h4, rfl⟩ := four_headers four
  rfl

/-- Generated sizes always pass the check. The headers pass it, and the ranges of version 2 are
apart, if and only if no word for the lower end of a later range is scaled down to nothing. -/
theorem generated_valid_iff (order : SetOrder) (serverConfig generated : ServerConfig)
    (isAwg2 : Bool) (supply left : List UInt32)
    (finishes : generateAwgParameters order serverConfig isAwg2 supply = some (generated, left)) :
    packetSizesEqual generated = false ∧
      ((headersEqual generated = false ∧ (isAwg2 = true → RangesApart generated)) ↔
        ∀ drawn rest, isAwg2 = true → junk supply = some (drawn, rest) → LaterSpread rest) := by
  obtain ⟨count, sizes, headers, rest, sized, named, packets, texts⟩ := generated_some finishes
  constructor
  · have drawn : sizes.Drawn := junk_drawn supply _ rest sized
    rw [packets, toInt_drawn drawn.first.2, toInt_drawn drawn.second.2,
      toInt_drawn (by have := drawn.third; omega), toInt_drawn (by have := drawn.fourth; omega)]
    exact drawn_sizes_differ drawn
  · have checked : headersEqual generated = isHeadersEqual (headers.getD 0 "") (headers.getD 1 "")
        (headers.getD 2 "") (headers.getD 3 "") := by
      simp only [List.cons.injEq, and_true] at texts
      rw [headersEqual, texts.1, texts.2.1, texts.2.2.1, texts.2.2.2]
    cases isAwg2 with
    | false =>
      obtain ⟨four, distinct⟩ := magicHeaders_plain named
      rw [checked, (four_headers_differ four)]
      simp [distinct]
    | true =>
      obtain ⟨drawn, ranged, rfl⟩ := magicHeaders_ranges named
      obtain ⟨four, proper⟩ := ranges_drawn (by decide) ranged
      have length : (drawn.map Range.text).length = 4 := by rw [List.length_map, four]
      rw [four_eq length] at texts
      rw [checked, four_headers_differ length]
      constructor
      · rintro ⟨-, apart⟩ junk' rest' - sized'
        rw [sized] at sized'
        obtain ⟨-, rfl⟩ := Prod.mk.inj (Option.some.inj sized')
        obtain ⟨others, same, separate, -⟩ := apart rfl
        rw [texts] at same
        obtain rfl := List.map_injective_iff.mpr text_injective same
        exact (four_ranges_apart ranged).mp separate
      · intro spread
        have separate := (four_ranges_apart ranged).mpr (spread _ rest rfl sized)
        have lower : ∀ range ∈ drawn, range.1 ≤ range.2 := fun range member =>
          (proper range member).2
        exact ⟨texts_distinct separate lower, fun _ => ⟨drawn, texts, separate, lower⟩⟩

/-! Words for one generation: the count and the sizes, and the ranges. -/

def listed : SetOrder where
  values set := set
  perm set := List.Perm.refl set

def sizeWords : List UInt32 := [0, 0, 2147483648, 0, 2147483648]

/-- With the smallest words the four ranges are the same one, and with a small word for the second
range it begins where the first one ends. -/
theorem ranges_share_bounds :
    (generateAwgParameters listed someServer true (sizeWords ++ [0, 0, 0, 0, 0, 0, 0, 0])).map
        (fun result => (result.1.initPacketMagicHeader, result.1.responsePacketMagicHeader,
          headersEqual result.1)) = some ("5-5", "5-5", true) ∧
      (generateAwgParameters listed someServer true
        (sizeWords ++ [0, 2147483648, 0, 2147483648, 2147483648, 0, 2147483648, 0])).map
          (fun result => (result.1.initPacketMagicHeader, result.1.responsePacketMagicHeader)) =
        some ("5-1073741826", "1073741826-1610612736") := by
  decide +kernel

theorem spread_words_valid : ∃ generated left,
    generateAwgParameters listed someServer true
      (sizeWords ++ [0, 0, 2147483648, 0, 2147483648, 0, 2147483648, 0]) = some (generated, left) ∧
    packetSizesEqual generated = false ∧ headersEqual generated = false ∧ RangesApart generated := by
  obtain ⟨⟨generated, left⟩, finishes⟩ := Option.isSome_iff_exists.mp
    (show (generateAwgParameters listed someServer true
      (sizeWords ++ [0, 0, 2147483648, 0, 2147483648, 0, 2147483648, 0])).isSome = true by
        decide +kernel)
  have drawn : (junk (sizeWords ++ [0, 0, 2147483648, 0, 2147483648, 0, 2147483648, 0])).map
      Prod.snd = some [0, 0, 2147483648, 0, 2147483648, 0, 2147483648, 0] := by decide +kernel
  obtain ⟨sizes, valid⟩ := generated_valid_iff listed someServer generated true _ left finishes
  obtain ⟨headers, apart⟩ := valid.mpr (by
    intro values rest _ sized
    rw [sized, Option.map_some, Option.some.injEq] at drawn
    subst drawn
    exact ⟨by decide, by decide, by decide, trivial⟩)
  exact ⟨generated, left, finishes, sizes, headers, apart rfl⟩

end AbstractumVpn.AwgInstaller
