import Mathlib.Data.List.Basic

/-!
Socket addresses in a message of the routing socket on macOS. `rtmAppendAddr`
copies an address behind the others and pads the length of the message, a 16-bit
field. `parseAddrList` pads the length of each address, which is its first byte.
-/

namespace AbstractumVpn.MacosRouteMonitor

structure SockAddr where
  bytes : List UInt8
  sa_len : bytes.head?.map UInt8.toNat = some bytes.length
  least : 2 ≤ bytes.length

structure Message where
  memory : List UInt8
  rtm_msglen : Nat
  rtm_addrs : Nat

def memcpy (memory : List UInt8) (offset : Nat) (bytes : List UInt8) : List UInt8 :=
  memory.take offset ++ bytes ++ memory.drop (offset + bytes.length)

def rtmAppendAddr (maxlen : Nat) (rtm : Message) (rtaddr : Nat) (sa : SockAddr) : Message :=
  let sa_len := sa.bytes.length
  if maxlen < rtm.rtm_msglen + sa_len then rtm
  else
    let rtm_msglen := (rtm.rtm_msglen + sa_len) % 65536
    { memory := memcpy rtm.memory rtm.rtm_msglen sa.bytes
      rtm_addrs := rtm.rtm_addrs ||| rtaddr
      rtm_msglen := if rtm_msglen % 4 = 0 then rtm_msglen
        else (rtm_msglen + (4 - rtm_msglen % 4)) % 65536 }

def paddedSize (sa_len : Nat) : Nat :=
  if sa_len = 0 ∨ sa_len % 4 ≠ 0 then sa_len + (4 - sa_len % 4) else sa_len

lemma paddedSize_pos (sa_len : Nat) : 0 < paddedSize sa_len := by
  unfold paddedSize
  split <;> omega

def parseAddrList : List UInt8 → List (List UInt8)
  | sa_len :: second :: rest =>
    let payload := sa_len :: second :: rest
    if payload.length < paddedSize sa_len.toNat then []
    else payload.take (paddedSize sa_len.toNat) ::
      parseAddrList (payload.drop (paddedSize sa_len.toNat))
  | _ => []
termination_by payload => payload.length
decreasing_by
  have positive := paddedSize_pos sa_len.toNat
  rw [List.length_drop]
  simp only [List.length_cons]
  omega

/-- The bytes of an address, with zeros up to a multiple of four. -/
def SockAddr.padded (sa : SockAddr) : List UInt8 :=
  sa.bytes ++ List.replicate (paddedSize sa.bytes.length - sa.bytes.length) 0

def appendAll (maxlen : Nat) (rtm : Message) (addrs : List (Nat × SockAddr)) : Message :=
  addrs.foldl (fun rtm addr => rtmAppendAddr maxlen rtm addr.1 addr.2) rtm

def paddedAll (addrs : List (Nat × SockAddr)) : List UInt8 := addrs.flatMap fun addr => addr.2.padded

lemma le_paddedSize (sa_len : Nat) : sa_len ≤ paddedSize sa_len ∧ paddedSize sa_len % 4 = 0 := by
  unfold paddedSize
  split <;> omega

lemma SockAddr.padded_length (sa : SockAddr) : sa.padded.length = paddedSize sa.bytes.length := by
  have enough := (le_paddedSize sa.bytes.length).1
  simp only [padded, List.length_append, List.length_replicate]
  omega

lemma copied_padded {front : List UInt8} {room : Nat} {sa : SockAddr}
    (fits : paddedSize sa.bytes.length ≤ room) :
    memcpy (front ++ List.replicate room 0) front.length sa.bytes =
      front ++ sa.padded ++ List.replicate (room - paddedSize sa.bytes.length) 0 := by
  have enough := (le_paddedSize sa.bytes.length).1
  have zeros : List.replicate (room - sa.bytes.length) (0 : UInt8) =
      List.replicate (paddedSize sa.bytes.length - sa.bytes.length) 0 ++
        List.replicate (room - paddedSize sa.bytes.length) 0 := by
    rw [← List.replicate_add]
    congr 1
    omega
  simp [memcpy, SockAddr.padded, zeros]

lemma append_padded {front : List UInt8} {room rtm_addrs : Nat} (rtaddr : Nat) {sa : SockAddr}
    (aligned : front.length % 4 = 0) (fits : paddedSize sa.bytes.length ≤ room)
    (small : front.length + room < 65536) :
    rtmAppendAddr (front.length + room) ⟨front ++ List.replicate room 0, front.length, rtm_addrs⟩
        rtaddr sa =
      ⟨front ++ sa.padded ++ List.replicate (room - paddedSize sa.bytes.length) 0,
        (front ++ sa.padded).length, rtm_addrs ||| rtaddr⟩ := by
  have enough := (le_paddedSize sa.bytes.length).1
  have least := sa.least
  simp only [rtmAppendAddr, copied_padded fits, List.length_append, sa.padded_length]
  rw [if_neg (by omega), Nat.mod_eq_of_lt (show front.length + sa.bytes.length < 65536 by omega)]
  congr 1
  unfold paddedSize at fits ⊢
  split at fits <;> split <;> omega

/-- The addresses stand behind each other, and zeros behind them. -/
lemma append_all (addrs : List (Nat × SockAddr)) {front : List UInt8} {room : Nat}
    (aligned : front.length % 4 = 0) (fits : (paddedAll addrs).length ≤ room)
    (small : front.length + room < 65536) (rtm_addrs : Nat) :
    let rtm := appendAll (front.length + room)
      ⟨front ++ List.replicate room 0, front.length, rtm_addrs⟩ addrs
    rtm.rtm_msglen = (front ++ paddedAll addrs).length ∧
      ∃ zeros, rtm.memory = front ++ paddedAll addrs ++ zeros := by
  induction addrs generalizing front room rtm_addrs with
  | nil => simp [appendAll, paddedAll]
  | cons addr rest ih =>
    obtain ⟨rtaddr, sa⟩ := addr
    have longer : (front ++ sa.padded).length = front.length + paddedSize sa.bytes.length := by
      rw [List.length_append, sa.padded_length]
    have multiple := (le_paddedSize sa.bytes.length).2
    have all : paddedAll ((rtaddr, sa) :: rest) = sa.padded ++ paddedAll rest := rfl
    rw [all, List.length_append, sa.padded_length] at fits
    have own : paddedSize sa.bytes.length ≤ room := by omega
    have left : (paddedAll rest).length ≤ room - paddedSize sa.bytes.length := by omega
    have total : (front ++ sa.padded).length + (room - paddedSize sa.bytes.length) =
        front.length + room := by omega
    have later := ih (by omega) left (total ▸ small) (rtm_addrs ||| rtaddr)
    rw [appendAll, List.foldl_cons, append_padded rtaddr aligned own small, all,
      ← List.append_assoc, ← total]
    exact later

lemma parse_padded (sa : SockAddr) (rest : List UInt8) :
    parseAddrList (sa.padded ++ rest) = sa.padded :: parseAddrList rest := by
  obtain ⟨first, second, others, bytes⟩ :
      ∃ first second others, sa.bytes = first :: second :: others := by
    have least := sa.least
    match sa.bytes, least with
    | first :: second :: others, _ => exact ⟨first, second, others, rfl⟩
  have own : sa.padded.length = paddedSize first.toNat := by
    have sa_len := sa.sa_len
    rw [bytes, List.head?_cons, Option.map_some, Option.some.injEq] at sa_len
    rw [sa.padded_length, bytes, sa_len]
  obtain ⟨zeros, padded⟩ : ∃ zeros, sa.padded = first :: second :: (others ++ zeros) :=
    ⟨_, by rw [SockAddr.padded, bytes]; rfl⟩
  have unfolded : sa.padded ++ rest = first :: second :: (others ++ zeros ++ rest) := by
    rw [padded]
    rfl
  rw [unfolded, parseAddrList, ← unfolded, ← own, if_neg (by simp), List.take_left, List.drop_left]

lemma parse_all (addrs : List (Nat × SockAddr)) :
    parseAddrList (paddedAll addrs) = addrs.map fun addr => addr.2.padded := by
  induction addrs with
  | nil => rw [paddedAll, List.flatMap_nil, parseAddrList] <;> simp
  | cons addr rest ih => rw [paddedAll, List.flatMap_cons, parse_padded, ← paddedAll, ih, List.map_cons]

/-- The addresses that were appended behind the header of a message are read back. -/
theorem addresses_round_trip (header : List UInt8) (aligned : header.length % 4 = 0)
    (addrs : List (Nat × SockAddr)) (room rtm_addrs : Nat) (fits : (paddedAll addrs).length ≤ room)
    (small : header.length + room < 65536) :
    let rtm := appendAll (header.length + room)
      ⟨header ++ List.replicate room 0, header.length, rtm_addrs⟩ addrs
    parseAddrList ((rtm.memory.take rtm.rtm_msglen).drop header.length) =
      addrs.map fun addr => addr.2.padded := by
  obtain ⟨msglen, zeros, memory⟩ := append_all addrs aligned fits small rtm_addrs
  intro rtm
  rw [show rtm.rtm_msglen = _ from msglen, show rtm.memory = _ from memory, List.take_left,
    List.drop_left, parse_all]

def destination : SockAddr := ⟨[16, 2, 0, 0, 203, 0, 113, 0, 0, 0, 0, 0, 0, 0, 0, 0], rfl, by decide⟩

def gateway : SockAddr := ⟨[16, 2, 0, 0, 192, 0, 2, 1, 0, 0, 0, 0, 0, 0, 0, 0], rfl, by decide⟩

def netmask : SockAddr := ⟨[7, 0, 0, 0, 255, 255, 255], rfl, by decide⟩

theorem route_read_back :
    let rtm := appendAll 512 ⟨List.replicate 512 0, 92, 0⟩ [(1, destination), (2, gateway), (4, netmask)]
    parseAddrList ((rtm.memory.take rtm.rtm_msglen).drop 92) =
      [destination.bytes, gateway.bytes, netmask.bytes ++ [0]] :=
  addresses_round_trip (List.replicate 92 0) rfl [(1, destination), (2, gateway), (4, netmask)] 420 0
    (by decide) (by decide)

end AbstractumVpn.MacosRouteMonitor
