import Mathlib.Data.BitVec

/-!
IP addresses as the filter and the daemon see them, and the `IPAddress` class.
`Qt` holds Qt's parsers of address texts. The printed form of an IPv6 address,
which may carry a scope id, is kept with the address.
-/

namespace AbstractumVpn

inductive Family where
  | ipv4
  | ipv6
  deriving DecidableEq

inductive Ip where
  | v4 (bits : BitVec 32)
  | v6 (bits : BitVec 128)
  deriving DecidableEq

def Ip.family : Ip → Family
  | .v4 _ => .ipv4
  | .v6 _ => .ipv6

def Ip.quad (a b c d : BitVec 8) : Ip := .v4 (a ++ b ++ c ++ d)

structure Net where
  base : Ip
  length : Nat

def Net.contains (net : Net) (ip : Ip) : Bool :=
  match net.base, ip with
  | .v4 base, .v4 bits => base >>> (32 - net.length) == bits >>> (32 - net.length)
  | .v6 base, .v6 bits => base >>> (128 - net.length) == bits >>> (128 - net.length)
  | _, _ => false

inductive HostAddress where
  | null
  | ipv4 (bits : BitVec 32)
  | ipv6 (bits : BitVec 128) (text : String)
  deriving DecidableEq

namespace HostAddress

def ip : HostAddress → Option Ip
  | .null => none
  | .ipv4 bits => some (.v4 bits)
  | .ipv6 bits _ => some (.v6 bits)

def dotted (bits : BitVec 32) : List Nat :=
  [(bits >>> 24).toNat, (bits >>> 16).toNat % 256, (bits >>> 8).toNat % 256, bits.toNat % 256]

def toString : HostAddress → String
  | .null => ""
  | .ipv4 bits => String.intercalate "." ((dotted bits).map Nat.repr)
  | .ipv6 _ text => text

end HostAddress

structure IPAddress where
  address : HostAddress
  prefixLength : Int
  deriving DecidableEq

structure Qt where
  hostAddress : String → HostAddress
  parseSubnet : String → HostAddress × Int

/-- A reader that takes no text for an address. -/
def noAddresses : Qt := ⟨fun _ => .null, fun _ => (.null, -1)⟩

namespace IPAddress

def ofString (qt : Qt) (text : String) : IPAddress :=
  let parsed : HostAddress × Int :=
    if '/' ∈ text.toList then qt.parseSubnet text else (qt.hostAddress text, 999999)
  match parsed.1 with
  | .ipv4 _ => ⟨parsed.1, if parsed.2 ≥ 32 then 32 else parsed.2⟩
  | .ipv6 _ _ => ⟨parsed.1, if parsed.2 ≥ 128 then 128 else parsed.2⟩
  | .null => ⟨parsed.1, parsed.2⟩

def ofHostAddress (address : HostAddress) : IPAddress :=
  match address with
  | .ipv4 _ => ⟨address, 32⟩
  | _ => ⟨address, 128⟩

def anyIPv4 : IPAddress := ⟨.ipv4 0, 0⟩

def toString (range : IPAddress) : String :=
  range.address.toString ++ "/" ++ Int.repr range.prefixLength

/-- The addresses a range stands for. A length outside the family's bounds
names no network. -/
def Covers (range : IPAddress) (ip : Ip) : Prop :=
  ∃ base, range.address.ip = some base ∧ 0 ≤ range.prefixLength ∧
    range.prefixLength ≤ (match base.family with | .ipv4 => 32 | .ipv6 => 128) ∧
    (Net.mk base range.prefixLength.toNat).contains ip = true

lemma anyIPv4_covers (bits : BitVec 32) : anyIPv4.Covers (.v4 bits) := by
  refine ⟨.v4 0, rfl, by decide, by decide, ?_⟩
  have shifted : bits >>> 32 = 0 := BitVec.ushiftRight_eq_zero (Nat.le_refl 32)
  simp [Net.contains, anyIPv4, shifted]

end IPAddress

end AbstractumVpn
