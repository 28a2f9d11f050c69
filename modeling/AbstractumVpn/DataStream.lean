import AbstractumVpn.BigEndian

/-!
The format of `QDataStream`: numbers of a fixed width with the most significant
byte first, and byte arrays behind their length. A read past the end of the data
gives zero, or no bytes, and leaves nothing to read.
-/

namespace DataStream

abbrev Bytes := List UInt8

def writeNumber : Nat → Nat → Bytes
  | 0, _ => []
  | width + 1, number => writeNumber width (number / 256) ++ [UInt8.ofNat number]

def writeByteArray (bytes : Bytes) : Bytes := writeNumber 4 bytes.length ++ bytes

def readNumber (width : Nat) (data : Bytes) : Nat × Bytes :=
  if width ≤ data.length then (BigEndian.value (data.take width), data.drop width) else (0, [])

def readByteArray (data : Bytes) : Bytes × Bytes :=
  let length := readNumber 4 data
  -- the length of a null array
  if length.1 = 4294967295 then ([], length.2)
  else if length.1 ≤ length.2.length then (length.2.take length.1, length.2.drop length.1)
  else ([], [])

@[simp] lemma writeNumber_length (width number : Nat) :
    (writeNumber width number).length = width := by
  induction width generalizing number with
  | zero => rfl
  | succ width ih => simp [writeNumber, ih]

lemma value_writeNumber (width number : Nat) :
    BigEndian.value (writeNumber width number) = number % 256 ^ width := by
  induction width generalizing number with
  | zero => simp [writeNumber, Nat.mod_one]
  | succ width ih =>
    have digits : BigEndian.value (writeNumber width (number / 256) ++ [UInt8.ofNat number]) =
        number % 256 + 256 * BigEndian.value (writeNumber width (number / 256)) := by
      simp [BigEndian.value]
    rw [writeNumber, digits, ih, Nat.pow_succ', Nat.mod_mul]

lemma readNumber_write (width number : Nat) (small : number < 256 ^ width) (rest : Bytes) :
    readNumber width (writeNumber width number ++ rest) = (number, rest) := by
  have front : (writeNumber width number ++ rest).take width = writeNumber width number :=
    List.take_left' (writeNumber_length width number)
  have back : (writeNumber width number ++ rest).drop width = rest :=
    List.drop_left' (writeNumber_length width number)
  rw [readNumber, if_pos (by simp), front, back, value_writeNumber, Nat.mod_eq_of_lt small]

lemma readByteArray_write (bytes : Bytes) (small : bytes.length < 4294967295) (rest : Bytes) :
    readByteArray (writeByteArray bytes ++ rest) = (bytes, rest) := by
  have length : readNumber 4 (writeNumber 4 bytes.length ++ (bytes ++ rest)) =
      (bytes.length, bytes ++ rest) := readNumber_write 4 _ (by omega) _
  rw [readByteArray, writeByteArray, List.append_assoc, length]
  rw [if_neg (by omega), if_pos (by simp), List.take_left' rfl, List.drop_left' rfl]

end DataStream
