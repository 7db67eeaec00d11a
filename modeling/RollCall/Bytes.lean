import RollCall.Text.Numeral

/-!
# Byte strings

Datagrams and buffers are lists of bytes.  Numbers stand in them in a fixed count of bytes, with the
most significant byte first (big endian) or last (little endian).

* `Bytes.hex` — lower-case hexadecimal text.
* `littleEndian`, `bigEndian` — a number in a given count of bytes; higher digits are cut off.
* `ofLittleEndian`, `ofBigEndian` — the number in bytes.
* `overwrite` — writing into a buffer.
-/

namespace RollCall

/-- A string of bytes. -/
abbrev Bytes := List UInt8

namespace Bytes

/-- Two lower-case hexadecimal digits for each byte. -/
def hex (bs : Bytes) : String := String.ofList (bs.flatMap fun b => Text.hexDigits 2 b.toNat)

/-- A run of zero bytes. -/
def zeros (count : Nat) : Bytes := List.replicate count 0

/-! ## Numbers in bytes -/

/-- A number in `count` bytes, least significant first. -/
def littleEndian : Nat → Nat → Bytes
  | 0, _ => []
  | count + 1, n => UInt8.ofNat (n % 256) :: littleEndian count (n / 256)

/-- A number in `count` bytes, most significant first. -/
def bigEndian (count n : Nat) : Bytes := (littleEndian count n).reverse

/-- The number whose bytes are given least significant first. -/
def ofLittleEndian : Bytes → Nat
  | [] => 0
  | b :: bs => b.toNat + 256 * ofLittleEndian bs

/-- The number whose bytes are given most significant first. -/
def ofBigEndian (bs : Bytes) : Nat := ofLittleEndian bs.reverse

/-! ## Writing into a buffer -/

/-- The buffer with the bytes from `offset` on replaced by the given ones. -/
def overwrite (buffer : Bytes) (offset : Nat) (bs : Bytes) : Bytes :=
  buffer.take offset ++ bs ++ buffer.drop (offset + bs.length)

end Bytes

end RollCall
