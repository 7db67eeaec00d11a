import RollCall.Bytes
import RollCall.Address.Physical

/-!
# IPv4 addresses

An IPv4 address is a number of 32 bits.  Its text is strict: four decimal octets with dots between
them, in ASCII digits and without leading zeros.

* `IPv4.ofText?`, `IPv4.text` — reading and writing the text.
* `IPv4.bytes` — the four octets.
-/

namespace RollCall

-- Powers are the core library's, also where Mathlib has its own.
attribute [local instance (high)] instPowNat

/-- An IPv4 address by its number. -/
structure IPv4 where
  number : Nat
  lt : number < 2 ^ (32 : Nat)
deriving DecidableEq, Repr

namespace IPv4

/-- The address with a number, taken modulo `2 ^ 32`. -/
def ofNumber (n : Nat) : IPv4 := ⟨n % 2 ^ (32 : Nat), Nat.mod_lt _ (by decide)⟩

/-- The four octets, most significant first. -/
def bytes (a : IPv4) : Bytes := Bytes.bigEndian 4 a.number

/-- The text of the address. -/
def text (a : IPv4) : String := PhysicalAddress.dotted (a.bytes.map fun b => (b.toNat : Int))

/-- The address of this host itself, on every host. -/
def localhost : IPv4 := ofNumber 0x7F000001

/-- The broadcast address that needs no knowledge of the subnet. -/
def limitedBroadcast : IPv4 := ofNumber 0xFFFFFFFF

/-- The value of a text of one to three ASCII digits that is at most 255 and has no leading zero. -/
def octet? (part : List Char) : Option Nat :=
  if part.isEmpty || !part.all Char.isDigit || decide (3 < part.length) then none
  else if part.head? = some '0' ∧ part ≠ ['0'] then none
  else
    let value := Text.ofDigits (part.map fun c => c.toNat - '0'.toNat)
    if value ≤ 255 then some value else none

/-- Reads the text of an address. -/
def ofText? (text : List Char) : Option IPv4 :=
  match PhysicalAddress.splitOn '.' text with
  | [a, b, c, d] => do
    let a ← octet? a
    let b ← octet? b
    let c ← octet? c
    let d ← octet? d
    return ofNumber (((a * 256 + b) * 256 + c) * 256 + d)
  | _ => none

end IPv4

end RollCall
