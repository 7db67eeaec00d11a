import RollCall.IPv4.Address

/-!
# IPv4 blocks

A block is the set of addresses that share a prefix.  Its first address names the network and its
last one is the directed broadcast address; the others are the addresses of hosts, except that in a
block of one or two addresses every address is a host's.

* `IPv4.Block` — a block; `contains` decides membership.
* `IPv4.Block.around` — the block of a given prefix length that an address lies in.
* `IPv4.Block.ofText?`, `IPv4.Block.aroundText?` — read an address and a prefix length from text;
  the first wants the address to be the first of its block.
* `maskLength?` — the prefix length that a text gives: as a number, as a netmask or as a hostmask.
* `IPv4.Block.firstHost`, `IPv4.Block.hostCount` — the first host address and the number of them.
-/

namespace RollCall

-- Powers are the core library's, also where Mathlib has its own.
attribute [local instance (high)] instPowNat

namespace IPv4

/-- The addresses that share the first `prefixLength` bits. -/
structure Block where
  prefixLength : Nat
  le : prefixLength ≤ 32
  first : IPv4
  aligned : first.number % 2 ^ (32 - prefixLength) = 0
deriving DecidableEq, Repr

namespace Block

/-- The number of addresses. -/
def size (b : Block) : Nat := 2 ^ (32 - b.prefixLength)

/-- The last address, which is the directed broadcast address. -/
def last (b : Block) : IPv4 := ofNumber (b.first.number + (b.size - 1))

/-- Whether an address lies in the block. -/
def contains (b : Block) (a : IPv4) : Bool :=
  decide (b.first.number ≤ a.number) && decide (a.number < b.first.number + b.size)

/-- The first address and the prefix length. -/
def text (b : Block) : String := b.first.text ++ "/" ++ toString b.prefixLength

/-- The number of the first host address. -/
def firstHost (b : Block) : Nat :=
  if b.prefixLength < 31 then b.first.number + 1 else b.first.number

/-- The number of host addresses. -/
def hostCount (b : Block) : Nat := if b.prefixLength < 31 then b.size - 2 else b.size

/-- The block of a prefix length that an address lies in. -/
def around (a : IPv4) (prefixLength : Nat) (h : prefixLength ≤ 32) : Block where
  prefixLength := prefixLength
  le := h
  first := ⟨a.number / 2 ^ (32 - prefixLength) * 2 ^ (32 - prefixLength),
    Nat.lt_of_le_of_lt (Nat.div_mul_le_self ..) a.lt⟩
  aligned := Nat.mul_mod_left ..

/-! ## Reading blocks -/

/-- The prefix length of a netmask: ones followed by zeros. -/
def lengthOfNetmask? (mask : Nat) : Option Nat :=
  (List.range 33).find? fun length => mask = 2 ^ (32 : Nat) - 2 ^ (32 - length)

/-- The prefix length that a text gives: a number of ASCII digits, or else a netmask, or else the
complement of one. -/
def maskLength? (text : List Char) : Option Nat :=
  let number? : Option Nat :=
    if text.isEmpty || !text.all Char.isDigit then none
    else (Text.limitedNumber? (text.map fun c => c.toNat - '0'.toNat)).filter (· ≤ 32)
  match number? with
  | some length => some length
  | none => do
    let mask ← IPv4.ofText? text
    match lengthOfNetmask? mask.number with
    | some length => some length
    | none => lengthOfNetmask? (2 ^ (32 : Nat) - 1 - mask.number)

/-- The block that an address lies in, from the texts of the address and of its prefix length. -/
def aroundTexts? (address mask : List Char) : Option Block := do
  let a ← IPv4.ofText? address
  let length ← maskLength? mask
  if h : length ≤ 32 then some (around a length h) else none

/-- The block that an address lies in, from one text with a slash between address and prefix length.
Without a slash the block is the address alone. -/
def aroundText? (text : List Char) : Option Block :=
  match PhysicalAddress.splitOn '/' text with
  | [address] => aroundTexts? address ['3', '2']
  | [address, mask] => aroundTexts? address mask
  | _ => none

/-- The block of a text whose address is the first of its block. -/
def ofText? (text : List Char) : Option Block :=
  match PhysicalAddress.splitOn '/' text with
  | [address, mask] => do
    let a ← IPv4.ofText? address
    let block ← aroundTexts? address mask
    if block.first = a then some block else none
  | _ => none

end Block

end IPv4

end RollCall
