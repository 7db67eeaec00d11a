import RollCall.Bytes

/-!
# Physical addresses

A physical address is a host, written as numbers with dots between them, and a port.  The text of
the host is kept as it was given; only when its octets are asked for is it read, and then leniently:
every part may be any integer numeral whose value fits a byte, and the number of parts is free.

* `PhysicalAddress.octets` — the bytes that the host's text stands for.
* `PhysicalAddress.encode`, `PhysicalAddress.decode` — the wire form: octets, then the port.
* `PhysicalAddress.ofOctets`, `PhysicalAddress.ofBytes` — the address of the first four of the given
  numbers, with its text in canonical form.
* `PhysicalFault` — why one of these fails.
-/

namespace RollCall

/-- The port that every node listens on. -/
def udpPort : Int := 25560

/-- Why a physical address has no octets, no wire form, or does not exist. -/
inductive PhysicalFault where
  /-- A part of the host's text is not a number from 0 to 255. -/
  | unreadableHost
  /-- The port does not fit into two bytes. -/
  | portOutOfRange
  /-- Fewer than four octets. -/
  | tooFewOctets
deriving DecidableEq, Repr

/-- Where datagrams can be sent to: a host and a port. -/
structure PhysicalAddress where
  host : String
  port : Int := udpPort
deriving DecidableEq, Repr, Inhabited

namespace PhysicalAddress

/-- The number of bytes of the wire form. -/
def wireLength : Nat := 6

/-- The text with a dot, a colon and the port after it. -/
def text (a : PhysicalAddress) : String := a.host ++ ":" ++ toString a.port

/-- Numbers with dots between them. -/
def dotted (numbers : List Int) : String := ".".intercalate (numbers.map toString)

/-- The address of the first four of the given numbers; they need not fit a byte. -/
def ofOctets (numbers : List Int) (port : Int) : Except PhysicalFault PhysicalAddress :=
  match numbers with
  | a :: b :: c :: d :: _ => .ok ⟨dotted [a, b, c, d], port⟩
  | _ => .error .tooFewOctets

/-- The address of the first four of the given bytes. -/
def ofBytes (octets : Bytes) (port : Int) : Except PhysicalFault PhysicalAddress :=
  ofOctets (octets.map fun b => (b.toNat : Int)) port

/-- The parts of a text between separators; always at least one. -/
def splitOn (separator : Char) : List Char → List (List Char)
  | [] => [[]]
  | c :: cs =>
    if c = separator then [] :: splitOn separator cs
    else
      match splitOn separator cs with
      | [] => [[c]]
      | part :: parts => (c :: part) :: parts

/-- The byte that one part of a host's text stands for. -/
def octet? (part : List Char) : Option UInt8 :=
  match Text.integer? part with
  | some n => if 0 ≤ n ∧ n ≤ 255 then some (UInt8.ofNat n.toNat) else none
  | none => none

/-- The bytes that the host's text stands for. -/
def octets (a : PhysicalAddress) : Except PhysicalFault Bytes :=
  match (splitOn '.' a.host.toList).mapM octet? with
  | some bytes => .ok bytes
  | none => .error .unreadableHost

/-- The octets and the port in two bytes, most significant first. -/
def encode (a : PhysicalAddress) : Except PhysicalFault Bytes := do
  let octets ← a.octets
  if 0 ≤ a.port ∧ a.port < 65536 then return octets ++ Bytes.bigEndian 2 a.port.toNat
  else throw .portOutOfRange

/-- Reads four octets and the port; a cut-off port is read from the bytes that there are. -/
def decode (data : Bytes) : Except PhysicalFault PhysicalAddress :=
  ofBytes (data.take 4) (Bytes.ofBigEndian ((data.drop 4).take 2))

end PhysicalAddress

end RollCall
