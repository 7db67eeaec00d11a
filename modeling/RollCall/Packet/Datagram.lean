import RollCall.Address.Logical
import RollCall.Counter
import RollCall.Packet.Codec

/-!
# Datagrams

A datagram is an envelope and a body.  The envelope has ten bytes: the version, the sender and the
destination as logical addresses, a counter of four bytes with the most significant first, and the
kind of the body.  The body is an encoded packet: an announcement, encoded with a codec that all
nodes share, or a packet of the application, encoded with the application's codec.

* `Envelope.encode`, `Envelope.decode` — the envelope alone.
* `Datagram.encode`, `Datagram.encodeInto` — a whole datagram.
* `Datagram.decodeBody`, `Datagram.decodeBodyWith` — the packet after an envelope, made by the rules of
  the types or by constructors of any kind.
* `DatagramFault` — why bytes are not a datagram.
-/

namespace RollCall

/-- The number of bytes of an envelope. -/
def envelopeLength : Nat := 10

/-- The version that an envelope carries. -/
def envelopeVersion : UInt8 := 1

/-- Which codec a body is encoded with. -/
inductive BodyKind where
  /-- The codec that all nodes share. -/
  | shared
  /-- The application's codec. -/
  | application
deriving DecidableEq, Repr

namespace BodyKind

/-- The byte that stands for the kind. -/
def code : BodyKind → UInt8
  | shared => 0
  | application => 1

/-- The kind that a byte stands for. -/
def ofCode? (code : Int) : Option BodyKind :=
  if code = 0 then some shared else if code = 1 then some application else none

end BodyKind

/-- Who sent a datagram, to whom, with which counter, and how its body is encoded. -/
structure Envelope where
  sender : LogicalAddress
  destination : LogicalAddress
  counter : Int
  kind : BodyKind
deriving DecidableEq, Repr

/-- Why bytes are not a datagram. -/
inductive DatagramFault where
  /-- Fewer bytes than an envelope has. -/
  | tooShort (length : Nat)
  /-- The envelope has another version. -/
  | version (found : UInt8)
  /-- The sender or the destination is no address. -/
  | address (fault : AddressFault)
  /-- The kind is not known. -/
  | kind (code : UInt8)
  /-- The body is no encoded packet. -/
  | body (fault : DecodeFault)
deriving DecidableEq, Repr

/-- The wording of a fault. -/
def DatagramFault.message : DatagramFault → String
  | tooShort length => s!"Datagram too short: need at least {envelopeLength} bytes, got {length}"
  | version found => s!"Unsupported envelope version: {Text.hexByte found}"
  | address fault =>
    match fault.message? with
    | some cause => s!"Invalid envelope: {cause}"
    | none => "Invalid envelope"
  | kind _ => "Invalid envelope"
  | body fault => fault.message

namespace Envelope

/-- The ten bytes of an envelope. -/
def encode (e : Envelope) : Bytes :=
  envelopeVersion :: (e.sender.encode ++ e.destination.encode ++
    Bytes.bigEndian 4 (Counter.wrap e.counter).toNat ++ [e.kind.code])

/-- Reads the envelope at the front of some bytes. -/
def decode (data : Bytes) : Except DatagramFault Envelope :=
  if data.length < envelopeLength then .error (.tooShort data.length)
  else
    let version := data.headD 0
    if version ≠ envelopeVersion then .error (.version version)
    else
      match LogicalAddress.decode ((data.drop 1).take 2) with
      | .error fault => .error (.address fault)
      | .ok sender =>
        match LogicalAddress.decode ((data.drop 3).take 2) with
        | .error fault => .error (.address fault)
        | .ok destination =>
          let code := (data.drop 9).headD 0
          match BodyKind.ofCode? code.toNat with
          | none => .error (.kind code)
          | some kind =>
            .ok ⟨sender, destination, Bytes.ofBigEndian ((data.drop 5).take 4), kind⟩

end Envelope

/-- The codec that all nodes share: it knows announcements alone. -/
def sharedCodec : Codec :=
  Codec.empty.enter ⟨0, heartbeat, ⟨⟨.big, false⟩, [⟨1, .integer .int false⟩]⟩, []⟩

namespace Datagram

/-- How the body of a packet is encoded: an announcement with the shared codec, whatever the
application registered. -/
def kindOf (packet : Packet) : BodyKind :=
  if sharedCodec.isRegistered packet.type.name then .shared else .application

/-- The codec of a kind of body. -/
def codecOf (codec : Codec) : BodyKind → Codec
  | .shared => sharedCodec
  | .application => codec

/-- The bytes of a datagram, at most `room` of them. -/
def encode (codec : Codec) (packet : Packet) (sender destination : LogicalAddress) (counter : Int)
    (room : Nat) : Except EncodeFault Bytes := do
  if room < envelopeLength then throw (.noRoom envelopeLength room)
  let kind := kindOf packet
  let body ← (codecOf codec kind).encode packet (room - envelopeLength)
  return Envelope.encode ⟨sender, destination, counter, kind⟩ ++ body

/-- Encodes a datagram at the front of a buffer: its length and the buffer afterwards. -/
def encodeInto (codec : Codec) (packet : Packet) (sender destination : LogicalAddress)
    (counter : Int) (buffer : Bytes) : Except EncodeFault (Nat × Bytes) := do
  let bytes ← encode codec packet sender destination counter buffer.length
  return (bytes.length, Bytes.overwrite buffer 0 bytes)

/-- The packet after an envelope of the given kind.  The envelope's bytes are skipped unread. -/
def decodeBody (codec : Codec) (kind : BodyKind) (data : Bytes) : Except DatagramFault Packet :=
  ((codecOf codec kind).decode (data.drop envelopeLength)).mapError .body

/-- The packet after an envelope of the given kind, made by constructors of any kind. -/
def decodeBodyWith (make : Constructors) (codec : Codec) (kind : BodyKind) (data : Bytes) :
    Except DecodeFailure Packet :=
  (codecOf codec kind).decodeWith make (data.drop envelopeLength)

end Datagram

end RollCall
