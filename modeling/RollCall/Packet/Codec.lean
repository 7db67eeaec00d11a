import RollCall.Layout.ByteField
import RollCall.Layout.Field
import RollCall.Packet.Basic
import RollCall.Text.Quoted

/-!
# Codecs

A codec knows packet types by a tag, which is the first byte of an encoded packet.  After the tag
comes the record of the type's layout, so that a tag implies the exact length.

Registration has two phases.  `Codec.reserve` checks a tag and a layout against the registry as it
is at that moment; `Registration.complete` checks the packet type and enters it.  Registrations of
other types may come between the two.

* `Codec.register` — both phases at once.
* `Codec.encode`, `Codec.encodeInto` — the bytes of a packet, alone or written into a buffer.
* `Codec.read` — the type and the field values in some bytes.
* `Codec.decodeWith`, `Codec.decode` — the packet of some bytes, made by constructors of any kind or by
  the rules of the types.
* `RegistryFault`, `EncodeFault`, `DecodeFault` — why one of these fails, with their wordings;
  `DecodeFailure` — and how decoding fails where a constructor may fail as it likes.
-/

namespace RollCall

/-! ## Faults -/

/-- Why a packet type cannot be registered. -/
inductive RegistryFault where
  /-- The tag is not a byte. -/
  | tagOutOfRange (tag : Int)
  /-- The tag belongs to another type. -/
  | tagTaken (tag : UInt8) (owner : String)
  /-- The written layout holds a character beyond ASCII. -/
  | layoutNotAscii
  /-- The written layout cannot be read. -/
  | layoutUnreadable
  /-- The type does not describe its fields. -/
  | fieldsUndescribed (name : String)
  /-- The type has a tag already. -/
  | typeTaken (name : String)
  /-- Records of the layout are longer than any byte string can be. -/
  | recordTooLong
  /-- Records of the layout do not fit into memory. -/
  | recordBeyondMemory
  /-- A counted byte string of the layout has no room for its length. -/
  | unreadableRecord
  /-- The layout has another number of fields than the type. -/
  | fieldCount (layout : String) (fields : Nat) (name : String)
  /-- A count in the layout has too many digits. -/
  | countTooLong
deriving DecidableEq, Repr

/-- The wording of a fault.  What is wrong with the text of a layout is not said. -/
def RegistryFault.message? : RegistryFault → Option String
  | tagOutOfRange tag => some s!"Packet tag must be 0-255, got {tag}"
  | tagTaken tag owner => some s!"Packet tag {Text.hexByte tag} already registered to {owner}"
  | layoutNotAscii => none
  | layoutUnreadable => none
  | fieldsUndescribed name => some s!"{name} must be a dataclass"
  | typeTaken name => some s!"{name} already registered"
  | recordTooLong => none
  | recordBeyondMemory => none
  | unreadableRecord => none
  | fieldCount layout fields name =>
    some s!"Format {Text.quote layout} does not match the {fields} fields of {name}"
  | countTooLong => none

/-- Why a packet cannot be encoded. -/
inductive EncodeFault where
  /-- The packet's type is not registered. -/
  | unsupported (name : String)
  /-- The buffer is too small. -/
  | noRoom (needed available : Nat)
  /-- The packet has no value for one of its fields. -/
  | lacksValue
  /-- A byte string of a fixed length has another length. -/
  | wrongLength (name field : String) (width length : Nat)
  /-- A byte string is longer than its part of the record can hold. -/
  | tooLong (name field : String) (most : Int) (length : Nat)
  /-- A value does not fit its field. -/
  | unfit (name : String)
  /-- A value is too large for its floating-point field. -/
  | beyondFloat
deriving DecidableEq, Repr

/-- The wording of a fault. -/
def EncodeFault.message? : EncodeFault → Option String
  | unsupported name => some s!"Unsupported packet type: {name}"
  | noRoom needed available => some s!"Buffer too small: need {needed} bytes, have {available}"
  | lacksValue => none
  | wrongLength name field width length =>
    some s!"Cannot encode {name}: field {Text.quote field} must be {width} bytes, got {length}"
  | tooLong name field most length =>
    some s!"Cannot encode {name}: field {Text.quote field} holds at most {most} bytes, got {length}"
  | unfit name => some s!"Cannot encode {name}"
  | beyondFloat => none

/-- Why bytes are not an encoded packet. -/
inductive DecodeFault where
  /-- There are no bytes. -/
  | empty
  /-- No type has this tag. -/
  | unknownTag (tag : UInt8)
  /-- The length is not that of the tag's type. -/
  | wrongLength (name : String) (expected length : Nat)
  /-- The type refuses the field values. -/
  | refused (name : String) (refusal : Refusal)
deriving DecidableEq, Repr

/-- The wording of a fault. -/
def DecodeFault.message : DecodeFault → String
  | empty => "Packet data is empty"
  | unknownTag tag => s!"Unrecognized packet tag: {Text.hexByte tag}"
  | wrongLength name expected length => s!"{name} expects {expected} bytes, got {length}"
  | refused name refusal =>
    match refusal.reason? with
    | some reason => s!"Invalid {name} field values: {reason}"
    | none => s!"Invalid {name} field values"

/-- How decoding fails, where constructors may fail in any way. -/
inductive DecodeFailure where
  /-- The bytes are not an encoded packet. -/
  | malformed (fault : DecodeFault)
  /-- A constructor fails otherwise than by a refusal, and its failure is passed on. -/
  | escaped (failure : String)
deriving DecidableEq, Repr

/-! ## The registry -/

/-- What a codec knows of a packet type. -/
structure Shape where
  tag : UInt8
  type : PacketType
  layout : Layout
  byteFields : List ByteField

/-- The length of an encoded packet, its tag included. -/
def Shape.encodedSize (shape : Shape) : Nat := 1 + shape.layout.size

/-- A registry of packet types.  In each table the entry nearest the front counts. -/
structure Codec where
  byTag : List (UInt8 × Shape) := []
  byType : List (String × Shape) := []

/-- A tag and a layout that have been checked, waiting for a packet type. -/
structure Registration where
  tag : UInt8
  /-- The layout as it was written. -/
  written : String
  layout : Layout
deriving DecidableEq, Repr

namespace Codec

/-- The codec without packet types. -/
def empty : Codec := {}

/-- The shape of a tag. -/
def shapeOfTag? (codec : Codec) (tag : UInt8) : Option Shape := codec.byTag.lookup tag

/-- The shape of a packet type. -/
def shapeOfType? (codec : Codec) (name : String) : Option Shape := codec.byType.lookup name

/-- Whether a packet type is registered. -/
def isRegistered (codec : Codec) (name : String) : Bool := (codec.shapeOfType? name).isSome

/-- The first phase of a registration: the tag is a free byte and the layout can be read. -/
def reserve (codec : Codec) (tag : Int) (written : String) : Except RegistryFault Registration :=
  if 0 ≤ tag ∧ tag ≤ 255 then
    let byte := UInt8.ofNat tag.toNat
    match codec.shapeOfTag? byte with
    | some shape => .error (.tagTaken byte shape.type.name)
    | none =>
      if written.toList.all fun c => decide (c.toNat < 128) then
        match Layout.ofText? written with
        | some layout => .ok ⟨byte, written, layout⟩
        | none => .error .layoutUnreadable
      else .error .layoutNotAscii
  else .error (.tagOutOfRange tag)

/-- Enters a shape under its tag and under its type. -/
def enter (codec : Codec) (shape : Shape) : Codec where
  byTag := (shape.tag, shape) :: codec.byTag
  byType := (shape.type.name, shape) :: codec.byType

/-- The second phase of a registration: the type describes its fields and has no tag yet, records of
the layout can be held and read, and they have as many fields as the type. -/
def complete (codec : Codec) (registration : Registration) (type : PacketType) :
    Except RegistryFault Codec :=
  if !type.describesFields then .error (.fieldsUndescribed type.name)
  else if codec.isRegistered type.name then .error (.typeTaken type.name)
  else if Layout.longestRecord < registration.layout.size then .error .recordTooLong
  else if Layout.memoryLimit ≤ registration.layout.size then .error .recordBeyondMemory
  else if registration.layout.lacksLengthByte then .error .unreadableRecord
  else if registration.layout.valueCount ≠ type.fields.length then
    .error (.fieldCount registration.written type.fields.length type.name)
  else
    match byteFields? (Layout.markedText registration.written.toList) with
    | none => .error .countTooLong
    | some byteFields =>
      .ok (codec.enter ⟨registration.tag, type, registration.layout, byteFields⟩)

/-- Registers a packet type under a tag with a written layout. -/
def register (codec : Codec) (tag : Int) (written : String) (type : PacketType) :
    Except RegistryFault Codec := do
  let registration ← codec.reserve tag written
  codec.complete registration type

/-! ## Encoding -/

/-- The bytes of a row of slots with the given field values. -/
def writeSlots (convention : Convention) : List Slot → List FieldValue → Except StoreFault Bytes
  | [], _ => .ok []
  | .filler length :: slots, values => do
    let rest ← writeSlots convention slots values
    return Bytes.zeros length ++ rest
  | .field code length :: slots, value :: values => do
    let bytes ← code.write convention length value
    let rest ← writeSlots convention slots values
    return bytes ++ rest
  | .field _ _ :: _, [] => .error .unfit

/-- The field values in the bytes of a row of slots. -/
def readSlots (order : ByteOrder) : List Slot → Bytes → List FieldValue
  | [], _ => []
  | .filler length :: slots, bytes => readSlots order slots (bytes.drop length)
  | .field code length :: slots, bytes =>
    code.read order (bytes.take length) :: readSlots order slots (bytes.drop length)

/-- What is wrong with the length of one byte string.  A value that is no byte string is left to the
layout. -/
def byteFieldFault? (packet : Packet) (field : ByteField) : Option EncodeFault :=
  match packet.values[field.index]? with
  | some (.bytes bytes) =>
    let fieldName := packet.type.fields[field.index]?.getD ""
    if field.counted then
      let most : Int := min (field.width - 1 : Int) 255
      if most < bytes.length then
        some (.tooLong packet.type.name fieldName most bytes.length)
      else none
    else if bytes.length ≠ field.width then
      some (.wrongLength packet.type.name fieldName field.width bytes.length)
    else none
  | _ => none

/-- The shape that a packet is encoded with. -/
def shapeOf (codec : Codec) (packet : Packet) : Except EncodeFault Shape :=
  match codec.shapeOfType? packet.type.name with
  | some shape => .ok shape
  | none => .error (.unsupported packet.type.name)

/-- The length of an encoded packet, its tag included. -/
def encodedSize (codec : Codec) (packet : Packet) : Except EncodeFault Nat :=
  (codec.shapeOf packet).map Shape.encodedSize

/-- The bytes of a packet, at most `room` of them. -/
def encode (codec : Codec) (packet : Packet) (room : Nat) : Except EncodeFault Bytes := do
  let shape ← codec.shapeOf packet
  if room < shape.encodedSize then throw (.noRoom shape.encodedSize room)
  if packet.values.length < shape.type.fields.length then throw .lacksValue
  match shape.byteFields.findSome? (byteFieldFault? packet) with
  | some fault => throw fault
  | none =>
    match writeSlots shape.layout.convention shape.layout.slots packet.values with
    | .ok bytes => return shape.tag :: bytes
    | .error .unfit => throw (.unfit packet.type.name)
    | .error .beyondFloat => throw .beyondFloat

/-- Encodes a packet into a buffer from an offset on: the number of bytes written and the buffer
afterwards. -/
def encodeInto (codec : Codec) (packet : Packet) (buffer : Bytes) (offset : Nat) :
    Except EncodeFault (Nat × Bytes) := do
  let bytes ← codec.encode packet (buffer.length - offset)
  return (bytes.length, Bytes.overwrite buffer offset bytes)

/-! ## Decoding -/

/-- The field values in a record of a shape. -/
def readRecord (shape : Shape) (record : Bytes) : List FieldValue :=
  readSlots shape.layout.convention.order shape.layout.slots record

/-- The type and the field values that all of the bytes encode; no packet is made of them yet. -/
def read (codec : Codec) : Bytes → Except DecodeFault (PacketType × List FieldValue)
  | [] => .error .empty
  | tag :: record =>
    match codec.shapeOfTag? tag with
    | none => .error (.unknownTag tag)
    | some shape =>
      if 1 + record.length ≠ shape.encodedSize then
        .error (.wrongLength shape.type.name shape.encodedSize (1 + record.length))
      else .ok (shape.type, readRecord shape record)

/-- The packet that all of the bytes encode, made by the constructor of its type.  A refusal says that
the bytes are bad; any other failure of the constructor is passed on. -/
def decodeWith (make : Constructors) (codec : Codec) (bytes : Bytes) : Except DecodeFailure Packet :=
  match codec.read bytes with
  | .error fault => .error (.malformed fault)
  | .ok (type, values) =>
    match make type values with
    | .made values => .ok ⟨type, values⟩
    | .refused refusal => .error (.malformed (.refused type.name refusal))
    | .failed failure => .error (.escaped failure)

/-- The packet that all of the bytes encode, where the types have no constructors but their rules. -/
def decode (codec : Codec) (bytes : Bytes) : Except DecodeFault Packet :=
  match codec.read bytes with
  | .error fault => .error fault
  | .ok (type, values) =>
    match type.construct values with
    | .ok packet => .ok packet
    | .error refusal => .error (.refused type.name refusal)

end Codec

end RollCall
