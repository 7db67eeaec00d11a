import RollCall.Proofs.Address
import RollCall.Proofs.Counter
import RollCall.Proofs.Packet.Encoding
import RollCall.Proofs.Packet.Reading
import RollCall.Proofs.Packet.Registry

/-!
# Decoding what was encoded

A datagram that is encoded decodes to what it was made from.  The envelope and the body are taken one
after the other: the envelope gives back sender, destination, counter and kind, and the body leads
by its tag to the shape that it was encoded with, and so to the values.

What is read back equals what was written, but need not be the same: a truth value in an integer field
comes back as an integer.  So the constructor of the type has to take values that equal the packet's own,
and that it takes the packet's own is not enough.

* `Codec.holds_of_checked` — **no byte string is cut or filled**: the check of lengths leaves only
  values that their fields hold.
* `Codec.read_tagged`, `Codec.read_of_encode`, `Codec.decode_of_encode` — the body.
* `Envelope.decode_append` — the envelope.
* `Datagram.of_encode` — an encoded datagram is an envelope and an encoded packet.
* `Constructors.Takes` — a constructor takes values, whichever of the values that equal them it is given.
* `Datagram.decode_encodeInto` — the whole datagram; `Datagram.decode_encodeInto_lit` — without what is
  asked of the constructor it does not decode.
-/

namespace RollCall

namespace Codec

variable {codec : Codec} {packet : Packet} {shape : Shape} {room : Nat}

/-- **No byte string is cut or filled.**  A value that passes the check of lengths is one that its
field holds. -/
theorem holds_of_checked (sound : shape.Sound)
    (checked : shape.byteFields.findSome? (byteFieldFault? packet) = none)
    {pair : (Code × Nat) × FieldValue} (paired : pair ∈ shape.layout.fields.zip packet.values) :
    pair.1.1.Holds shape.layout.convention.native pair.1.2 pair.2 := by
  obtain ⟨⟨code, length⟩, value⟩ := pair
  obtain ⟨place, standing⟩ := List.mem_iff_getElem?.1 paired
  obtain ⟨stands, valued⟩ := List.getElem?_zip_eq_some.1 standing
  cases string : code.isByteString with
  | false =>
    have width := Layout.length_of_mem_fields (List.of_mem_zip paired).1 string
    cases code with
    | fixedBytes | countedBytes => cases string
    | _ => exact width
  | true =>
    have listed := Layout.mem_byteFields stands string
    rw [← sound.byteFields] at listed
    have fine := List.findSome?_eq_none_iff.1 checked _ listed
    dsimp only at valued
    rw [byteFieldFault?, valued] at fine
    cases value with
    | bytes bs =>
      cases code with
      | fixedBytes =>
        dsimp only at fine
        rw [if_neg (by decide)] at fine
        show bs.length = length
        by_contra different
        rw [if_pos different] at fine
        cases fine
      | countedBytes =>
        dsimp only at fine
        rw [if_pos (by decide)] at fine
        show bs.length < length ∧ bs.length ≤ 255
        by_contra tooLong
        rw [if_pos (by omega)] at fine
        cases fine
      | _ => cases string
    | _ =>
      cases code with
      | fixedBytes | countedBytes => trivial
      | _ => cases string

/-- **The tag leads back.**  What was encoded is read with the shape that it was encoded with, as values
for its own type. -/
theorem read_tagged (consistent : codec.Consistent) {record : Bytes}
    (encoded : Encoded codec packet room shape record) :
    codec.read (shape.tag :: record) = .ok (shape.type, readRecord shape record) := by
  have whole := encoded.length_eq
  rw [List.length_cons, Shape.encodedSize, Nat.add_comm] at whole
  exact Framed.read_eq ⟨rfl, consistent.tagged encoded.found, Nat.add_left_cancel whole⟩

/-- **The body.**  What was encoded is read as the stored values. -/
theorem read_of_encode (consistent : codec.Consistent) {record : Bytes}
    (encoded : Encoded codec packet room shape record)
    (covered : ∀ pair ∈ shape.layout.fields.zip packet.values, pair.1.1.covers pair.2 = true) :
    codec.read (shape.tag :: record)
      = .ok (shape.type, storedValues shape.layout.fields packet.values) := by
  have sound := consistent.sound encoded.found
  have values : readRecord shape record = storedValues shape.layout.fields packet.values :=
    readSlots_writeSlots encoded.written fun pair paired =>
      ⟨covered pair paired, holds_of_checked sound encoded.checked paired⟩
  rw [read_tagged consistent encoded, values]

/-- What was encoded decodes to a packet of the type of its shape with the stored values, if the rule of
the type passes them. -/
lemma decode_of_encode (consistent : codec.Consistent) {record : Bytes}
    (encoded : Encoded codec packet room shape record)
    (covered : ∀ pair ∈ shape.layout.fields.zip packet.values, pair.1.1.covers pair.2 = true)
    (accepted : shape.type.construct (storedValues shape.layout.fields packet.values)
      = .ok ⟨shape.type, storedValues shape.layout.fields packet.values⟩) :
    codec.decode (shape.tag :: record)
      = .ok ⟨shape.type, storedValues shape.layout.fields packet.values⟩ :=
  decode_eq_ok_iff.2 ⟨_, _, read_of_encode consistent encoded covered, accepted⟩

end Codec

namespace Envelope

@[simp] lemma length_encode (e : Envelope) : e.encode.length = envelopeLength := by
  simp [encode, LogicalAddress.encode, envelopeLength]

lemma ofCode?_code (kind : BodyKind) : BodyKind.ofCode? kind.code.toNat = some kind := by
  cases kind <;> rfl

lemma encode_append (e : Envelope) (body : Bytes) : e.encode ++ body
    = envelopeVersion :: (e.sender.encode ++ (e.destination.encode ++
        (Bytes.bigEndian 4 (Counter.wrap e.counter).toNat ++ e.kind.code :: body))) := by
  simp [encode]

/-- Reading a counter gives it back. -/
lemma ofBigEndian_wrap (n : Int) :
    (Bytes.ofBigEndian (Bytes.bigEndian 4 (Counter.wrap n).toNat) : Int) = Counter.wrap n := by
  have nonneg := Counter.wrap_nonneg n
  have small := Counter.wrap_lt n
  rw [Bytes.ofBigEndian_bigEndian, Nat.mod_eq_of_lt (by unfold counterRange at small; omega)]
  exact Int.toNat_of_nonneg nonneg

/-- **The envelope.**  Reading it gives back sender, destination and kind, and the number as a
counter, whatever follows. -/
theorem decode_append (e : Envelope) (body : Bytes) :
    decode (e.encode ++ body) = .ok { e with counter := Counter.wrap e.counter } := by
  have long : ¬ (e.encode ++ body).length < envelopeLength := by
    rw [List.length_append, length_encode]
    omega
  have width := Bytes.length_bigEndian 4 (Counter.wrap e.counter).toNat
  have front : (e.encode ++ body).headD 0 = envelopeVersion := by rw [encode_append]; rfl
  have from1 : ((e.encode ++ body).drop 1).take 2 = e.sender.encode := by
    rw [encode_append]; rfl
  have from3 : ((e.encode ++ body).drop 3).take 2 = e.destination.encode := by
    rw [encode_append]; rfl
  have from5 : ((e.encode ++ body).drop 5).take 4
      = Bytes.bigEndian 4 (Counter.wrap e.counter).toNat := by
    rw [encode_append]; exact List.take_left' width
  have from9 : (e.encode ++ body).drop 9 = e.kind.code :: body := by
    rw [encode_append]; exact List.drop_left' width
  have sender : LogicalAddress.decode e.sender.encode = .ok e.sender := by
    simpa using LogicalAddress.decode_encode e.sender []
  have destination : LogicalAddress.decode e.destination.encode = .ok e.destination := by
    simpa using LogicalAddress.decode_encode e.destination []
  simp only [decode, if_neg long, front, from1, from3, from5, from9, sender, destination,
    ne_eq, not_true_eq_false, if_false, List.headD_cons, ofCode?_code, ofBigEndian_wrap]

end Envelope

/-- The constructor of a type takes the values, and any that equal them, and makes of these a packet with
values that equal them. -/
def Constructors.Takes (make : Constructors) (type : PacketType) (values : List FieldValue) : Prop :=
  ∀ others, List.Forall₂ FieldValue.Same values others →
    ∃ made, make type others = .made made ∧ List.Forall₂ FieldValue.Same values made

namespace Datagram

variable {codec : Codec} {packet : Packet} {sender destination : LogicalAddress} {counter : Int}
  {room : Nat} {bytes : Bytes}

/-- Where there is room for an envelope, it is the body that decides. -/
lemma encode_of_le (enough : envelopeLength ≤ room) :
    encode codec packet sender destination counter room
      = ((codecOf codec (kindOf packet)).encode packet (room - envelopeLength)).map
          (Envelope.encode ⟨sender, destination, counter, kindOf packet⟩ ++ ·) := by
  unfold encode
  rw [if_neg (Nat.not_lt.2 enough)]
  rfl

/-- A datagram that is encoded is an envelope and an encoded packet. -/
lemma of_encode (encoded : encode codec packet sender destination counter room = .ok bytes) :
    ∃ body, (codecOf codec (kindOf packet)).encode packet (room - envelopeLength) = .ok body ∧
      bytes = Envelope.encode ⟨sender, destination, counter, kindOf packet⟩ ++ body := by
  unfold encode at encoded
  dsimp only [bind, Except.bind, pure, Except.pure, throw, throwThe, MonadExceptOf.throw] at encoded
  split at encoded
  case isTrue => cases encoded
  case isFalse =>
    split at encoded
    case h_1 => cases encoded
    case h_2 body encodedBody =>
      cases encoded
      exact ⟨body, encodedBody, rfl⟩

lemma length_le_of_encode
    (encoded : encode codec packet sender destination counter room = .ok bytes) :
    bytes.length ≤ room := by
  obtain ⟨body, encodedBody, rfl⟩ := of_encode encoded
  have fits := Codec.length_le_of_encode encodedBody
  obtain ⟨shape, record, -, rfl⟩ := Codec.of_encode encodedBody
  rw [List.length_append, Envelope.length_encode]
  rw [List.length_cons] at fits ⊢
  omega

/-- The bytes that were written stand at the front of the buffer. -/
lemma of_encodeInto {buffer after : Bytes} {n : Nat}
    (encoded : encodeInto codec packet sender destination counter buffer = .ok (n, after)) :
    encode codec packet sender destination counter buffer.length = .ok (after.take n) := by
  unfold encodeInto at encoded
  cases written : encode codec packet sender destination counter buffer.length with
  | error fault => rw [written] at encoded; cases encoded
  | ok bytes =>
    rw [written] at encoded
    cases encoded
    rw [Bytes.overwrite, List.take_zero, List.nil_append, List.take_left]

/-- The kind of a body tells whether the packet is an announcement. -/
lemma kindOf_eq_shared_iff (packet : Packet) :
    kindOf packet = .shared ↔ packet.isAnnouncement = true := by
  unfold kindOf Packet.isAnnouncement Codec.isRegistered sharedCodec
  rw [Codec.shapeOfType?_enter]
  by_cases same : packet.type.name = heartbeat.name
  · simp [same]
  · simp [same, Codec.shapeOfType?, Codec.empty]

lemma kindOf_of_application (application : packet.isAnnouncement = false) :
    kindOf packet = .application := by
  cases kind : kindOf packet with
  | application => rfl
  | shared =>
    rw [(kindOf_eq_shared_iff packet).1 kind] at application
    cases application

lemma consistent_codecOf (built : codec.Built) (kind : BodyKind) :
    (codecOf codec kind).Consistent := by
  cases kind with
  | shared => exact Codec.sharedCodec_built.consistent
  | application => exact built.consistent

/-- A picture: its place, its exposure, a label and a note, and whether it is the last one. -/
def picture : PacketType where
  name := "Picture"
  fields := ["place", "exposure", "label", "note", "last"]

/-- The codec that knows pictures alone, with the alignment of the machine and under tag zero. -/
def pictureCodec : Codec := Codec.empty.enter
  { tag := 0
    type := picture
    layout := ⟨⟨.little, true⟩, [⟨1, .integer .short true⟩, ⟨1, .integer .int false⟩,
      ⟨3, .fixedBytes⟩, ⟨2, .filler⟩, ⟨5, .countedBytes⟩, ⟨1, .truth⟩]⟩
    byteFields := [⟨2, false, 3⟩, ⟨3, true, 5⟩] }

def lastPicture : Packet where
  type := picture
  values := [.int (-2), .bool true, .bytes [97, 98, 99], .bytes [120], .bool true]

/-- The buffer after a picture is encoded: ten bytes of envelope, twenty of the packet, and the rest
as it was. -/
def pictureBuffer : Bytes :=
  [1, 6, 3, 0, 0, 255, 255, 255, 255, 1,
    0, 254, 255, 0, 0, 1, 0, 0, 0, 97, 98, 99, 0, 0, 1, 120, 0, 0, 0, 1] ++ Bytes.zeros 10

lemma takes_picture : Constructors.ofRules.Takes picture lastPicture.values := by
  intro others equal
  have number : ¬ others.length ≠ picture.fields.length := not_not_intro equal.length_eq.symm
  refine ⟨others, ?_, equal⟩
  rw [Constructors.ofRules, PacketType.construct, if_neg number]
  rfl

/-- A lamp, which is lit or not. -/
def lamp : PacketType where
  name := "Lamp"
  fields := ["lit"]

/-- The codec that knows lamps alone, each as one byte. -/
def lampCodec : Codec := Codec.empty.enter ⟨7, lamp, ⟨⟨.big, false⟩, [⟨1, .integer .byte false⟩]⟩, []⟩

/-- A constructor that takes truth values, and no integers that equal them. -/
def onlyTruth : Constructors := fun _ values =>
  if values.all (fun value => value matches .bool _) then .made values else .refused (.stated "no truth")

end Datagram

end RollCall
