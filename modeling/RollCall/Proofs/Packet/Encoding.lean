import RollCall.Packet.Codec
import RollCall.Proofs.Layout.RoundTrip

/-!
# The ends of encoding

An encoding checks one thing after the other, and only then writes.  `Ends` lists the ends that it can
have, each with the checks that were passed on the way; what an encoding gives, and when, is a case
split over it.

* `Codec.Encoded` — what an encoding that succeeds has checked and written.
* `Codec.Ends`, `Codec.encode_eq_iff` — **the ends of an encoding, and that it has exactly one of them.**
* `Codec.of_encode`, `Encoded.encode_eq`, `Encoded.length_eq` — the end that gives bytes.
-/

namespace RollCall.Codec

variable {codec : Codec} {packet : Packet} {shape : Shape} {room : Nat} {bytes : Bytes}

/-- What an encoding that succeeds has checked, and what it has written. -/
structure Encoded (codec : Codec) (packet : Packet) (room : Nat) (shape : Shape) (record : Bytes) :
    Prop where
  found : codec.shapeOfType? packet.type.name = some shape
  fits : shape.encodedSize ≤ room
  valued : shape.type.fields.length ≤ packet.values.length
  checked : shape.byteFields.findSome? (byteFieldFault? packet) = none
  written : writeSlots shape.layout.convention shape.layout.slots packet.values = .ok record

/-- The ends of an encoding, in the order of its checks. -/
inductive Ends (codec : Codec) (packet : Packet) (room : Nat) : Except EncodeFault Bytes → Prop
  | unsupported (unknown : codec.shapeOfType? packet.type.name = none) :
      Ends codec packet room (.error (.unsupported packet.type.name))
  | noRoom {shape : Shape} (found : codec.shapeOfType? packet.type.name = some shape)
      (tight : room < shape.encodedSize) :
      Ends codec packet room (.error (.noRoom shape.encodedSize room))
  | lacksValue {shape : Shape} (found : codec.shapeOfType? packet.type.name = some shape)
      (fits : shape.encodedSize ≤ room) (short : packet.values.length < shape.type.fields.length) :
      Ends codec packet room (.error .lacksValue)
  /-- A byte string has the wrong length. -/
  | misfit {shape : Shape} {fault : EncodeFault}
      (found : codec.shapeOfType? packet.type.name = some shape) (fits : shape.encodedSize ≤ room)
      (valued : shape.type.fields.length ≤ packet.values.length)
      (wrong : shape.byteFields.findSome? (byteFieldFault? packet) = some fault) :
      Ends codec packet room (.error fault)
  /-- A value cannot be stored in its field. -/
  | unfit {shape : Shape} (found : codec.shapeOfType? packet.type.name = some shape)
      (fits : shape.encodedSize ≤ room)
      (valued : shape.type.fields.length ≤ packet.values.length)
      (checked : shape.byteFields.findSome? (byteFieldFault? packet) = none)
      (refused : writeSlots shape.layout.convention shape.layout.slots packet.values
        = .error .unfit) :
      Ends codec packet room (.error (.unfit packet.type.name))
  /-- A number is too large for the format of its field. -/
  | beyondFloat {shape : Shape} (found : codec.shapeOfType? packet.type.name = some shape)
      (fits : shape.encodedSize ≤ room)
      (valued : shape.type.fields.length ≤ packet.values.length)
      (checked : shape.byteFields.findSome? (byteFieldFault? packet) = none)
      (refused : writeSlots shape.layout.convention shape.layout.slots packet.values
        = .error .beyondFloat) :
      Ends codec packet room (.error .beyondFloat)
  | encoded {shape : Shape} {record : Bytes} (encoded : Encoded codec packet room shape record) :
      Ends codec packet room (.ok (shape.tag :: record))

lemma ends (codec : Codec) (packet : Packet) (room : Nat) :
    Ends codec packet room (codec.encode packet room) := by
  unfold encode shapeOf
  cases found : codec.shapeOfType? packet.type.name with
  | none => exact .unsupported found
  | some shape =>
    dsimp only [bind, Except.bind, pure, Except.pure, throw, throwThe, MonadExceptOf.throw]
    split
    case isTrue tight => exact .noRoom found tight
    case isFalse fits =>
      have fits := Nat.le_of_not_lt fits
      split
      case isTrue short => exact .lacksValue found fits short
      case isFalse valued =>
        have valued := Nat.le_of_not_lt valued
        split
        case h_1 wrong => exact .misfit found fits valued wrong
        case h_2 checked =>
          split
          case h_1 written => exact .encoded ⟨found, fits, valued, checked, written⟩
          case h_2 refused => exact .unfit found fits valued checked refused
          case h_3 refused => exact .beyondFloat found fits valued checked refused

/-- Where there is room and no value is missing, the lengths of byte strings decide, and then what can
be stored. -/
lemma encode_of_valued (found : codec.shapeOfType? packet.type.name = some shape)
    (fits : shape.encodedSize ≤ room) (valued : shape.type.fields.length ≤ packet.values.length) :
    codec.encode packet room =
      match shape.byteFields.findSome? (byteFieldFault? packet) with
      | some fault => .error fault
      | none =>
        match writeSlots shape.layout.convention shape.layout.slots packet.values with
        | .ok record => .ok (shape.tag :: record)
        | .error .unfit => .error (.unfit packet.type.name)
        | .error .beyondFloat => .error .beyondFloat := by
  unfold encode shapeOf
  rw [found]
  dsimp only [bind, Except.bind]
  rw [if_neg (Nat.not_lt.2 fits), if_neg (Nat.not_lt.2 valued)]
  rfl

/-- **An encoding has exactly one of the ends.** -/
theorem encode_eq_iff {result : Except EncodeFault Bytes} :
    codec.encode packet room = result ↔ Ends codec packet room result := by
  constructor
  · rintro rfl
    exact ends codec packet room
  · intro ends
    cases ends with
    | unsupported unknown => simp [encode, shapeOf, unknown, bind, Except.bind]
    | noRoom found tight =>
      simp [encode, shapeOf, found, tight, bind, Except.bind, throw, throwThe, MonadExceptOf.throw]
    | lacksValue found fits short =>
      simp [encode, shapeOf, found, Nat.not_lt.2 fits, short, bind, Except.bind, throw, throwThe,
        MonadExceptOf.throw]
    | misfit found fits valued wrong => rw [encode_of_valued found fits valued, wrong]
    | unfit found fits valued checked refused | beyondFloat found fits valued checked refused =>
      rw [encode_of_valued found fits valued, checked, refused]
    | encoded encoded =>
      rw [encode_of_valued encoded.found encoded.fits encoded.valued, encoded.checked,
        encoded.written]

/-- What passes every check is encoded. -/
lemma Encoded.encode_eq {record : Bytes} (encoded : Encoded codec packet room shape record) :
    codec.encode packet room = .ok (shape.tag :: record) :=
  encode_eq_iff.2 (.encoded encoded)

lemma of_encode (encoded : codec.encode packet room = .ok bytes) :
    ∃ shape record, Encoded codec packet room shape record ∧ bytes = shape.tag :: record := by
  cases encode_eq_iff.1 encoded with
  | encoded written => exact ⟨_, _, written, rfl⟩

/-- An encoded packet has the length of its shape. -/
lemma Encoded.length_eq {record : Bytes} (encoded : Encoded codec packet room shape record) :
    (shape.tag :: record).length = shape.encodedSize := by
  rw [List.length_cons, length_writeSlots encoded.written, ← Layout.size_eq_slots, Nat.add_comm,
    Shape.encodedSize]

/-- An encoded packet fits. -/
lemma length_le_of_encode (encoded : codec.encode packet room = .ok bytes) :
    bytes.length ≤ room := by
  obtain ⟨shape, record, written, rfl⟩ := of_encode encoded
  rw [written.length_eq]
  exact written.fits

end RollCall.Codec
