import RollCall.Node.Run
import RollCall.Proofs.Floating.Narrowing
import RollCall.Proofs.Packet.RoundTrip
import RollCall.Sample.Flight

/-!
# What callers see of packets that cannot be encoded

A caller is told to expect a fault of encoding where the type of a packet is unknown, the buffer is too
small, or a value does not fit its field.  Two faults are none of these.  One is that the packet has no
value for a field.  The other comes from numbers: a value that does not fit its field is reported as
such whatever it is, except for a finite floating-point number past the limit of a lesser precision.

Fields are written in their order, so what is reported is the first value that cannot be stored; a
number that is too large goes by the declared fault if a value before it does not fit.

* `EncodeFault.isDeclared` — the faults that callers are told to expect.
* `Code.Overflows`, `Code.write_eq_beyondFloat_iff` — one field.
* `Shape.Overflows`, `Shape.overflows_iff` — a record.
* `Codec.Escapes`, `Codec.encode_escapes_iff` — a packet.
* `Node.send_eq_encode_iff` — sending passes on what encoding reports.
* `Node.declared_unless_escapes` — **an encoding gives the length, or a declared fault, unless the packet
  escapes**; and so for datagrams, and for what a send reports.
-/

namespace RollCall

/-- Whether callers are told to expect a fault. -/
def EncodeFault.isDeclared : EncodeFault → Bool
  | unsupported _ | noRoom _ _ | wrongLength _ _ _ _ | tooLong _ _ _ _ | unfit _ => true
  | lacksValue | beyondFloat => false

/-- What is declared of encoding into a buffer: it gives the length that it is to have, or fails with a
fault that callers are told to expect. -/
def AsDeclared (size : Except EncodeFault Nat) : Except EncodeFault (Nat × Bytes) → Prop
  | .ok (written, _) => size = .ok written
  | .error fault => fault.isDeclared = true

/-- An encoding whose bytes have the length that they are to have goes as declared unless it fails with
an undeclared fault. -/
lemma asDeclared_iff {size : Except EncodeFault Nat} {result : Except EncodeFault Bytes}
    (place : Bytes → Bytes) (sized : ∀ bytes, result = .ok bytes → size = .ok bytes.length) :
    AsDeclared size (do let bytes ← result; return (bytes.length, place bytes)) ↔
      ¬ ∃ fault, result = .error fault ∧ fault.isDeclared = false := by
  cases result with
  | error fault => simp [bind, Except.bind, AsDeclared]
  | ok bytes => simp [bind, Except.bind, pure, Except.pure, AsDeclared, sized bytes rfl]

/-- A value is a finite number past the limit of its field.  The double precision has no limit, and
under the machine's convention a single one becomes an infinity. -/
def Code.Overflows (convention : Convention) (code : Code) (value : FieldValue) : Prop :=
  ∃ precision x, code = .float precision ∧ value = .float x ∧ precision ≠ .double ∧
    convention.storesInfinity precision = false ∧ x.Reaches precision.format.limit

/-- **One field.**  The undeclared fault is that of a number past the limit. -/
theorem Code.write_eq_beyondFloat_iff {convention : Convention} {code : Code} {length : Nat}
    {value : FieldValue} :
    code.write convention length value = .error .beyondFloat ↔ code.Overflows convention value := by
  constructor
  · intro refused
    cases code with
    | filler | truth => cases refused
    | character | fixedBytes | countedBytes =>
      dsimp only [write] at refused
      split at refused <;> cases refused
    | integer | pointer =>
      dsimp only [write] at refused
      split at refused
      · split at refused <;> cases refused
      · cases refused
    | float precision =>
      dsimp only [write] at refused
      split at refused
      case h_2 => cases refused
      case h_1 x number =>
        split at refused
        case h_1 => cases refused
        case h_2 wide =>
          split at refused
          case isTrue => cases refused
          case isFalse finite =>
            obtain ⟨lesser, far⟩ := x.narrow?_eq_none_iff.1 wide
            cases value with
            | float =>
              cases number
              exact ⟨precision, x, rfl, rfl, lesser, by simpa using finite, far⟩
            | _ => cases refused
  · rintro ⟨precision, x, rfl, rfl, lesser, finite, far⟩
    have wide := x.narrow?_eq_none_iff.2 ⟨lesser, far⟩
    simp [write, FieldValue.double?, FieldValue.isFloat, wide, finite]

/-! ## A record -/

/-- The value can be stored in its field. -/
def Code.Stores (convention : Convention) (code : Code) (length : Nat) (value : FieldValue) : Prop :=
  ∃ bytes, code.write convention length value = .ok bytes

/-- Among some values, the first that cannot be stored in its field is a number past the limit. -/
def FirstOverflows (convention : Convention) (pairs : List ((Code × Nat) × FieldValue)) : Prop :=
  ∃ before pair after, pairs = before ++ pair :: after ∧
    (∀ earlier ∈ before, earlier.1.1.Stores convention earlier.1.2 earlier.2) ∧
    pair.1.1.Overflows convention pair.2

lemma not_firstOverflows_nil {convention : Convention} : ¬ FirstOverflows convention [] := by
  rintro ⟨before, pair, after, split, -⟩
  simp at split

/-- It is the first value, or that can be stored and it is the first of the others. -/
lemma firstOverflows_cons {convention : Convention} {pair : (Code × Nat) × FieldValue}
    {pairs : List ((Code × Nat) × FieldValue)} :
    FirstOverflows convention (pair :: pairs) ↔ pair.1.1.Overflows convention pair.2 ∨
      pair.1.1.Stores convention pair.1.2 pair.2 ∧ FirstOverflows convention pairs := by
  constructor
  · rintro ⟨before, found, after, split, stored, overflows⟩
    rcases List.cons_eq_append_iff.1 split with ⟨rfl, same⟩ | ⟨before, rfl, rfl⟩
    · cases same
      exact .inl overflows
    · rw [List.forall_mem_cons] at stored
      exact .inr ⟨stored.1, before, found, after, rfl, stored.2, overflows⟩
  · rintro (overflows | ⟨stores, before, found, after, rfl, stored, overflows⟩)
    · exact ⟨[], pair, pairs, rfl, by simp, overflows⟩
    · exact ⟨pair :: before, found, after, rfl, List.forall_mem_cons.2 ⟨stores, stored⟩, overflows⟩

/-- **A record.**  Writing it fails with the undeclared fault exactly if the first value that cannot be
stored is a number past the limit. -/
theorem Codec.writeSlots_eq_beyondFloat_iff {convention : Convention} {slots : List Slot}
    {values : List FieldValue} : writeSlots convention slots values = .error .beyondFloat ↔
      FirstOverflows convention ((slots.filterMap Slot.field?).zip values) := by
  induction slots generalizing values with
  | nil => exact iff_of_false (by simp [writeSlots]) not_firstOverflows_nil
  | cons slot slots ih =>
    cases slot with
    | filler length =>
      rw [Slot.filterMap_filler, ← ih, writeSlots]
      cases writeSlots convention slots values <;> simp [bind, Except.bind, pure, Except.pure]
    | field code length =>
      rw [Slot.filterMap_field]
      cases values with
      | nil => exact iff_of_false (by simp [writeSlots]) not_firstOverflows_nil
      | cons value values =>
        rw [List.zip_cons_cons, firstOverflows_cons, ← ih, ← Code.write_eq_beyondFloat_iff, writeSlots]
        cases first : code.write convention length value with
        | error fault => simp [first, Code.Stores, bind, Except.bind]
        | ok bytes =>
          cases writeSlots convention slots values <;>
            simp [first, Code.Stores, bind, Except.bind, pure, Except.pure]

/-! ## A packet -/

/-- An encoding in a room fails with a fault that callers are not told of: the room is large enough, and
a field has no value; or all have, byte strings have their lengths, and the first value that cannot be
stored is a number past the limit. -/
def Codec.Escapes (codec : Codec) (packet : Packet) (room : Nat) : Prop :=
  ∃ shape, codec.shapeOfType? packet.type.name = some shape ∧ shape.encodedSize ≤ room ∧
    (packet.values.length < shape.type.fields.length ∨
      shape.type.fields.length ≤ packet.values.length ∧
      (∀ field ∈ shape.byteFields, byteFieldFault? packet field = none) ∧
      FirstOverflows shape.layout.convention (shape.layout.fields.zip packet.values))

/-- A wrong length of a byte string is declared. -/
lemma Codec.isDeclared_of_byteFieldFault? {packet : Packet} {field : ByteField}
    {fault : EncodeFault} (wrong : byteFieldFault? packet field = some fault) :
    fault.isDeclared = true := by
  unfold byteFieldFault? at wrong
  split at wrong
  case h_2 => cases wrong
  case h_1 =>
    dsimp only at wrong
    split at wrong <;> split at wrong <;> cases wrong <;> rfl

/-- **A packet.**  Encoding fails with an undeclared fault exactly if the packet escapes. -/
theorem Codec.encode_escapes_iff {codec : Codec} {packet : Packet} {room : Nat} :
    (∃ fault, codec.encode packet room = .error fault ∧ fault.isDeclared = false) ↔
      codec.Escapes packet room := by
  constructor
  · rintro ⟨fault, failed, undeclared⟩
    cases encode_eq_iff.1 failed with
    | unsupported | noRoom | unfit => cases undeclared
    | lacksValue found fits short => exact ⟨_, found, fits, .inl short⟩
    | misfit found fits valued wrong =>
      obtain ⟨field, -, wrong⟩ := List.exists_of_findSome?_eq_some wrong
      rw [isDeclared_of_byteFieldFault? wrong] at undeclared
      cases undeclared
    | beyondFloat found fits valued checked refused =>
      exact ⟨_, found, fits, .inr ⟨valued, List.findSome?_eq_none_iff.1 checked,
        writeSlots_eq_beyondFloat_iff.1 refused⟩⟩
  · rintro ⟨shape, found, fits, short | ⟨valued, checked, first⟩⟩
    · exact ⟨.lacksValue, encode_eq_iff.2 (.lacksValue found fits short), rfl⟩
    · exact ⟨.beyondFloat, encode_eq_iff.2 (.beyondFloat found fits valued
        (List.findSome?_eq_none_iff.2 checked) (writeSlots_eq_beyondFloat_iff.2 first)), rfl⟩

/-- An encoded packet has the length that is told beforehand. -/
lemma Codec.encodedSize_of_encode {codec : Codec} {packet : Packet} {room : Nat} {bytes : Bytes}
    (encoded : codec.encode packet room = .ok bytes) :
    codec.encodedSize packet = .ok bytes.length := by
  obtain ⟨shape, record, written, rfl⟩ := of_encode encoded
  rw [encodedSize, shapeOf, written.found, written.length_eq]
  rfl

/-- Encoding a packet into a buffer goes as declared unless the packet escapes. -/
lemma Codec.encodeInto_asDeclared_iff {codec : Codec} {packet : Packet} {buffer : Bytes}
    {offset : Nat} :
    AsDeclared (codec.encodedSize packet) (codec.encodeInto packet buffer offset) ↔
      ¬ codec.Escapes packet (buffer.length - offset) := by
  rw [← encode_escapes_iff]
  exact asDeclared_iff _ fun _ => encodedSize_of_encode

namespace Datagram

variable {codec : Codec} {packet : Packet} {sender destination : LogicalAddress} {counter : Int}
  {room : Nat} {buffer bytes : Bytes}

/-- A datagram fails to be encoded in an undeclared way if its packet does, behind the envelope. -/
lemma encode_escapes_iff :
    (∃ fault, encode codec packet sender destination counter room = .error fault ∧
        fault.isDeclared = false) ↔
      (codecOf codec (kindOf packet)).Escapes packet (room - envelopeLength) := by
  by_cases enough : envelopeLength ≤ room
  case pos =>
    rw [encode_of_le enough, ← Codec.encode_escapes_iff]
    cases (codecOf codec (kindOf packet)).encode packet (room - envelopeLength) <;> simp [Except.map]
  case neg =>
    refine iff_of_false ?_ ?_
    · rintro ⟨fault, failed, undeclared⟩
      rw [encode, if_pos (Nat.lt_of_not_le enough)] at failed
      cases failed
      cases undeclared
    · -- Nothing is encoded where there is no room behind the envelope.
      rintro ⟨shape, -, fits, -⟩
      rw [Shape.encodedSize] at fits
      omega

/-- The length of an encoded datagram, which is told beforehand. -/
lemma encodedSize_of_encode
    (encoded : encode codec packet sender destination counter room = .ok bytes) :
    ((codecOf codec (kindOf packet)).encodedSize packet).map (envelopeLength + ·)
      = .ok bytes.length := by
  obtain ⟨body, encodedBody, rfl⟩ := of_encode encoded
  rw [Codec.encodedSize_of_encode encodedBody, List.length_append, Envelope.length_encode]
  rfl

/-- Encoding a datagram into a buffer goes as declared unless its packet escapes. -/
lemma encodeInto_asDeclared_iff :
    AsDeclared (((codecOf codec (kindOf packet)).encodedSize packet).map (envelopeLength + ·))
        (encodeInto codec packet sender destination counter buffer) ↔
      ¬ (codecOf codec (kindOf packet)).Escapes packet (buffer.length - envelopeLength) := by
  rw [encodeInto, asDeclared_iff _ fun _ => encodedSize_of_encode, encode_escapes_iff]

end Datagram

namespace Node

variable {σ : Type} {t : Transport σ} {node : Node} {destination : LogicalAddress} {packet : Packet}
  {s : σ}

/-- The number that a send gives its datagram; there is none if the peer is not known, or stale. -/
def nextNumber? (node : Node) (destination : LogicalAddress) : Option Int :=
  if destination.isBroadcast then some node.broadcastCounter
  else (node.map.lookup destination node.time).1.map Peer.toCounter

/-- Handing a datagram over is no encoding. -/
lemma transmit_ne_encode {endpoint : PhysicalAddress} {data : Bytes} {fault : EncodeFault} :
    (transmit t node endpoint data s).1 ≠ .error (.encode fault) := by
  rw [transmit]
  split <;> simp

/-- **Sending passes on what encoding reports**, and nothing else as a fault of encoding. -/
theorem send_eq_encode_iff {fault : EncodeFault} :
    (send t node destination packet s).1 = .error (.encode fault) ↔
      ∃ counter, node.nextNumber? destination = some counter ∧
        Datagram.encode node.codec packet node.host destination counter node.room
          = .error fault := by
  unfold send nextNumber?
  cases named : destination.isBroadcast with
  | true =>
    simp only [if_true, sendBroadcast, Option.some.injEq, exists_eq_left']
    split
    case h_1 failed => simp [failed]
    case h_2 encoded =>
      rw [encoded]
      refine iff_of_false ?_ (by simp)
      split
      · simp
      · split
        · simp
        · exact transmit_ne_encode
  | false =>
    simp only [Bool.false_eq_true, if_false, sendUnicast]
    rcases node.map.lookup destination node.time with ⟨_ | peer, map⟩
    case none => simp
    case some =>
      simp only [Option.map_some, Option.some.injEq, exists_eq_left']
      split
      case h_1 failed => simp [failed]
      case h_2 encoded =>
        rw [encoded]
        exact iff_of_false transmit_ne_encode (by simp)

/-- **Encoding goes as declared, unless the packet escapes.**  Take any codec, packet, buffer and offset.
Encoding the packet gives the length that is told beforehand, or fails with a fault that callers are told
to expect, exactly if the packet does not escape in the room from the offset on.  The same holds for its
datagram with any sender, destination and number, in the room behind the envelope.  A send reports an
undeclared fault of encoding exactly if it knows where to send to and the packet escapes in the node's own
buffer, whatever the transport. -/
theorem declared_unless_escapes (codec : Codec) (packet : Packet) (buffer : Bytes) (offset : Nat)
    (sender destination : LogicalAddress) (counter : Int) :
    (AsDeclared (codec.encodedSize packet) (codec.encodeInto packet buffer offset) ↔
      ¬ codec.Escapes packet (buffer.length - offset)) ∧
    (AsDeclared
        (((Datagram.codecOf codec (Datagram.kindOf packet)).encodedSize packet).map
          (envelopeLength + ·))
        (Datagram.encodeInto codec packet sender destination counter buffer) ↔
      ¬ (Datagram.codecOf codec (Datagram.kindOf packet)).Escapes packet
        (buffer.length - envelopeLength)) ∧
    ∀ {σ : Type} (t : Transport σ) (node : Node) (s : σ),
      (∃ fault, (send t node destination packet s).1 = .error (.encode fault) ∧
          fault.isDeclared = false) ↔
        (node.nextNumber? destination).isSome = true ∧
          (Datagram.codecOf node.codec (Datagram.kindOf packet)).Escapes packet
            (node.room - envelopeLength) := by
  refine ⟨Codec.encodeInto_asDeclared_iff, Datagram.encodeInto_asDeclared_iff, ?_⟩
  intro σ t node s
  constructor
  · rintro ⟨fault, failed, undeclared⟩
    obtain ⟨counter, numbered, failed⟩ := send_eq_encode_iff.1 failed
    exact ⟨by rw [numbered]; rfl, Datagram.encode_escapes_iff.1 ⟨fault, failed, undeclared⟩⟩
  · rintro ⟨routed, escapes⟩
    obtain ⟨counter, numbered⟩ := Option.isSome_iff_exists.1 routed
    obtain ⟨fault, failed, undeclared⟩ := Datagram.encode_escapes_iff.2 escapes
    exact ⟨fault, send_eq_encode_iff.2 ⟨counter, numbered, failed⟩, undeclared⟩

/-- Telemetry with a pressure of `1e39`, which the single precision of its field cannot hold. -/
def highPressure : Packet where
  type := Flight.telemetry
  values := [.int 1, .float ⟨0x48078287f49c4a1d⟩, .int 20, .bool true]

/-- A pressure too large for its field is reported in a way that callers are not told of, by the codec
and for a datagram. -/
theorem not_every_encoding_declared :
    Flight.codec.encodeInto highPressure (Bytes.zeros 64) 0 = .error .beyondFloat ∧
    Datagram.encodeInto Flight.codec highPressure .flightController .broadcast 0 (Bytes.zeros 64)
      = .error .beyondFloat ∧
    ¬ ∀ (codec : Codec) (packet : Packet) (buffer : Bytes) (offset : Nat),
      AsDeclared (codec.encodedSize packet) (codec.encodeInto packet buffer offset) := by
  have escaped : Flight.codec.encodeInto highPressure (Bytes.zeros 64) 0 = .error .beyondFloat := by
    decide +kernel
  refine ⟨escaped, by decide +kernel, ?_⟩
  intro declared
  have failed := declared Flight.codec highPressure (Bytes.zeros 64) 0
  rw [escaped] at failed
  cases failed

end Node

end RollCall
