import RollCall.Proofs.Counter
import RollCall.Proofs.Layout.Canonical
import RollCall.Proofs.Packet.Enrolment

/-!
# What decodes

Which bytes are a datagram can be said byte by byte: an envelope of ten bytes that keep to their
ranges, and a body of just the length that its tag asks for, with values that the constructor of its type
takes.  Decoding succeeds on these bytes and on no others.  Where it fails, the bytes are at fault, or the
constructor is, with a failure of its own.

An envelope has no byte that is passed over, so it is the encoding of what it decodes to.  A body may
have some, in filler or in a field that reads several bytes alike; where it has none, the whole datagram
is encoded again as it came, if the constructor has kept the values.

* `Envelope.decode_eq_ok_iff` — the bytes that decode to an envelope are its encoding and any body.
* `Envelope.Readable`, `Envelope.exists_decode_iff` — which bytes decode to an envelope.
* `Codec.encode_of_read`, `Datagram.encodeInto_of_decode` — what has an exact layout is encoded again
  as it came.
* `Constructors.Keeps` — a constructor that does not change values.
* `Datagram.reads_exactly` — **all of it for datagrams**, with any codec that registrations lead to and
  constructors of any kind; `Datagram.reads_otherwise` — what such constructors may lead to.
-/

namespace RollCall

/-! ## The envelope -/

namespace LogicalAddress

/-- Whether two bytes are an address: the code of a role, and a number, which is zero for a role that
has none. -/
def IsWire (code number : UInt8) : Prop :=
  ∃ role : Role, role.code = code ∧ (role.isInstanced = false → number = 0)

lemma exists_decode_iff (code number : UInt8) :
    (∃ a, decode [code, number] = .ok a) ↔ IsWire code number := by
  constructor
  · rintro ⟨a, decoded⟩
    have wire : [code, number] = a.encode := encode_of_decode decoded
    obtain ⟨role, number', fits⟩ := a
    cases wire
    refine ⟨role, rfl, ?_⟩
    intro single
    cases number' with
    | none => rfl
    | some n => rw [single] at fits; cases fits
  · rintro ⟨role, rfl, zero⟩
    cases instanced : role.isInstanced with
    | true => simp [decode, instanced]
    | false => simp [decode, instanced, zero instanced]

end LogicalAddress

namespace Envelope

variable {data : Bytes} {e : Envelope}

/-- Bytes that are long enough for an envelope, byte by byte. -/
lemma exists_bytes (long : envelopeLength ≤ data.length) :
    ∃ version role number role' number' k₀ k₁ k₂ k₃ kind body, data
      = version :: role :: number :: role' :: number' :: k₀ :: k₁ :: k₂ :: k₃ :: kind :: body := by
  unfold envelopeLength at long
  match data, long with
  | version :: role :: number :: role' :: number' :: k₀ :: k₁ :: k₂ :: k₃ :: kind :: body, _ =>
    exact ⟨version, role, number, role', number', k₀, k₁, k₂, k₃, kind, body, rfl⟩

/-- An envelope that decodes is long enough. -/
lemma long_of_decode (decoded : decode data = .ok e) : envelopeLength ≤ data.length := by
  by_contra short
  rw [decode, if_pos (by omega)] at decoded
  cases decoded

lemma code_of_ofCode? {code : UInt8} {kind : BodyKind}
    (known : BodyKind.ofCode? code.toNat = some kind) : kind.code = code := by
  unfold BodyKind.ofCode? at known
  split at known
  case isTrue zero =>
    cases known
    exact UInt8.toNat_inj.1 (by exact_mod_cast zero.symm)
  case isFalse =>
    split at known
    case isTrue one =>
      cases known
      exact UInt8.toNat_inj.1 (by exact_mod_cast one.symm)
    case isFalse => cases known

/-- What decoding has found in each byte. -/
lemma of_decode {version role number role' number' k₀ k₁ k₂ k₃ kind : UInt8} {body : Bytes}
    (decoded : decode
      (version :: role :: number :: role' :: number' :: k₀ :: k₁ :: k₂ :: k₃ :: kind :: body)
        = .ok e) :
    version = envelopeVersion ∧ LogicalAddress.decode [role, number] = .ok e.sender ∧
      LogicalAddress.decode [role', number'] = .ok e.destination ∧
      e.counter = Bytes.ofBigEndian [k₀, k₁, k₂, k₃] ∧ BodyKind.ofCode? kind.toNat = some e.kind := by
  rw [decode, if_neg (by simp [envelopeLength])] at decoded
  dsimp only [List.headD_cons, List.drop_succ_cons, List.drop_zero, List.take_succ_cons,
    List.take_zero] at decoded
  split at decoded
  case isTrue => cases decoded
  case isFalse current =>
    split at decoded
    case h_1 => cases decoded
    case h_2 sender known =>
      split at decoded
      case h_1 => cases decoded
      case h_2 destination known' =>
        split at decoded
        case h_1 => cases decoded
        case h_2 kind' known'' =>
          cases decoded
          exact ⟨not_not.1 current, known, known', rfl, known''⟩

/-- **The envelope is canonical.**  The bytes that decode to an envelope are its encoding, with any body
after it. -/
theorem decode_eq_ok_iff :
    decode data = .ok e ↔ Counter.wrap e.counter = e.counter ∧ ∃ body, data = e.encode ++ body := by
  constructor
  · intro decoded
    obtain ⟨version, role, number, role', number', k₀, k₁, k₂, k₃, kind, body, rfl⟩ :=
      exists_bytes (long_of_decode decoded)
    obtain ⟨rfl, sender, destination, counter, code⟩ := of_decode decoded
    have from1 : [role, number] = e.sender.encode := LogicalAddress.encode_of_decode sender
    have from3 : [role', number'] = e.destination.encode :=
      LogicalAddress.encode_of_decode destination
    have small : Bytes.ofBigEndian [k₀, k₁, k₂, k₃] < counterRange :=
      Nat.lt_of_lt_of_eq (Bytes.ofBigEndian_lt _) (by simp [counterRange])
    have wrapped : Counter.wrap e.counter = e.counter := by
      rw [counter]
      exact Counter.wrap_of_lt (Int.natCast_nonneg _) (Int.ofNat_lt.2 small)
    refine ⟨wrapped, body, ?_⟩
    rw [encode_append, wrapped, counter, Int.toNat_natCast, ← from1, ← from3, code_of_ofCode? code]
    have from5 := Bytes.bigEndian_ofBigEndian [k₀, k₁, k₂, k₃]
    rw [List.length_cons, List.length_cons, List.length_cons, List.length_singleton] at from5
    rw [from5]
    rfl
  · rintro ⟨wrapped, body, rfl⟩
    rw [decode_append, wrapped]

/-- An envelope that decodes is encoded again as it came. -/
lemma encode_of_decode (decoded : decode data = .ok e) : e.encode = data.take envelopeLength := by
  obtain ⟨-, body, rfl⟩ := decode_eq_ok_iff.1 decoded
  rw [List.take_left' (length_encode e)]

/-- The ten bytes of an envelope keep to their ranges. -/
structure Readable (data : Bytes) : Prop where
  long : envelopeLength ≤ data.length
  version : data[0]? = some envelopeVersion
  sender : ∃ code number, data[1]? = some code ∧ data[2]? = some number ∧
    LogicalAddress.IsWire code number
  destination : ∃ code number, data[3]? = some code ∧ data[4]? = some number ∧
    LogicalAddress.IsWire code number
  kind : data[9]? = some 0 ∨ data[9]? = some 1

/-- **Just the readable envelopes decode.** -/
theorem exists_decode_iff : (∃ e, decode data = .ok e) ↔ Readable data := by
  constructor
  · rintro ⟨e, decoded⟩
    have long := long_of_decode decoded
    obtain ⟨version, role, number, role', number', k₀, k₁, k₂, k₃, kind, body, rfl⟩ :=
      exists_bytes long
    obtain ⟨rfl, sender, destination, -, code⟩ := of_decode decoded
    refine ⟨long, rfl, ⟨role, number, rfl, rfl, ?_⟩, ⟨role', number', rfl, rfl, ?_⟩, ?_⟩
    · exact (LogicalAddress.exists_decode_iff role number).1 ⟨_, sender⟩
    · exact (LogicalAddress.exists_decode_iff role' number').1 ⟨_, destination⟩
    · rw [← code_of_ofCode? code]
      cases e.kind <;> simp [BodyKind.code]
  · intro readable
    obtain ⟨version, role, number, role', number', k₀, k₁, k₂, k₃, kind, body, rfl⟩ :=
      exists_bytes readable.long
    obtain ⟨_, _, ⟨⟩, ⟨⟩, sender⟩ := readable.sender
    obtain ⟨_, _, ⟨⟩, ⟨⟩, destination⟩ := readable.destination
    cases readable.version
    obtain ⟨a, decoded⟩ := (LogicalAddress.exists_decode_iff _ _).2 sender
    obtain ⟨b, decoded'⟩ := (LogicalAddress.exists_decode_iff _ _).2 destination
    have known : ∃ k, BodyKind.ofCode? kind.toNat = some k := by
      rcases readable.kind with zero | one
      · cases zero; exact ⟨.shared, rfl⟩
      · cases one; exact ⟨.application, rfl⟩
    obtain ⟨k, known⟩ := known
    refine ⟨⟨a, b, Bytes.ofBigEndian [k₀, k₁, k₂, k₃], k⟩, ?_⟩
    rw [decode, if_neg (by simp [envelopeLength])]
    simp [decoded, decoded', known]

end Envelope

/-! ## The body -/

namespace Codec

variable {codec : Codec} {bytes : Bytes} {type : PacketType} {values : List FieldValue}

/-- A shape reads as many values as its type has fields. -/
lemma length_readRecord {shape : Shape} (sound : shape.Sound) (record : Bytes) :
    (readRecord shape record).length = shape.type.fields.length := by
  rw [readRecord, length_readSlots, ← Layout.fields, Layout.length_fields, sound.fieldCount]

/-- No byte string of a packet that was read has a wrong length. -/
lemma checked_of_read {shape : Shape} {record : Bytes} (sound : shape.Sound)
    (exact : shape.layout.isExact = true) (full : record.length = shape.layout.size) :
    shape.byteFields.findSome? (byteFieldFault? ⟨shape.type, readRecord shape record⟩) = none := by
  rw [List.findSome?_eq_none_iff, sound.byteFields]
  intro field listed
  obtain ⟨code, stands, string, counted⟩ := Layout.of_mem_byteFields listed
  have held : (code, field.width) ∈ shape.layout.fields := List.mem_of_getElem? stands
  obtain ⟨slot, among, holds⟩ := List.mem_filterMap.1 held
  rw [Layout.size_eq_slots] at full
  obtain ⟨chunk, width, value⟩ := readSlots_eq_chunk shape.layout.convention.order full stands
  -- An exact field that is a byte string has a fixed length.
  obtain rfl : code = .fixedBytes := by
    have faithful := List.all_eq_true.1 exact slot among
    cases slot with
    | filler => cases holds
    | field =>
      cases holds
      cases code with
      | fixedBytes => rfl
      | countedBytes => cases faithful
      | _ => cases string
  rw [byteFieldFault?, readRecord]
  dsimp only
  rw [value, counted]
  show (if chunk.length ≠ field.width then _ else none) = none
  rw [if_neg (not_not_intro width)]

/-- **What was read with an exact layout is encoded again as it came**, wherever there is room for it. -/
theorem encode_of_read (owned : codec.Owned) (read : codec.read bytes = .ok (type, values)) :
    ∃ shape, codec.shapeOfType? type.name = some shape ∧
      (shape.layout.isExact = true → ∀ room, bytes.length ≤ room →
        codec.encode ⟨type, values⟩ room = .ok bytes) := by
  obtain ⟨tag, shape, record, ⟨rfl, known, full⟩, rfl, rfl⟩ := read_eq_ok_iff.1 read
  have found := owned.type known
  have sound := owned.sound found
  obtain rfl := owned.tag known
  refine ⟨shape, found, ?_⟩
  intro exact room fits
  rw [List.length_cons, full, Nat.add_comm] at fits
  have written : writeSlots shape.layout.convention shape.layout.slots (readRecord shape record)
      = .ok record := by
    refine writeSlots_readSlots (List.all_eq_true.1 exact) ?_ ?_
    · intro field held other
      exact Layout.length_of_mem_fields held other
    · rw [full, Layout.size_eq_slots]
  have encoded : Encoded codec ⟨shape.type, readRecord shape record⟩ room shape record :=
    ⟨found, fits, Nat.le_of_eq (length_readRecord sound record).symm,
      checked_of_read sound exact full, written⟩
  exact encoded.encode_eq

end Codec

/-! ## The whole datagram -/

/-- The constructor of a type keeps the values of which it makes a packet. -/
def Constructors.Keeps (make : Constructors) (type : PacketType) : Prop :=
  ∀ values made, make type values = .made made → made = values

/-- What goes by a rule alone keeps all values. -/
lemma Constructors.keeps_ofRules (type : PacketType) : Constructors.ofRules.Keeps type := by
  intro values made kept
  rw [ofRules] at kept
  cases constructed : type.construct values with
  | error refusal => rw [constructed] at kept; cases kept
  | ok packet =>
    obtain ⟨-, -, rfl⟩ := PacketType.construct_eq_ok.1 constructed
    rw [constructed] at kept
    cases kept
    rfl

namespace Datagram

variable {codec : Codec} {data : Bytes} {packet : Packet} {kind : BodyKind} {make : Constructors}

lemma decodeBody_eq_ok_iff : decodeBody codec kind data = .ok packet ↔
    (codecOf codec kind).decode (data.drop envelopeLength) = .ok packet := by
  unfold decodeBody
  cases (codecOf codec kind).decode (data.drop envelopeLength) <;> simp [Except.mapError]

/-- A body that is read for a type other than the announcement's came in the kind of body that packets of
the type are sent in. -/
lemma kindOf_of_read {type : PacketType} {values made : List FieldValue}
    (read : (codecOf codec kind).read (data.drop envelopeLength) = .ok (type, values))
    (plain : (Packet.mk type made).isAnnouncement = false) : kindOf ⟨type, made⟩ = kind := by
  rw [kindOf_of_application plain]
  cases kind with
  | application => rfl
  | shared =>
    obtain ⟨tag, shape, record, framed, rfl, -⟩ := Codec.read_eq_ok_iff.1 read
    have known := framed.known
    rw [codecOf, sharedCodec, Codec.shapeOfTag?_enter] at known
    split at known
    case isTrue => cases known; cases plain
    case isFalse => cases known

/-- A body is decoded just if the constructor of the type of its tag makes the packet. -/
lemma decodeBodyWith_eq_ok_iff : decodeBodyWith make codec kind data = .ok packet ↔
    ∃ tag shape record values,
      (codecOf codec kind).Framed (data.drop envelopeLength) tag shape record ∧
      make shape.type (Codec.readRecord shape record) = .made values ∧
      packet = ⟨shape.type, values⟩ := by
  rw [decodeBodyWith, Codec.decodeWith_eq_ok_iff]
  constructor
  · rintro ⟨type, values, made, read, constructed, rfl⟩
    obtain ⟨tag, shape, record, framed, rfl, rfl⟩ := Codec.read_eq_ok_iff.1 read
    exact ⟨tag, shape, record, made, framed, constructed, rfl⟩
  · rintro ⟨tag, shape, record, made, framed, constructed, rfl⟩
    exact ⟨_, _, made, framed.read_eq, constructed, rfl⟩

/-- A failure is passed on just if it is that of the constructor of the type of the tag. -/
lemma decodeBodyWith_eq_escaped_iff {failure : String} :
    decodeBodyWith make codec kind data = .error (.escaped failure) ↔
      ∃ tag shape record,
        (codecOf codec kind).Framed (data.drop envelopeLength) tag shape record ∧
        make shape.type (Codec.readRecord shape record) = .failed failure := by
  rw [decodeBodyWith, Codec.decodeWith_eq_escaped_iff]
  constructor
  · rintro ⟨type, values, read, constructed⟩
    obtain ⟨tag, shape, record, framed, rfl, rfl⟩ := Codec.read_eq_ok_iff.1 read
    exact ⟨tag, shape, record, framed, constructed⟩
  · rintro ⟨tag, shape, record, framed, constructed⟩
    exact ⟨_, _, framed.read_eq, constructed⟩

/-- **A datagram of an exact layout is encoded again as it came**, into any buffer that has room for
it, if it is no announcement and its constructor keeps the values. -/
theorem encodeInto_of_decode (owned : codec.Owned) {e : Envelope}
    (decoded : Envelope.decode data = .ok e)
    (body : decodeBodyWith make codec e.kind data = .ok packet)
    (plain : packet.isAnnouncement = false) (keeps : make.Keeps packet.type) :
    ∃ shape, codec.shapeOfType? packet.type.name = some shape ∧
      (shape.layout.isExact = true → ∀ buffer, data.length ≤ buffer.length →
        encodeInto codec packet e.sender e.destination e.counter buffer
          = .ok (data.length, data ++ buffer.drop data.length)) := by
  obtain ⟨type, values, made, read, constructed, rfl⟩ := Codec.decodeWith_eq_ok_iff.1 body
  obtain rfl := keeps values made constructed
  have kind := kindOf_of_read read plain
  rw [kindOf_of_application plain] at kind
  rw [← kind] at read
  obtain ⟨shape, found, again⟩ := Codec.encode_of_read owned read
  refine ⟨shape, found, ?_⟩
  intro exact buffer fits
  obtain ⟨-, rest, rfl⟩ := Envelope.decode_eq_ok_iff.1 decoded
  rw [List.length_append, Envelope.length_encode] at fits
  rw [List.drop_left' (Envelope.length_encode e)] at again
  have encoded := again exact (buffer.length - envelopeLength) (by omega)
  have whole : encode codec ⟨type, made⟩ e.sender e.destination e.counter buffer.length
      = .ok (e.encode ++ rest) := by
    rw [encode_of_le (by omega), kindOf_of_application plain]
    show Except.map _ (codec.encode _ _) = _
    rw [encoded, kind]
    rfl
  rw [encodeInto, whole]
  show Except.ok (_, Bytes.overwrite buffer 0 (e.encode ++ rest)) = _
  rw [Bytes.overwrite, List.take_zero, List.nil_append, Nat.zero_add]

/-- **Decoding accepts just the datagrams of the format.**  An envelope decodes exactly if its ten bytes
keep to their ranges, and else there is a fault; it is then the encoding of what it decodes to, so that
envelopes that decode alike are alike.

A body decodes exactly if it begins with a tag of its codec, has the length that the tag asks for and
holds values of which the constructor of the tag's type makes a packet.  It fails with another failure
than a fault of the bytes exactly if that constructor does.  A packet of the application whose layout
leaves nothing unread, and whose constructor keeps values, is encoded again as the same datagram, into any
buffer that has room for it. -/
theorem reads_exactly (make : Constructors) (calls : List Enrolment.Call) (data : Bytes) :
    let codec := (Enrolment.run calls).codec
    ((∃ e, Envelope.decode data = .ok e) ↔ Envelope.Readable data) ∧
    (¬ Envelope.Readable data → ∃ fault, Envelope.decode data = .error fault) ∧
    (∀ e, Envelope.decode data = .ok e → e.encode = data.take envelopeLength ∧
      ∀ other, Envelope.decode other = .ok e →
        other.take envelopeLength = data.take envelopeLength) ∧
    ∀ e, Envelope.decode data = .ok e →
      (∀ packet, decodeBodyWith make codec e.kind data = .ok packet ↔
        ∃ tag shape record values,
          (codecOf codec e.kind).Framed (data.drop envelopeLength) tag shape record ∧
          make shape.type (Codec.readRecord shape record) = .made values ∧
          packet = ⟨shape.type, values⟩) ∧
      (∀ failure, decodeBodyWith make codec e.kind data = .error (.escaped failure) ↔
        ∃ tag shape record,
          (codecOf codec e.kind).Framed (data.drop envelopeLength) tag shape record ∧
          make shape.type (Codec.readRecord shape record) = .failed failure) ∧
      ((∀ packet, decodeBodyWith make codec e.kind data ≠ .ok packet) →
        (∀ failure, decodeBodyWith make codec e.kind data ≠ .error (.escaped failure)) →
        ∃ fault, decodeBodyWith make codec e.kind data = .error (.malformed fault)) ∧
      ∀ packet, decodeBodyWith make codec e.kind data = .ok packet →
        packet.isAnnouncement = false → make.Keeps packet.type →
        ∃ shape, codec.shapeOfType? packet.type.name = some shape ∧
          (shape.layout.isExact = true → ∀ buffer, data.length ≤ buffer.length →
            encodeInto codec packet e.sender e.destination e.counter buffer
              = .ok (data.length, data ++ buffer.drop data.length)) := by
  intro codec
  have owned : codec.Owned := (Enrolment.valid_run calls).owned
  refine ⟨Envelope.exists_decode_iff, ?unreadable, ?canonical, ?body⟩
  case unreadable =>
    intro unreadable
    cases decoded : Envelope.decode data with
    | error fault => exact ⟨fault, rfl⟩
    | ok e => exact absurd (Envelope.exists_decode_iff.1 ⟨e, decoded⟩) unreadable
  case canonical =>
    intro e decoded
    refine ⟨Envelope.encode_of_decode decoded, ?_⟩
    intro other alike
    rw [← Envelope.encode_of_decode decoded, ← Envelope.encode_of_decode alike]
  case body =>
    intro e decoded
    refine ⟨fun _ => decodeBodyWith_eq_ok_iff, fun _ => decodeBodyWith_eq_escaped_iff,
      Codec.malformed_of_decodeWith, ?_⟩
    intro packet body plain keeps
    exact encodeInto_of_decode owned decoded body plain keeps

/-! ### A command -/

/-- A command: its number, a flag as an integer, three letters and one more. -/
def command : PacketType := ⟨"Command", ["number", "flag", "name", "unit"], true, fun _ => none⟩

/-- A command under tag nine, with the least significant bytes first, in a datagram to all. -/
def commandData : Bytes :=
  [1, 2, 0, 0, 0, 0, 0, 0, 7, 1, 9, 0xfe, 0xff, 1, 0, 0, 0, 97, 98, 99, 33]

def readCommand : Packet := ⟨command, [.int (-2), .int 1, .bytes [97, 98, 99], .bytes [33]]⟩

/-- A command is encoded again as it came, at the front of a longer buffer. -/
theorem reads_exactly_command :
    let codec := (Enrolment.run [.reserve 9 "<hI3sc", .complete 0 command]).codec
    Envelope.Readable commandData ∧
      decodeBodyWith .ofRules codec .application commandData = .ok readCommand ∧
      encodeInto codec readCommand .flightController .broadcast 7 (Bytes.zeros 30)
        = .ok (21, commandData ++ Bytes.zeros 9) := by
  intro codec
  have front : Envelope.decode commandData
      = .ok ⟨.flightController, .broadcast, 7, .application⟩ := by decide +kernel
  have body : decodeBodyWith .ofRules codec .application commandData = .ok readCommand := by rfl
  obtain ⟨readable, -, -, body'⟩ :=
    reads_exactly .ofRules [.reserve 9 "<hI3sc", .complete 0 command] commandData
  obtain ⟨-, -, -, again⟩ := body' _ front
  obtain ⟨shape, found, again⟩ := again readCommand body rfl (Constructors.keeps_ofRules _)
  have exact : ((codec.shapeOfType? "Command").all fun shape => shape.layout.isExact) = true := by
    decide +kernel
  rw [show codec.shapeOfType? "Command" = some shape from found] at exact
  exact ⟨readable.1 ⟨_, front⟩, body, again exact (Bytes.zeros 30) (by decide)⟩

/-- A constructor that looks its values up in a table, and finds none of them. -/
def lost : Constructors := fun _ _ => .failed "not in the table"

/-- A constructor that makes do without the flag of a command. -/
def unflagged : Constructors := fun _ values => .made (values.set 1 (.int 0))

/-- **Not every constructor leaves decoding as it is.**  A failure of one may be no fault of the bytes, and
is passed on; and the packet of one that changes a value is encoded as other bytes than it came in. -/
theorem reads_otherwise :
    let codec := (Enrolment.run [.reserve 9 "<hI3sc", .complete 0 command]).codec
    decodeBodyWith lost codec .application commandData = .error (.escaped "not in the table") ∧
      decodeBodyWith unflagged codec .application commandData
        = .ok ⟨command, [.int (-2), .int 0, .bytes [97, 98, 99], .bytes [33]]⟩ ∧
      encodeInto codec ⟨command, [.int (-2), .int 0, .bytes [97, 98, 99], .bytes [33]]⟩
          .flightController .broadcast 7 (Bytes.zeros 21)
        = .ok (21, [1, 2, 0, 0, 0, 0, 0, 0, 7, 1, 9, 0xfe, 0xff, 0, 0, 0, 0, 97, 98, 99, 33]) := by
  refine ⟨?_, ?_, ?_⟩
  · rfl
  · rfl
  · decide +kernel

end Datagram

end RollCall
