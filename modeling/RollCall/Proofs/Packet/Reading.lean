import Mathlib.Logic.Basic
import Mathlib.Tactic.Lemma
import RollCall.Packet.Datagram

/-!
# Packets made of what was read

Decoding has two halves.  The first finds the shape of the tag and reads the field values; the second
calls the constructor of the type, which may do as it likes.  What comes out is then told by what the
constructor did, and the lemmas below say so for each of the three ends that its call can have.

* `PacketType.construct_eq_ok` — a constructor that goes by a rule.
* `Codec.Framed`, `Codec.read_eq_ok_iff` — **the first half succeeds just if the bytes are a tag that the
  codec knows and a record of the length that goes with it.**
* `Codec.decodeWith_eq_ok_iff`, `Codec.decodeWith_eq_escaped_iff`, `Codec.malformed_of_decodeWith` — the
  ends of decoding.
* `Codec.decodeWith_ofRules` — where there are only rules, all failures are faults of the bytes.
-/

namespace RollCall

/-- A packet is made of as many values as its type has fields, if the type does not refuse them. -/
lemma PacketType.construct_eq_ok {type : PacketType} {values : List FieldValue} {packet : Packet} :
    type.construct values = .ok packet ↔
      values.length = type.fields.length ∧ type.refusal values = none ∧ packet = ⟨type, values⟩ := by
  unfold construct
  constructor
  · intro made
    split at made
    case isTrue => cases made
    case isFalse number =>
      cases refused : type.refusal values with
      | some refusal => rw [refused] at made; cases made
      | none =>
        rw [refused] at made
        cases made
        exact ⟨not_not.1 number, rfl, rfl⟩
  · rintro ⟨number, refused, rfl⟩
    rw [if_neg (not_not_intro number), refused]

namespace Codec

variable {codec : Codec} {bytes record : Bytes} {packet : Packet} {shape : Shape} {tag : UInt8}
  {type : PacketType} {values : List FieldValue} {make : Constructors}

/-! ## What is read -/

/-- Bytes that are a tag of the codec and a record of the length that the tag asks for. -/
structure Framed (codec : Codec) (bytes : Bytes) (tag : UInt8) (shape : Shape) (record : Bytes) :
    Prop where
  split : bytes = tag :: record
  known : codec.shapeOfTag? tag = some shape
  full : record.length = shape.layout.size

/-- **Framed bytes are read, and no others**, as values for the type of the tag. -/
theorem read_eq_ok_iff : codec.read bytes = .ok (type, values) ↔
    ∃ tag shape record, codec.Framed bytes tag shape record ∧ type = shape.type ∧
      values = readRecord shape record := by
  constructor
  · intro found
    cases bytes with
    | nil => cases found
    | cons tag record =>
      rw [read] at found
      split at found
      case h_1 => cases found
      case h_2 shape known =>
        split at found
        case isTrue => cases found
        case isFalse full =>
          cases found
          exact ⟨tag, shape, record, ⟨rfl, known, Nat.add_left_cancel (not_not.1 full)⟩, rfl, rfl⟩
  · rintro ⟨tag, shape, record, ⟨rfl, known, full⟩, rfl, rfl⟩
    have whole : 1 + record.length = shape.encodedSize := congrArg (1 + ·) full
    rw [read, known]
    exact if_neg (not_not_intro whole)

lemma Framed.read_eq (framed : codec.Framed bytes tag shape record) :
    codec.read bytes = .ok (shape.type, readRecord shape record) :=
  read_eq_ok_iff.2 ⟨tag, shape, record, framed, rfl, rfl⟩

/-! ## What is made of it -/

/-- What was read and what the rule of its type passes is decoded, and nothing else. -/
lemma decode_eq_ok_iff : codec.decode bytes = .ok packet ↔
    ∃ type values, codec.read bytes = .ok (type, values) ∧ type.construct values = .ok packet := by
  unfold decode
  cases codec.read bytes with
  | error fault => simp
  | ok found =>
    obtain ⟨type, values⟩ := found
    cases made : type.construct values with
    | ok other => simp [made, and_assoc]
    | error refusal => simp [made, and_assoc]

/-- A packet is decoded just if its constructor makes it of what was read. -/
lemma decodeWith_eq_ok_iff : codec.decodeWith make bytes = .ok packet ↔
    ∃ type values made, codec.read bytes = .ok (type, values) ∧ make type values = .made made ∧
      packet = ⟨type, made⟩ := by
  unfold decodeWith
  cases codec.read bytes with
  | error fault => simp
  | ok found =>
    obtain ⟨type, values⟩ := found
    cases made : make type values with
    | made kept => simp [made, and_assoc, eq_comm]
    | refused refusal => simp [made, and_assoc]
    | failed failure => simp [made, and_assoc]

/-- A failure is passed on just if it is the constructor's own. -/
lemma decodeWith_eq_escaped_iff {failure : String} :
    codec.decodeWith make bytes = .error (.escaped failure) ↔
      ∃ type values, codec.read bytes = .ok (type, values) ∧ make type values = .failed failure := by
  unfold decodeWith
  cases codec.read bytes with
  | error fault => simp
  | ok found =>
    obtain ⟨type, values⟩ := found
    cases made : make type values with
    | made kept => simp [made, and_assoc]
    | refused refusal => simp [made, and_assoc]
    | failed other => simp [made, and_assoc]

/-- Whatever is neither decoded nor passed on is a fault of the bytes. -/
lemma malformed_of_decodeWith (unmade : ∀ packet, codec.decodeWith make bytes ≠ .ok packet)
    (kept : ∀ failure, codec.decodeWith make bytes ≠ .error (.escaped failure)) :
    ∃ fault, codec.decodeWith make bytes = .error (.malformed fault) := by
  cases result : codec.decodeWith make bytes with
  | ok packet => exact absurd result (unmade packet)
  | error failure =>
    cases failure with
    | malformed fault => exact ⟨fault, rfl⟩
    | escaped failure => exact absurd result (kept failure)

/-- **Where there are only rules, every failure is a fault of the bytes.** -/
theorem decodeWith_ofRules (codec : Codec) (bytes : Bytes) :
    codec.decodeWith .ofRules bytes = (codec.decode bytes).mapError .malformed := by
  unfold decodeWith decode
  cases codec.read bytes with
  | error fault => rfl
  | ok found =>
    obtain ⟨type, values⟩ := found
    dsimp only
    rw [Constructors.ofRules]
    cases made : type.construct values with
    | ok packet =>
      obtain ⟨-, -, rfl⟩ := PacketType.construct_eq_ok.1 made
      rfl
    | error refusal => rfl

end Codec

end RollCall
