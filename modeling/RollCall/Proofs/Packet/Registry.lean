import Mathlib.Tactic.Lemma
import RollCall.Packet.Datagram
import RollCall.Proofs.Layout.ByteField

/-!
# What a registry knows

A codec is built by registrations, each of which enters a shape under a free tag and under a new
type.  So the two tables of a codec tell the same: the shape that is found by the type of a packet
is the one that its tag leads to, and it describes its own layout rightly.

* `Codec.Built` — the codecs that registrations lead to.
* `Codec.registered` — what a registration that succeeds has checked and entered.
* `Shape.Sound` — a shape has a value for each field, and its byte strings are those of its layout.
* `Codec.Consistent` — both tables lead to the same shapes, all of them sound.
* `Codec.Built.consistent` — **every codec that is built is consistent**, and so is the shared one.
-/

namespace RollCall

/-- A shape describes its layout rightly. -/
structure Shape.Sound (shape : Shape) : Prop where
  byteFields : shape.byteFields = shape.layout.byteFields
  fieldCount : shape.layout.valueCount = shape.type.fields.length

namespace Codec

variable {codec after : Codec} {tag : Int} {written : String} {type : PacketType} {shape : Shape}

/-- What a registration that succeeds has checked, and what it has entered. -/
structure Registered (codec : Codec) (written : String) (type : PacketType) (shape : Shape)
    (after : Codec) : Prop where
  entered : after = codec.enter shape
  tagFree : codec.shapeOfTag? shape.tag = none
  typeFree : codec.shapeOfType? shape.type.name = none
  type : shape.type = type
  layout : Layout.ofText? written = some shape.layout
  sound : shape.Sound

/-- What the first phase has checked. -/
lemma of_reserve {registration : Registration}
    (reserved : codec.reserve tag written = .ok registration) :
    codec.shapeOfTag? registration.tag = none ∧ registration.written = written ∧
      Layout.ofText? written = some registration.layout := by
  unfold reserve at reserved
  split at reserved
  case isFalse => cases reserved
  case isTrue =>
    dsimp only at reserved
    split at reserved
    case h_1 => cases reserved
    case h_2 free =>
      split at reserved
      case isFalse => cases reserved
      case isTrue =>
        split at reserved
        case h_2 => cases reserved
        case h_1 layout read =>
          cases reserved
          exact ⟨free, rfl, read⟩

/-- What the second phase has checked and entered. -/
lemma of_complete {registration : Registration}
    (done : codec.complete registration type = .ok after) :
    codec.isRegistered type.name = false ∧
      registration.layout.valueCount = type.fields.length ∧
      ∃ byteFields, byteFields? (Layout.markedText registration.written.toList) = some byteFields ∧
        after = codec.enter ⟨registration.tag, type, registration.layout, byteFields⟩ := by
  unfold complete at done
  split at done
  case isTrue => cases done
  case isFalse =>
    split at done
    case isTrue => cases done
    case isFalse free =>
      split at done
      case isTrue => cases done
      case isFalse =>
        split at done
        case isTrue => cases done
        case isFalse =>
          split at done
          case isTrue => cases done
          case isFalse =>
            split at done
            case isTrue => cases done
            case isFalse counted =>
              split at done
              case h_1 => cases done
              case h_2 byteFields scanned =>
                cases done
                exact ⟨by simpa using free, by simpa using counted, byteFields, scanned, rfl⟩

/-- A second phase that succeeds enters a sound shape of the type under a tag that it had not. -/
lemma completed {registration : Registration}
    (read : Layout.ofText? registration.written = some registration.layout)
    (done : codec.complete registration type = .ok after) :
    ∃ shape : Shape, shape.Sound ∧ shape.tag = registration.tag ∧ shape.type = type ∧
      shape.layout = registration.layout ∧ codec.shapeOfType? type.name = none ∧
      after = codec.enter shape := by
  obtain ⟨typeFree, counted, byteFields, scanned, rfl⟩ := of_complete done
  refine ⟨⟨registration.tag, type, registration.layout, byteFields⟩,
    ⟨byteFields?_eq read scanned, counted⟩, rfl, rfl, rfl, ?_, rfl⟩
  exact Option.isNone_iff_eq_none.1 (by rw [← Option.not_isSome, ← isRegistered, typeFree]; rfl)

lemma registered (done : codec.register tag written type = .ok after) :
    ∃ shape, Registered codec written type shape after := by
  rw [register] at done
  cases reserved : codec.reserve tag written with
  | error fault => rw [reserved] at done; cases done
  | ok registration =>
    rw [reserved] at done
    obtain ⟨tagFree, rfl, read⟩ := of_reserve reserved
    obtain ⟨shape, sound, tag, type, layout, typeFree, entered⟩ := completed read done
    refine ⟨shape, entered, ?_, ?_, type, ?_, sound⟩
    · rw [tag, tagFree]
    · rw [type, typeFree]
    · rw [layout, read]

/-- The codecs that registrations lead to, each completed before the next one begins. -/
inductive Built : Codec → Prop
  | empty : Built .empty
  | register {codec after : Codec} {tag : Int} {written : String} {type : PacketType} :
      Built codec → codec.register tag written type = .ok after → Built after

/-- Both tables lead to the same shapes: what is found by a type is of that type, stands under its
tag, and describes its layout rightly. -/
structure Consistent (codec : Codec) : Prop where
  named : ∀ {name shape}, codec.shapeOfType? name = some shape → shape.type.name = name
  tagged : ∀ {name shape}, codec.shapeOfType? name = some shape →
    codec.shapeOfTag? shape.tag = some shape
  sound : ∀ {name shape}, codec.shapeOfType? name = some shape → shape.Sound

lemma shapeOfType?_enter (codec : Codec) (shape : Shape) (name : String) :
    (codec.enter shape).shapeOfType? name
      = if name = shape.type.name then some shape else codec.shapeOfType? name := by
  unfold shapeOfType? enter
  rw [List.lookup_cons]
  by_cases same : name = shape.type.name
  · simp [same]
  · simp [same, beq_false_of_ne same]

lemma shapeOfTag?_enter (codec : Codec) (shape : Shape) (tag : UInt8) :
    (codec.enter shape).shapeOfTag? tag
      = if tag = shape.tag then some shape else codec.shapeOfTag? tag := by
  unfold shapeOfTag? enter
  rw [List.lookup_cons]
  by_cases same : tag = shape.tag
  · simp [same]
  · simp [same, beq_false_of_ne same]

/-- Entering a sound shape under a free tag keeps the tables consistent: the shapes found before have
other tags. -/
lemma Consistent.enter (consistent : codec.Consistent)
    (tagFree : codec.shapeOfTag? shape.tag = none) (sound : shape.Sound) :
    (codec.enter shape).Consistent := by
  have cases {name : String} {found : Shape}
      (there : (codec.enter shape).shapeOfType? name = some found) :
      (name = shape.type.name ∧ found = shape) ∨ codec.shapeOfType? name = some found := by
    rw [shapeOfType?_enter] at there
    split at there
    · exact .inl ⟨‹_›, (Option.some.inj there).symm⟩
    · exact .inr there
  refine ⟨fun there => ?_, fun there => ?_, fun there => ?_⟩
  · rcases cases there with ⟨same, rfl⟩ | before
    · exact same.symm
    · exact consistent.named before
  · rw [shapeOfTag?_enter]
    rcases cases there with ⟨-, rfl⟩ | before
    · exact if_pos rfl
    · have tagged := consistent.tagged before
      rw [if_neg fun same => ?_, tagged]
      rw [same, tagFree] at tagged
      cases tagged
  · rcases cases there with ⟨-, rfl⟩ | before
    · exact sound
    · exact consistent.sound before

/-- **Every codec that is built is consistent.** -/
theorem Built.consistent (built : codec.Built) : codec.Consistent := by
  induction built with
  | empty =>
    exact ⟨fun there => (by cases there), fun there => (by cases there), fun there => (by cases there)⟩
  | register _ done ih =>
    obtain ⟨shape, step⟩ := registered done
    rw [step.entered]
    exact ih.enter step.tagFree step.sound

/-- The codec that all nodes share is built by one registration. -/
lemma sharedCodec_built : sharedCodec.Built := by
  have done : empty.register 0 "!I" heartbeat = .ok sharedCodec := by rfl
  exact .register .empty done

end Codec

end RollCall
