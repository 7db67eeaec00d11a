import Mathlib.Data.List.Induction
import RollCall.Packet.Rule
import RollCall.Proofs.Packet.RoundTrip

/-!
# Registrations that overlap

The two phases of a registration may lie apart: a tag is reserved at one time and a type enters under
it at another, or several types try one after the other, and other registrations come in between.  The
first phase checks that the tag is free, and the second that the type is new.

So a type keeps its tag whatever happens, and what stands under a tag is always what is known of its
type (`Enrolment.valid_run`).  The converse fails: the second phase does not ask again whether the tag is
free, and a tag that has been reserved twice, or is used twice, passes to the later type without a word
and is lost to the earlier one (`not_every_enrolment_bijective`).  It fails in no other way, so that the
tables are inverse to each other all along just if each type finds its tag free when it enters.

* `Enrolment`, `Enrolment.Call`, `Enrolment.run` — a codec with the registrations that are under way.
* `Codec.Owned` — what stands under a tag has this tag, and is what is known of its type.
* `Enrolment.valid_run` — a codec is so after every run.
* `Enrolment.Punctual` — no type enters under a tag that another has.
* `Codec.Bijective` — the tables of a codec are inverse to each other.
* `Enrolment.bijective_iff_punctual` — **the tables are inverse to each other after every step of a run
  just if it is punctual**; then what was encoded is read as values for its own type.
-/

namespace RollCall

namespace Codec

variable {codec : Codec} {shape : Shape}

/-- What stands under a tag has this tag, and is what is known of its type; and what is known of a
type is of that type, and describes its layout rightly. -/
structure Owned (codec : Codec) : Prop where
  tag : ∀ {tag shape}, codec.shapeOfTag? tag = some shape → shape.tag = tag
  type : ∀ {tag shape}, codec.shapeOfTag? tag = some shape →
    codec.shapeOfType? shape.type.name = some shape
  named : ∀ {name shape}, codec.shapeOfType? name = some shape → shape.type.name = name
  sound : ∀ {name shape}, codec.shapeOfType? name = some shape → shape.Sound

lemma Owned.empty : Codec.empty.Owned := by
  constructor <;> intro _ _ found <;> cases found

/-- Entering a sound shape of a new type keeps this, also where the tag is taken: what is known of
the types before stays as it is. -/
lemma Owned.enter (owned : codec.Owned) (new : codec.shapeOfType? shape.type.name = none)
    (sound : shape.Sound) : (codec.enter shape).Owned := by
  constructor
  case tag =>
    intro tag found there
    rw [shapeOfTag?_enter] at there
    split at there
    case isTrue same => cases there; exact same.symm
    case isFalse => exact owned.tag there
  case type =>
    intro tag found there
    rw [shapeOfTag?_enter] at there
    rw [shapeOfType?_enter]
    split at there
    case isTrue => cases there; exact if_pos rfl
    case isFalse =>
      have known := owned.type there
      rw [if_neg, known]
      intro same
      rw [same, new] at known
      cases known
  case named =>
    intro name found there
    rw [shapeOfType?_enter] at there
    split at there
    case isTrue same => cases there; exact same.symm
    case isFalse => exact owned.named there
  case sound =>
    intro name found there
    rw [shapeOfType?_enter] at there
    split at there
    case isTrue => cases there; exact sound
    case isFalse => exact owned.sound there

/-- A tag that a type has cannot be reserved. -/
lemma reserve_of_taken {tag : Int} {written : String} (byte : 0 ≤ tag ∧ tag ≤ 255)
    (taken : codec.shapeOfTag? (UInt8.ofNat tag.toNat) = some shape) :
    codec.reserve tag written
      = .error (.tagTaken (UInt8.ofNat tag.toNat) shape.type.name) := by
  unfold reserve
  rw [if_pos byte]
  simp only [taken]

/-- What was encoded is read as values for the type that it was encoded with. -/
lemma read_of_encoded (consistent : codec.Consistent) {packet : Packet} {room : Nat} {bytes : Bytes}
    (encoded : codec.encode packet room = .ok bytes) :
    ∃ shape values, codec.shapeOfType? packet.type.name = some shape ∧
      shape.type.name = packet.type.name ∧ codec.read bytes = .ok (shape.type, values) := by
  obtain ⟨shape, record, written, rfl⟩ := of_encode encoded
  exact ⟨shape, _, written.found, consistent.named written.found, read_tagged consistent written⟩

/-- The two tables of a codec are inverse to each other: what is known of a type is what stands under its
tag, and what stands under a tag is what is known of its type; so no two types have one tag. -/
structure Bijective (codec : Codec) : Prop where
  types : ∀ name shape, codec.shapeOfType? name = some shape ↔
    shape.type.name = name ∧ codec.shapeOfTag? shape.tag = some shape
  tags : ∀ tag shape, codec.shapeOfTag? tag = some shape ↔
    shape.tag = tag ∧ codec.shapeOfType? shape.type.name = some shape
  apart : ∀ one other first second, codec.shapeOfType? one = some first →
    codec.shapeOfType? other = some second → first.tag = second.tag → one = other

/-- Where each tag leads to what is known of a type, it is enough that each type is found under its
tag. -/
lemma Owned.bijective_iff (owned : codec.Owned) : codec.Bijective ↔ codec.Consistent := by
  constructor
  · intro bijective
    exact ⟨fun known => ((bijective.types _ _).1 known).1,
      fun known => ((bijective.types _ _).1 known).2, owned.sound⟩
  · intro consistent
    refine ⟨fun name shape => ⟨fun known => ⟨consistent.named known, consistent.tagged known⟩, ?types⟩,
      fun tag shape => ⟨fun stands => ⟨owned.tag stands, owned.type stands⟩, ?tags⟩, ?apart⟩
    case types =>
      rintro ⟨rfl, stands⟩
      exact owned.type stands
    case tags =>
      rintro ⟨rfl, known⟩
      exact consistent.tagged known
    case apart =>
      intro one other first second known known' same
      have stands := consistent.tagged known
      rw [same, consistent.tagged known'] at stands
      cases stands
      rw [← consistent.named known, ← consistent.named known']

end Codec

/-- A codec, and the registrations of which the first phase is done. -/
structure Enrolment where
  codec : Codec := .empty
  /-- In the order in which they were begun. -/
  reserved : List Registration := []

/-- What may be done about a registration. -/
inductive Enrolment.Call where
  /-- The first phase: a tag is reserved for a written layout. -/
  | reserve (tag : Int) (written : String)
  /-- The second phase of the registration at a place, with a type.  It may come at any time, and more
  than once. -/
  | complete (place : Nat) (type : PacketType)

namespace Enrolment

/-- What a call gives.  The second phase of a registration that was never begun is no call at all. -/
def perform (e : Enrolment) : Call → Except RegistryFault Enrolment
  | .reserve tag written =>
    (e.codec.reserve tag written).map fun registration =>
      { e with reserved := e.reserved ++ [registration] }
  | .complete place type =>
    match e.reserved[place]? with
    | some registration => (e.codec.complete registration type).map fun codec => { e with codec }
    | none => .ok e

/-- What there is after a call: the same as before, if the call fails. -/
def next (e : Enrolment) (call : Call) : Enrolment :=
  match e.perform call with
  | .ok after => after
  | .error _ => e

/-- What there is after a run of calls. -/
def run (calls : List Call) : Enrolment := calls.foldl next {}

/-- A type that enters under a tag finds the tag free. -/
def InTime (e : Enrolment) : Call → Prop
  | .reserve _ _ => True
  | .complete place type =>
    ∀ registration ∈ e.reserved[place]?, (e.codec.complete registration type).isOk = true →
      e.codec.shapeOfTag? registration.tag = none

instance (e : Enrolment) : (call : Call) → Decidable (e.InTime call)
  | .reserve _ _ => .isTrue trivial
  | .complete _ _ => inferInstanceAs (Decidable (∀ _ ∈ _, _ → _))

/-- In the whole run no type enters under a tag that another has. -/
def Punctual (calls : List Call) : Prop :=
  ∀ place (inside : place < calls.length), (run (calls.take place)).InTime calls[place]

instance (calls : List Call) : Decidable (Punctual calls) :=
  inferInstanceAs (Decidable (∀ place (_ : place < calls.length), _))

/-- After a run. -/
structure Valid (e : Enrolment) : Prop where
  owned : e.codec.Owned
  readable : ∀ registration ∈ e.reserved,
    Layout.ofText? registration.written = some registration.layout

variable {e : Enrolment} {call : Call} {calls : List Call}

lemma run_concat (calls : List Call) (call : Call) :
    run (calls ++ [call]) = (run calls).next call := by
  simp [run]

/-- What a call does: nothing, or it begins a registration, or it enters a shape of a new type under
the tag of a registration that was begun. -/
lemma Valid.effect (valid : e.Valid) (call : Call) :
    e.next call = e ∨
    (∃ registration, Layout.ofText? registration.written = some registration.layout ∧
      e.next call = { e with reserved := e.reserved ++ [registration] }) ∨
    ∃ shape : Shape, shape.Sound ∧ e.codec.shapeOfType? shape.type.name = none ∧
      (e.InTime call → e.codec.shapeOfTag? shape.tag = none) ∧
      e.next call = { e with codec := e.codec.enter shape } := by
  unfold next
  cases call with
  | reserve tag written =>
    cases reserved : e.codec.reserve tag written with
    | error fault => simp [perform, reserved, Except.map]
    | ok registration =>
      obtain ⟨-, same, read⟩ := Codec.of_reserve reserved
      refine .inr (.inl ⟨registration, by rw [same, read], ?_⟩)
      simp [perform, reserved, Except.map]
  | complete place type =>
    cases begun : e.reserved[place]? with
    | none => simp [perform, begun]
    | some registration =>
      cases done : e.codec.complete registration type with
      | error fault => simp [perform, begun, done, Except.map]
      | ok after =>
        have read := valid.readable registration (List.mem_of_getElem? begun)
        obtain ⟨shape, sound, tag, type, -, new, rfl⟩ := Codec.completed read done
        refine .inr (.inr ⟨shape, sound, by rw [type, new], ?_, ?_⟩)
        · intro inTime
          rw [tag]
          exact inTime registration begun (by rw [done]; rfl)
        · simp [perform, begun, done, Except.map]

/-- **After every run what stands under a tag is what is known of its type**, however the phases of
the registrations overlap. -/
theorem valid_run (calls : List Call) : (run calls).Valid := by
  induction calls using List.reverseRecOn with
  | nil => exact ⟨.empty, by simp [run]⟩
  | append_singleton calls call ih =>
    rw [run_concat]
    rcases ih.effect call with same | ⟨registration, read, same⟩ | ⟨shape, sound, new, -, same⟩
    · rwa [same]
    · rw [same]
      refine ⟨ih.owned, ?_⟩
      simpa [or_imp, forall_and] using ⟨ih.readable, read⟩
    · rw [same]
      exact ⟨ih.owned.enter new sound, ih.readable⟩

/-- If no type enters under a tag that another has, a type is always found under its tag. -/
lemma consistent_run (punctual : Punctual calls) {place : Nat} (reached : place ≤ calls.length) :
    (run (calls.take place)).codec.Consistent := by
  induction place with
  | zero => exact Codec.Built.empty.consistent
  | succ place ih =>
    have inside : place < calls.length := reached
    have before := ih (Nat.le_of_lt inside)
    rw [← List.take_append_getElem inside, run_concat]
    rcases (valid_run (calls.take place)).effect calls[place] with
      same | ⟨registration, -, same⟩ | ⟨shape, sound, -, free, same⟩
    · rwa [same]
    · rwa [same]
    · rw [same]
      exact before.enter (free (punctual place inside)) sound

/-- A type that has come under a tag at a call has found it free, if the tables are inverse to each other
afterwards: the type that had the tag would still be known, and no longer stand under it. -/
lemma Valid.inTime (valid : e.Valid) (bijective : (e.next call).codec.Bijective) : e.InTime call := by
  cases call with
  | reserve => trivial
  | complete place type =>
    intro registration begun succeeds
    obtain ⟨after, done⟩ : ∃ after, e.codec.complete registration type = .ok after := by
      cases done : e.codec.complete registration type with
      | ok after => exact ⟨after, rfl⟩
      | error fault => rw [done] at succeeds; cases succeeds
    have read := valid.readable registration (List.mem_of_getElem? begun)
    obtain ⟨shape, -, tag, rfl, -, new, rfl⟩ := Codec.completed read done
    have next : (e.next (.complete place shape.type)).codec = e.codec.enter shape := by
      rw [next, perform, begun]
      dsimp only
      rw [done]
      rfl
    rw [next] at bijective
    by_contra taken
    obtain ⟨old, stands⟩ := Option.ne_none_iff_exists'.1 taken
    have known := valid.owned.type stands
    have other : old.type.name ≠ shape.type.name := by
      intro same
      rw [same, new] at known
      cases known
    have kept : (e.codec.enter shape).shapeOfType? old.type.name = some old := by
      rw [Codec.shapeOfType?_enter, if_neg other, known]
    have lost := ((bijective.types _ _).1 kept).2
    rw [valid.owned.tag stands, Codec.shapeOfTag?_enter, if_pos tag.symm] at lost
    cases lost
    exact other rfl

/-- **The tables are inverse to each other after every step of a run just if no type enters under a tag
that another has.**  However the phases overlap, what stands under a tag has this tag and is what is known
of its type; a tag that a type has cannot be reserved; and a call that fails changes nothing.  And
wherever the tables are inverse to each other, what was encoded is read as values for the type that it was
encoded with, so that the constructor of no other type is called. -/
theorem bijective_iff_punctual (calls : List Call) :
    ((∀ place ≤ calls.length, (run (calls.take place)).codec.Bijective) ↔ Punctual calls) ∧
    ∀ place ≤ calls.length,
      let codec := (run (calls.take place)).codec
      (∀ tag shape, codec.shapeOfTag? tag = some shape →
        shape.tag = tag ∧ codec.shapeOfType? shape.type.name = some shape) ∧
      (∀ tag written shape, 0 ≤ tag ∧ tag ≤ 255 →
        codec.shapeOfTag? (UInt8.ofNat tag.toNat) = some shape → codec.reserve tag written
          = .error (.tagTaken (UInt8.ofNat tag.toNat) shape.type.name)) ∧
      (∀ call fault, (run (calls.take place)).perform call = .error fault →
        run (calls.take place ++ [call]) = run (calls.take place)) ∧
      (codec.Bijective → ∀ packet room bytes, codec.encode packet room = .ok bytes →
        ∃ shape values, codec.shapeOfType? packet.type.name = some shape ∧
          shape.type.name = packet.type.name ∧ codec.read bytes = .ok (shape.type, values)) := by
  have owned (place : Nat) : (run (calls.take place)).codec.Owned := (valid_run _).owned
  refine ⟨⟨fun bijective place inside => ?punctual, fun punctual place reached => ?bijective⟩,
    fun place reached => ⟨fun tag shape stands => ?_, fun _ _ _ => Codec.reserve_of_taken, ?failed,
      fun bijective _ _ _ => Codec.read_of_encoded ((owned place).bijective_iff.1 bijective)⟩⟩
  case punctual =>
    have after := bijective (place + 1) inside
    rw [← List.take_append_getElem inside, run_concat] at after
    exact (valid_run _).inTime after
  case bijective => exact (owned place).bijective_iff.2 (consistent_run punctual reached)
  case failed =>
    intro call fault failed
    rw [run_concat, next, failed]
  · exact ⟨(owned place).tag stands, (owned place).type stands⟩

/-! ### A late one and a refused one -/

/-- A level that is read as one byte. -/
def level (name : String) : PacketType := ⟨name, ["value"], true, fun _ => none⟩

/-- Two registrations are under way at once; the second is done first, then the first twice, and a
third finds its tag taken. -/
def overlapping : List Call :=
  [.reserve 1 "B", .reserve 2 "B", .complete 1 (level "Right"), .complete 0 (level "Right"),
    .complete 0 (level "Left"), .reserve 1 "H", .complete 0 (level "Left")]

/-- Both types are found under their own tags at the end, and a level of the one is read as one. -/
theorem bijective_iff_punctual_overlapping :
    Punctual overlapping ∧ overlapping.length ≤ overlapping.length ∧
      (run overlapping).codec.Bijective ∧
      (run overlapping).codec.encode ⟨level "Left", [.int 5]⟩ 2 = .ok [1, 5] ∧
      ∃ (shape : Shape) (values : List FieldValue), shape.type.name = "Left" ∧
        (run overlapping).codec.read [1, 5] = .ok (shape.type, values) := by
  have punctual : Punctual overlapping := by decide +kernel
  obtain ⟨bijective, rest⟩ := bijective_iff_punctual overlapping
  have final := bijective.2 punctual overlapping.length (Nat.le_refl _)
  obtain ⟨-, -, -, decodes⟩ := rest overlapping.length (Nat.le_refl _)
  have encoded : (run overlapping).codec.encode ⟨level "Left", [.int 5]⟩ 2 = .ok [1, 5] := by
    decide +kernel
  rw [List.take_length] at final decodes
  obtain ⟨shape, values, -, named, read⟩ := decodes final _ _ _ encoded
  exact ⟨punctual, Nat.le_refl _, final, encoded, shape, values, named, read⟩

/-- Two registrations for one tag are under way at once. -/
def colliding : List Call :=
  [.reserve 1 "B", .reserve 1 "B", .complete 0 (level "Left"), .complete 1 (level "Right")]

/-- A reading between 2049 and 4000, kept with half precision, which rounds the least of them down. -/
def reading : PacketType := ⟨"Reading", ["value"], true, Rule.within "value" 0 2049 4000⟩

/-- The least reading. -/
def leastReading : Packet := ⟨reading, [.float ⟨0x40A0020000000000⟩]⟩

/-- **Not every run keeps the tables inverse to each other.**  Where a tag has been reserved twice, two
types come to have it, and a packet of one decodes to a packet of the other.  And also where each type
enters at once, what was encoded may be refused when it is read: the value of a packet is rounded to one
that the type does not take. -/
theorem not_every_enrolment_bijective :
    (((run colliding).codec.shapeOfType? "Left").map Shape.tag = some 1 ∧
      ((run colliding).codec.shapeOfType? "Right").map Shape.tag = some 1 ∧
      ((run colliding).codec.encode ⟨level "Left", [.int 5]⟩ 2) = .ok [1, 5] ∧
      ((run colliding).codec.decode [1, 5]).map (·.type.name) = .ok "Right") ∧
    Punctual [.reserve 7 "e", .complete 0 reading] ∧
      (reading.construct leastReading.values).isOk = true ∧
      (run [.reserve 7 "e", .complete 0 reading]).codec.encode leastReading 3 = .ok [7, 0x68, 0] ∧
      ((run [.reserve 7 "e", .complete 0 reading]).codec.decode [7, 0x68, 0]).map (·.type.name)
        = .error (.refused "Reading" (.stated "value out of range")) := by
  refine ⟨⟨?_, ?_, ?_, ?_⟩, ?_, ?_, ?_, ?_⟩ <;> decide +kernel

end Enrolment

end RollCall
