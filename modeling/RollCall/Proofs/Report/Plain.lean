import RollCall.Proofs.Packet.Canonical
import RollCall.Proofs.Report.Outline
import RollCall.Proofs.Report.Written
import RollCall.Report.Views

/-!
# Reports and their plain forms

Things of the domain may stand at any depth of a report.  The writer has a hook called for each of them
when it meets it, and then goes on with the parts of what the hook gives, which may be things again.  One
could as well bring the whole report to its plain form first: the same text comes out.  So a report can be
written just if its plain form can, and of a plain form this is easily said, since all it holds are tables,
lists and scalars.  All that is used of the writer is what is documented of it.

This needs room.  The writer counts the containers around a value, and the things, and refuses both
beyond a depth.  A value of less height never gets there: a thing adds a container of its own, so there
are never more things than containers around a value (`Place.HasRoom`).

What a packet holds that was decoded from bytes can always be written, unless its constructor has put
something else in its place.  Its integers were read from fields of eight bytes at most.

* `Writes.text_eq` — what a writer does is told by outlines.
* `Writes.text_plain` — **the text of a value is that of its plain form.**
* `Writes.text_eq_none_iff` — **there is no text just if the plain form is unwritable.**
* `Codec.exists_read_of_mem`, `Code.readInteger_fits` — what a decoded packet holds.
* `Value.serialized_as_plain` — all of it for whole reports, whoever writes them;
  `Value.not_every_packet_serialized` — and what it needs of constructors.
-/

namespace RollCall

namespace Report

/-! ## Room -/

/-- The place at which the outline of a value is written. -/
def Place.ofOutline (place : Place) (v : Value) : Place := bif v.isThing then place.instead else place

/-- A value stands at a place where its containers, and the things in it, stay within bounds: no more
things than containers are around it. -/
structure Place.HasRoom (place : Place) (v : Value) : Prop where
  things_le : place.things ≤ place.depth
  height_le : place.depth + v.height ≤ nestingLimit

variable {hook : Hook} {text : Place → Value → Option String} {place place' : Place} {v w : Value}

@[simp] lemma Place.depth_ofOutline (place : Place) (v : Value) :
    (place.ofOutline v).depth = place.depth := by
  unfold ofOutline
  cases v.isThing <;> rfl

@[simp] lemma Place.depth_inside (place : Place) : place.inside.depth = place.depth + 1 := rfl

lemma Place.HasRoom.container (room : place.HasRoom v) (outline : v.outline? = some w)
    (container : 0 < w.height) : (place.ofOutline v).depth < nestingLimit := by
  have := room.height_le
  have := Value.height_of_outline? outline
  rw [depth_ofOutline]
  omega

/-- There is room for the parts of an outline. -/
lemma Place.HasRoom.inside (room : place.HasRoom v) (part : w.height < v.height) :
    (place.ofOutline v).inside.HasRoom w := by
  have := room.things_le
  have := room.height_le
  constructor
  · unfold ofOutline Place.inside
    cases v.isThing
    · show place.things ≤ place.depth + 1
      omega
    · show place.things + 1 ≤ place.depth + 1
      omega
  · show (place.ofOutline v).depth + 1 + w.height ≤ nestingLimit
    rw [depth_ofOutline]
    omega

/-! ## The text of a value by its outline -/

lemma mapM_map_of_eq {α β γ : Type} {f : α → Option γ} {g : β → Option γ} {h : α → β} {xs : List α}
    (same : ∀ x ∈ xs, f x = g (h x)) : xs.mapM f = (xs.map h).mapM g := by
  induction xs with
  | nil => rfl
  | cons x xs ih =>
    rw [List.forall_mem_cons] at same
    simp only [List.map_cons, List.mapM_cons, same.1, ih same.2]

lemma mapM_eq_none_iff {α β : Type} {f : α → Option β} {xs : List α} :
    xs.mapM f = none ↔ ∃ x ∈ xs, f x = none := by
  induction xs with
  | nil => simp
  | cons x xs ih =>
    rw [List.mapM_cons, List.exists_mem_cons_iff, ← ih]
    cases f x <;> cases xs.mapM f <;> simp

lemma entryText?_eq_none_iff {text : Value → Option String} {entry : Option String × Value} :
    entryText? text entry = none ↔ entry.1 = none ∨ text entry.2 = none := by
  obtain ⟨key, v⟩ := entry
  cases key <;> simp [entryText?]

namespace Writes

variable (writes : Writes Value.form? text)

include writes

/-- **What a writer does is told by outlines**: it writes the outline of a value in its stead. -/
theorem text_eq (room : place.HasRoom v) :
    text place v = v.outline?.bind (text (place.ofOutline v)) := by
  have few : place.things ≤ nestingLimit := by
    have := room.things_le
    have := room.height_le
    omega
  cases v with
  | role r => exact writes.role place r
  | bytes | logical | physical | peer | traffic | received | record | formless =>
    exact writes.thing place _ rfl few
  | _ => rfl

/-- Lists, tuples and tables are put together from the texts of what is in the outline. -/
lemma text_list : ∃ join : Nat → List String → String, ∀ {place : Place} {v : Value} {items : List Value},
    place.HasRoom v → v.outline? = some (.list items) →
      text place v = (items.mapM (text (place.ofOutline v).inside)).map (join place.depth) := by
  obtain ⟨join, joined⟩ := writes.list
  refine ⟨join, fun {place v items} room outline => ?_⟩
  rw [writes.text_eq room, outline, Option.bind_some,
    joined _ _ (room.container outline (Nat.succ_pos _)), Place.depth_ofOutline]

lemma text_tuple : ∃ join : Nat → List String → String, ∀ {place : Place} {v : Value} {items : List Value},
    place.HasRoom v → v.outline? = some (.tuple items) →
      text place v = (items.mapM (text (place.ofOutline v).inside)).map (join place.depth) := by
  obtain ⟨join, joined⟩ := writes.tuple
  refine ⟨join, fun {place v items} room outline => ?_⟩
  rw [writes.text_eq room, outline, Option.bind_some,
    joined _ _ (room.container outline (Nat.succ_pos _)), Place.depth_ofOutline]

lemma text_table : ∃ join : Nat → List (String × String) → String,
    ∀ {place : Place} {v : Value} {entries : List (Option String × Value)},
    place.HasRoom v → v.outline? = some (.table entries) → text place v
      = (entries.mapM (entryText? (text (place.ofOutline v).inside))).map (join place.depth) := by
  obtain ⟨join, joined⟩ := writes.table
  refine ⟨join, fun {place v entries} room outline => ?_⟩
  rw [writes.text_eq room, outline, Option.bind_some,
    joined _ _ (room.container outline (Nat.succ_pos _)), Place.depth_ofOutline]

lemma text_scalar (room : place.HasRoom v) (outline : v.outline? = some w) (leaf : w.isScalar = true) :
    text place v = text {} w := by
  rw [writes.text_eq room, outline]
  exact writes.alike _ _ leaf

/-- **The text of a value is that of its plain form**, wherever there is room for both. -/
theorem text_plain (room : place.HasRoom v) (room' : place'.HasRoom v.plain)
    (depth : place.depth = place'.depth) : text place v = text place' v.plain := by
  induction v using Value.outlineInduction generalizing place place' with
  | formless => rw [writes.text_eq room, writes.text_eq room']; rfl
  | scalar v w outline leaf plain =>
    rw [plain, writes.text_scalar room outline leaf]
    exact writes.alike _ _ leaf
  | list v items outline plain ih =>
    rw [plain] at room' ⊢
    obtain ⟨join, joined⟩ := writes.text_list
    rw [joined room outline, joined room' rfl, depth]
    congr 1
    refine mapM_map_of_eq fun item among => ih item among ?_ ?_ (by simp [depth])
    · exact room.inside (Value.height_lt_of_mem_list outline among)
    · exact room'.inside (Value.height_lt_of_mem_list rfl (List.mem_map_of_mem among))
  | tuple v items outline plain ih =>
    rw [plain] at room' ⊢
    obtain ⟨join, joined⟩ := writes.text_tuple
    rw [joined room outline, joined room' rfl, depth]
    congr 1
    refine mapM_map_of_eq fun item among => ih item among ?_ ?_ (by simp [depth])
    · exact room.inside (Value.height_lt_of_mem_tuple outline among)
    · exact room'.inside (Value.height_lt_of_mem_tuple rfl (List.mem_map_of_mem among))
  | table v entries outline plain ih =>
    rw [plain] at room' ⊢
    obtain ⟨join, joined⟩ := writes.text_table
    rw [joined room outline, joined room' rfl, depth]
    congr 1
    refine mapM_map_of_eq fun entry among => ?_
    have plainly := List.mem_map_of_mem (f := fun entry => (entry.1, entry.2.plain)) among
    have same := ih entry among (room.inside (Value.height_lt_of_mem_table outline among))
      (room'.inside (Value.height_lt_of_mem_table rfl plainly)) (by simp [depth])
    obtain ⟨key, part⟩ := entry
    cases key with
    | none => rfl
    | some key => exact congrArg (Option.map (key, ·)) same

lemma text_scalar_eq_none_iff (leaf : v.isScalar = true) : text place v = none ↔ v.Unwritable := by
  rw [← Option.not_isSome_iff_eq_none]
  cases v with
  | null | bool | float | text =>
    have written := writes.scalar place leaf (by simp)
    exact ⟨fun unwritten => absurd written unwritten, fun unwritable => (by cases unwritable)⟩
  | int n => rw [writes.int, Value.unwritable_int_iff]
  | _ => cases leaf

/-- **There is no text just if the plain form is unwritable**, wherever there is room. -/
theorem text_eq_none_iff (room : place.HasRoom v) : text place v = none ↔ v.plain.Unwritable := by
  induction v using Value.outlineInduction generalizing place with
  | formless =>
    rw [writes.text_eq room]
    exact ⟨fun _ => .formless, fun _ => rfl⟩
  | scalar v w outline leaf plain =>
    rw [plain, writes.text_scalar room outline leaf, writes.text_scalar_eq_none_iff leaf]
  | list v items outline plain ih =>
    obtain ⟨join, joined⟩ := writes.text_list
    rw [plain, joined room outline, Option.map_eq_none_iff, mapM_eq_none_iff,
      Value.unwritable_list_iff]
    simp only [List.mem_map, exists_exists_and_eq_and]
    exact exists_congr fun item => and_congr_right fun among =>
      ih item among (room.inside (Value.height_lt_of_mem_list outline among))
  | tuple v items outline plain ih =>
    obtain ⟨join, joined⟩ := writes.text_tuple
    rw [plain, joined room outline, Option.map_eq_none_iff, mapM_eq_none_iff,
      Value.unwritable_tuple_iff]
    simp only [List.mem_map, exists_exists_and_eq_and]
    exact exists_congr fun item => and_congr_right fun among =>
      ih item among (room.inside (Value.height_lt_of_mem_tuple outline among))
  | table v entries outline plain ih =>
    obtain ⟨join, joined⟩ := writes.text_table
    rw [plain, joined room outline, Option.map_eq_none_iff, mapM_eq_none_iff,
      Value.unwritable_table_iff]
    simp only [List.mem_map, exists_exists_and_eq_and]
    exact exists_congr fun entry => and_congr_right fun among =>
      entryText?_eq_none_iff.trans (or_congr_right
        (ih entry among (room.inside (Value.height_lt_of_mem_table outline among))))

end Writes

end Report

/-! ## What a decoded packet holds -/

namespace Code

/-- No code is wider than eight bytes. -/
lemma width_le (native : Bool) (code : Code) : code.width native ≤ 8 := by
  cases code with
  | integer size _ => cases size <;> cases native <;> simp [width]
  | float precision => cases precision <;> simp [width, Floating.Precision.width]
  | _ => simp [width]

/-- An integer that is read from eight bytes or fewer fits 64 bits. -/
lemma readInteger_fits (order : ByteOrder) (signed : Bool) {bs : Bytes} (some : 0 < bs.length)
    (few : bs.length ≤ 8) : Report.Fits64 (readInteger order signed bs) := by
  obtain ⟨low, high⟩ := readInteger_bounds order signed some
  have half : (2 : Int) ^ (8 * bs.length - 1) ≤ 2 ^ 63 := pow_le_pow_right₀ (by decide) (by omega)
  have whole : (2 : Int) ^ (8 * bs.length) ≤ 2 ^ 64 := pow_le_pow_right₀ (by decide) (by omega)
  unfold Report.Fits64
  unfold least bound at *
  cases signed with
  | false => simp only [Bool.false_eq_true, if_false] at low high; omega
  | true => simp only [if_true] at low high; omega

end Code

namespace Codec

/-- A value that is read from a record is read from bytes as many as the field is wide. -/
lemma exists_read_of_mem {layout : Layout} {record : Bytes} {value : FieldValue}
    (full : record.length = layout.size)
    (held : value ∈ readSlots layout.convention.order layout.slots record) :
    ∃ (code : Code) (chunk : Bytes), value = code.read layout.convention.order chunk ∧
      (code.isByteString = false → chunk.length = code.width layout.convention.native) := by
  obtain ⟨place, inside, rfl⟩ := List.mem_iff_getElem.1 held
  rw [length_readSlots] at inside
  obtain ⟨⟨code, length⟩, stands⟩ : ∃ field, (layout.slots.filterMap Slot.field?)[place]? = some field :=
    ⟨_, List.getElem?_eq_getElem inside⟩
  obtain ⟨chunk, rfl, value⟩ := readSlots_eq_chunk layout.convention.order
    (full.trans layout.size_eq_slots) stands
  refine ⟨code, chunk, (List.getElem?_eq_some_iff.1 value).2, ?_⟩
  exact Layout.length_of_mem_fields (List.mem_of_getElem? stands)

end Codec

namespace Report.Value

lemma not_unwritable_ofLogical (a : LogicalAddress) : ¬ (ofLogical a).Unwritable := by
  unfold ofLogical
  split
  · simp [unwritable_dict_iff]
  · rename_i n _
    have byte := n.toNat_lt
    simp [unwritable_dict_iff, Fits64]
    omega

/-- What is read from a field can be written in a report. -/
lemma not_unwritable_read {order : ByteOrder} {native : Bool} {code : Code} {chunk : Bytes}
    (width : code.isByteString = false → chunk.length = code.width native) :
    ¬ (ofField (code.read order chunk)).plain.Unwritable := by
  have integer (signed : Bool) (width : chunk.length = code.width native) :
      ¬ (int (Code.readInteger order signed chunk)).Unwritable := by
    have some := code.width_pos native
    have few := code.width_le native
    rw [unwritable_int_iff, not_not]
    exact Code.readInteger_fits order signed (by omega) (by omega)
  cases code with
  | integer size signed => exact integer signed (width rfl)
  | pointer => exact integer false (width rfl)
  | countedBytes => cases chunk <;> exact not_unwritable_text _
  | character | fixedBytes => exact not_unwritable_text _
  | filler | truth | float => rintro ⟨⟩

/-- A received packet is two tables deep, whatever it holds: its fields are scalars. -/
lemma height_ofReceivedPacket (r : Received) : (ofReceivedPacket r).height = 2 := by
  have flat (fields : List String) (values : List FieldValue) :
      heightOfFields (fields.zip (values.map ofField)) = 0 := by
    induction fields generalizing values with
    | nil => rfl
    | cons field fields ih =>
      cases values with
      | nil => rfl
      | cons value values =>
        have scalar : (ofField value).height = 0 := by cases value <;> rfl
        rw [List.map_cons, List.zip_cons_cons, heightOfFields, scalar, ih, Nat.max_self]
  rw [ofReceivedPacket, height, ofPacket, height, flat, Nat.zero_add, Nat.max_self]

/-- What a decoded packet holds can be written in a report, if its constructor has kept what was read. -/
lemma not_unwritable_ofReceivedPacket {make : Constructors} {codec : Codec} {bytes : Bytes}
    {packet : Packet} (decoded : codec.decodeWith make bytes = .ok packet)
    (keeps : make.Keeps packet.type) (sender : LogicalAddress) :
    ¬ (ofReceivedPacket ⟨sender, packet⟩).plain.Unwritable := by
  obtain ⟨type, values, made, read, constructed, rfl⟩ := Codec.decodeWith_eq_ok_iff.1 decoded
  obtain rfl := keeps values made constructed
  obtain ⟨tag, shape, record, framed, rfl, rfl⟩ := Codec.read_eq_ok_iff.1 read
  rw [ofReceivedPacket, plain_received, ofReceived, ofPacket, plain_record, unwritable_dict_iff]
  simp only [List.mem_cons, List.not_mem_nil, or_false, exists_eq_or_imp, exists_eq_left, not_or]
  refine ⟨not_unwritable_ofLogical sender, not_unwritable_text _, ?_⟩
  rw [unwritable_dict_iff]
  rintro ⟨field, turned, unwritable⟩
  obtain ⟨⟨name, field⟩, among, rfl⟩ := List.mem_map.1 turned
  obtain ⟨value, held, rfl⟩ := List.mem_map.1 (List.of_mem_zip among).2
  obtain ⟨code, chunk, rfl, width⟩ := Codec.exists_read_of_mem framed.full held
  exact not_unwritable_read width unwritable

/-- The start of a report has room for all that is low enough. -/
lemma hasRoom_start {v : Value} (low : v.height ≤ nestingLimit) : Place.HasRoom {} v :=
  ⟨Nat.le_refl 0, by rwa [Nat.zero_add]⟩

/-- A log of two packets as they were received, one with a packet in it that has bytes and a role, and one
with an address, all in a table with the greatest integer there is. -/
def logbook : Value :=
  dict [("log", list [
      received (.camera 3) "Note" (record [("text", bytes [0xCA, 0xFE]), ("to", role .missionControl)]),
      tuple [physical ⟨"10.0.0.2", 25560⟩, logical (.camera 3)]]),
    ("most", int 18446744073709551615)]

/-- A constructor that puts a greater integer than any that can be written in the place of the values. -/
def overflowing : Constructors := fun _ _ => .made [.int 18446744073709551616]

end Report.Value

end RollCall
