import RollCall.Proofs.Layout.Canonical
import RollCall.Proofs.Packet.Window

/-!
# Where byte strings are looked for

The lengths of a packet's byte strings are checked before the packet is encoded, at the places that the
scan of the written layout gives.  The scan has to count the fields as the layout does, or it would check
one field for another.  It does, with one exception: it reads the count of every item but filler as a
numeral, and a numeral has a limit to its digits that the layout's own reading has not.  Zeros in front
make a count as long as one likes.

* `HasLongCount` — a count has more digits than a numeral may have.
* `byteFields?_eq_none_iff` — **the scan fails just if some count is too long.**
* `Layout.byteFields_eq` — the byte strings of a layout are those among its fields, with their places.
* `Layout.StandsAt` — the item at a place among the fields is read from some bytes of the record, and
  written to them; `standsAt_of_split` counts both by the items before it.
* `located_iff_short_counts` — **the scan finds all byte strings, each at its place, just if no count is
  too long.**
* `not_every_layout_located` — a layout of one byte string whose count is too long.
-/

namespace RollCall

namespace ByteField

/-! ## Counts that cannot be read -/

/-- A letter that the scan stops at to read a count. -/
def IsCounted (letter : Char) : Prop := (letter.isAlpha || letter == '?') = true ∧ letter ≠ 'x'

/-- After so many digits the text goes on with a count, up to its letter, and there are too many. -/
def BeginsLong (before : Nat) (text : List Char) : Prop :=
  ∃ count letter after, text = count ++ letter :: after ∧ (∀ c ∈ count, c.isDigit = true) ∧
    IsCounted letter ∧ Text.digitLimit < before + count.length

/-- A count in a written layout has more digits than a numeral may have.  Those of filler do not
matter. -/
def HasLongCount (text : List Char) : Prop := ∃ rest, rest <:+ text ∧ BeginsLong 0 rest

variable {before index : Nat} {c : Char} {cs : List Char} {digits : List Nat}

lemma not_beginsLong_nil : ¬ BeginsLong before [] := by
  rintro ⟨count, letter, after, same, -⟩
  cases count <;> cases same

/-- A count that begins right here is one of the text's own. -/
lemma beginsLong_or_iff : BeginsLong 0 cs ∨ HasLongCount cs ↔ HasLongCount cs :=
  or_iff_right_of_imp fun begins => ⟨cs, List.suffix_rfl, begins⟩

/-- A digit is no letter: all that the scan stops at comes after the digits. -/
lemma not_isCounted_of_isDigit (digit : c.isDigit = true) : ¬ IsCounted c := by
  rintro ⟨letter, -⟩
  have below : c.val ≤ '9'.val := of_decide_eq_true ((Bool.and_eq_true _ _).mp digit).2
  have above : '?'.val ≤ c.val := by
    rcases (Bool.or_eq_true _ _).mp letter with alpha | mark
    · rcases (Bool.or_eq_true _ _).mp alpha with upper | lower
      · exact UInt32.le_trans (by decide) (of_decide_eq_true upper).1
      · exact UInt32.le_trans (by decide) (of_decide_eq_true ((Bool.and_eq_true _ _).mp lower).1)
    · rw [eq_of_beq mark]
      exact UInt32.le_refl _
  exact absurd (UInt32.le_trans above below) (by decide)

lemma beginsLong_digit (digit : c.isDigit = true) :
    BeginsLong before (c :: cs) ↔ BeginsLong (before + 1) cs := by
  constructor
  · rintro ⟨count, letter, after, same, digits, counted, long⟩
    cases count with
    | nil =>
      cases same
      exact absurd counted (not_isCounted_of_isDigit digit)
    | cons d count =>
      cases same
      rw [List.length_cons] at long
      exact ⟨count, letter, after, rfl, fun c among => digits c (List.mem_cons_of_mem _ among),
        counted, by omega⟩
  · rintro ⟨count, letter, after, rfl, digits, counted, long⟩
    refine ⟨c :: count, letter, after, rfl, List.forall_mem_cons.2 ⟨digit, digits⟩, counted, ?_⟩
    rw [List.length_cons]
    omega

lemma beginsLong_other (other : c.isDigit = false) :
    BeginsLong before (c :: cs) ↔ IsCounted c ∧ Text.digitLimit < before := by
  constructor
  · rintro ⟨count, letter, after, same, digits, counted, long⟩
    cases count with
    | nil =>
      cases same
      exact ⟨counted, long⟩
    | cons d count =>
      cases same
      rw [digits c List.mem_cons_self] at other
      cases other
  · rintro ⟨counted, long⟩
    exact ⟨[], c, cs, rfl, by simp, counted, long⟩

lemma hasLongCount_cons : HasLongCount (c :: cs) ↔ BeginsLong 0 (c :: cs) ∨ HasLongCount cs := by
  simp only [HasLongCount, List.suffix_cons_iff, or_and_right, exists_or, exists_eq_left]

/-- Behind a character that is no digit, a count that is too long stands later. -/
lemma hasLongCount_other (other : c.isDigit = false) : HasLongCount (c :: cs) ↔ HasLongCount cs := by
  rw [hasLongCount_cons, beginsLong_other other]
  simp

lemma count?_eq_none_iff : count? digits = none ↔ Text.digitLimit < digits.length := by
  unfold count? Text.limitedNumber?
  split
  · rename_i none
    rw [List.isEmpty_iff.1 none]
    simp [Text.digitLimit]
  · simp

/-- **The scan fails just if some count is too long**, the digits read so far taken into account. -/
theorem scan_eq_none_iff :
    scan index digits cs = none ↔ BeginsLong digits.length cs ∨ HasLongCount cs := by
  induction cs generalizing index digits with
  | nil =>
    have none : ¬ HasLongCount [] := by
      rintro ⟨rest, suffix, begins⟩
      rw [List.suffix_nil.1 suffix] at begins
      exact not_beginsLong_nil begins
    simp [scan, not_beginsLong_nil, none]
  | cons c cs ih =>
    rw [scan]
    cases digit : c.isDigit with
    | true =>
      -- A count that begins here is one that goes on, for the digits before it.
      have later : BeginsLong 0 (c :: cs) → BeginsLong digits.length (c :: cs) := by
        rintro ⟨count, letter, after, same, digits', counted, long⟩
        exact ⟨count, letter, after, same, digits', counted, by omega⟩
      rw [if_pos rfl, ih, List.length_cons, hasLongCount_cons, ← beginsLong_digit digit, ← or_assoc,
        or_iff_left_of_imp later]
    | false =>
      rw [if_neg Bool.false_ne_true, beginsLong_other digit, hasLongCount_other digit, IsCounted]
      split
      · rename_i letter
        split
        · rename_i filler
          rw [ih, List.length_nil, beginsLong_or_iff]
          simp [filler]
        · rename_i counted
          cases number : count? digits with
          | none => simp [letter, counted, count?_eq_none_iff.1 number]
          | some n =>
            have short : ¬ Text.digitLimit < digits.length := by
              rw [← count?_eq_none_iff, number]
              simp
            dsimp only
            split
            · rw [Option.map_eq_none_iff, ih, List.length_nil, beginsLong_or_iff]
              simp [short]
            · rw [ih, List.length_nil, beginsLong_or_iff]
              simp [short]
      · rename_i other
        rw [ih, List.length_nil, beginsLong_or_iff]
        simp [other]

end ByteField

open ByteField (HasLongCount)

/-- **The scan fails just if some count is too long.** -/
theorem byteFields?_eq_none_iff {text : List Char} : byteFields? text = none ↔ HasLongCount text := by
  rw [byteFields?, ByteField.scan_eq_none_iff, List.length_nil, ByteField.beginsLong_or_iff]

/-! ## The byte strings among the fields -/

/-- The entry of a field and its place among the fields, if it is a byte string. -/
def ByteField.ofField? (field : (Code × Nat) × Nat) : Option ByteField :=
  if field.1.1.isByteString then some ⟨field.2, field.1.1 == .countedBytes, field.1.2⟩ else none

lemma LayoutItem.byteFieldsFrom_eq (native : Bool) (index : Nat) (items : List LayoutItem) :
    byteFieldsFrom index items
      = ((items.flatMap (fields native)).zipIdx index).filterMap ByteField.ofField? := by
  induction items generalizing index with
  | nil => rfl
  | cons item items ih =>
    rw [byteFieldsFrom, ih, List.flatMap_cons, List.zipIdx_append, List.filterMap_append,
      length_fields, byteFields]
    congr 1
    split
    · rename_i string
      rw [fields_eq, valueCount_of_isByteString string]
      simp [ByteField.ofField?, string]
    · rename_i other
      symm
      rw [List.filterMap_eq_nil_iff]
      rintro ⟨field, place⟩ among
      rw [fields_eq] at among
      obtain ⟨-, rfl⟩ := List.mem_replicate.1 (List.fst_mem_of_mem_zipIdx among)
      simp [ByteField.ofField?, other]

/-- **The byte strings of a layout** are those among its fields, in order, each with its place. -/
theorem Layout.byteFields_eq (layout : Layout) :
    layout.byteFields = layout.fields.zipIdx.filterMap ByteField.ofField? := by
  rw [byteFields, LayoutItem.byteFieldsFrom_eq layout.convention.native, fields_eq]

/-! ## The bytes of an item -/

namespace Codec

lemma readSlots_append (order : ByteOrder) (front back : List Slot) (bytes : Bytes) :
    readSlots order (front ++ back) bytes = readSlots order front bytes
      ++ readSlots order back (bytes.drop (front.map Slot.length).sum) := by
  induction front generalizing bytes with
  | nil => rfl
  | cons slot front ih =>
    rw [List.map_cons, List.sum_cons, ← List.drop_drop]
    cases slot <;> simp [readSlots, ih, Slot.length]

/-- A record that is written to two rows of slots is that of the first row and that of the second, which
takes the values that are left. -/
lemma writeSlots_append {convention : Convention} {front back : List Slot}
    {values : List FieldValue} {bytes : Bytes}
    (written : writeSlots convention (front ++ back) values = .ok bytes) :
    ∃ first second, bytes = first ++ second ∧ first.length = (front.map Slot.length).sum ∧
      writeSlots convention back (values.drop (front.countP Slot.isField)) = .ok second := by
  induction front generalizing values bytes with
  | nil => exact ⟨[], bytes, rfl, rfl, written⟩
  | cons slot front ih =>
    cases slot with
    | filler length =>
      obtain ⟨later, rest, rfl⟩ := writeSlots_filler written
      obtain ⟨first, second, rfl, full, rest⟩ := ih rest
      refine ⟨Bytes.zeros length ++ first, second, (List.append_assoc ..).symm, ?_, ?_⟩
      · simp [full, Slot.length]
      · simpa [Slot.isField] using rest
    | field code length =>
      obtain ⟨value, values, here, later, rfl, taken, rest, rfl⟩ := writeSlots_field written
      obtain ⟨first, second, rfl, full, rest⟩ := ih rest
      refine ⟨here ++ first, second, (List.append_assoc ..).symm, ?_, ?_⟩
      · simp [full, Slot.length, Code.length_write taken]
      · rw [List.countP_cons_of_pos rfl, List.drop_succ_cons]
        exact rest

/-- A registration that succeeds has scanned the layout. -/
lemma scanned_of_register {codec after : Codec} {tag : Int} {written : String} {type : PacketType}
    (done : codec.register tag written type = .ok after) :
    (byteFields? (Layout.markedText written.toList)).isSome = true := by
  rw [register] at done
  cases reserved : codec.reserve tag written with
  | error fault => rw [reserved] at done; cases done
  | ok registration =>
    rw [reserved] at done
    obtain ⟨-, rfl, -⟩ := of_reserve reserved
    obtain ⟨-, -, fields, scanned, -⟩ := of_complete done
    rw [scanned]
    rfl

end Codec

namespace Layout

lemma slotsFrom_append (native : Bool) (before items : List LayoutItem) (position : Nat) :
    slotsFrom native (before ++ items) position = slotsFrom native before position
      ++ slotsFrom native items (endPosition native before position) := by
  induction before generalizing position with
  | nil => rfl
  | cons item before ih => simp [slotsFrom, endPosition, ih]

/-- A byte string is one field, which begins where the items before it end. -/
lemma slotsFrom_string (native : Bool) {item : LayoutItem} (string : item.code.isByteString = true)
    (items : List LayoutItem) (position : Nat) : ∃ position', slotsFrom native (item :: items) position
      = .filler 0 :: .field item.code item.count :: slotsFrom native items position' := by
  obtain ⟨count, code⟩ := item
  have unaligned : gap (code.alignment native) position = 0 := by
    cases code <;> cases string <;> cases native <;> exact gap_one position
  refine ⟨position + 0 + LayoutItem.extent native ⟨count, code⟩, ?_⟩
  rw [slotsFrom, unaligned]
  cases code <;> cases string <;> rfl

/-- The item stands at a place among the fields and at a position in the record: it is listed there with
its width, the value at the place is read from the bytes at the position, and written to them. -/
structure StandsAt (layout : Layout) (item : LayoutItem) (index start : Nat) : Prop where
  listed : ⟨index, item.code == .countedBytes, item.count⟩ ∈ layout.byteFields
  fits : start + item.count ≤ layout.size
  read : ∀ record : Bytes, (Codec.readSlots layout.convention.order layout.slots record)[index]?
    = some (item.code.read layout.convention.order (record.window start item.count))
  written : ∀ values record, Codec.writeSlots layout.convention layout.slots values = .ok record →
    ∃ value, values[index]? = some value ∧
      item.code.write layout.convention item.count value = .ok (record.window start item.count)

/-- **A byte string stands behind the fields and the bytes of the items before it.** -/
theorem standsAt_of_split {layout : Layout} {before after : List LayoutItem} {item : LayoutItem}
    (split : layout.items = before ++ item :: after) (string : item.code.isByteString = true) :
    layout.StandsAt item (before.map LayoutItem.valueCount).sum
      (endPosition layout.convention.native before 0) := by
  obtain ⟨position, here⟩ := slotsFrom_string layout.convention.native string after
    (endPosition layout.convention.native before 0)
  have slots : layout.slots = slotsFrom layout.convention.native before 0 ++ (.filler 0 ::
      .field item.code item.count :: slotsFrom layout.convention.native after position) := by
    rw [Layout.slots, split, slotsFrom_append, here]
  have start := endPosition_eq_slotsFrom layout.convention.native before 0
  rw [Nat.zero_add] at start
  have index := countP_isField_slotsFrom layout.convention.native before 0
  have fields : ((slotsFrom layout.convention.native before 0).filterMap Slot.field?).length
      = (before.map LayoutItem.valueCount).sum := by
    rw [filterMap_slotsFrom, List.length_flatMap]
    simp only [LayoutItem.length_fields]
  constructor
  case listed =>
    refine mem_byteFields ?_ string
    rw [Layout.fields, slots, List.filterMap_append, List.getElem?_append_right (Nat.le_of_eq fields),
      fields, Nat.sub_self]
    rfl
  case fits =>
    rw [size_eq_slots, slots, start]
    simp [Slot.length]
  case read =>
    intro record
    have skipped := (Codec.length_readSlots layout.convention.order
      (slotsFrom layout.convention.native before 0) record).trans fields
    rw [slots, Codec.readSlots_append, List.getElem?_append_right (Nat.le_of_eq skipped), skipped,
      Nat.sub_self, ← start]
    rfl
  case written =>
    intro values record written
    rw [slots] at written
    obtain ⟨first, second, rfl, full, rest⟩ := Codec.writeSlots_append written
    rw [← start] at full
    rw [index] at rest
    obtain ⟨later, rest, rfl⟩ := Codec.writeSlots_filler rest
    obtain ⟨value, values', bytes, later, left, taken, -, rfl⟩ := Codec.writeSlots_field rest
    refine ⟨value, ?_, ?_⟩
    · have head := congrArg (fun vs => vs[0]?) left
      simpa using head
    · rw [taken, Bytes.window, List.drop_left' full]
      simp [Code.length_write taken]

/-! ## The scan and the registry -/

/-- A text that is no longer than a numeral may be has no count that is too long. -/
lemma not_hasLongCount_of_length {text : List Char} (short : text.length ≤ Text.digitLimit) :
    ¬ HasLongCount text := by
  rintro ⟨rest, suffix, count, letter, after, rfl, -, -, long⟩
  have whole := suffix.length_le
  rw [List.length_append] at whole
  omega

/-- **The scan of a layout finds its byte strings just if no count is too long.**  Take any layout that
can be read.  Its byte strings are those among its fields, in order, each with its place.  Wherever a byte
string stands among the items, its place is the number of values that are read from the items before it:
the value at this place is read from the bytes of the item, and written to them.

Where a count is too long no type can be registered with the layout.  A type that is registered with it
has the byte strings of the layout, and each of them is one of its fields. -/
theorem located_iff_short_counts {written : String} {layout : Layout}
    (read : ofText? written = some layout) :
    (byteFields? (markedText written.toList) = some layout.byteFields
      ↔ ¬ HasLongCount (markedText written.toList)) ∧
    layout.byteFields = layout.fields.zipIdx.filterMap ByteField.ofField? ∧
    (∀ before item after, layout.items = before ++ item :: after → item.code.isByteString = true →
      layout.StandsAt item (before.map LayoutItem.valueCount).sum
        (endPosition layout.convention.native before 0)) ∧
    (HasLongCount (markedText written.toList) → ∀ (codec : Codec) tag type after,
      codec.register tag written type ≠ .ok after) ∧
    ∀ (codec : Codec) tag type after, codec.register tag written type = .ok after →
      ∃ shape, after.shapeOfType? type.name = some shape ∧ shape.layout = layout ∧
        shape.byteFields = layout.byteFields ∧
        ∀ field ∈ shape.byteFields, field.index < type.fields.length := by
  refine ⟨?scan, layout.byteFields_eq, fun before item after => standsAt_of_split, ?refused, ?entered⟩
  case scan =>
    rw [← byteFields?_eq_none_iff]
    cases found : byteFields? (markedText written.toList) with
    | none => simp
    | some fields => simp [byteFields?_eq read found]
  case refused =>
    intro long codec tag type after done
    have scanned := Codec.scanned_of_register done
    rw [byteFields?_eq_none_iff.2 long] at scanned
    cases scanned
  case entered =>
    intro codec tag type after done
    obtain ⟨shape, step⟩ := Codec.registered done
    have same : shape.layout = layout := Option.some.inj (step.layout.symm.trans read)
    refine ⟨shape, ?_, same, same ▸ step.sound.byteFields, ?_⟩
    · rw [step.entered, Codec.shapeOfType?_enter, step.type, if_pos rfl]
    · intro field listed
      rw [step.sound.byteFields] at listed
      obtain ⟨code, stands, -⟩ := of_mem_byteFields listed
      rw [← step.type, ← step.sound.fieldCount, ← length_fields]
      exact (List.getElem?_eq_some_iff.1 stands).1

/-! ### A mixed layout, and one whose count is too long -/

/-- Numbers that have to be aligned, filler, and byte strings, among them one without bytes, and a number
that is counted but not there. -/
def mixed : Layout :=
  ⟨⟨.little, true⟩, [⟨1, .integer .byte true⟩, ⟨2, .filler⟩, ⟨0, .integer .int true⟩, ⟨3, .fixedBytes⟩,
    ⟨2, .integer .short false⟩, ⟨5, .countedBytes⟩, ⟨0, .fixedBytes⟩, ⟨1, .truth⟩, ⟨1, .fixedBytes⟩]⟩

theorem located_iff_short_counts_mixed :
    ofText? "@b2x0i3s \t2H05p0s?s" = some mixed ∧
      byteFields? (markedText "@b2x0i3s \t2H05p0s?s".toList)
        = some [⟨1, false, 3⟩, ⟨4, true, 5⟩, ⟨5, false, 0⟩, ⟨7, false, 1⟩] ∧
      mixed.StandsAt ⟨5, .countedBytes⟩ 4 12 := by
  have read : ofText? "@b2x0i3s \t2H05p0s?s" = some mixed := by decide +kernel
  obtain ⟨scan, -, stands, -⟩ := located_iff_short_counts read
  refine ⟨read, ?_, stands [_, _, _, _, _] _ _ rfl rfl⟩
  exact scan.2 (not_hasLongCount_of_length (by decide +kernel))

/-- Zeros in front of a count do not change it. -/
lemma readItems_zeros (native : Bool) (zeros : Nat) (cs : List Char) :
    readItems native (some 0) (List.replicate zeros '0' ++ cs) = readItems native (some 0) cs := by
  induction zeros with
  | zero => rfl
  | succ zeros ih => exact ih

/-- A layout of four bytes, with so many zeros in front of the count that it is too long. -/
def padded : List Char := List.replicate Text.digitLimit '0' ++ ['4', 's']

lemma markedText_padded : markedText padded = '!' :: padded := rfl

lemma hasLongCount_padded : HasLongCount ('!' :: padded) := by
  refine ⟨padded, List.suffix_cons _ _, List.replicate Text.digitLimit '0' ++ ['4'], 's', [],
    by simp [padded], ?_, ⟨by decide, by decide⟩, by simp⟩
  intro c among
  rcases List.mem_append.1 among with zero | four
  · rw [List.eq_of_mem_replicate zero]
    rfl
  · rw [List.mem_singleton.1 four]
    rfl

lemma ofText?_padded :
    ofText? (String.ofList padded) = some ⟨⟨.big, false⟩, [⟨4, .fixedBytes⟩]⟩ := by
  have items : readItems false none padded = some [⟨4, .fixedBytes⟩] := by
    have first : padded = '0' :: (List.replicate 4299 '0' ++ ['4', 's']) := rfl
    rw [first, readItems, if_pos (by decide)]
    exact readItems_zeros false 4299 ['4', 's']
  rw [ofText?, String.toList_ofList, markedText_padded]
  simp only [ofMarkedText?, Convention.ofMark?, Option.bind_eq_bind, Option.bind_some, items]
  rfl

/-- If the scan fails, a type of one field cannot be registered with a layout of four bytes. -/
lemma register_of_unscanned {written : String}
    (ascii : written.toList.all (fun c => decide (c.toNat < 128)) = true)
    (read : ofText? written = some ⟨⟨.big, false⟩, [⟨4, .fixedBytes⟩]⟩)
    (unscanned : byteFields? (markedText written.toList) = none) :
    Codec.empty.register 7 written ⟨"Label", ["text"], true, fun _ => none⟩
      = .error .countTooLong := by
  have reserved : Codec.empty.reserve 7 written
      = .ok ⟨7, written, ⟨⟨.big, false⟩, [⟨4, .fixedBytes⟩]⟩⟩ := by
    unfold Codec.reserve
    rw [if_pos (by decide), ascii, read]
    rfl
  simp only [Codec.register, reserved, bind, Except.bind, Codec.complete, unscanned]
  rfl

/-- **Not the byte strings of every layout are found.**  A layout of one byte string, its count four with
zeros in front of it, can be read, and a record of it too.  The scan fails, and no type can be registered
with the layout. -/
theorem not_every_layout_located :
    ofText? (String.ofList padded) = some ⟨⟨.big, false⟩, [⟨4, .fixedBytes⟩]⟩ ∧
      Codec.readSlots .big (slots ⟨⟨.big, false⟩, [⟨4, .fixedBytes⟩]⟩) [1, 2, 3, 4]
        = [.bytes [1, 2, 3, 4]] ∧
      byteFields ⟨⟨.big, false⟩, [⟨4, .fixedBytes⟩]⟩ = [⟨0, false, 4⟩] ∧
      byteFields? (markedText (String.ofList padded).toList) = none ∧
      Codec.empty.register 7 (String.ofList padded) ⟨"Label", ["text"], true, fun _ => none⟩
        = .error .countTooLong := by
  have unscanned : byteFields? (markedText (String.ofList padded).toList) = none := by
    rw [String.toList_ofList, markedText_padded]
    exact byteFields?_eq_none_iff.2 hasLongCount_padded
  have ascii : (String.ofList padded).toList.all (fun c => decide (c.toNat < 128)) = true := by
    rw [String.toList_ofList, padded, List.all_append, List.all_replicate]
    rfl
  exact ⟨ofText?_padded, rfl, rfl, unscanned, register_of_unscanned ascii ofText?_padded unscanned⟩

end Layout

end RollCall
