import RollCall.Proofs.Layout.RoundTrip

/-!
# Writing what was read

Integers, single bytes and byte strings of a fixed length leave no bit of their fields unread.  So a
record that holds nothing else is written again, byte for byte, from the values that are read from it.
Filler, truth values, floating-point numbers and counted byte strings do not have this: several records
read alike.

* `Code.isExact`, `Layout.isExact` — the codes and the layouts that leave nothing unread.
* `Code.write_read` — **one field**: what is written is what was read.
* `readSlots_eq_chunk`, `length_readSlots` — each field is read from bytes of its own length.
* `writeSlots_readSlots` — a record, by induction on its slots.
-/

namespace RollCall

namespace ByteOrder

lemma read_lt (order : ByteOrder) (bs : Bytes) : order.read bs < 256 ^ bs.length := by
  cases order
  · exact Bytes.ofBigEndian_lt bs
  · exact Bytes.ofLittleEndian_lt bs

end ByteOrder

namespace Code

/-- Whether any two records that differ in a field of the code are read differently. -/
def isExact : Code → Bool
  | character | integer _ _ | pointer | fixedBytes => true
  | _ => false

/-! ## Integers -/

/-- An integer that is read is one that its field can hold. -/
lemma readInteger_bounds (order : ByteOrder) (signed : Bool) {bs : Bytes} (some : 0 < bs.length) :
    least signed bs.length ≤ readInteger order signed bs ∧
      readInteger order signed bs < bound signed bs.length := by
  obtain ⟨range, twice⟩ := range_eq some
  have small : (order.read bs : Int) < (256 ^ bs.length : Nat) := by
    exact_mod_cast order.read_lt bs
  rw [range] at small
  unfold readInteger least bound
  cases signed with
  | false => simp only [Bool.false_and, Bool.false_eq_true, if_false]; omega
  | true =>
    simp only [Bool.true_and, decide_eq_true_eq, if_true]
    split <;> omega

/-- An integer that is read is written in the bytes that it was read from. -/
lemma writeInteger_readInteger (order : ByteOrder) (signed : Bool) {bs : Bytes}
    (some : 0 < bs.length) : writeInteger order bs.length (readInteger order signed bs) = bs := by
  have small : (order.read bs : Int) < (256 ^ bs.length : Nat) := by
    exact_mod_cast order.read_lt bs
  have read : readInteger order signed bs % (256 ^ bs.length : Nat) = order.read bs := by
    unfold readInteger
    dsimp only
    split
    · rw [← (range_eq some).1, Int.sub_emod_right, Int.emod_eq_of_lt (by omega) small]
    · exact Int.emod_eq_of_lt (by omega) small
  rw [writeInteger, read, Int.toNat_natCast, ByteOrder.write_read]

/-! ## One field -/

/-- **One field.**  What is read from the bytes of an exact field is written as these bytes. -/
theorem write_read {convention : Convention} {code : Code} {bs : Bytes} (exact : code.isExact = true)
    (width : code.isByteString = false → bs.length = code.width convention.native) :
    code.write convention bs.length (code.read convention.order bs) = .ok bs := by
  cases code with
  | filler | truth | float | countedBytes => cases exact
  | character =>
    have one : bs.length = 1 := width rfl
    obtain ⟨b, rfl⟩ := List.length_eq_one_iff.1 one
    rfl
  | fixedBytes => exact congrArg Except.ok (fit_of_length rfl)
  | integer size signed =>
    have some : 0 < bs.length := by
      rw [width rfl]
      exact width_pos _ _
    show (if _ then Except.ok _ else _) = _
    rw [if_pos (readInteger_bounds _ signed some), writeInteger_readInteger _ signed some]
  | pointer =>
    have some : 0 < bs.length := by
      rw [width rfl]
      exact width_pos _ _
    obtain ⟨low, high⟩ := readInteger_bounds convention.order false some
    have signed : least true bs.length ≤ 0 := by simp [least]
    show (if _ then Except.ok _ else _) = _
    rw [if_pos ⟨Int.le_trans signed low, high⟩, writeInteger_readInteger _ false some]

end Code

/-! ## A record -/

/-- Whether a slot holds an exact field, or nothing. -/
def Slot.isExact : Slot → Bool
  | filler length => length == 0
  | field code _ => code.isExact

/-- Whether the record holds integers, single bytes and byte strings of a fixed length alone, and no
filler between them. -/
def Layout.isExact (layout : Layout) : Bool := layout.slots.all Slot.isExact

namespace Codec

variable {convention : Convention} {slots : List Slot} {bytes : Bytes}

/-- As many values are read as there are fields. -/
lemma length_readSlots (order : ByteOrder) (slots : List Slot) (bytes : Bytes) :
    (readSlots order slots bytes).length = (slots.filterMap Slot.field?).length := by
  induction slots generalizing bytes with
  | nil => rfl
  | cons slot slots ih => cases slot <;> simp [readSlots, ih]

/-- The value of a field is read from bytes of the field's length. -/
lemma readSlots_eq_chunk (order : ByteOrder) (full : bytes.length = (slots.map Slot.length).sum)
    {place length : Nat} {code : Code}
    (stands : (slots.filterMap Slot.field?)[place]? = some (code, length)) :
    ∃ chunk : Bytes, chunk.length = length ∧
      (readSlots order slots bytes)[place]? = some (code.read order chunk) := by
  induction slots generalizing bytes place with
  | nil => cases stands
  | cons slot slots ih =>
    rw [List.map_cons, List.sum_cons] at full
    have rest : (bytes.drop slot.length).length = (slots.map Slot.length).sum := by
      rw [List.length_drop]
      omega
    cases slot with
    | filler skipped =>
      rw [Slot.filterMap_filler] at stands
      exact ih rest stands
    | field other width =>
      rw [Slot.filterMap_field] at stands
      cases place with
      | zero =>
        cases stands
        refine ⟨bytes.take length, ?_, rfl⟩
        have within : length ≤ bytes.length := by
          rw [full]
          exact Nat.le_add_right length _
        rw [List.length_take, Nat.min_eq_left within]
      | succ place => exact ih rest stands

/-- **A record.**  What is read from the slots of a record is written as the bytes of the record, if
all slots are exact. -/
theorem writeSlots_readSlots (exact : ∀ slot ∈ slots, slot.isExact = true)
    (widths : ∀ field ∈ slots.filterMap Slot.field?, field.1.isByteString = false →
      field.2 = field.1.width convention.native)
    (full : bytes.length = (slots.map Slot.length).sum) :
    writeSlots convention slots (readSlots convention.order slots bytes) = .ok bytes := by
  induction slots generalizing bytes with
  | nil =>
    obtain rfl := List.eq_nil_of_length_eq_zero full
    rfl
  | cons slot slots ih =>
    rw [List.forall_mem_cons] at exact
    obtain ⟨first, exact⟩ := exact
    rw [List.map_cons, List.sum_cons] at full
    cases slot with
    | filler length =>
      obtain rfl : length = 0 := by simpa [Slot.isExact] using first
      rw [Slot.filterMap_filler] at widths
      have later := ih exact widths (by simpa [Slot.length] using full)
      simp [readSlots, writeSlots, later, Bytes.zeros]
    | field code length =>
      rw [Slot.filterMap_field] at widths
      rw [List.forall_mem_cons] at widths
      obtain ⟨width, widths⟩ := widths
      replace full : bytes.length = length + (slots.map Slot.length).sum := full
      have front : (bytes.take length).length = length := by
        rw [List.length_take]
        omega
      have back : (bytes.drop length).length = (slots.map Slot.length).sum := by
        rw [List.length_drop]
        omega
      have here : code.write convention length (code.read convention.order (bytes.take length))
          = .ok (bytes.take length) := by
        have wide : code.isByteString = false →
            (bytes.take length).length = code.width convention.native := by
          rw [front]
          exact width
        have field := Code.write_read first wide
        rwa [front] at field
      have later := ih exact widths back
      rw [readSlots, writeSlots, here, later]
      show Except.ok (bytes.take length ++ bytes.drop length) = _
      rw [List.take_append_drop]

end Codec

end RollCall
