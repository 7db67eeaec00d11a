import RollCall.Layout.Basic
import RollCall.Layout.Field
import RollCall.Proofs.Bytes

/-!
# Records and their slots

The size of a layout and the number of its values are computed without spreading its items out.  They are
those of its slots.  What is written in a slot fills it.

* `Layout.size_eq_slots` — the slots of a layout fill its record.
* `Layout.endPosition_eq_slotsFrom`, `Layout.countP_isField_slotsFrom` — the same from a position on, for
  length and number of fields.
* `ByteOrder.read_write`, `ByteOrder.write_read` — numbers in the bytes of a field.
* `Code.length_write` — the bytes of a value fill the field.
-/

namespace RollCall

-- Powers and sums are the core library's, also where Mathlib has its own.
attribute [local instance (high)] instPowNat Zero.ofOfNat0

open Floating (Precision)

/-! ## The slots of a layout -/

lemma gap_one (position : Nat) : gap 1 position = 0 := by simp [gap, Nat.mod_one]

namespace Layout

lemma sum_length_item_slots (native : Bool) (item : LayoutItem) :
    ((item.slots native).map Slot.length).sum = item.extent native := by
  obtain ⟨count, code⟩ := item
  cases code <;> simp [LayoutItem.slots, LayoutItem.extent, Slot.length, Code.width]

lemma countP_isField_item_slots (native : Bool) (item : LayoutItem) :
    (item.slots native).countP Slot.isField = item.valueCount := by
  obtain ⟨count, code⟩ := item
  cases code <;>
    simp [LayoutItem.slots, LayoutItem.valueCount, Slot.isField, List.countP_replicate]

lemma endPosition_eq_slotsFrom (native : Bool) (items : List LayoutItem) (position : Nat) :
    endPosition native items position
      = position + ((slotsFrom native items position).map Slot.length).sum := by
  induction items generalizing position with
  | nil => simp [endPosition, slotsFrom]
  | cons item items ih =>
    rw [endPosition, ih]
    simp only [slotsFrom, List.map_cons, List.map_append, List.sum_cons, List.sum_append,
      sum_length_item_slots, Slot.length]
    omega

/-- The slots of a layout fill its record. -/
lemma size_eq_slots (layout : Layout) : layout.size = (layout.slots.map Slot.length).sum := by
  rw [size, endPosition_eq_slotsFrom, Nat.zero_add, slots]

lemma countP_isField_slotsFrom (native : Bool) (items : List LayoutItem) (position : Nat) :
    (slotsFrom native items position).countP Slot.isField
      = (items.map LayoutItem.valueCount).sum := by
  induction items generalizing position with
  | nil => rfl
  | cons item items ih =>
    simp [slotsFrom, Slot.isField, List.countP_append, countP_isField_item_slots, ih]

end Layout

/-! ## What stands in a slot -/

namespace ByteOrder

@[simp] lemma length_write (order : ByteOrder) (count n : Nat) :
    (order.write count n).length = count := by
  cases order <;> simp [write]

lemma read_write (order : ByteOrder) (count n : Nat) :
    order.read (order.write count n) = n % 256 ^ count := by
  cases order <;> simp [read, write, Bytes.ofBigEndian_bigEndian, Bytes.ofLittleEndian_littleEndian]

lemma write_read (order : ByteOrder) (bs : Bytes) :
    order.write bs.length (order.read bs) = bs := by
  cases order <;> simp [read, write, Bytes.bigEndian_ofBigEndian, Bytes.littleEndian_ofLittleEndian]

end ByteOrder

namespace Code

lemma width_pos (native : Bool) (code : Code) : 0 < code.width native := by
  cases code with
  | integer size _ => cases size <;> cases native <;> simp [width]
  | float precision => cases precision <;> simp [width, Precision.width]
  | _ => simp [width]

lemma length_fit (length : Nat) (bs : Bytes) : (fit length bs).length = length := by
  simp only [fit, List.length_take, List.length_append, Bytes.length_zeros]
  omega

/-- The bytes of a value fill the field. -/
lemma length_write {convention : Convention} {code : Code} {length : Nat} {value : FieldValue}
    {bs : Bytes} (h : code.write convention length value = .ok bs) : bs.length = length := by
  unfold write at h
  split at h
  case h_1 => cases h; exact Bytes.length_zeros length
  case h_2 => split at h <;> cases h; exact length_fit length _
  case h_3 => cases h; exact length_fit length _
  case h_4 | h_5 =>
    split at h
    · split at h <;> cases h
      exact ByteOrder.length_write _ length _
    · cases h
  case h_6 =>
    split at h
    · split at h
      · cases h; exact ByteOrder.length_write _ length _
      · split at h <;> cases h
        exact ByteOrder.length_write _ length _
    · cases h
  case h_7 => split at h <;> cases h; exact length_fit length _
  case h_8 => split at h <;> cases h; exact length_fit length _

end Code

end RollCall
