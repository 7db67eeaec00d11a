import Mathlib.Data.List.Forall2
import Mathlib.Tactic.NormNum
import Mathlib.Tactic.Positivity
import RollCall.Packet.Codec
import RollCall.Proofs.Layout.ByteField

/-!
# Reading what was written

A value that is written into a field comes back from it unchanged, except that a truth value written
as an integer comes back as that integer, which it equals.  A byte string has to have the length that
its field stores without loss.

* `FieldValue.Same` — equality of values, for which truth values are integers.
* `Code.Covers`, `Code.stored` — the values that a code stores faithfully, and what they are read as.
* `Code.Holds` — a byte string has the length of its field.
* `Code.read_write` — **one field**: what is read is what was written.
* `readSlots_writeSlots` — a record, by induction on its slots.
-/

namespace RollCall

namespace FieldValue

/-- The values are equal; a truth value equals the integer that it stands for. -/
def Same (a b : FieldValue) : Prop := a = b ∨ ∃ n, a.integer? = some n ∧ b.integer? = some n

end FieldValue

namespace Code

/-- Whether a code stores a value as it is: addresses and floating-point numbers are left aside, and
a truth value is expected where only the truth of a value is stored. -/
def covers (code : Code) (value : FieldValue) : Bool :=
  match code, value with
  | pointer, _ | float _, _ | filler, _ => false
  | truth, .bool _ => true
  | truth, _ => false
  | _, _ => true

/-- What is read back of a value that was written: integer fields give integers. -/
def stored (code : Code) (value : FieldValue) : FieldValue :=
  match code, value with
  | integer _ _, .bool b => .int b.toNat
  | _, value => value

/-- An integer field gives back the integer that was written. -/
lemma stored_of_integer {size : IntegerSize} {signed : Bool} {value : FieldValue} {n : Int}
    (number : value.integer? = some n) : (integer size signed).stored value = .int n := by
  cases value <;> cases number <;> rfl

/-- A stored value equals the value. -/
lemma same_stored (code : Code) (value : FieldValue) : value.Same (code.stored value) := by
  unfold stored
  split
  · exact .inr ⟨_, rfl, rfl⟩
  · exact .inl rfl

/-- The field is as wide as a value of its code, or holds the byte string without loss: a fixed one
has exactly the length of the field, and a counted one leaves room for a byte with its length. -/
def Holds (native : Bool) (code : Code) (length : Nat) (value : FieldValue) : Prop :=
  match code, value with
  | fixedBytes, .bytes bs => bs.length = length
  | countedBytes, .bytes bs => bs.length < length ∧ bs.length ≤ 255
  | fixedBytes, _ | countedBytes, _ => True
  | code, _ => length = code.width native

/-! ## Integers -/

/-- The number in the bytes of an integer is the integer modulo the range of the bytes. -/
lemma read_writeInteger (order : ByteOrder) (length : Nat) (n : Int) :
    (order.read (writeInteger order length n) : Int) = n % (256 ^ length : Nat) := by
  have range : (0 : Int) < (256 ^ length : Nat) := by positivity
  have nonneg := Int.emod_nonneg n (Int.ne_of_gt range)
  have small := Int.emod_lt_of_pos n range
  rw [writeInteger, ByteOrder.read_write, Nat.mod_eq_of_lt (by omega), Int.toNat_of_nonneg nonneg]

/-- The range of the bytes is twice the range of the non-negative signed integers in them. -/
lemma range_eq {length : Nat} (positive : 0 < length) :
    ((256 ^ length : Nat) : Int) = 2 ^ (8 * length) ∧
      (2 : Int) ^ (8 * length) = 2 * 2 ^ (8 * length - 1) := by
  refine ⟨by rw [Nat.cast_pow, pow_mul]; norm_num, ?_⟩
  rw [← pow_succ', Nat.sub_add_cancel (by omega)]

/-- Cutting a number to the bytes of a field keeps it, if the field can hold it. -/
lemma readInteger_writeInteger (order : ByteOrder) {signed : Bool} {length : Nat} {n : Int}
    (positive : 0 < length) (low : least signed length ≤ n) (high : n < bound signed length) :
    readInteger order signed (writeInteger order length n) = n := by
  obtain ⟨range, twice⟩ := range_eq positive
  have half : (0 : Int) < 2 ^ (8 * length - 1) := by positivity
  have width : (writeInteger order length n).length = length := ByteOrder.length_write ..
  unfold readInteger
  rw [read_writeInteger, width, range]
  cases signed with
  | false =>
    simp only [least, bound, Bool.false_eq_true, if_false, Bool.false_and] at low high ⊢
    exact Int.emod_eq_of_lt low high
  | true =>
    simp only [least, bound, if_true, Bool.true_and, decide_eq_true_eq] at low high ⊢
    rcases Int.lt_or_le n 0 with negative | nonneg
    · have wrapped : n % 2 ^ (8 * length) = n + 2 ^ (8 * length) := by
        rw [← Int.add_emod_right, Int.emod_eq_of_lt (by omega) (by omega)]
      rw [wrapped, if_pos (by omega)]
      omega
    · rw [Int.emod_eq_of_lt nonneg (by omega), if_neg (by omega)]

/-! ## One field -/

lemma fit_of_length {length : Nat} {bs : Bytes} (same : bs.length = length) :
    fit length bs = bs := by
  subst same
  simp [fit, Bytes.zeros]

/-- A counted byte string is read back from behind the byte with its length. -/
lemma take_fit {length : Nat} {bs : Bytes} (room : bs.length < length) (short : bs.length ≤ 255) :
    ∃ filling, fit length (UInt8.ofNat (min (bs.take (length - 1)).length 255) :: bs.take (length - 1))
      = UInt8.ofNat bs.length :: (bs ++ filling) := by
  have whole : bs.take (length - 1) = bs := List.take_of_length_le (by omega)
  rw [whole, Nat.min_eq_left short]
  refine ⟨Bytes.zeros (length - (bs.length + 1)), ?_⟩
  unfold fit
  rw [List.length_cons, List.take_of_length_le (by simp; omega)]
  rfl

/-- **One field.**  What is read from the bytes of a field is what was written to them. -/
theorem read_write {convention : Convention} {code : Code} {length : Nat} {value : FieldValue}
    {bs : Bytes} (written : code.write convention length value = .ok bs)
    (covered : code.covers value = true) (holds : code.Holds convention.native length value) :
    code.read convention.order bs = code.stored value := by
  cases code with
  | filler | pointer | float => cases covered
  | character =>
    obtain rfl : length = 1 := holds
    dsimp only [write] at written
    split at written <;> cases written
    rfl
  | truth =>
    obtain rfl : length = 1 := holds
    cases value with
    | bool b => cases written; cases b <;> rfl
    | _ => cases covered
  | integer size signed =>
    have positive : 0 < length := by
      rw [show length = (integer size signed).width convention.native from holds]
      exact width_pos _ _
    dsimp only [write] at written
    cases number : value.integer? with
    | none => rw [number] at written; cases written
    | some n =>
      rw [number] at written
      dsimp only at written
      split at written
      case isFalse => cases written
      case isTrue inside =>
        cases written
        show FieldValue.int (readInteger _ signed _) = _
        rw [readInteger_writeInteger _ positive inside.1 inside.2]
        exact (stored_of_integer number).symm
  | fixedBytes =>
    cases value with
    | bytes content =>
      cases written
      show FieldValue.bytes (fit length content) = .bytes content
      rw [fit_of_length holds]
    | _ => cases written
  | countedBytes =>
    cases value with
    | bytes content =>
      cases written
      obtain ⟨room, short⟩ := holds
      obtain ⟨filling, laidOut⟩ := take_fit room short
      rw [laidOut]
      show FieldValue.bytes ((content ++ filling).take (UInt8.ofNat content.length).toNat) = _
      have count : (UInt8.ofNat content.length).toNat = content.length :=
        UInt8.toNat_ofNat_of_lt (Nat.lt_of_le_of_lt short (by decide))
      rw [count, List.take_left]
      rfl
    | _ => cases written

end Code

/-! ## A record -/

/-- What is read back of a row of values that was written to the fields of a record. -/
def storedValues (fields : List (Code × Nat)) (values : List FieldValue) : List FieldValue :=
  List.zipWith (fun field value => field.1.stored value) fields values

lemma same_storedValues {fields : List (Code × Nat)} {values : List FieldValue}
    (matched : fields.length = values.length) :
    List.Forall₂ FieldValue.Same values (storedValues fields values) := by
  induction fields generalizing values with
  | nil => cases values <;> first | exact .nil | cases matched
  | cons field fields ih =>
    cases values with
    | nil => cases matched
    | cons value values => exact .cons (Code.same_stored _ _) (ih (Nat.succ.inj matched))

namespace Codec

variable {convention : Convention}

/-- The bytes of a row of slots that begins with a field are those of the field and those of the
rest. -/
lemma writeSlots_field {code : Code} {length : Nat} {slots : List Slot} {values : List FieldValue}
    {bytes : Bytes}
    (written : writeSlots convention (.field code length :: slots) values = .ok bytes) :
    ∃ value later front back, values = value :: later ∧
      code.write convention length value = .ok front ∧
      writeSlots convention slots later = .ok back ∧ bytes = front ++ back := by
  cases values with
  | nil => cases written
  | cons value later =>
    rw [writeSlots] at written
    cases first : code.write convention length value with
    | error fault => rw [first] at written; cases written
    | ok front =>
      cases rest : writeSlots convention slots later with
      | error fault => rw [first, rest] at written; cases written
      | ok back =>
        rw [first, rest] at written
        cases written
        exact ⟨value, later, front, back, rfl, first, rest, rfl⟩

lemma writeSlots_filler {length : Nat} {slots : List Slot} {values : List FieldValue}
    {bytes : Bytes} (written : writeSlots convention (.filler length :: slots) values = .ok bytes) :
    ∃ back, writeSlots convention slots values = .ok back ∧ bytes = Bytes.zeros length ++ back := by
  rw [writeSlots] at written
  cases rest : writeSlots convention slots values with
  | error fault => rw [rest] at written; cases written
  | ok back =>
    rw [rest] at written
    cases written
    exact ⟨back, rfl, rfl⟩

/-- The bytes of a row of slots fill it. -/
lemma length_writeSlots {slots : List Slot} {values : List FieldValue} {bytes : Bytes}
    (written : writeSlots convention slots values = .ok bytes) :
    bytes.length = (slots.map Slot.length).sum := by
  induction slots generalizing values bytes with
  | nil => cases written; rfl
  | cons slot slots ih =>
    cases slot with
    | filler length =>
      obtain ⟨back, rest, rfl⟩ := writeSlots_filler written
      rw [List.length_append, Bytes.length_zeros, ih rest]
      rfl
    | field code length =>
      obtain ⟨value, later, front, back, rfl, first, rest, rfl⟩ := writeSlots_field written
      rw [List.length_append, Code.length_write first, ih rest]
      rfl

/-- **A record.**  What is read from the slots of a record is what was written to them, if each value
is one that its field stores faithfully. -/
theorem readSlots_writeSlots {slots : List Slot} {values : List FieldValue} {bytes : Bytes}
    (written : writeSlots convention slots values = .ok bytes)
    (faithful : ∀ pair ∈ (slots.filterMap Slot.field?).zip values, pair.1.1.covers pair.2 = true ∧
      pair.1.1.Holds convention.native pair.1.2 pair.2) :
    readSlots convention.order slots bytes
      = storedValues (slots.filterMap Slot.field?) values := by
  induction slots generalizing values bytes with
  | nil => rfl
  | cons slot slots ih =>
    cases slot with
    | filler length =>
      obtain ⟨back, rest, rfl⟩ := writeSlots_filler written
      rw [Slot.filterMap_filler] at faithful ⊢
      rw [readSlots, List.drop_left' (Bytes.length_zeros length)]
      exact ih rest faithful
    | field code length =>
      obtain ⟨value, later, front, back, rfl, first, rest, rfl⟩ := writeSlots_field written
      rw [Slot.filterMap_field] at faithful ⊢
      rw [List.zip_cons_cons, List.forall_mem_cons] at faithful
      obtain ⟨⟨covered, holds⟩, faithful⟩ := faithful
      have width := Code.length_write first
      rw [readSlots, List.take_left' width, List.drop_left' width,
        Code.read_write first covered holds, ih rest faithful]
      rfl

end Codec

end RollCall
