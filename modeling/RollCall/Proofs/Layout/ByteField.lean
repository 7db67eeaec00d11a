import RollCall.Layout.ByteField
import RollCall.Proofs.Layout.Slots
import RollCall.Proofs.Text.Numeral

/-!
# The two readings of a written layout

A written layout is read twice: once letter by letter into items, and once by a scan that looks for
byte strings only.  The scan does not know the letters of the layout, nor where blanks may stand, and
counts in its own way.  Where both readings succeed they agree.

* `Layout.fields` — the fields of the record, each with its code and its length.
* `LayoutItem.byteFields`, `Layout.byteFields` — the byte strings of a layout, by its items.
* `mem_byteFields`, `of_mem_byteFields` — they are the fields that are byte strings, each at its
  place.
* `byteFields?_eq` — **the scan finds exactly these.**
-/

namespace RollCall

/-! ## The fields of a record -/

/-- The code and the length of the field in a slot, if it holds one. -/
def Slot.field? : Slot → Option (Code × Nat)
  | filler _ => none
  | field code length => some (code, length)

@[simp] lemma Slot.filterMap_filler (length : Nat) (slots : List Slot) :
    (filler length :: slots).filterMap field? = slots.filterMap field? := rfl

@[simp] lemma Slot.filterMap_field (code : Code) (length : Nat) (slots : List Slot) :
    (field code length :: slots).filterMap field? = (code, length) :: slots.filterMap field? := rfl

namespace Code

/-- Whether a field of the code is a byte string as wide as the count of its item. -/
def isByteString : Code → Bool
  | fixedBytes | countedBytes => true
  | _ => false

end Code

namespace LayoutItem

/-- The fields of an item. -/
def fields (native : Bool) (item : LayoutItem) : List (Code × Nat) :=
  (item.slots native).filterMap Slot.field?

/-- The fields of an item: none for filler, one for a byte string, and else as many as it counts. -/
lemma fields_eq (native : Bool) (item : LayoutItem) :
    item.fields native = List.replicate item.valueCount
      (item.code, if item.code.isByteString then item.count else item.code.width native) := by
  have repeated (code : Code) : List.filterMap Slot.field?
      (List.replicate item.count (.field code (code.width native)))
        = List.replicate item.count (code, code.width native) :=
    List.filterMap_replicate_of_some rfl
  obtain ⟨count, code⟩ := item
  cases code with
  | filler | fixedBytes | countedBytes => rfl
  | _ => exact repeated _

lemma length_fields (native : Bool) (item : LayoutItem) :
    (item.fields native).length = item.valueCount := by
  rw [fields_eq, List.length_replicate]

lemma valueCount_of_isByteString {item : LayoutItem} (string : item.code.isByteString = true) :
    item.valueCount = 1 := by
  obtain ⟨count, code⟩ := item
  cases code <;> first | rfl | cases string

/-- The byte strings of an item whose first field stands at a place. -/
def byteFields (index : Nat) (item : LayoutItem) : List ByteField :=
  if item.code.isByteString then [⟨index, item.code == .countedBytes, item.count⟩] else []

/-- The byte strings of a row of items whose first field stands at a place. -/
def byteFieldsFrom (index : Nat) : List LayoutItem → List ByteField
  | [] => []
  | item :: items => item.byteFields index ++ byteFieldsFrom (index + item.valueCount) items

end LayoutItem

namespace Layout

/-- The fields of the record, in order. -/
def fields (layout : Layout) : List (Code × Nat) := layout.slots.filterMap Slot.field?

/-- The byte strings of the record, in order. -/
def byteFields (layout : Layout) : List ByteField := LayoutItem.byteFieldsFrom 0 layout.items

/-- The fields of a row of items are those of the items. -/
lemma filterMap_slotsFrom (native : Bool) (items : List LayoutItem) (position : Nat) :
    (slotsFrom native items position).filterMap Slot.field?
      = items.flatMap (LayoutItem.fields native) := by
  induction items generalizing position with
  | nil => rfl
  | cons item items ih =>
    rw [slotsFrom, Slot.filterMap_filler, List.filterMap_append, ih, List.flatMap_cons]
    rfl

lemma fields_eq (layout : Layout) :
    layout.fields = layout.items.flatMap (LayoutItem.fields layout.convention.native) :=
  filterMap_slotsFrom _ _ _

lemma length_fields (layout : Layout) : layout.fields.length = layout.valueCount := by
  rw [fields_eq, List.length_flatMap, valueCount]
  simp only [LayoutItem.length_fields]

/-- A field that is no byte string is as wide as its code. -/
lemma length_of_mem_fields {layout : Layout} {field : Code × Nat} (held : field ∈ layout.fields)
    (other : field.1.isByteString = false) :
    field.2 = field.1.width layout.convention.native := by
  rw [fields_eq] at held
  obtain ⟨item, -, held⟩ := List.mem_flatMap.1 held
  rw [LayoutItem.fields_eq] at held
  obtain ⟨-, rfl⟩ := List.mem_replicate.1 held
  exact if_neg (by rw [Bool.not_eq_true]; exact other)

lemma mem_byteFieldsFrom {native : Bool} {items : List LayoutItem} {index place length : Nat}
    {code : Code} (stands : (items.flatMap (LayoutItem.fields native))[place]? = some (code, length))
    (string : code.isByteString = true) :
    ⟨index + place, code == .countedBytes, length⟩ ∈ LayoutItem.byteFieldsFrom index items := by
  induction items generalizing index place with
  | nil => cases stands
  | cons item items ih =>
    rw [List.flatMap_cons] at stands
    rw [LayoutItem.byteFieldsFrom, List.mem_append]
    by_cases here : place < (item.fields native).length
    · left
      rw [List.getElem?_append_left here, LayoutItem.fields_eq] at stands
      have held := List.mem_of_getElem? stands
      obtain ⟨-, same⟩ := List.mem_replicate.1 held
      obtain ⟨rfl, rfl⟩ := Prod.mk.inj same
      rw [LayoutItem.length_fields, LayoutItem.valueCount_of_isByteString string] at here
      obtain rfl : place = 0 := by omega
      rw [LayoutItem.byteFields, if_pos string, if_pos string]
      exact List.mem_singleton_self _
    · right
      rw [List.getElem?_append_right (by omega), LayoutItem.length_fields] at stands
      rw [LayoutItem.length_fields] at here
      have later : ⟨index + item.valueCount + (place - item.valueCount), code == .countedBytes, length⟩
          ∈ LayoutItem.byteFieldsFrom (index + item.valueCount) items := ih stands
      have same : index + item.valueCount + (place - item.valueCount) = index + place := by omega
      rwa [same] at later

/-- A field that is a byte string is listed with its place. -/
lemma mem_byteFields {layout : Layout} {place length : Nat} {code : Code}
    (stands : layout.fields[place]? = some (code, length)) (string : code.isByteString = true) :
    ⟨place, code == .countedBytes, length⟩ ∈ layout.byteFields := by
  rw [fields_eq] at stands
  have listed : ⟨0 + place, code == .countedBytes, length⟩ ∈ layout.byteFields :=
    mem_byteFieldsFrom stands string
  rwa [Nat.zero_add] at listed

lemma of_mem_byteFieldsFrom {native : Bool} {items : List LayoutItem} {index : Nat}
    {field : ByteField} (listed : field ∈ LayoutItem.byteFieldsFrom index items) :
    ∃ place code, field.index = index + place ∧
      (items.flatMap (LayoutItem.fields native))[place]? = some (code, field.width) ∧
      code.isByteString = true ∧ field.counted = (code == .countedBytes) := by
  induction items generalizing index with
  | nil => cases listed
  | cons item items ih =>
    rw [LayoutItem.byteFieldsFrom, List.mem_append] at listed
    rw [List.flatMap_cons]
    rcases listed with here | later
    · unfold LayoutItem.byteFields at here
      split at here
      case isFalse => cases here
      case isTrue string =>
        obtain rfl := List.mem_singleton.1 here
        refine ⟨0, item.code, rfl, ?_, string, rfl⟩
        rw [LayoutItem.fields_eq, LayoutItem.valueCount_of_isByteString string, if_pos string]
        rfl
    · obtain ⟨place, code, index', stands, string, counted⟩ := ih later
      refine ⟨item.valueCount + place, code, by omega, ?_, string, counted⟩
      rw [List.getElem?_append_right (by rw [LayoutItem.length_fields]; omega),
        LayoutItem.length_fields, Nat.add_sub_cancel_left]
      exact stands

/-- What is listed with its place is a field that is a byte string. -/
lemma of_mem_byteFields {layout : Layout} {field : ByteField}
    (listed : field ∈ layout.byteFields) :
    ∃ code, layout.fields[field.index]? = some (code, field.width) ∧ code.isByteString = true ∧
      field.counted = (code == .countedBytes) := by
  obtain ⟨place, code, index, stands, string, counted⟩ := of_mem_byteFieldsFrom listed
  rw [fields_eq, index, Nat.zero_add]
  exact ⟨code, stands, string, counted⟩

end Layout

/-! ## The scan -/

/-- A letter that stands for a code is one that the scan stops at, and the scan tells filler and byte
strings from other codes by their letters. -/
lemma Code.letter_of_ofLetter? {native : Bool} {c : Char} {code : Code}
    (read : ofLetter? native c = some code) : c.isDigit = false ∧ (c.isAlpha || c == '?') = true ∧
      (c = 'x' ↔ code = .filler) ∧ (c = 's' ↔ code = .fixedBytes) ∧
      (c = 'p' ↔ code = .countedBytes) := by
  unfold ofLetter? at read
  split at read
  case h_22 => cases read
  case h_14 | h_15 | h_16 =>
    split at read
    · cases read; decide
    · cases read
  all_goals cases read; decide

/-- The scan passes over the mark of a convention. -/
lemma Convention.not_letter_of_ofMark? {c : Char} {convention : Convention}
    (marked : ofMark? c = some convention) :
    c.isDigit = false ∧ (c.isAlpha || c == '?') = false := by
  unfold ofMark? at marked
  split at marked
  case h_6 => cases marked
  all_goals decide

/-- The scan passes over the blanks between items. -/
lemma Layout.not_letter_of_isSeparator {c : Char} (blank : isSeparator c = true) :
    (c.isAlpha || c == '?') = false := by
  simp only [isSeparator, Bool.or_eq_true, beq_iff_eq] at blank
  rcases blank with ((((rfl | rfl) | rfl) | rfl) | rfl) | rfl <;> decide

namespace ByteField

/-- The count that the scan reads is the one that the digits write. -/
lemma count_eq {digits : List Nat} {count : Option Nat} {n : Nat}
    (same : count = if digits.isEmpty then none else some (Text.ofDigits digits.reverse))
    (counted : count? digits = some n) : n = count.getD 1 := by
  rw [same]
  unfold count? Text.limitedNumber? at counted
  split at counted
  case isTrue none =>
    cases counted
    rw [if_pos none]
    rfl
  case isFalse some =>
    rw [if_neg some]
    split at counted <;> cases counted
    rfl

/-- At the letter of a code the scan lists the byte string of the item, if it is one, and goes on
behind the item's fields. -/
lemma scan_letter {native : Bool} {c : Char} {cs : List Char} {code : Code} {index : Nat}
    {digits : List Nat} {count : Option Nat} {found : List ByteField}
    (letter : Code.ofLetter? native c = some code)
    (same : count = if digits.isEmpty then none else some (Text.ofDigits digits.reverse))
    (scanned : scan index digits (c :: cs) = some found) :
    ∃ later, found = LayoutItem.byteFields index ⟨count.getD 1, code⟩ ++ later ∧
      scan (index + LayoutItem.valueCount ⟨count.getD 1, code⟩) [] cs = some later := by
  obtain ⟨digit, stops, filler, fixed, counted⟩ := Code.letter_of_ofLetter? letter
  rw [scan, digit, if_neg Bool.false_ne_true, if_pos stops] at scanned
  by_cases skipped : c = 'x'
  case pos =>
    obtain rfl := filler.1 skipped
    rw [if_pos skipped] at scanned
    exact ⟨found, rfl, scanned⟩
  case neg =>
    rw [if_neg skipped] at scanned
    cases number : count? digits with
    | none => rw [number] at scanned; cases scanned
    | some n =>
      obtain rfl := count_eq same number
      rw [number] at scanned
      dsimp only at scanned
      by_cases string : c = 's' ∨ c = 'p'
      case pos =>
        rw [if_pos string] at scanned
        obtain ⟨later, scannedLater, rfl⟩ := Option.map_eq_some_iff.1 scanned
        rcases string with rfl | rfl
        · obtain rfl := fixed.1 rfl; exact ⟨later, rfl, scannedLater⟩
        · obtain rfl := counted.1 rfl; exact ⟨later, rfl, scannedLater⟩
      case neg =>
        rw [if_neg string] at scanned
        cases code with
        | filler => exact absurd (filler.2 rfl) skipped
        | fixedBytes => exact absurd (.inl (fixed.2 rfl)) string
        | countedBytes => exact absurd (.inr (counted.2 rfl)) string
        | _ => exact ⟨found, rfl, scanned⟩

/-- **The scan agrees with the reading of items**, from any place on in the text, if both have read
the same digits for the next count. -/
theorem scan_eq {native : Bool} {cs : List Char} {index : Nat} {digits : List Nat}
    {count : Option Nat} {items : List LayoutItem} {found : List ByteField}
    (same : count = if digits.isEmpty then none else some (Text.ofDigits digits.reverse))
    (read : Layout.readItems native count cs = some items)
    (scanned : scan index digits cs = some found) :
    found = LayoutItem.byteFieldsFrom index items := by
  have fresh : none = if ([] : List Nat).isEmpty then none
      else some (Text.ofDigits [].reverse) := rfl
  -- A digit is read by both, a letter ends an item for both, and blanks end nothing.
  induction cs generalizing index digits count items found with
  | nil =>
    cases scanned
    cases count <;> cases read
    rfl
  | cons c cs ih =>
    rw [Layout.readItems] at read
    by_cases digit : c.isDigit = true
    case pos =>
      rw [scan, if_pos digit] at scanned
      rw [if_pos digit] at read
      refine ih ?_ read scanned
      rw [List.reverse_cons, Text.ofDigits_append, same]
      cases digits <;> rfl
    case neg =>
      rw [if_neg digit] at read
      by_cases separator : (count.isNone && Layout.isSeparator c) = true
      case pos =>
        rw [if_pos separator] at read
        rw [Bool.and_eq_true] at separator
        rw [scan, if_neg digit, Layout.not_letter_of_isSeparator separator.2,
          if_neg Bool.false_ne_true] at scanned
        exact ih fresh read scanned
      case neg =>
        rw [if_neg separator] at read
        cases letter : Code.ofLetter? native c with
        | none => rw [letter] at read; cases read
        | some code =>
          rw [letter] at read
          obtain ⟨later, readLater, rfl⟩ := Option.map_eq_some_iff.1 read
          obtain ⟨rest, rfl, scannedLater⟩ := scan_letter letter same scanned
          rw [ih fresh readLater scannedLater]
          rfl

end ByteField

/-- **The scan finds the byte strings of the layout**, each with its place among the fields and its
width, if it can read every count. -/
theorem byteFields?_eq {written : String} {layout : Layout} {found : List ByteField}
    (read : Layout.ofText? written = some layout)
    (scanned : byteFields? (Layout.markedText written.toList) = some found) :
    found = layout.byteFields := by
  unfold Layout.ofText? at read
  cases text : Layout.markedText written.toList with
  | nil => rw [text] at read; cases read
  | cons mark cs =>
    rw [text] at read scanned
    unfold Layout.ofMarkedText? at read
    simp only [Option.bind_eq_bind, Option.bind_eq_some_iff] at read
    obtain ⟨convention, marked, items, read, sized⟩ := read
    split at sized
    case isFalse => cases sized
    case isTrue =>
      cases sized
      obtain ⟨digit, letter⟩ := Convention.not_letter_of_ofMark? marked
      rw [byteFields?, ByteField.scan, digit, letter, if_neg Bool.false_ne_true,
        if_neg Bool.false_ne_true] at scanned
      exact ByteField.scan_eq rfl read scanned

end RollCall
