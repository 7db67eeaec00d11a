import RollCall.Layout.Code

/-!
# Layouts

A layout lays out the fields of a packet in a record of fixed length.  It is a row of items, each a
code with a count.  The count of a byte string is its length; any other count repeats the field.

* `Layout.size` — the length of the record, `Layout.valueCount` — the number of fields; both are
  computed from the counts, without spreading the items out.
* `Layout.slots` — the record as a row of slots, each filler or one field.
* `Layout.ofText?` — reads the written form.
-/

namespace RollCall

-- Powers and sums are the core library's, also where Mathlib has its own.
attribute [local instance (high)] instPowNat Zero.ofOfNat0

/-- A code with its count. -/
structure LayoutItem where
  count : Nat
  code : Code
deriving DecidableEq, Repr

/-- A part of a record: filler bytes, or the bytes of one field. -/
inductive Slot where
  | filler (length : Nat)
  | field (code : Code) (length : Nat)
deriving DecidableEq, Repr

/-- The number of bytes of a slot. -/
def Slot.length : Slot → Nat
  | filler length => length
  | field _ length => length

/-- Whether a slot holds a field. -/
def Slot.isField : Slot → Bool
  | filler _ => false
  | field _ _ => true

/-- A row of items under a convention. -/
structure Layout where
  convention : Convention
  items : List LayoutItem
deriving DecidableEq, Repr

namespace LayoutItem

/-- The number of bytes of an item, without the gap before it. -/
def extent (native : Bool) (item : LayoutItem) : Nat := item.count * item.code.width native

/-- The number of fields of an item. -/
def valueCount (item : LayoutItem) : Nat :=
  match item.code with
  | .filler => 0
  | .fixedBytes | .countedBytes => 1
  | _ => item.count

/-- The slots of an item, without the gap before it. -/
def slots (native : Bool) (item : LayoutItem) : List Slot :=
  match item.code with
  | .filler => [.filler item.count]
  | .fixedBytes => [.field .fixedBytes item.count]
  | .countedBytes => [.field .countedBytes item.count]
  | code => List.replicate item.count (.field code (code.width native))

end LayoutItem

namespace Layout

/-- The position after a row of items that begins at a position. -/
def endPosition (native : Bool) : List LayoutItem → Nat → Nat
  | [], position => position
  | item :: items, position =>
    endPosition native items
      (position + gap (item.code.alignment native) position + item.extent native)

/-- The length of the record. -/
def size (layout : Layout) : Nat := endPosition layout.convention.native layout.items 0

/-- The number of fields. -/
def valueCount (layout : Layout) : Nat := (layout.items.map LayoutItem.valueCount).sum

/-- Whether a counted byte string of the layout has no room for the byte with its length.  No record
of such a layout can be read. -/
def lacksLengthByte (layout : Layout) : Bool :=
  layout.items.any fun item => item.code == .countedBytes && item.count == 0

/-- The slots of a row of items that begins at a position. -/
def slotsFrom (native : Bool) : List LayoutItem → Nat → List Slot
  | [], _ => []
  | item :: items, position =>
    let skipped := gap (item.code.alignment native) position
    .filler skipped :: (item.slots native ++
      slotsFrom native items (position + skipped + item.extent native))

/-- The record as a row of slots. -/
def slots (layout : Layout) : List Slot := slotsFrom layout.convention.native layout.items 0

/-! ## The written form -/

/-- The blanks that may stand between the items of a written layout. -/
def isSeparator (c : Char) : Bool :=
  c == ' ' || c == '\t' || c == '\n' || c == '\x0B' || c == '\x0C' || c == '\r'

/-- Reads a row of items.  The first argument is the count read so far for the next item, if any
digit of it has been read. -/
def readItems (native : Bool) : Option Nat → List Char → Option (List LayoutItem)
  | none, [] => some []
  | some _, [] => none
  | count, c :: cs =>
    if c.isDigit then readItems native (some (10 * count.getD 0 + (c.toNat - '0'.toNat))) cs
    else if count.isNone && isSeparator c then readItems native none cs
    else
      match Code.ofLetter? native c with
      | none => none
      | some code => (readItems native none cs).map (⟨count.getD 1, code⟩ :: ·)

/-- The longest record that a layout may describe. -/
def sizeLimit : Nat := 2 ^ (63 : Nat) - 1

/-- The longest record that a byte string can hold: 33 bytes are kept for the byte string itself. -/
def longestRecord : Nat := sizeLimit - 33

/-- A record of this length or more does not fit into memory, which is taken to be 32 GiB. -/
def memoryLimit : Nat := 2 ^ (35 : Nat)

/-- Reads a written layout that begins with a convention mark. -/
def ofMarkedText? : List Char → Option Layout
  | [] => none
  | mark :: cs => do
    let convention ← Convention.ofMark? mark
    let items ← readItems convention.native none cs
    let layout : Layout := ⟨convention, items⟩
    if layout.size ≤ sizeLimit then some layout else none

/-- The text of a layout with its convention mark; without one, the mark `!` is meant. -/
def markedText (cs : List Char) : List Char :=
  match cs with
  | c :: _ => if (Convention.ofMark? c).isSome then cs else '!' :: cs
  | [] => ['!']

/-- Reads a written layout. -/
def ofText? (text : String) : Option Layout := ofMarkedText? (markedText text.toList)

end Layout

end RollCall
