import RollCall.Layout.Basic
import RollCall.Text.Numeral

/-!
# Where the byte strings of a layout stand

A byte string may be stored in a record that is too short or too long for it without a trace, so the
lengths are checked before a packet is encoded.  The check needs to know which fields are byte
strings and how wide they are; it reads both off the written layout in one scan over its letters.

* `ByteField` — a field that is a byte string.
* `byteFields?` — the byte strings of a written layout, in order.
-/

namespace RollCall

/-- A field that is a byte string: its place among the fields, how it is stored, and the length of
its part of the record. -/
structure ByteField where
  index : Nat
  /-- Whether a byte with the length stands before the byte string. -/
  counted : Bool
  width : Nat
deriving DecidableEq, Repr

namespace ByteField

/-- The count that the digits read so far write, the last one first; without any it is one.  A count
of more digits than a numeral may have cannot be read. -/
def count? (digits : List Nat) : Option Nat :=
  if digits.isEmpty then some 1 else Text.limitedNumber? digits.reverse

/-- Scans the letters of a written layout.  `index` is the place of the next field and `digits` are
the digits read so far for the next letter, the last one first. -/
def scan (index : Nat) (digits : List Nat) : List Char → Option (List ByteField)
  | [] => some []
  | c :: cs =>
    if c.isDigit then scan index ((c.toNat - '0'.toNat) :: digits) cs
    else if c.isAlpha || c == '?' then
      if c = 'x' then scan index [] cs
      else
        match count? digits with
        | none => none
        | some count =>
          if c = 's' ∨ c = 'p' then
            (scan (index + 1) [] cs).map (⟨index, c == 'p', count⟩ :: ·)
          else scan (index + count) [] cs
    else scan index [] cs

end ByteField

/-- The byte strings of a written layout, in order; `none` if a count cannot be read. -/
def byteFields? (text : List Char) : Option (List ByteField) := ByteField.scan 0 [] text

end RollCall
