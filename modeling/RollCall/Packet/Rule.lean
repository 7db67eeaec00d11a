import RollCall.Floating.Notation
import RollCall.Packet.Basic

/-!
# Rules of packet types

Rules that a packet type may have for one of its fields, a number.  A value that is no number cannot
be judged.

* `Rule.within` — the number lies between two bounds.
* `Rule.atMost` — the number is not too high.
* `Rule.bounded` — a constructor that has such bounds for a field of a name.
-/

namespace RollCall

open Floating (Double)

namespace FieldValue

/-- Whether a number lies between two integers; `none` for a value that is no number. -/
def liesIn? (least most : Int) : FieldValue → Option Bool
  | float x => some (x.liesIn least most)
  | value => value.integer?.map fun n => decide (least ≤ n) && decide (n ≤ most)

/-- Whether a number lies above an integer; `none` for a value that is no number. -/
def liesAbove? (bound : Int) : FieldValue → Option Bool
  | float x => some (x.liesAbove bound)
  | value => value.integer?.map fun n => decide (bound < n)

/-- The text of a number. -/
def numberText : FieldValue → String
  | float x => x.text?.getD "inf"
  | value => toString (value.integer?.getD 0)

end FieldValue

namespace Rule

/-- The number at a place among the fields lies between two bounds. -/
def within (field : String) (index : Nat) (least most : Int) (values : List FieldValue) :
    Option Refusal :=
  match values[index]?.bind (FieldValue.liesIn? least most) with
  | some true => none
  | some false => some (.stated (field ++ " out of range"))
  | none => some .unstated

/-- A constructor that keeps the values if the number in one field lies between two bounds.  It fails if
the type has no field of that name. -/
def bounded (field : String) (least most : Int) (type : PacketType) (values : List FieldValue) :
    Construction :=
  match type.fields.idxOf? field with
  | none => .failed "no such field"
  | some index =>
    match within field index least most values with
    | some refusal => .refused refusal
    | none => .made values

/-- The number at a place among the fields is not higher than a bound. -/
def atMost (field : String) (index : Nat) (bound : Int) (values : List FieldValue) :
    Option Refusal :=
  match values[index]? with
  | none => some .unstated
  | some value =>
    match value.liesAbove? bound with
    | none => some .unstated
    | some false => none
    | some true => some (.stated (field ++ " too high: " ++ value.numberText))

end Rule

end RollCall
