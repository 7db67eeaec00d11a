import RollCall.Bytes
import RollCall.Floating.Double

/-!
# Values of packet fields

A field of a packet holds a value of one of the kinds below.  Which kinds fit depends on the layout
that the packet is encoded with.

* `FieldValue.truth` — whether a value counts as true.
* `FieldValue.integer?` — the integer that a value stands for; a truth value stands for 0 or 1.
* `FieldValue.double?` — the floating-point number that a value stands for; an integer is
  rounded.
-/

namespace RollCall

open Floating (Double)

/-- The value of a packet's field. -/
inductive FieldValue where
  /-- No value. -/
  | none
  | bool (b : Bool)
  | int (n : Int)
  | float (x : Double)
  | text (s : String)
  | bytes (bs : Bytes)
  /-- A value of a kind that no layout knows, given by its truth alone. -/
  | other (truth : Bool)
deriving DecidableEq, Repr, Inhabited

namespace FieldValue

/-- Whether a value counts as true: zero, the empty text and the empty byte string do not. -/
def truth : FieldValue → Bool
  | none => false
  | bool b => b
  | int n => n != 0
  | float x => !x.isZero
  | text s => !s.isEmpty
  | bytes bs => !bs.isEmpty
  | other truth => truth

/-- The integer that a value stands for. -/
def integer? : FieldValue → Option Int
  | bool b => some b.toNat
  | int n => some n
  | _ => Option.none

/-- Whether a value is a floating-point number itself. -/
def isFloat : FieldValue → Bool
  | float _ => true
  | _ => false

/-- The floating-point number that a value stands for; an integer too large for one stands for
none. -/
def double? : FieldValue → Option Double
  | bool b => Double.ofInt? b.toNat
  | int n => Double.ofInt? n
  | float x => some x
  | _ => Option.none

end FieldValue

end RollCall
