import RollCall.Layout.Code
import RollCall.Packet.FieldValue

/-!
# Fields in bytes

How one value is stored in the bytes of its field, and how it is read from them.

* `Code.write` — the bytes of a value; `StoreFault` says why there are none.
* `Code.read` — the value of the bytes.
-/

namespace RollCall

open Floating (Double)

-- Powers are the core library's, also where Mathlib has its own.
attribute [local instance (high)] instPowNat

/-- Why a value cannot be stored in a field. -/
inductive StoreFault where
  /-- The value is of another kind than the field, or out of its range. -/
  | unfit
  /-- The value is a finite floating-point number too large for the field's format; an integer that
  is too large counts as out of range. -/
  | beyondFloat
deriving DecidableEq, Repr

namespace ByteOrder

/-- A number in `count` bytes. -/
def write (order : ByteOrder) (count n : Nat) : Bytes :=
  match order with
  | big => Bytes.bigEndian count n
  | little => Bytes.littleEndian count n

/-- The number in the given bytes. -/
def read (order : ByteOrder) (bs : Bytes) : Nat :=
  match order with
  | big => Bytes.ofBigEndian bs
  | little => Bytes.ofLittleEndian bs

end ByteOrder

namespace Code

/-- The least integer of a field of the given length. -/
def least (signed : Bool) (length : Nat) : Int :=
  if signed then -(2 ^ (8 * length - 1) : Int) else 0

/-- The least integer that a field of the given length cannot hold. -/
def bound (signed : Bool) (length : Nat) : Int :=
  if signed then 2 ^ (8 * length - 1) else 2 ^ (8 * length)

/-- An integer in the bytes of a field, negative ones in two's complement. -/
def writeInteger (order : ByteOrder) (length : Nat) (n : Int) : Bytes :=
  order.write length (n % (256 ^ length : Nat)).toNat

/-- The integer in the bytes of a field. -/
def readInteger (order : ByteOrder) (signed : Bool) (bs : Bytes) : Int :=
  let n : Int := order.read bs
  if signed && decide (2 ^ (8 * bs.length - 1) ≤ n) then n - 2 ^ (8 * bs.length) else n

/-- A byte string cut or filled with zeros to a length. -/
def fit (length : Nat) (bs : Bytes) : Bytes := (bs ++ Bytes.zeros (length - bs.length)).take length

/-- The bytes of a value in a field of the given length. -/
def write (convention : Convention) (code : Code) (length : Nat) (value : FieldValue) :
    Except StoreFault Bytes :=
  let order := convention.order
  match code with
  | filler => .ok (Bytes.zeros length)
  | character =>
    match value with
    | .bytes [b] => .ok (fit length [b])
    | _ => .error .unfit
  | truth => .ok (fit length [if value.truth then 1 else 0])
  | integer _ signed =>
    match value.integer? with
    | some n =>
      if least signed length ≤ n ∧ n < bound signed length then .ok (writeInteger order length n)
      else .error .unfit
    | none => .error .unfit
  | pointer =>
    match value.integer? with
    | some n =>
      if least true length ≤ n ∧ n < bound false length then .ok (writeInteger order length n)
      else .error .unfit
    | none => .error .unfit
  | float precision =>
    match value.double? with
    | some x =>
      match x.narrow? precision with
      | some bits => .ok (order.write length bits)
      | none =>
        if convention.storesInfinity precision then
          .ok (order.write length (x.infinityOf precision))
        else .error (if value.isFloat then .beyondFloat else .unfit)
    | none => .error .unfit
  | fixedBytes =>
    match value with
    | .bytes bs => .ok (fit length bs)
    | _ => .error .unfit
  | countedBytes =>
    match value with
    | .bytes bs =>
      let kept := bs.take (length - 1)
      .ok (fit length (UInt8.ofNat (min kept.length 255) :: kept))
    | _ => .error .unfit

/-- The value of the bytes of a field. -/
def read (order : ByteOrder) (code : Code) (bs : Bytes) : FieldValue :=
  match code with
  | filler => .none
  | character => .bytes bs
  | truth => .bool (bs.any (· != 0))
  | integer _ signed => .int (readInteger order signed bs)
  | pointer => .int (readInteger order false bs)
  | float precision => .float (Double.widen precision (order.read bs))
  | fixedBytes => .bytes bs
  | countedBytes =>
    match bs with
    | [] => .bytes []
    | count :: content => .bytes (content.take count.toNat)

end Code

end RollCall
