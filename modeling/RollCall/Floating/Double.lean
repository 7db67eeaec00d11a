import RollCall.Floating.Format

/-!
# Double-precision numbers

A field that holds a floating-point number holds the bit pattern of a double.  Two doubles are equal
here when their bit patterns are, so that the two zeros differ and a pattern that stands for no
number equals itself.

* `Double.ofInt?` — the nearest double to an integer, `none` if the integer is too large.
* `Double.narrow?`, `Double.widen` — conversion to and from the other formats.
* `Double.isZero`, `Double.liesIn`, `Double.liesAbove` — the tests that the library makes on
  numbers.
-/

namespace RollCall.Floating

-- Powers are the core library's, also where Mathlib has its own.
attribute [local instance (high)] instPowNat

/-- A double by its bit pattern. -/
structure Double where
  bits : UInt64
deriving DecidableEq, Repr, Inhabited

namespace Double

/-- Whether the sign bit is set. -/
def isNegative (x : Double) : Bool := Format.double.isNegative x.bits.toNat

/-- The value without its sign. -/
def magnitude (x : Double) : Magnitude :=
  Format.double.magnitude (x.bits.toNat % Format.double.signWeight)

/-- No number. -/
def isNaN (x : Double) : Bool := x.magnitude == .notANumber

/-- Zero of either sign. -/
def isZero (x : Double) : Bool := x.bits.toNat % Format.double.signWeight == 0

/-- The double nearest to an integer. -/
def ofInt? (n : Int) : Option Double :=
  (Format.double.round n.natAbs 0).map fun bits =>
    ⟨UInt64.ofNat ((if n < 0 then Format.double.signWeight else 0) + bits)⟩

/-- The bits that the number has in another precision; `none` if it is finite and too large for it.
A pattern that stands for no number keeps its sign; the single precision also keeps the leading bits
of its fraction. -/
def narrow? (p : Precision) (x : Double) : Option Nat :=
  match p with
  | .double => some x.bits.toNat
  | .single =>
    if x.isNaN then
      let sign := if x.isNegative then Format.single.signWeight else 0
      let fraction := x.bits.toNat % 2 ^ (52 : Nat) / 2 ^ (29 : Nat)
      some (sign + Format.single.infinity + fraction % 2 ^ (22 : Nat) + 2 ^ (22 : Nat))
    else Format.double.convert? .single x.bits.toNat
  | .half => Format.double.convert? .half x.bits.toNat

/-- The bits of the infinity of a precision that has the sign of the number. -/
def infinityOf (p : Precision) (x : Double) : Nat :=
  (if x.isNegative then p.format.signWeight else 0) + p.format.infinity

/-- The double that a bit pattern of a precision stands for. -/
def widen (p : Precision) (bits : Nat) : Double :=
  match p with
  | .double => ⟨UInt64.ofNat bits⟩
  | _ => ⟨UInt64.ofNat ((p.format.convert? .double bits).getD 0)⟩

/-- The value times `2 ^ 1074` as an integer; every finite double has one. -/
def scaled? (x : Double) : Option Int :=
  match x.magnitude with
  | .finite digits power =>
    let n : Int := digits * 2 ^ (power - Format.double.leastPower).toNat
    some (if x.isNegative then -n else n)
  | _ => none

/-- Whether the number lies between two integers, both ends included. -/
def liesIn (least most : Int) (x : Double) : Bool :=
  match x.scaled? with
  | some n => decide (least * 2 ^ (1074 : Nat) ≤ n) && decide (n ≤ most * 2 ^ (1074 : Nat))
  | none => false

/-- Whether the number lies above an integer; positive infinity does. -/
def liesAbove (bound : Int) (x : Double) : Bool :=
  match x.scaled? with
  | some n => decide (bound * 2 ^ (1074 : Nat) < n)
  | none => x.magnitude == .infinite && !x.isNegative

end Double

end RollCall.Floating
