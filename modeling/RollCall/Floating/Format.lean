/-!
# Binary floating-point formats

A format of the IEEE standard is given by the widths of its exponent and of its fraction.  A number
of the format is a bit pattern: sign, biased exponent, fraction.  All arithmetic here is exact, on
natural numbers; nothing depends on the machine's floating-point unit.

* `Format.magnitude` — what a bit pattern without its sign stands for: a multiple of a power of two,
  an infinity, or no number.
* `Format.round` — the bit pattern of the nearest number of the format, ties going to the pattern
  whose last bit is zero; `none` if the value rounds past the largest finite number.
* `Format.convert?` — a bit pattern of one format in another.
-/

namespace RollCall.Floating

-- Powers are the core library's, also where Mathlib has its own.
attribute [local instance (high)] instPowNat

/-- The widths in bits of the exponent and the fraction. -/
structure Format where
  exponentBits : Nat
  fractionBits : Nat
deriving DecidableEq, Repr

/-- The format of two bytes. -/
def Format.half : Format := ⟨5, 10⟩

/-- The format of four bytes. -/
def Format.single : Format := ⟨8, 23⟩

/-- The format of eight bytes. -/
def Format.double : Format := ⟨11, 52⟩

/-- The three formats that fields are stored in. -/
inductive Precision where
  | half
  | single
  | double
deriving DecidableEq, Repr

/-- The format of a precision. -/
def Precision.format : Precision → Format
  | .half => .half
  | .single => .single
  | .double => .double

/-- The number of bytes of a bit pattern. -/
def Precision.width : Precision → Nat
  | .half => 2
  | .single => 4
  | .double => 8

/-- What a bit pattern without its sign stands for. -/
inductive Magnitude where
  /-- The number `digits * 2 ^ power`. -/
  | finite (digits : Nat) (power : Int)
  | infinite
  | notANumber
deriving DecidableEq, Repr

namespace Format

/-- The pattern of infinity, without sign: all exponent bits set, no fraction. -/
def infinity (f : Format) : Nat := (2 ^ f.exponentBits - 1) * 2 ^ f.fractionBits

/-- The weight of the sign bit. -/
def signWeight (f : Format) : Nat := 2 ^ (f.exponentBits + f.fractionBits)

/-- The power of two that the last bit of the smallest numbers stands for. -/
def leastPower (f : Format) : Int := 2 - (2 : Int) ^ (f.exponentBits - 1) - f.fractionBits

/-- Whether a bit pattern has its sign bit set. -/
def isNegative (f : Format) (bits : Nat) : Bool := decide (f.signWeight ≤ bits)

/-- What a bit pattern without its sign stands for. -/
def magnitude (f : Format) (bits : Nat) : Magnitude :=
  if bits < f.infinity then
    let exponent := bits / 2 ^ f.fractionBits
    let fraction := bits % 2 ^ f.fractionBits
    if exponent = 0 then .finite fraction f.leastPower
    else .finite (2 ^ f.fractionBits + fraction) (f.leastPower + (exponent - 1 : Nat))
  else if bits = f.infinity then .infinite
  else .notANumber

/-- The quotient by `2 ^ shift` rounded to the nearest whole number, a tie to the even one. -/
def halveRounded (n shift : Nat) : Nat :=
  let unit := 2 ^ shift
  let quotient := n / unit
  let rest := n % unit
  if 2 * rest < unit then quotient
  else if unit < 2 * rest then quotient + 1
  else quotient + quotient % 2

/-- The bit pattern, without sign, of the number of the format nearest to `digits * 2 ^ power`. -/
def round (f : Format) (digits : Nat) (power : Int) : Option Nat :=
  if digits = 0 then some 0
  else
    let wanted : Int := power + (digits.log2 : Int) - f.fractionBits
    let unit : Int := max wanted f.leastPower
    let scaled :=
      if unit ≤ power then digits * 2 ^ (power - unit).toNat
      else halveRounded digits (unit - power).toNat
    let bits := (unit - f.leastPower).toNat * 2 ^ f.fractionBits + scaled
    if bits < f.infinity then some bits else none

/-- The quiet pattern that stands for no number. -/
def quiet (f : Format) : Nat := f.infinity + 2 ^ (f.fractionBits - 1)

/-- A bit pattern of format `f` in format `g`, rounded; `none` if it is finite and too large for
`g`.  A pattern that stands for no number becomes the quiet pattern of `g` with the same sign. -/
def convert? (f g : Format) (bits : Nat) : Option Nat :=
  let sign := if f.isNegative bits then g.signWeight else 0
  match f.magnitude (bits % f.signWeight) with
  | .finite digits power => (g.round digits power).map (sign + ·)
  | .infinite => some (sign + g.infinity)
  | .notANumber => some (sign + g.quiet)

end Format

end RollCall.Floating
