import RollCall.Floating.Shortest

/-!
# Numbers in text

A number is written with the fewest digits that read back.  From `0.00001` up to, but not including,
`10 ^ 16` it is written in full, with at least one digit after the point; beyond these bounds it is
written with an exponent.

* `Double.text?` — the text of a number; infinities and patterns that stand for no number have none.
-/

namespace RollCall.Floating

/-- The exponents of ten of the numbers that are written in full. -/
def isWrittenInFull (exponent : Int) : Bool := decide (-5 ≤ exponent) && decide (exponent < 16)

/-- Digits in full, the last of them standing for `10 ^ power`. -/
def fullText (digits : List Char) (power : Int) : List Char :=
  let places := (-power).toNat
  let padded := List.replicate (places + 1 - digits.length) '0' ++ digits
  let whole := padded.take (padded.length - places) ++ List.replicate power.toNat '0'
  let fraction := padded.drop (padded.length - places)
  whole ++ '.' :: (if fraction.isEmpty then ['0'] else fraction)

/-- Digits with an exponent, the first of them standing for `10 ^ exponent`. -/
def exponentText (digits : List Char) (exponent : Int) : List Char :=
  let mantissa := match digits with
    | first :: second :: rest => first :: '.' :: second :: rest
    | few => few
  mantissa ++ 'e' :: (if exponent < 0 then '-' else '+') :: Text.decimal exponent.natAbs

/-- The text of a decimal. -/
def Decimal.text (d : Decimal) : List Char :=
  let digits := Text.decimal d.digits
  let exponent : Int := d.power + (digits.length - 1 : Nat)
  if isWrittenInFull exponent then fullText digits d.power else exponentText digits exponent

/-- The text of a number. -/
def Double.text? (x : Double) : Option String :=
  let signed (cs : List Char) : String := String.ofList (if x.isNegative then '-' :: cs else cs)
  match x.magnitude with
  | .finite 0 _ => some (signed ['0', '.', '0'])
  | .finite digits power => some (signed (shortest digits power).text)
  | _ => none

end RollCall.Floating
