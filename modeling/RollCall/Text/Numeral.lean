import RollCall.Text.Blank
import RollCall.Text.Digit

/-!
# Integer numerals

Two readings of decimal numbers in text, and the writing of small hexadecimal ones.

* `plainDigits?` — one or more decimal digits of any script and nothing else.
* `integer?` — the lenient form: blanks at the ends, one sign, leading zeros, and single underscores
  between digits are allowed.
* `digitLimit` — a numeral of more digits is refused by both.
* `hexByte` — a byte as `0x` and two hexadecimal digits.
-/

namespace RollCall.Text

/-- The most digits that a numeral may have, leading zeros counted. -/
def digitLimit : Nat := 4300

/-- The digit values of a text of digits. -/
def digitValues? (cs : List Char) : Option (List Nat) := cs.mapM digitValue?

/-- The digit values of a text that is one or more decimal digits. -/
def plainDigits? (cs : List Char) : Option (List Nat) :=
  if cs.isEmpty then none else digitValues? cs

/-- The digit values of a text of digits in which single underscores may stand between digits. -/
def groupedDigits? : List Char → Option (List Nat)
  | [] => none
  | [c] => (digitValue? c).map ([·])
  | c :: '_' :: rest => do
    let d ← digitValue? c
    let ds ← groupedDigits? rest
    return d :: ds
  | c :: rest => do
    let d ← digitValue? c
    let ds ← groupedDigits? rest
    return d :: ds

/-- The number a row of digits writes, if there are not too many of them. -/
def limitedNumber? (ds : List Nat) : Option Nat :=
  if ds.length ≤ digitLimit then some (ofDigits ds) else none

/-- The blanks that may surround an integer: white space without the information separators. -/
def isNumeralBlank (c : Char) : Bool :=
  isBlank c && !(decide (0x1C ≤ c.toNat) && decide (c.toNat ≤ 0x1F))

/-- A numeral without its sign, as a natural number. -/
def magnitude? (cs : List Char) : Option Nat := groupedDigits? cs >>= limitedNumber?

/-- The lenient reading of an integer. -/
def integer? (cs : List Char) : Option Int :=
  match trimBoth isNumeralBlank cs with
  | '+' :: rest => (magnitude? rest).map Int.ofNat
  | '-' :: rest => (magnitude? rest).map fun n => -Int.ofNat n
  | rest => (magnitude? rest).map Int.ofNat

/-- The hexadecimal digit of a value below sixteen, in lower case. -/
def hexDigit (n : Nat) : Char :=
  if n < 10 then Char.ofNat (0x30 + n) else Char.ofNat (0x57 + n)

/-- A number in a given count of hexadecimal digits; higher digits are cut off. -/
def hexDigits : Nat → Nat → List Char
  | 0, _ => []
  | count + 1, n => hexDigits count (n / 16) ++ [hexDigit (n % 16)]

/-- A byte as `0x` and two hexadecimal digits. -/
def hexByte (b : UInt8) : String := "0x" ++ String.ofList (hexDigits 2 b.toNat)

end RollCall.Text
