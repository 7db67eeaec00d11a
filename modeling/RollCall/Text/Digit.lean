/-!
# Decimal digits

Unicode gives each decimal digit of each script a value from 0 to 9, and encodes the ten digits of
one script in a row.  So a digit is known by the row it stands in.

* `digitZeros` — the code points of the zeros.
* `digitValue?` — the value of a digit, `none` for any other character.
* `ofDigits` — the number that a row of digit values writes in base ten.
* `digits` — the row of digit values that writes a number, most significant first.
-/

namespace RollCall.Text

/-- The code point of the digit zero of each script. -/
def digitZeros : List Nat :=
  [0x30, 0x660, 0x6F0, 0x7C0, 0x966, 0x9E6, 0xA66, 0xAE6, 0xB66, 0xBE6, 0xC66, 0xCE6, 0xD66, 0xDE6,
   0xE50, 0xED0, 0xF20, 0x1040, 0x1090, 0x17E0, 0x1810, 0x1946, 0x19D0, 0x1A80, 0x1A90, 0x1B50,
   0x1BB0, 0x1C40, 0x1C50, 0xA620, 0xA8D0, 0xA900, 0xA9D0, 0xA9F0, 0xAA50, 0xABF0, 0xFF10, 0x104A0,
   0x10D30, 0x11066, 0x110F0, 0x11136, 0x111D0, 0x112F0, 0x11450, 0x114D0, 0x11650, 0x116C0,
   0x11730, 0x118E0, 0x11950, 0x11C50, 0x11D50, 0x11DA0, 0x16A60, 0x16AC0, 0x16B50, 0x1D7CE,
   0x1D7D8, 0x1D7E2, 0x1D7EC, 0x1D7F6, 0x1E140, 0x1E2F0, 0x1E950, 0x1FBF0]

/-- The value of a decimal digit of any script. -/
def digitValue? (c : Char) : Option Nat :=
  (digitZeros.find? fun first => decide (first ≤ c.toNat) && decide (c.toNat ≤ first + 9)).map
    (c.toNat - ·)

/-- The number that a row of digit values writes in base ten. -/
def ofDigits (ds : List Nat) : Nat := ds.foldl (fun n d => 10 * n + d) 0

/-- The decimal digits of a number, most significant first. -/
def digits (n : Nat) : List Nat :=
  if _h : n < 10 then [n] else digits (n / 10) ++ [n % 10]
termination_by n
decreasing_by omega

/-- The ASCII digit of a value below ten. -/
def asciiDigit (d : Nat) : Char := Char.ofNat (0x30 + d)

/-- A number in ASCII decimal digits. -/
def decimal (n : Nat) : List Char := (digits n).map asciiDigit

end RollCall.Text
