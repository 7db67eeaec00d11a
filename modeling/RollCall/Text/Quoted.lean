import RollCall.Text.Numeral
import RollCall.Text.Printable

/-!
# Quoted text in messages

A message quotes a text that it was given so that every character of it can be seen.

* `quote` — the text between quotes.  The quote is `'`, unless the text holds a `'` and no `"`; then
  it is `"`.  Backslash, the quote itself and the characters without a printed form are escaped, the
  latter by name (`\n`, `\r`, `\t`) or by code point in two, four or eight hexadecimal digits.
-/

namespace RollCall.Text

/-- The quote that a text is written between. -/
def quoteMark (cs : List Char) : Char :=
  if cs.contains '\'' && !cs.contains '"' then '"' else '\''

/-- A character by its code point, in the shortest of the three escape forms that holds it. -/
def escapeCodePoint (c : Char) : List Char :=
  if c.toNat < 0x100 then '\\' :: 'x' :: hexDigits 2 c.toNat
  else if c.toNat < 0x10000 then '\\' :: 'u' :: hexDigits 4 c.toNat
  else '\\' :: 'U' :: hexDigits 8 c.toNat

/-- How one character is written between the given quotes. -/
def quoteChar (mark c : Char) : List Char :=
  if c = mark ∨ c = '\\' then ['\\', c]
  else if c = '\n' then ['\\', 'n']
  else if c = '\r' then ['\\', 'r']
  else if c = '\t' then ['\\', 't']
  else if isPrintable c then [c]
  else escapeCodePoint c

/-- A text as a message quotes it. -/
def quote (text : String) : String :=
  let cs := text.toList
  let mark := quoteMark cs
  String.ofList (mark :: cs.flatMap (quoteChar mark) ++ [mark])

end RollCall.Text
