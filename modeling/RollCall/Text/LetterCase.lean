/-!
# Letter case

Names are compared without regard to case, and every name is written in ASCII letters.  So of the
Unicode case maps only those characters matter whose image is ASCII.

* `lowerCase` — the lower-case map on characters.  Beside `A` to `Z` only the Kelvin sign has an
  ASCII lower-case letter.  (The capital I with a dot becomes two characters, of which the second is
  not ASCII, so no name matches it under either reading.)
* `upperCase` — the upper-case map, which may lengthen: the sharp s and the Latin ligatures spread
  into their letters.
-/

namespace RollCall.Text

/-- The lower-case map, exact wherever its value is an ASCII letter. -/
def lowerCase (c : Char) : Char :=
  if 'A' ≤ c ∧ c ≤ 'Z' then Char.ofNat (c.toNat + 32)
  else if c = '\u212A' then 'k'
  else c

/-- The characters beyond ASCII whose upper-case form is ASCII, with that form. -/
def upperCaseTable : List (Char × List Char) :=
  [('\u00DF', ['S', 'S']), ('\u0131', ['I']), ('\u017F', ['S']),
   ('\uFB00', ['F', 'F']), ('\uFB01', ['F', 'I']), ('\uFB02', ['F', 'L']),
   ('\uFB03', ['F', 'F', 'I']), ('\uFB04', ['F', 'F', 'L']),
   ('\uFB05', ['S', 'T']), ('\uFB06', ['S', 'T'])]

/-- The upper-case map, exact wherever its value is ASCII. -/
def upperCase (c : Char) : List Char :=
  if 'a' ≤ c ∧ c ≤ 'z' then [Char.ofNat (c.toNat - 32)]
  else (upperCaseTable.lookup c).getD [c]

end RollCall.Text
