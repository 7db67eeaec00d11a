import RollCall.Report.Value

/-!
# Writers of reports

A report is written by a writer that is not part of this library.  All that it knows are scalars, roles,
lists, tuples and tables.  For everything else it calls a hook, and writes what the hook gives in its
stead; that may again hold things for which the hook is called.

Only what is documented of a writer is known here (`Writer.Documented`).  How it spells scalars and sets
out containers is its own affair.

* `Style`, `Place` — how a report is laid out, and where a value stands in it.
* `Hook`, `Writer` — the two sides; `Writes`, `Writer.Documented` — what a writer does with a hook.
* `Value.serialize` — a report as text: the hook is `Value.form?`.
-/

namespace RollCall.Report

/-- How a report is laid out. -/
inductive Style where
  /-- In one line, without blanks. -/
  | compact
  /-- Each item on a line of its own, two blanks deeper than its container. -/
  | indented
deriving DecidableEq, Repr

/-- Where a value stands in a report. -/
structure Place where
  /-- The number of lists, tuples and tables around the value. -/
  depth : Nat := 0
  /-- The number of things around the value. -/
  things : Nat := 0
deriving DecidableEq, Repr

namespace Place

/-- The place of what a container holds. -/
def inside (place : Place) : Place := { place with depth := place.depth + 1 }

/-- The place of what is written for a thing. -/
def instead (place : Place) : Place := { place with things := place.things + 1 }

end Place

/-- What is written for a thing, if there is anything to write. -/
abbrev Hook := Value → Option Value

/-- A writer: the text of a value, if it has one. -/
abbrev Writer := Hook → Style → Value → Option String

/-- How deep lists and tables may stand in one another, and things in one another. -/
def nestingLimit : Nat := 254

/-- The key of an entry with the text of its value, where the key is a text. -/
def entryText? (text : Value → Option String) : Option String × Value → Option (String × String)
  | (some key, v) => (text v).map fun written => (key, written)
  | (none, _) => none

/-- An integer fits 64 bits, with a sign or without. -/
def Fits64 (n : Int) : Prop := -9223372036854775808 ≤ n ∧ n ≤ 18446744073709551615

instance (n : Int) : Decidable (Fits64 n) := inferInstanceAs (Decidable (_ ∧ _))

/-- What a writer does with a hook, told by the text that a value has at each place. -/
structure Writes (hook : Hook) (text : Place → Value → Option String) : Prop where
  /-- A scalar is spelled alike at all places. -/
  alike : ∀ {v : Value} (place other : Place), v.isScalar = true → text place v = text other v
  /-- A scalar other than an integer can be written. -/
  scalar : ∀ {v : Value} (place : Place), v.isScalar = true → (∀ n, v ≠ .int n) →
    (text place v).isSome = true
  int : ∀ (place : Place) (n : Int), (text place (.int n)).isSome = true ↔ Fits64 n
  /-- A role is written as its code. -/
  role : ∀ (place : Place) (r : Role), text place (.role r) = text place (.int r.code.toNat)
  /-- The text of a list is put together from the texts of its items, which must all have one. -/
  list : ∃ join : Nat → List String → String, ∀ (place : Place) (items : List Value),
    place.depth < nestingLimit →
      text place (.list items) = (items.mapM (text place.inside)).map (join place.depth)
  /-- And so is that of a tuple. -/
  tuple : ∃ join : Nat → List String → String, ∀ (place : Place) (items : List Value),
    place.depth < nestingLimit →
      text place (.tuple items) = (items.mapM (text place.inside)).map (join place.depth)
  /-- The text of a table is put together from its keys, which must be texts, and the texts of its
  values. -/
  table : ∃ join : Nat → List (String × String) → String,
    ∀ (place : Place) (entries : List (Option String × Value)), place.depth < nestingLimit →
      text place (.table entries)
        = (entries.mapM (entryText? (text place.inside))).map (join place.depth)
  /-- For a thing the hook is called, and what it gives is written. -/
  thing : ∀ (place : Place) (v : Value), v.isThing = true → place.things ≤ nestingLimit →
    text place v = (hook v).bind (text place.instead)

/-- What is documented of a writer: it starts at the top of a report, and goes on as told. -/
def Writer.Documented (writer : Writer) : Prop :=
  ∀ hook style, ∃ text, Writes hook text ∧ ∀ v, writer hook style v = text {} v

/-- A report as text, if it can be written. -/
def Value.serialize (writer : Writer) (style : Style) (v : Value) : Option String :=
  writer Value.form? style v

end RollCall.Report
