import RollCall.Floating.Notation
import RollCall.Report.Writer

/-!
# A writer

A writer in the notation of JSON, which sets out a report either in one line or with each item on a line
of its own.

* `writeText` — a text between quotes.
* `write?` — a value at a place.
* `written` — the writer.
-/

namespace RollCall.Report

/-- Whether a list or a table may stand at a place.  One that would be the 255th container is refused; a
tuple may be the 255th, and then what it holds is not limited any more. -/
def Place.allowsContainer (place : Place) : Bool := place.depth != nestingLimit

/-- How a character is written between quotes.  Quote, backslash and control characters are escaped,
nothing else is. -/
def writeChar (c : Char) : List Char :=
  if c = '"' then ['\\', '"']
  else if c = '\\' then ['\\', '\\']
  else if c = '\n' then ['\\', 'n']
  else if c = '\r' then ['\\', 'r']
  else if c = '\t' then ['\\', 't']
  else if c.toNat = 8 then ['\\', 'b']
  else if c.toNat = 12 then ['\\', 'f']
  else if c.toNat < 32 then '\\' :: 'u' :: Text.hexDigits 4 c.toNat
  else [c]

/-- A text between quotes. -/
def writeText (s : String) : String := String.ofList ('"' :: s.toList.flatMap writeChar ++ ['"'])

/-- The text of a value that is neither a container nor a thing. -/
def writeScalar? : Value → Option String
  | .null => some "null"
  | .bool b => some (if b then "true" else "false")
  | .int n => if Fits64 n then some (toString n) else none
  | .float x => some (x.text?.getD "null")
  | .text s => some (writeText s)
  | _ => none

/-- The start of a new line within so many containers, or nothing. -/
def newLine (style : Style) (depth : Nat) : String :=
  match style with
  | .compact => ""
  | .indented => "\n" ++ String.ofList (List.replicate (2 * depth) ' ')

/-- A container within `depth` others, from the texts of its items. -/
def writeContainer (style : Style) (depth : Nat) (opening closing : String) (items : List String) :
    String :=
  if items.isEmpty then opening ++ closing
  else
    let separator := "," ++ newLine style (depth + 1)
    opening ++ newLine style (depth + 1) ++ separator.intercalate items ++ newLine style depth
      ++ closing

/-- What stands between a key and its value. -/
def keyMark : Style → String
  | .compact => ":"
  | .indented => ": "

/-- The text of an entry, from its key and the text of its value. -/
def writeEntry (style : Style) (entry : String × String) : String :=
  writeText entry.1 ++ keyMark style ++ entry.2

/-- The text of a table within `depth` containers, from its keys and the texts of its values. -/
def writeTable (style : Style) (depth : Nat) (entries : List (String × String)) : String :=
  writeContainer style depth "\x7b" "\x7d" (entries.map (writeEntry style))

/-- The text of a value at a place. -/
def write? (hook : Hook) (style : Style) (place : Place) : Value → Option String
  | .list items =>
    if place.allowsContainer then
      (items.attach.mapM fun item => write? hook style place.inside item.1).map
        (writeContainer style place.depth "[" "]")
    else none
  | .tuple items =>
    (items.attach.mapM fun item => write? hook style place.inside item.1).map
      (writeContainer style place.depth "[" "]")
  | .table entries =>
    if place.allowsContainer then
      (entries.attach.mapM fun (entry : { entry // entry ∈ entries }) =>
        entry.1.1.bind fun key =>
          (write? hook style place.inside entry.1.2).map fun written => (key, written)).map
        (writeTable style place.depth)
    else none
  | .role r => writeScalar? (.int r.code.toNat)
  | v =>
    if v.isThing then
      if _ : place.things ≤ nestingLimit then (hook v).bind (write? hook style place.instead) else none
    else writeScalar? v
termination_by v => (nestingLimit + 1 - place.things, sizeOf v)
decreasing_by
  · exact Prod.Lex.right _ (Nat.lt_trans (List.sizeOf_lt_of_mem item.2) (by simp))
  · exact Prod.Lex.right _ (Nat.lt_trans (List.sizeOf_lt_of_mem item.2) (by simp))
  · obtain ⟨⟨key, v⟩, among⟩ := entry
    have smaller := List.sizeOf_lt_of_mem among
    refine Prod.Lex.right _ ?_
    simp only [Prod.mk.sizeOf_spec, Value.table.sizeOf_spec] at smaller ⊢
    omega
  · refine Prod.Lex.left _ _ ?_
    show nestingLimit + 1 - (place.things + 1) < nestingLimit + 1 - place.things
    omega

/-- The writer. -/
def written : Writer := fun hook style v => write? hook style {} v

end RollCall.Report
