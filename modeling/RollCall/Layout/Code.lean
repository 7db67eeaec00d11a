import RollCall.Floating.Format

/-!
# The codes of a layout

A layout is written as a row of letters, each with an optional count before it.  A letter names how
a field is stored; a mark in front of the row names the byte order and whether sizes and alignment
are those of the machine.

* `Convention` — byte order and sizes; `Convention.ofMark?` reads the mark.
* `Code` — how a field is stored; `Code.ofLetter?` reads the letter.
* `Code.width`, `Code.alignment` — the size of one field and the multiple that it starts at.
* `gap` — the bytes skipped to reach such a multiple.
-/

namespace RollCall

open Floating (Precision)

/-- Which byte of a number comes first. -/
inductive ByteOrder where
  /-- Most significant first. -/
  | big
  /-- Least significant first. -/
  | little
deriving DecidableEq, Repr

/-- The byte order, and whether fields have the sizes and the alignment of the machine. -/
structure Convention where
  order : ByteOrder
  native : Bool
deriving DecidableEq, Repr

/-- The convention that a mark stands for.  The machine is a 64-bit little-endian one. -/
def Convention.ofMark? : Char → Option Convention
  | '!' | '>' => some ⟨.big, false⟩
  | '<' | '=' => some ⟨.little, false⟩
  | '@' => some ⟨.little, true⟩
  | _ => none

/-- Whether a number too large for a precision is stored as an infinity.  The machine converts to
the single precision in this way; every other such number is refused. -/
def Convention.storesInfinity (convention : Convention) (precision : Precision) : Bool :=
  convention.native && precision == .single

/-- The size classes of integers. -/
inductive IntegerSize where
  | byte
  | short
  | int
  | long
  | longLong
  /-- As wide as a memory size; known to the machine's own convention only. -/
  | memory
deriving DecidableEq, Repr

/-- How a field is stored. -/
inductive Code where
  /-- Bytes that belong to no field. -/
  | filler
  /-- One byte as a byte string of length one. -/
  | character
  /-- One byte, zero for false. -/
  | truth
  | integer (size : IntegerSize) (signed : Bool)
  /-- A memory address; known to the machine's own convention only. -/
  | pointer
  | float (precision : Precision)
  /-- A byte string of exactly the counted length. -/
  | fixedBytes
  /-- A byte string of at most the counted length less one, after a byte with its length. -/
  | countedBytes
deriving DecidableEq, Repr

namespace Code

/-- The code of a letter, under a convention. -/
def ofLetter? (native : Bool) : Char → Option Code
  | 'x' => some .filler
  | 'c' => some .character
  | '?' => some .truth
  | 'b' => some (.integer .byte true)
  | 'B' => some (.integer .byte false)
  | 'h' => some (.integer .short true)
  | 'H' => some (.integer .short false)
  | 'i' => some (.integer .int true)
  | 'I' => some (.integer .int false)
  | 'l' => some (.integer .long true)
  | 'L' => some (.integer .long false)
  | 'q' => some (.integer .longLong true)
  | 'Q' => some (.integer .longLong false)
  | 'n' => if native then some (.integer .memory true) else none
  | 'N' => if native then some (.integer .memory false) else none
  | 'P' => if native then some .pointer else none
  | 'e' => some (.float .half)
  | 'f' => some (.float .single)
  | 'd' => some (.float .double)
  | 's' => some .fixedBytes
  | 'p' => some .countedBytes
  | _ => none

/-- The bytes of one field of the code; of a byte string, the bytes of one unit of its count. -/
def width (native : Bool) : Code → Nat
  | filler | character | truth | fixedBytes | countedBytes => 1
  | integer .byte _ => 1
  | integer .short _ => 2
  | integer .int _ => 4
  | integer .long _ => if native then 8 else 4
  | integer .longLong _ => 8
  | integer .memory _ => 8
  | pointer => 8
  | float precision => precision.width

/-- The multiple that a field of the code starts at.  Only numbers are aligned, and only under the
machine's own convention, where every number is aligned to its size. -/
def alignment (native : Bool) (code : Code) : Nat :=
  if native then code.width native else 1

end Code

/-- The bytes from a position to the next multiple of an alignment. -/
def gap (alignment position : Nat) : Nat := (alignment - position % alignment) % alignment

end RollCall
