/-!
# Sequence counters

Every datagram carries a counter of 32 bits, and a receiver expects the one after the last that it
accepted.  Counters wrap, so "ahead" and "behind" are meant modulo `2 ^ 32`: a counter less than
half the range ahead of the expected one is new, and its distance is the number of datagrams missed;
any other is old.

* `Counter.wrap`, `Counter.next` — a number as a counter, and the counter after one.
* `Counter.ahead` — how far a counter is ahead of the expected one.
* `Counter.missed?` — the number of datagrams missed before a counter, `none` if it is old.
-/

namespace RollCall

-- Powers are the core library's, also where Mathlib has its own.
attribute [local instance (high)] instPowNat

/-- Counters are numbers modulo `2 ^ 32`. -/
def counterRange : Nat := 2 ^ (32 : Nat)

namespace Counter

/-- A number as a counter. -/
def wrap (n : Int) : Int := n % (counterRange : Int)

/-- The counter after a counter. -/
def next (counter : Int) : Int := wrap (counter + 1)

/-- How far a counter is ahead of the expected one. -/
def ahead (expected counter : Int) : Nat := (wrap (counter - expected)).toNat

/-- A counter at least this far ahead is old. -/
def halfRange : Nat := (counterRange - 1) / 2

/-- The number of datagrams missed before a counter, `none` if it is old.  Where nothing is expected
yet, every counter is new and nothing was missed. -/
def missed? (expected : Option Int) (counter : Int) : Option Nat :=
  match expected with
  | none => some 0
  | some expected =>
    let distance := ahead expected counter
    if halfRange ≤ distance then none else some distance

end Counter

end RollCall
