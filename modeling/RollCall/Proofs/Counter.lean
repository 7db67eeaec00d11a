import Mathlib.Tactic.Lemma
import RollCall.Counter

/-!
# Counters of unbounded numbers

A sender numbers its datagrams without end, and a counter is what is left of such a number in 32
bits.  As long as the numbers in play lie close together, the counters compare as the numbers do.
This module says how close they have to be.

* `missed?_eq_none_iff`, `missed?_eq_some_iff` — which counters are old, and what is missed before others.
* `next_wrap` — the counter after that of a number is the counter of the number after it.
* `ahead_wrap` — how far a counter is ahead depends on the difference of the numbers alone.
* `missed?_wrap_of_le`, `missed?_wrap_of_lt` — the expected number and those not too far after it
  are new, and those not too far before it are old.
-/

namespace RollCall.Counter

lemma wrap_nonneg (n : Int) : 0 ≤ wrap n := Int.emod_nonneg _ (by decide)

lemma wrap_lt (n : Int) : wrap n < counterRange := Int.emod_lt_of_pos _ (by decide)

@[simp] lemma wrap_wrap (n : Int) : wrap (wrap n) = wrap n := Int.emod_emod_of_dvd _ (by simp)

lemma missed?_none (counter : Int) : missed? none counter = some 0 := rfl

/-- A counter is old exactly if it is at least half the range ahead. -/
lemma missed?_eq_none_iff {expected counter : Int} :
    missed? (some expected) counter = none ↔ halfRange ≤ ahead expected counter := by
  simp [missed?]

/-- The number missed is the distance, for a counter less than half the range ahead. -/
lemma missed?_eq_some_iff {expected counter : Int} {missed : Nat} :
    missed? (some expected) counter = some missed
      ↔ ahead expected counter = missed ∧ missed < halfRange := by
  simp only [missed?]
  split
  · constructor
    · intro h; cases h
    · rintro ⟨rfl, h⟩; omega
  · constructor
    · intro h; cases h; exact ⟨rfl, by omega⟩
    · rintro ⟨rfl, _⟩; rfl

lemma wrap_of_lt {n : Int} (nonneg : 0 ≤ n) (small : n < counterRange) : wrap n = n :=
  Int.emod_eq_of_lt nonneg small

/-- The counter after that of a number is the counter of the number after it. -/
lemma next_wrap (n : Int) : next (wrap n) = wrap (n + 1) := by
  unfold next wrap
  exact Int.emod_add_emod n counterRange 1

/-- How far a counter is ahead depends on the difference of the numbers alone. -/
lemma ahead_wrap (expected number : Int) :
    ahead (wrap expected) (wrap number) = (wrap (number - expected)).toNat := by
  unfold ahead wrap
  rw [Int.emod_sub_emod, Int.sub_emod_emod]

/-- **Later numbers are new.**  The number missed is the difference of the numbers. -/
theorem missed?_wrap_of_le {expected number : Int} (new : expected ≤ number)
    (near : number - expected < halfRange) :
    missed? (some (wrap expected)) (wrap number) = some (number - expected).toNat := by
  have small : number - expected < counterRange := by
    have half : halfRange < counterRange := by decide
    omega
  have distance : ahead (wrap expected) (wrap number) = (number - expected).toNat := by
    rw [ahead_wrap, wrap_of_lt (by omega) small]
  rw [missed?_eq_some_iff]
  exact ⟨distance, by omega⟩

/-- **Earlier numbers are old.**  Seen from the expected one they are nearly a whole range ahead. -/
theorem missed?_wrap_of_lt {expected number : Int} (old : number < expected)
    (near : expected - number ≤ (counterRange - halfRange : Nat)) :
    missed? (some (wrap expected)) (wrap number) = none := by
  have range : (counterRange - halfRange : Nat) = (counterRange : Int) - halfRange := by decide
  have positive : (0 : Int) < halfRange := by decide
  have round : wrap (number - expected) = number - expected + counterRange := by
    unfold wrap
    rw [← Int.add_emod_right, Int.emod_eq_of_lt (by omega) (by omega)]
  rw [missed?_eq_none_iff, ahead_wrap, round]
  omega

end RollCall.Counter
