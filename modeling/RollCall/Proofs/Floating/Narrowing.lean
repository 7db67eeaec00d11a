import Mathlib.Tactic.Ring
import RollCall.Floating.Double

/-!
# Which numbers a format cannot hold

A number is stored in a format by rounding it to the nearest number of the format, and a large one may
round past the largest finite number.  This happens from a certain number on, which lies half a unit
above the largest finite one: it is a tie, and the tie goes away from the largest finite number because
the last bit of that is set.

* `Format.limit` — that number; for the half precision it is 65520, for the single one
  `2 ^ 128 - 2 ^ 103`.
* `scaleTo`, `nearest` — the digits brought to the unit of the result, and the pattern of that.
* `nearest_lt`, `le_nearest_iff`, `le_nearest` — the pattern below, at and above the limit.
* `Format.round_eq_none_iff` — **a number has no pattern exactly from the limit on.**
* `Double.Reaches`, `Double.narrow?_eq_none_iff` — the same for doubles and a lesser precision.
-/

namespace RollCall.Floating

-- Powers are the core library's, also where Mathlib has its own.
attribute [local instance (high)] instPowNat

namespace Format

/-- The least number that rounds past the largest finite number of a format: the largest one has
`2 ^ (fractionBits + 1) - 1` units, and half a unit more is too much. -/
def limit (f : Format) : Nat :=
  (2 ^ (f.fractionBits + 2) - 1) * 2 ^ (f.leastPower + 2 ^ f.exponentBits - 4).toNat

example : half.limit = 65520 := by decide +kernel

example : single.limit = 2 ^ (128 : Nat) - 2 ^ (103 : Nat) := by decide +kernel

/-- Digits multiplied by a power of two, and rounded if the power is negative. -/
def scaleTo (digits : Nat) (shift : Int) : Nat :=
  if 0 ≤ shift then digits * 2 ^ shift.toNat else halveRounded digits (-shift).toNat

/-- The pattern that digits are rounded to: they are brought to the unit of the result, and patterns
are counted from there.  One from infinity on stands for no number. -/
def nearest (f : Format) (digits : Nat) (power : Int) : Nat :=
  let unit := max (power + (digits.log2 : Int) - f.fractionBits) f.leastPower
  (unit - f.leastPower).toNat * 2 ^ f.fractionBits + scaleTo digits (power - unit)

lemma round_eq_none {f : Format} {digits : Nat} (some : digits ≠ 0) (power : Int) :
    f.round digits power = none ↔ f.infinity ≤ f.nearest digits power := by
  unfold round nearest scaleTo
  rw [if_neg some]
  simp only [Int.sub_nonneg, Int.neg_sub, ite_eq_right_iff, reduceCtorEq, imp_false, Nat.not_lt]

/-! ## Rounding -/

lemma halveRounded_bounds (n shift : Nat) :
    n / 2 ^ shift ≤ halveRounded n shift ∧ halveRounded n shift ≤ n / 2 ^ shift + 1 := by
  unfold halveRounded
  dsimp only
  split
  · omega
  · split <;> omega

/-- An even number is reached by rounding exactly from half a unit below it on. -/
lemma le_halveRounded_iff {n shift q : Nat} :
    2 * q ≤ halveRounded n shift ↔ (4 * q - 1) * 2 ^ shift ≤ 2 * n := by
  have split : 2 ^ shift * (n / 2 ^ shift) + n % 2 ^ shift = n := Nat.div_add_mod n (2 ^ shift)
  have small : n % 2 ^ shift < 2 ^ shift := Nat.mod_lt n (Nat.two_pow_pos shift)
  have half : (4 * q - 1) * 2 ^ shift = 2 * (2 ^ shift * (2 * q)) - 2 ^ shift := by
    rw [Nat.sub_mul, Nat.one_mul]
    ring_nf
  rw [half]
  unfold halveRounded
  dsimp only
  generalize 2 ^ shift = unit at *
  generalize n / unit = quotient at *
  generalize n % unit = rest at *
  -- What is left over decides only where the quotient is the number just below.
  rcases Nat.lt_trichotomy (quotient + 1) (2 * q) with below | just | above
  · have far : unit * (quotient + 2) ≤ unit * (2 * q) := Nat.mul_le_mul_left unit below
    rw [Nat.mul_add] at far
    split
    · omega
    · split <;> omega
  · have next : unit * (2 * q) = unit * quotient + unit := by rw [← just]; ring
    split
    · omega
    · split <;> omega
  · have far : unit * (2 * q) ≤ unit * quotient := Nat.mul_le_mul_left unit (by omega)
    split
    · omega
    · split <;> omega

section Scaling

variable {digits length bits : Nat} {shift : Int}

/-- Digits of a length, brought to a lesser one, are below the power of two, or rounded up to it. -/
lemma scaleTo_le (below : digits < 2 ^ length) (narrow : length + shift ≤ bits) :
    scaleTo digits shift ≤ 2 ^ bits := by
  unfold scaleTo
  split
  case isTrue up =>
    have range : 2 ^ length * 2 ^ shift.toNat ≤ 2 ^ bits := by
      rw [← Nat.pow_add]
      exact Nat.pow_le_pow_right (by decide) (by omega)
    exact Nat.le_trans (Nat.mul_le_mul_right _ (Nat.le_of_lt below)) range
  case isFalse down =>
    have range : 2 ^ length ≤ 2 ^ bits * 2 ^ (-shift).toNat := by
      rw [← Nat.pow_add]
      exact Nat.pow_le_pow_right (by decide) (by omega)
    have quotient : digits / 2 ^ (-shift).toNat < 2 ^ bits :=
      Nat.div_lt_of_lt_mul (by rw [Nat.mul_comm]; omega)
    have rounded := (halveRounded_bounds digits (-shift).toNat).2
    omega

/-- Digits of a length, brought to no lesser one, reach the power of two. -/
lemma le_scaleTo (above : 2 ^ length ≤ digits) (wide : bits ≤ length + shift) :
    2 ^ bits ≤ scaleTo digits shift := by
  unfold scaleTo
  split
  case isTrue up =>
    have range : 2 ^ bits ≤ 2 ^ length * 2 ^ shift.toNat := by
      rw [← Nat.pow_add]
      exact Nat.pow_le_pow_right (by decide) (by omega)
    exact Nat.le_trans range (Nat.mul_le_mul_right _ above)
  case isFalse down =>
    have range : 2 ^ bits * 2 ^ (-shift).toNat ≤ 2 ^ length := by
      rw [← Nat.pow_add]
      exact Nat.pow_le_pow_right (by decide) (by omega)
    have quotient : 2 ^ bits ≤ digits / 2 ^ (-shift).toNat :=
      (Nat.le_div_iff_mul_le (Nat.two_pow_pos _)).2 (Nat.le_trans range above)
    exact Nat.le_trans quotient (halveRounded_bounds digits (-shift).toNat).1

/-- Scaled digits reach an even number exactly from half a unit below it on. -/
lemma le_scaleTo_iff {q a c : Nat} (apart : shift = a - c - 1) :
    2 * q ≤ scaleTo digits shift ↔ (4 * q - 1) * 2 ^ c ≤ digits * 2 ^ a := by
  unfold scaleTo
  split
  case isTrue up =>
    have power : digits * 2 ^ a = 2 * (digits * 2 ^ shift.toNat) * 2 ^ c := by
      obtain rfl : a = shift.toNat + c + 1 := by omega
      ring
    rw [power, Nat.mul_le_mul_right_iff (Nat.two_pow_pos c)]
    omega
  case isFalse down =>
    have power : (4 * q - 1) * 2 ^ (-shift).toNat * 2 ^ a = (4 * q - 1) * 2 ^ c * 2 := by
      rw [Nat.mul_assoc, ← Nat.pow_add, Nat.mul_assoc, ← Nat.pow_succ]
      congr 2
      omega
    have twice : 2 * digits * 2 ^ a = digits * 2 ^ a * 2 := by ring
    rw [le_halveRounded_iff, ← Nat.mul_le_mul_right_iff (Nat.two_pow_pos a), power, twice,
      Nat.mul_le_mul_right_iff (by decide)]

end Scaling

/-! ## The limit -/

section Limit

-- The pattern of infinity has `w + 3` for its exponent, and `t` is the power of half a unit of the
-- largest finite number.
variable {f : Format} {digits a b w t : Nat}

lemma infinity_eq (range : 2 ^ f.exponentBits = w + 4) :
    f.infinity = w * 2 ^ f.fractionBits + 3 * 2 ^ f.fractionBits := by
  rw [infinity, range, Nat.add_sub_assoc (by decide), Nat.add_mul]

lemma limit_eq (range : 2 ^ f.exponentBits = w + 4) (least : f.leastPower = t - w) :
    f.limit = (4 * 2 ^ f.fractionBits - 1) * 2 ^ t := by
  have range : (2 : Int) ^ f.exponentBits = w + 4 := by exact_mod_cast range
  have unit : (f.leastPower + 2 ^ f.exponentBits - 4).toNat = t := by omega
  rw [limit, unit, Nat.pow_add _ _ 2, Nat.mul_comm _ (2 ^ 2)]

/-- A number whose leading digit stands below that of the limit is below it, and has a finite
pattern. -/
lemma nearest_lt (least : f.leastPower = t - w)
    (below : (a : Int) + digits.log2 < t + b + f.fractionBits + 1) :
    f.nearest digits (a - b) < w * 2 ^ f.fractionBits + 3 * 2 ^ f.fractionBits ∧
      digits * 2 ^ a < (4 * 2 ^ f.fractionBits - 1) * 2 ^ (t + b) := by
  have high : digits < 2 ^ (digits.log2 + 1) := Nat.lt_log2_self
  have positive : 0 < 2 ^ f.fractionBits := Nat.two_pow_pos _
  have double : 2 ^ (f.fractionBits + 1) = 2 * 2 ^ f.fractionBits := by rw [Nat.pow_add]; ring
  unfold nearest
  dsimp only
  rw [least]
  generalize digits.log2 = k at *
  constructor
  · have exponent :
        (max ((a : Int) - b + k - f.fractionBits) (t - w) - (t - w)).toNat ≤ w := by omega
    have scaled : scaleTo digits (a - b - max ((a : Int) - b + k - f.fractionBits) (t - w))
        ≤ 2 ^ (f.fractionBits + 1) := scaleTo_le high (by omega)
    have pattern := Nat.mul_le_mul_right (2 ^ f.fractionBits) exponent
    omega
  · have within : 2 ^ (k + 1) * 2 ^ a ≤ 2 ^ (f.fractionBits + 1) * 2 ^ (t + b) := by
      rw [← Nat.pow_add, ← Nat.pow_add]
      exact Nat.pow_le_pow_right (by decide) (by omega)
    calc digits * 2 ^ a
      _ < 2 ^ (k + 1) * 2 ^ a := Nat.mul_lt_mul_of_pos_right high (Nat.two_pow_pos a)
      _ ≤ 2 ^ (f.fractionBits + 1) * 2 ^ (t + b) := within
      _ ≤ (4 * 2 ^ f.fractionBits - 1) * 2 ^ (t + b) := Nat.mul_le_mul_right _ (by omega)

/-- A number whose leading digit stands above that of the limit is above it, and has no finite
pattern. -/
lemma le_nearest (some : digits ≠ 0) (least : f.leastPower = t - w)
    (above : (t : Int) + b + f.fractionBits + 1 < a + digits.log2) :
    w * 2 ^ f.fractionBits + 3 * 2 ^ f.fractionBits ≤ f.nearest digits (a - b) ∧
      (4 * 2 ^ f.fractionBits - 1) * 2 ^ (t + b) ≤ digits * 2 ^ a := by
  have low : 2 ^ digits.log2 ≤ digits := Nat.log2_self_le some
  unfold nearest
  dsimp only
  rw [least]
  generalize digits.log2 = k at *
  constructor
  · have larger :
        max ((a : Int) - b + k - f.fractionBits) (t - w) = a - b + k - f.fractionBits := by omega
    have exponent : w + 2 ≤ ((a : Int) - b + k - f.fractionBits - (t - w)).toNat := by omega
    have scaled : 2 ^ f.fractionBits ≤ scaleTo digits (a - b - (a - b + k - f.fractionBits)) :=
      le_scaleTo low (by omega)
    have pattern := Nat.mul_le_mul_right (2 ^ f.fractionBits) exponent
    rw [Nat.add_mul] at pattern
    rw [larger]
    omega
  · have beyond : 2 ^ (f.fractionBits + 2) * 2 ^ (t + b) ≤ 2 ^ k * 2 ^ a := by
      rw [← Nat.pow_add, ← Nat.pow_add]
      exact Nat.pow_le_pow_right (by decide) (by omega)
    have half : 4 * 2 ^ f.fractionBits - 1 ≤ 2 ^ (f.fractionBits + 2) := by
      rw [Nat.pow_add]
      omega
    calc (4 * 2 ^ f.fractionBits - 1) * 2 ^ (t + b)
      _ ≤ 2 ^ (f.fractionBits + 2) * 2 ^ (t + b) := Nat.mul_le_mul_right _ half
      _ ≤ 2 ^ k * 2 ^ a := beyond
      _ ≤ digits * 2 ^ a := Nat.mul_le_mul_right _ low

/-- Where the leading digits stand at one place, the rounding decides. -/
lemma le_nearest_iff (least : f.leastPower = t - w)
    (just : (a : Int) + digits.log2 = t + b + f.fractionBits + 1) :
    w * 2 ^ f.fractionBits + 3 * 2 ^ f.fractionBits ≤ f.nearest digits (a - b) ↔
      (4 * 2 ^ f.fractionBits - 1) * 2 ^ (t + b) ≤ digits * 2 ^ a := by
  unfold nearest
  dsimp only
  rw [least]
  generalize digits.log2 = k at *
  have largest : max ((a : Int) - b + k - f.fractionBits) (t - w) = t + 1 := by omega
  have exponent : ((t : Int) + 1 - (t - w)).toNat = w + 1 := by omega
  have shift : (a : Int) - b - (t + 1) = a - (t + b : Nat) - 1 := by omega
  rw [largest, exponent, ← le_scaleTo_iff shift, Nat.add_mul]
  omega

end Limit

/-- **A number has no pattern exactly from the limit on.**  Both sides are multiplied by a power of two
that makes them whole. -/
theorem round_eq_none_iff {f : Format} (wide : 2 ≤ f.exponentBits)
    (whole : 0 ≤ f.leastPower + 2 ^ f.exponentBits - 4) (digits a b : Nat) :
    f.round digits (a - b) = none ↔ f.limit * 2 ^ b ≤ digits * 2 ^ a := by
  obtain ⟨w, range⟩ : ∃ w, 2 ^ f.exponentBits = w + 4 :=
    Nat.exists_eq_add_of_le' (Nat.pow_le_pow_right (n := 2) (by decide) wide)
  have range' : (2 : Int) ^ f.exponentBits = w + 4 := by exact_mod_cast range
  obtain ⟨t, least⟩ : ∃ t : Nat, f.leastPower = t - w :=
    ⟨(f.leastPower + 2 ^ f.exponentBits - 4).toNat, by omega⟩
  rw [limit_eq range least, Nat.mul_assoc, ← Nat.pow_add]
  by_cases some : digits = 0
  case pos =>
    have positive : 0 < 2 ^ f.fractionBits := Nat.two_pow_pos _
    have reached : ¬ (4 * 2 ^ f.fractionBits - 1) * 2 ^ (t + b) ≤ 0 * 2 ^ a := by
      rw [Nat.zero_mul, Nat.not_le]
      exact Nat.mul_pos (by omega) (Nat.two_pow_pos _)
    subst some
    exact iff_of_false (by simp [round]) reached
  case neg =>
    rw [round_eq_none some, infinity_eq range]
    -- The leading digit stands below, at, or above that of the limit.
    rcases Int.lt_trichotomy (a + digits.log2) (t + b + f.fractionBits + 1) with below | just | above
    · obtain ⟨finite, less⟩ := nearest_lt least below
      exact iff_of_false (Nat.not_le.2 finite) (Nat.not_le.2 less)
    · exact le_nearest_iff least just
    · obtain ⟨infinite, more⟩ := le_nearest some least above
      exact iff_of_true infinite more

end Format

namespace Double

/-- The magnitude of a finite double is a whole number of its least units. -/
lemma least_le_of_magnitude {x : Double} {digits : Nat} {power : Int}
    (finite : x.magnitude = .finite digits power) : Format.double.leastPower ≤ power := by
  unfold magnitude Format.magnitude at finite
  split at finite
  case isFalse => split at finite <;> cases finite
  case isTrue =>
    dsimp only at finite
    split at finite
    · cases finite
      exact Int.le_refl _
    · cases finite
      omega

/-- The number is finite and at least as far from zero as a whole number is. -/
def Reaches (x : Double) (bound : Nat) : Prop :=
  ∃ n, x.scaled? = some n ∧ bound * 2 ^ (1074 : Nat) ≤ n.natAbs

/-- A double has no pattern in a format exactly if it is finite and reaches the limit. -/
lemma convert?_eq_none_iff {f : Format} (wide : 2 ≤ f.exponentBits)
    (whole : 0 ≤ f.leastPower + 2 ^ f.exponentBits - 4) (x : Double) :
    Format.double.convert? f x.bits.toNat = none ↔ x.Reaches f.limit := by
  have least : Format.double.leastPower = -1074 := by decide +kernel
  unfold Format.convert? Reaches scaled?
  rw [← magnitude]
  cases finite : x.magnitude with
  | infinite | notANumber => simp only [reduceCtorEq, false_and, exists_false]
  | finite digits power =>
    have low := least_le_of_magnitude finite
    rw [least] at low ⊢
    obtain ⟨a, rfl⟩ : ∃ a : Nat, power = a - (1074 : Nat) := ⟨(power + 1074).toNat, by omega⟩
    have exponent : ((a : Int) - (1074 : Nat) - -1074).toNat = a := by omega
    have size (negative : Bool) : (if negative = true then -((digits : Int) * 2 ^ a)
        else (digits : Int) * 2 ^ a).natAbs = digits * 2 ^ a := by
      cases negative <;> simp [Int.natAbs_mul, Int.natAbs_pow]
    simp only [Option.map_eq_none_iff, Format.round_eq_none_iff wide whole, exponent,
      Option.some.injEq, exists_eq_left', size]

/-- **A double does not fit a precision exactly if the precision is a lesser one, and the double is
finite and reaches the limit of it.** -/
theorem narrow?_eq_none_iff {p : Precision} (x : Double) :
    x.narrow? p = none ↔ p ≠ .double ∧ x.Reaches p.format.limit := by
  cases p with
  | double => exact iff_of_false (Option.some_ne_none _) fun lesser => lesser.1 rfl
  | half =>
    rw [narrow?, convert?_eq_none_iff (by decide) (by decide +kernel), and_iff_right (by decide)]
    rfl
  | single =>
    rw [and_iff_right (by decide), narrow?]
    split
    case isTrue none =>
      -- What is no number keeps its bits, and reaches nothing.
      refine iff_of_false (Option.some_ne_none _) ?_
      rintro ⟨n, scaled, -⟩
      rw [isNaN, beq_iff_eq] at none
      rw [scaled?, none] at scaled
      cases scaled
    case isFalse =>
      rw [convert?_eq_none_iff (by decide) (by decide +kernel)]
      rfl

end Double

end RollCall.Floating
