import Mathlib.Tactic.Lemma
import RollCall.Bytes

/-!
# Numbers in bytes

A number that is written in bytes is read again, as far as the bytes reach, and bytes that are read as a
number are written again as they were.

* `ofLittleEndian_littleEndian`, `ofBigEndian_bigEndian` — reading gives the number back, modulo
  `256 ^ count`.
* `littleEndian_ofLittleEndian`, `bigEndian_ofBigEndian` — writing gives the bytes back.
* `length_overwrite` — a buffer keeps its length.
-/

namespace RollCall.Bytes

-- Powers are the core library's, also where Mathlib has its own.
attribute [local instance (high)] instPowNat

@[simp] lemma length_zeros (count : Nat) : (zeros count).length = count := by simp [zeros]

@[simp] lemma length_littleEndian (count n : Nat) : (littleEndian count n).length = count := by
  induction count generalizing n with
  | zero => rfl
  | succ count ih => simp [littleEndian, ih]

@[simp] lemma length_bigEndian (count n : Nat) : (bigEndian count n).length = count := by
  simp [bigEndian]

lemma ofLittleEndian_lt (bs : Bytes) : ofLittleEndian bs < 256 ^ bs.length := by
  induction bs with
  | nil => simp [ofLittleEndian]
  | cons b bs ih =>
    have hb : b.toNat < 256 := b.toNat_lt
    simp only [ofLittleEndian, List.length_cons, Nat.pow_succ]
    omega

lemma ofBigEndian_lt (bs : Bytes) : ofBigEndian bs < 256 ^ bs.length := by
  have h := ofLittleEndian_lt bs.reverse
  simpa [ofBigEndian] using h

/-- Reading what was written gives the number modulo the range of the bytes. -/
lemma ofLittleEndian_littleEndian (count n : Nat) :
    ofLittleEndian (littleEndian count n) = n % 256 ^ count := by
  induction count generalizing n with
  | zero => simp [littleEndian, ofLittleEndian, Nat.mod_one]
  | succ count ih =>
    have hb : (UInt8.ofNat (n % 256)).toNat = n % 256 := by
      simp
    rw [littleEndian, ofLittleEndian, ih, hb, Nat.pow_succ, Nat.mul_comm (256 ^ count) 256,
      Nat.mod_mul]

lemma ofBigEndian_bigEndian (count n : Nat) :
    ofBigEndian (bigEndian count n) = n % 256 ^ count := by
  simp [ofBigEndian, bigEndian, ofLittleEndian_littleEndian]

/-- Writing the number that was read gives the bytes back. -/
lemma littleEndian_ofLittleEndian (bs : Bytes) :
    littleEndian bs.length (ofLittleEndian bs) = bs := by
  induction bs with
  | nil => rfl
  | cons b bs ih =>
    have hb : b.toNat < 256 := b.toNat_lt
    have hlow : (b.toNat + 256 * ofLittleEndian bs) % 256 = b.toNat := by omega
    have hhigh : (b.toNat + 256 * ofLittleEndian bs) / 256 = ofLittleEndian bs := by omega
    simp only [List.length_cons, ofLittleEndian, littleEndian, hlow, hhigh, ih]
    congr 1
    exact UInt8.ofNat_toNat

lemma bigEndian_ofBigEndian (bs : Bytes) : bigEndian bs.length (ofBigEndian bs) = bs := by
  have h := littleEndian_ofLittleEndian bs.reverse
  rw [List.length_reverse] at h
  rw [bigEndian, ofBigEndian, h, List.reverse_reverse]

lemma length_overwrite {buffer bs : Bytes} {offset : Nat}
    (fits : offset + bs.length ≤ buffer.length) :
    (overwrite buffer offset bs).length = buffer.length := by
  simp only [overwrite, List.length_append, List.length_take, List.length_drop]
  omega

end RollCall.Bytes
