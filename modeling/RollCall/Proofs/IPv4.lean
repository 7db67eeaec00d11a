import Mathlib.Algebra.GroupWithZero.Nat
import RollCall.IPv4.Block
import RollCall.Proofs.Address

/-!
# Addresses and blocks

An address is known by its number, and its text reads back.  A block is a stretch of numbers that ends
before `2 ^ 32`, so the addresses of its hosts are consecutive numbers.

* `ofText?_text` — the text of an address, read strictly.
* `Block.contains_iff`, `Block.number_last` — a block by its numbers.
* `Block.IsInner`, `Block.IsHost` — the addresses between the ends of a block, and those of hosts.
* `Block.host`, `Block.isHost_iff` — the addresses of hosts are consecutive.
* `Block.around_eq`, `Block.eq_of_last` — a block by one of its addresses and by its last.
* `Block.aroundText?_text` — the block of an address, read from the text of the address and a length.
-/

namespace RollCall.IPv4

-- Powers are the core library's, also where Mathlib has its own.
attribute [local instance (high)] instPowNat

lemma eq_of_number {a b : IPv4} (same : a.number = b.number) : a = b := by
  cases a
  cases b
  cases same
  rfl

lemma number_ofNumber {n : Nat} (small : n < 2 ^ (32 : Nat)) : (ofNumber n).number = n :=
  Nat.mod_eq_of_lt small

/-! ## Texts -/

lemma octet?_numeral : ∀ n : Nat, n < 256 → octet? (toString (n : Int)).toList = some n := by
  decide +kernel

/-- The number of four octets. -/
lemma number_of_bytes {ip : IPv4} {a b c d : UInt8} (octets : ip.bytes = [a, b, c, d]) :
    ip.number = ((a.toNat * 256 + b.toNat) * 256 + c.toNat) * 256 + d.toNat := by
  have back := Bytes.ofBigEndian_bigEndian 4 ip.number
  rw [← bytes, octets] at back
  have small := ip.lt
  simp only [Bytes.ofBigEndian, List.reverse_cons, List.reverse_nil, List.nil_append,
    List.cons_append, Bytes.ofLittleEndian] at back
  omega

/-- The text of an address reads back. -/
lemma ofText?_text (ip : IPv4) : ofText? ip.text.toList = some ip := by
  obtain ⟨a, b, c, d, octets⟩ := ip.exists_bytes
  have numeral (x : UInt8) : octet? (toString (x.toNat : Int)).toList = some x.toNat :=
    octet?_numeral x.toNat x.toNat_lt
  have parts : PhysicalAddress.splitOn '.' ip.text.toList
      = [a, b, c, d].map fun x => (toString (x.toNat : Int)).toList := by
    rw [text, octets, PhysicalAddress.dotted, String.toList_intercalate, List.map_map, List.map_map]
    refine PhysicalAddress.splitOn_intercalate (by simp) ?_
    intro part among
    obtain ⟨x, -, rfl⟩ := List.mem_map.1 among
    exact (PhysicalAddress.octet?_numeral x.toNat x.toNat_lt).2
  have whole : ofNumber (((a.toNat * 256 + b.toNat) * 256 + c.toNat) * 256 + d.toNat) = ip := by
    refine eq_of_number ?_
    rw [← number_of_bytes octets]
    exact number_ofNumber ip.lt
  simp only [ofText?, parts, List.map_cons, List.map_nil, numeral]
  exact congrArg some whole

lemma slash_not_mem_text (ip : IPv4) : '/' ∉ ip.text.toList := by
  have numeral : ∀ n : Nat, n < 256 → '/' ∉ (toString (n : Int)).toList := by decide +kernel
  obtain ⟨a, b, c, d, octets⟩ := ip.exists_bytes
  have octet (x : UInt8) : '/' ∉ (toString (x.toNat : Int)).toList := numeral x.toNat x.toNat_lt
  have dot : String.toList "." = ['.'] := rfl
  rw [text, octets, PhysicalAddress.dotted, String.toList_intercalate, dot]
  simp only [List.map_cons, List.map_nil, List.intercalate, List.intersperse, List.flatten_cons,
    List.flatten_nil, List.mem_append, List.mem_singleton, List.not_mem_nil, octet, or_false, false_or]
  decide

/-! ## Blocks -/

namespace Block

variable {block : Block} {ip : IPv4}

lemma size_pos (block : Block) : 0 < block.size := Nat.two_pow_pos _

/-- A block ends where the numbers of addresses end, or before. -/
lemma first_add_size_le (block : Block) : block.first.number + block.size ≤ 2 ^ (32 : Nat) := by
  have small := block.first.lt
  have whole : 2 ^ (32 : Nat) = 2 ^ (32 - block.prefixLength) * 2 ^ block.prefixLength := by
    rw [← Nat.pow_add, Nat.sub_add_cancel block.le]
  obtain ⟨q, first⟩ := Nat.dvd_of_mod_eq_zero block.aligned
  rw [whole, first] at small
  have below : q + 1 ≤ 2 ^ block.prefixLength := Nat.lt_of_mul_lt_mul_left small
  rw [whole, first, size]
  calc 2 ^ (32 - block.prefixLength) * q + 2 ^ (32 - block.prefixLength)
      = 2 ^ (32 - block.prefixLength) * (q + 1) := (Nat.mul_succ _ _).symm
    _ ≤ _ := Nat.mul_le_mul_left _ below

lemma number_last (block : Block) :
    block.last.number = block.first.number + (block.size - 1) := by
  have inside := block.first_add_size_le
  have some := block.size_pos
  exact number_ofNumber (by omega)

lemma contains_iff : block.contains ip = true ↔
    block.first.number ≤ ip.number ∧ ip.number < block.first.number + block.size := by
  simp [contains]

lemma contains_last (block : Block) : block.contains block.last = true := by
  have some := block.size_pos
  rw [contains_iff, number_last]
  omega

lemma contains_first (block : Block) : block.contains block.first = true := by
  have some := block.size_pos
  rw [contains_iff]
  omega

/-- Whether a block has room for hosts between its two ends. -/
def IsWide (block : Block) : Prop := block.prefixLength ≤ 30

lemma size_of_wide (wide : block.IsWide) : 4 ≤ block.size := by
  have two : 2 ≤ 32 - block.prefixLength := by
    unfold IsWide at wide
    omega
  exact Nat.pow_le_pow_right (by decide : 0 < 2) two

/-- A block that is not wide has one address or two. -/
lemma size_of_narrow (narrow : ¬ block.IsWide) :
    block.prefixLength = 31 ∧ block.size = 2 ∨ block.prefixLength = 32 ∧ block.size = 1 := by
  have most := block.le
  unfold IsWide at narrow
  have either : block.prefixLength = 31 ∨ block.prefixLength = 32 := by omega
  rcases either with length | length
  · exact .inl ⟨length, by rw [size, length]⟩
  · exact .inr ⟨length, by rw [size, length]⟩

/-- The addresses between the two ends of a block. -/
structure IsInner (block : Block) (ip : IPv4) : Prop where
  inside : block.contains ip = true
  first : ip ≠ block.first
  last : ip ≠ block.last

/-- The addresses of hosts: those of the block, without its two ends if it is wide. -/
def IsHost (block : Block) (ip : IPv4) : Prop :=
  block.contains ip = true ∧ (block.IsWide → block.IsInner ip)

lemma IsInner.isHost (inner : block.IsInner ip) : block.IsHost ip := ⟨inner.inside, fun _ => inner⟩

/-- A block that is not wide consists of its two ends. -/
lemma IsInner.isWide (inner : block.IsInner ip) : block.IsWide := by
  refine Classical.byContradiction fun narrow => ?_
  have last := block.number_last
  have inside := contains_iff.1 inner.inside
  have above : ip.number ≠ block.first.number := fun same => inner.first (eq_of_number same)
  have below : ip.number ≠ block.last.number := fun same => inner.last (eq_of_number same)
  rcases size_of_narrow narrow with ⟨-, size⟩ | ⟨-, size⟩ <;> omega

/-- The address of a host by its place among the hosts of the block. -/
def host (block : Block) (n : Nat) : IPv4 := ofNumber (block.firstHost + n)

lemma number_host {n : Nat} (few : n < block.hostCount) :
    (block.host n).number = block.firstHost + n := by
  have inside := block.first_add_size_le
  refine number_ofNumber ?_
  unfold hostCount at few
  unfold firstHost
  split at few <;> split <;> omega

/-- The addresses of hosts are consecutive. -/
lemma isHost_iff : block.IsHost ip ↔ ∃ n < block.hostCount, ip = block.host n := by
  have last := block.number_last
  have counted (n : Nat) (few : n < block.hostCount) := number_host few
  by_cases wide : block.IsWide
  · have short : block.prefixLength < 31 := Nat.lt_succ_of_le wide
    have size := size_of_wide wide
    rw [hostCount, if_pos short, firstHost, if_pos short] at counted
    rw [hostCount, if_pos short]
    constructor
    · rintro ⟨inside, inner⟩
      obtain ⟨-, notFirst, notLast⟩ := inner wide
      rw [contains_iff] at inside
      have above : ip.number ≠ block.first.number := fun same => notFirst (eq_of_number same)
      have below : ip.number ≠ block.last.number := fun same => notLast (eq_of_number same)
      refine ⟨ip.number - block.first.number - 1, by omega, eq_of_number ?_⟩
      rw [counted _ (by omega)]
      omega
    · rintro ⟨n, few, rfl⟩
      have number := counted n few
      have inside : block.contains (block.host n) = true := by
        rw [contains_iff]
        omega
      refine ⟨inside, fun _ => ⟨inside, fun same => ?_, fun same => ?_⟩⟩
      · have same := congrArg IPv4.number same
        omega
      · have same := congrArg IPv4.number same
        omega
  · have long : ¬ block.prefixLength < 31 := fun short => wide (Nat.le_of_lt_succ short)
    rw [hostCount, if_neg long, firstHost, if_neg long] at counted
    rw [IsHost, hostCount, if_neg long, contains_iff]
    constructor
    · rintro ⟨⟨low, high⟩, -⟩
      refine ⟨ip.number - block.first.number, by omega, eq_of_number ?_⟩
      rw [counted _ (by omega)]
      omega
    · rintro ⟨n, few, rfl⟩
      have number := counted n few
      exact ⟨by omega, fun wideAfterAll => absurd wideAfterAll wide⟩

/-- The address of every network is no address between the ends of a block. -/
lemma IsInner.ne_limitedBroadcast (inner : block.IsInner ip) : ip ≠ limitedBroadcast := by
  rintro rfl
  have inside := (contains_iff.1 inner.inside).2
  have ending := block.first_add_size_le
  have last := block.number_last
  have some := block.size_pos
  have highest : limitedBroadcast.number = 2 ^ (32 : Nat) - 1 := rfl
  have below : limitedBroadcast.number ≠ block.last.number := fun same => inner.last (eq_of_number same)
  omega

/-! ## The block around an address -/

lemma eq_of_first {other : Block} (lengths : block.prefixLength = other.prefixLength)
    (firsts : block.first = other.first) : block = other := by
  cases block
  cases other
  cases lengths
  cases firsts
  rfl

lemma contains_around (ip : IPv4) {length : Nat} (le : length ≤ 32) :
    (around ip length le).contains ip = true := by
  have low := Nat.div_mul_le_self ip.number (2 ^ (32 - length))
  have high := Nat.lt_div_mul_add (a := ip.number) (Nat.two_pow_pos (32 - length))
  exact contains_iff.2 ⟨low, high⟩

/-- The block of a length that an address lies in is the only one. -/
lemma around_eq (inside : block.contains ip = true) : around ip block.prefixLength block.le = block := by
  obtain ⟨q, first⟩ := Nat.dvd_of_mod_eq_zero block.aligned
  obtain ⟨low, high⟩ := contains_iff.1 inside
  rw [size, first] at high
  rw [first] at low
  have quotient : ip.number / 2 ^ (32 - block.prefixLength) = q := by
    refine Nat.div_eq_of_lt_le ?_ ?_
    · rwa [Nat.mul_comm]
    · rwa [Nat.mul_comm, Nat.mul_succ]
  refine eq_of_first rfl (eq_of_number ?_)
  rw [first, Nat.mul_comm, ← quotient]
  rfl

/-- Blocks of one length that end with the same address are the same. -/
lemma eq_of_last {other : Block} (lengths : block.prefixLength = other.prefixLength)
    (ends : block.last = other.last) : block = other := by
  have sizes : block.size = other.size := by rw [size, size, lengths]
  have numbers := congrArg number ends
  rw [number_last, number_last, sizes] at numbers
  exact eq_of_first lengths (eq_of_number (Nat.add_right_cancel numbers))

/-- The block around an address is read from the text of the address and its length. -/
lemma aroundText?_text (ip : IPv4) {length : Nat} (le : length ≤ 32) :
    aroundText? (ip.text ++ "/" ++ toString (length : Int)).toList = some (around ip length le) := by
  have numeral : ∀ n : Nat, n < 33 → maskLength? (toString (n : Int)).toList = some n ∧
      '/' ∉ (toString (n : Int)).toList := by decide +kernel
  obtain ⟨mask, unbroken⟩ := numeral length (Nat.lt_succ_of_le le)
  have parts : PhysicalAddress.splitOn '/' (ip.text ++ "/" ++ toString (length : Int)).toList
      = [ip.text.toList, (toString (length : Int)).toList] := by
    rw [String.toList_append, String.toList_append, List.append_assoc]
    exact (PhysicalAddress.splitOn_append ip.slash_not_mem_text _).trans
      (congrArg _ (PhysicalAddress.splitOn_of_not_mem unbroken))
  rw [aroundText?, parts]
  simp only [aroundTexts?, ofText?_text, mask, Option.bind_eq_bind, Option.bind_some, dif_pos le]

end Block

end RollCall.IPv4
