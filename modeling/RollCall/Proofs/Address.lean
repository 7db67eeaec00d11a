import Mathlib.Tactic.Lemma
import RollCall.Address.Logical
import RollCall.IPv4.Address
import RollCall.Proofs.Bytes

/-!
# The bytes and texts of addresses

The octets of a host are read from its text, so what is sent to an address finds its way only because
the text of an address stands for the octets that it was made of.  The address of a node stands in two
bytes.

* `LogicalAddress.decode_encode`, `LogicalAddress.encode_of_decode` — the address of a node is read from
  the bytes that it was written in, and from no others.
* `IPv4.bytes_injective` — different addresses have different octets.
* `octet?_numeral` — the numeral of a byte stands for that byte.
* `octets_dotted` — numerals with dots between them stand for their bytes.
* `IPv4.octets_text`, `IPv4.ofBytes_bytes` — the text of an address, read and made.
-/

namespace RollCall

namespace Role

@[simp] lemma ofCode?_code (role : Role) : ofCode? role.code.toNat = some role := by
  cases role <;> rfl

@[simp] lemma ofLabel?_label (role : Role) : ofLabel? role.label = some role := by
  cases role <;> decide +kernel

/-- A code that stands for a role is that role's code. -/
lemma code_of_ofCode? {n : Int} {role : Role} (h : ofCode? n = some role) :
    (role.code.toNat : Int) = n := by
  simpa using List.find?_some h

end Role

namespace LogicalAddress

@[simp] lemma length_encode (a : LogicalAddress) : a.encode.length = wireLength := rfl

/-- Reading the wire form of an address gives the address. -/
lemma decode_encode (a : LogicalAddress) (rest : Bytes) : decode (a.encode ++ rest) = .ok a := by
  obtain ⟨role, number, fits⟩ := a
  cases number with
  | none =>
    have h : role.isInstanced = false := by rw [← fits]; rfl
    simp [encode, decode, h]
  | some n =>
    have h : role.isInstanced = true := by rw [← fits]; rfl
    simp [encode, decode, h]

/-- Bytes that read as an address begin with the wire form of that address. -/
lemma encode_of_decode {data : Bytes} {a : LogicalAddress} (h : decode data = .ok a) :
    data.take wireLength = a.encode := by
  match data with
  | [] => simp [decode] at h
  | [_] => simp [decode] at h
  | code :: number :: rest =>
    simp only [decode] at h
    split at h
    · cases h
    · rename_i role hrole
      have hcode : role.code = code := by
        have := Role.code_of_ofCode? hrole
        exact UInt8.toNat_inj.1 (by exact_mod_cast this)
      split at h
      · cases h; simp [encode, wireLength, hcode]
      · split at h
        · rename_i hzero
          cases h
          simp [encode, wireLength, hcode, hzero]
        · cases h

end LogicalAddress

namespace IPv4

@[simp] lemma length_bytes (a : IPv4) : a.bytes.length = 4 := by simp [bytes]

/-- Different addresses have different octets. -/
lemma bytes_injective {a b : IPv4} (h : a.bytes = b.bytes) : a = b := by
  have ha := Bytes.ofBigEndian_bigEndian 4 a.number
  have hb := Bytes.ofBigEndian_bigEndian 4 b.number
  have := a.lt
  have := b.lt
  simp only [bytes] at h
  rw [h, hb] at ha
  obtain ⟨m, hm⟩ := a
  obtain ⟨n, hn⟩ := b
  simp only at ha hm hn ⊢
  congr 1
  omega

end IPv4

namespace PhysicalAddress

lemma octet?_numeral : ∀ n : Nat, n < 256 →
    octet? (toString (n : Int)).toList = some (UInt8.ofNat n) ∧ '.' ∉ (toString (n : Int)).toList := by
  decide +kernel

section Splitting

variable {separator : Char} {part : List Char}

lemma splitOn_of_not_mem (unbroken : separator ∉ part) : splitOn separator part = [part] := by
  induction part with
  | nil => rfl
  | cons c cs ih =>
    simp only [List.mem_cons, not_or] at unbroken
    rw [splitOn, if_neg (Ne.symm unbroken.1), ih unbroken.2]

lemma splitOn_append (unbroken : separator ∉ part) (rest : List Char) :
    splitOn separator (part ++ separator :: rest) = part :: splitOn separator rest := by
  induction part with
  | nil => simp [splitOn]
  | cons c cs ih =>
    simp only [List.mem_cons, not_or] at unbroken
    rw [List.cons_append, splitOn, if_neg (Ne.symm unbroken.1), ih unbroken.2]

/-- Splitting undoes joining, if the separator stands in none of the parts. -/
lemma splitOn_intercalate {parts : List (List Char)} (some : parts ≠ [])
    (unbroken : ∀ part ∈ parts, separator ∉ part) :
    splitOn separator ([separator].intercalate parts) = parts := by
  induction parts with
  | nil => exact absurd rfl some
  | cons part parts ih =>
    have here := unbroken part List.mem_cons_self
    cases parts with
    | nil => simpa using splitOn_of_not_mem here
    | cons next parts =>
      have joined : [separator].intercalate (part :: next :: parts)
          = part ++ separator :: [separator].intercalate (next :: parts) := by
        simp [List.intercalate]
      rw [joined, splitOn_append here, ih (by simp)]
      intro p among
      exact unbroken p (List.mem_cons_of_mem _ among)

end Splitting

/-- Numerals with dots between them stand for their bytes. -/
lemma octets_dotted {bytes : Bytes} (some : bytes ≠ []) (port : Int) :
    octets ⟨dotted (bytes.map fun b => (b.toNat : Int)), port⟩ = .ok bytes := by
  have numeral (b : UInt8) : octet? (toString (b.toNat : Int)).toList = Option.some b ∧
      '.' ∉ (toString (b.toNat : Int)).toList := by
    simpa using octet?_numeral b.toNat b.toNat_lt
  have parts : splitOn '.' (dotted (bytes.map fun b => (b.toNat : Int))).toList
      = bytes.map fun b => (toString (b.toNat : Int)).toList := by
    rw [dotted, String.toList_intercalate, List.map_map, List.map_map]
    refine splitOn_intercalate (by simpa using some) ?_
    intro part among
    obtain ⟨b, -, rfl⟩ := List.mem_map.1 among
    exact (numeral b).2
  have read : (bytes.map fun b => (toString (b.toNat : Int)).toList).mapM octet?
      = Option.some bytes := by
    clear some parts
    induction bytes with
    | nil => rfl
    | cons b bytes ih =>
      rw [List.map_cons, List.mapM_cons, (numeral b).1, ih]
      rfl
  rw [octets]
  dsimp only
  rw [parts, read]

end PhysicalAddress

namespace IPv4

lemma exists_bytes (ip : IPv4) : ∃ a b c d, ip.bytes = [a, b, c, d] := by
  match h : ip.bytes, ip.length_bytes with
  | [a, b, c, d], _ => exact ⟨a, b, c, d, rfl⟩

/-- The text of an address stands for its octets. -/
@[simp] lemma octets_text (ip : IPv4) (port : Int) :
    PhysicalAddress.octets ⟨ip.text, port⟩ = .ok ip.bytes := by
  refine PhysicalAddress.octets_dotted ?_ port
  intro nothing
  have length := ip.length_bytes
  rw [nothing] at length
  cases length

/-- The address of the octets of an address has its text. -/
lemma ofBytes_bytes (ip : IPv4) (port : Int) :
    PhysicalAddress.ofBytes ip.bytes port = .ok ⟨ip.text, port⟩ := by
  obtain ⟨a, b, c, d, bytes⟩ := ip.exists_bytes
  rw [text, bytes]
  rfl

end IPv4

end RollCall
