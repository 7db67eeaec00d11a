import Mathlib.Data.List.Forall2
import RollCall.Proofs.IPv4
import RollCall.Proofs.Text.Numeral

/-!
# The wire form of physical addresses

The text of a host may write its octets in many ways, with signs, blanks, zeros in front and digits of any
script.  The wire form holds the octets and the port alone, so it forgets which way was taken: what is
decoded has the text in its one strict form.

* `Spells` — a text writes some octets; `octets_eq_ok_iff` says that just these texts have them.
* `encode_eq_ok_iff`, `decode_append` — the two directions, by octets and port.
* `encode_eq_iff` — addresses with the same wire form have the same octets and the same port.
* `exists_ipv4` — four bytes are the octets of an address.
* `wire_forms` — **an address and its wire form give each other back**, up to the text of the host.
-/

namespace RollCall.PhysicalAddress

variable {a b : PhysicalAddress} {ip ip' wire : Bytes}

/-! ## The octets of a host -/

/-- A text that writes octets: an integer for each, in any of the ways that integers are written in, with
dots between them. -/
def Spells (host : String) (octets : Bytes) : Prop :=
  ∃ parts : List (List Char), parts ≠ [] ∧ host.toList = ['.'].intercalate parts ∧
    List.Forall₂ (fun part (b : UInt8) => Text.IsInteger part b.toNat) parts octets

lemma octet?_eq_some_iff {part : List Char} {b : UInt8} :
    octet? part = some b ↔ Text.IsInteger part b.toNat := by
  rw [← Text.integer?_eq_some_iff, octet?]
  constructor
  · intro read
    split at read
    · rename_i n number
      split at read
      · cases read
        have small : (UInt8.ofNat n.toNat).toNat = n.toNat :=
          UInt8.toNat_ofNat_of_lt (show n.toNat < 256 by omega)
        rw [number, small, Int.toNat_of_nonneg (by omega)]
      · cases read
    · cases read
  · intro number
    have range := b.toNat_lt
    rw [number]
    dsimp only
    rw [if_pos (by omega), Int.toNat_natCast, UInt8.ofNat_toNat]

lemma mapM_eq_some_iff {α β : Type} {f : α → Option β} {xs : List α} {ys : List β} :
    xs.mapM f = some ys ↔ List.Forall₂ (fun x y => f x = some y) xs ys := by
  induction xs generalizing ys with
  | nil =>
    rw [List.forall₂_nil_left_iff, List.mapM_nil]
    exact ⟨fun same => (Option.some.inj same).symm, fun same => congrArg some same.symm⟩
  | cons x xs ih =>
    simp only [List.mapM_cons, List.forall₂_cons_left_iff, Option.bind_eq_bind, Option.bind_eq_some_iff,
      ih, Option.pure_def, Option.some.injEq]
    constructor
    · rintro ⟨y, here, ys, later, rfl⟩
      exact ⟨y, ys, here, later, rfl⟩
    · rintro ⟨y, ys, here, later, rfl⟩
      exact ⟨y, here, ys, later, rfl⟩

/-- Joining undoes splitting. -/
lemma intercalate_splitOn (separator : Char) (cs : List Char) :
    splitOn separator cs ≠ [] ∧ [separator].intercalate (splitOn separator cs) = cs := by
  induction cs with
  | nil => exact ⟨by simp [splitOn], rfl⟩
  | cons c cs ih =>
    obtain ⟨some, joined⟩ := ih
    rw [splitOn]
    split
    · rename_i same
      subst same
      obtain ⟨part, parts, split⟩ := List.exists_cons_of_ne_nil some
      rw [split] at joined ⊢
      exact ⟨by simp, by simpa [List.intercalate] using joined⟩
    · split
      · rename_i none
        exact absurd none some
      · rename_i part parts split
        rw [split] at joined
        refine ⟨by simp, ?_⟩
        cases parts <;> simpa [List.intercalate] using joined

/-- No dot stands in an integer. -/
lemma dot_not_mem {part : List Char} {n : Int} (integer : Text.IsInteger part n) : '.' ∉ part :=
  integer.not_mem (by decide) (by decide) (by decide)

/-- **A host has just the octets that its text writes.** -/
theorem octets_eq_ok_iff : a.octets = .ok ip ↔ Spells a.host ip := by
  have read : a.octets = .ok ip ↔ (splitOn '.' a.host.toList).mapM octet? = some ip := by
    unfold octets
    cases (splitOn '.' a.host.toList).mapM octet? <;> simp
  rw [read, mapM_eq_some_iff]
  simp only [octet?_eq_some_iff]
  constructor
  · intro spelt
    obtain ⟨some, joined⟩ := intercalate_splitOn '.' a.host.toList
    exact ⟨_, some, joined.symm, spelt⟩
  · rintro ⟨parts, some, joined, spelt⟩
    have unbroken : ∀ part ∈ parts, '.' ∉ part := by
      intro part among
      obtain ⟨i, within, rfl⟩ := List.mem_iff_getElem.1 among
      exact dot_not_mem (spelt.get within (spelt.length_eq ▸ within))
    rw [joined, splitOn_intercalate some unbroken]
    exact spelt

/-! ## Wire forms -/

/-- The port fits into two bytes. -/
def HasPort (a : PhysicalAddress) : Prop := 0 ≤ a.port ∧ a.port < 65536

lemma ofBigEndian_port {port : Int} (low : 0 ≤ port) (high : port < 65536) :
    (Bytes.ofBigEndian (Bytes.bigEndian 2 port.toNat) : Int) = port := by
  rw [Bytes.ofBigEndian_bigEndian, Nat.mod_eq_of_lt (by norm_num; omega), Int.toNat_of_nonneg low]

/-- An address has a wire form just if its host has octets and its port fits. -/
lemma encode_eq_ok_iff : a.encode = .ok wire ↔
    ∃ ip, a.octets = .ok ip ∧ a.HasPort ∧ wire = ip ++ Bytes.bigEndian 2 a.port.toNat := by
  unfold encode
  constructor
  · intro encoded
    cases host : a.octets with
    | error fault => rw [host] at encoded; cases encoded
    | ok ip =>
      rw [host] at encoded
      simp only [bind, Except.bind] at encoded
      split at encoded
      · rename_i port
        cases encoded
        exact ⟨ip, rfl, port, rfl⟩
      · cases encoded
  · rintro ⟨ip, host, port, rfl⟩
    rw [host]
    simp only [bind, Except.bind]
    exact if_pos port

/-- **Addresses with the same wire form** have the same octets and the same port. -/
theorem encode_eq_iff (host : a.octets = .ok ip) (port : a.HasPort) (host' : b.octets = .ok ip')
    (port' : b.HasPort) : a.encode = b.encode ↔ ip = ip' ∧ a.port = b.port := by
  rw [encode_eq_ok_iff.2 ⟨ip, host, port, rfl⟩, encode_eq_ok_iff.2 ⟨ip', host', port', rfl⟩,
    Except.ok.injEq]
  constructor
  · intro same
    obtain ⟨octets, ports⟩ := List.append_inj' same (by simp)
    have back := ofBigEndian_port port.1 port.2
    rw [ports, ofBigEndian_port port'.1 port'.2] at back
    exact ⟨octets, back.symm⟩
  · rintro ⟨rfl, port⟩
    rw [port]

/-- Four bytes are the octets of one strict address. -/
lemma exists_ipv4 (four : ip.length = 4) : ∃ address : IPv4, address.bytes = ip := by
  have small := Bytes.ofBigEndian_lt ip
  rw [four] at small
  refine ⟨⟨Bytes.ofBigEndian ip, small⟩, ?_⟩
  have back := Bytes.bigEndian_ofBigEndian ip
  rwa [four] at back

/-- Four octets and a port in two bytes are decoded as they are. -/
lemma decode_append {port : Bytes} (address : IPv4) (two : port.length = 2) :
    decode (address.bytes ++ port) = .ok ⟨address.text, Bytes.ofBigEndian port⟩ := by
  rw [decode, List.take_left' address.length_bytes, List.drop_left' address.length_bytes,
    List.take_of_length_le (by omega), IPv4.ofBytes_bytes]

/-- Decoding a wire form gives the port, and the octets in strict text. -/
lemma decode_of_encode {address : IPv4} (host : a.octets = .ok address.bytes) (port : a.HasPort) :
    ∃ wire, a.encode = .ok wire ∧ wire.length = wireLength ∧
      decode wire = .ok ⟨address.text, a.port⟩ := by
  refine ⟨_, encode_eq_ok_iff.2 ⟨_, host, port, rfl⟩, ?_, ?_⟩
  · rw [List.length_append, address.length_bytes, Bytes.length_bigEndian, wireLength]
  · rw [decode_append address (Bytes.length_bigEndian ..), ofBigEndian_port port.1 port.2]

/-- Encoding what was decoded gives the bytes back. -/
lemma encode_of_decode (six : wire.length = wireLength) :
    ∃ a, decode wire = .ok a ∧ a.encode = .ok wire := by
  rw [wireLength] at six
  have four : (wire.take 4).length = 4 := by
    rw [List.length_take]
    omega
  have two : (wire.drop 4).length = 2 := by
    rw [List.length_drop]
    omega
  obtain ⟨address, bytes⟩ := exists_ipv4 four
  have split : address.bytes ++ wire.drop 4 = wire := by rw [bytes, List.take_append_drop]
  have small := Bytes.ofBigEndian_lt (wire.drop 4)
  have back := Bytes.bigEndian_ofBigEndian (wire.drop 4)
  rw [two] at small back
  have port : HasPort ⟨address.text, Bytes.ofBigEndian (wire.drop 4)⟩ :=
    ⟨Int.natCast_nonneg _, Int.ofNat_lt.2 small⟩
  refine ⟨⟨address.text, Bytes.ofBigEndian (wire.drop 4)⟩, ?_, ?_⟩
  · rw [← decode_append address two, split]
  · rw [encode_eq_ok_iff]
    refine ⟨address.bytes, address.octets_text _, port, ?_⟩
    rw [Int.toNat_natCast, back, split]

/-! ## There and back -/

/-- The text of the host writes these octets, four of them, and the port fits. -/
structure IsEndpoint (a : PhysicalAddress) (ip : Bytes) : Prop where
  four : ip.length = 4
  host : Spells a.host ip
  port : a.HasPort

/-- **An address and its wire form give each other back.**  The octets of a host are those that its text
writes, in any of the ways that integers are written in.  An address that is made of four bytes has them
as its octets and is decoded from its wire form as it was, text included.  Six bytes are the wire form of
what they are decoded to.  Any address with four octets and a port that fits has a wire form of six bytes,
which is decoded to the same octets and the same port, with the strict text of the octets.  So two of them
have the same wire form just if their octets and their ports are the same. -/
theorem wire_forms :
    (∀ (a : PhysicalAddress) (ip : Bytes), a.octets = .ok ip ↔ Spells a.host ip) ∧
    (∀ (ip : Bytes) (port : Int), ip.length = 4 → 0 ≤ port → port < 65536 → ∃ a wire,
      ofBytes ip port = .ok a ∧ a.octets = .ok ip ∧ a.encode = .ok wire ∧ decode wire = .ok a) ∧
    (∀ wire : Bytes, wire.length = 6 → ∃ a, decode wire = .ok a ∧ a.encode = .ok wire) ∧
    (∀ (a : PhysicalAddress) (ip : Bytes), IsEndpoint a ip → ∃ (wire : Bytes) (strict : IPv4),
      a.encode = .ok wire ∧ wire.length = 6 ∧ decode wire = .ok ⟨strict.text, a.port⟩ ∧
      octets ⟨strict.text, a.port⟩ = .ok ip ∧ IPv4.ofText? strict.text.toList = some strict) ∧
    ∀ (a b : PhysicalAddress) (ip ip' : Bytes), IsEndpoint a ip → IsEndpoint b ip' →
      (a.encode = b.encode ↔ ip = ip' ∧ a.port = b.port) := by
  refine ⟨fun a ip => octets_eq_ok_iff, ?made, fun wire => encode_of_decode, ?decoded, ?same⟩
  case made =>
    intro ip port four low high
    obtain ⟨address, rfl⟩ := exists_ipv4 four
    have host : octets ⟨address.text, port⟩ = .ok address.bytes := address.octets_text port
    obtain ⟨wire, encoded, -, decoded⟩ := decode_of_encode host ⟨low, high⟩
    exact ⟨_, wire, address.ofBytes_bytes port, host, encoded, decoded⟩
  case decoded =>
    intro a ip endpoint
    obtain ⟨address, rfl⟩ := exists_ipv4 endpoint.four
    obtain ⟨wire, encoded, six, decoded⟩ :=
      decode_of_encode (octets_eq_ok_iff.2 endpoint.host) endpoint.port
    exact ⟨wire, address, encoded, six, decoded, address.octets_text _, address.ofText?_text⟩
  case same =>
    intro a b ip ip' endpoint endpoint'
    exact encode_eq_iff (octets_eq_ok_iff.2 endpoint.host) endpoint.port
      (octets_eq_ok_iff.2 endpoint'.host) endpoint'.port

/-- Blanks, zeros in front, signs, an underscore and an Arabic digit: the address has the wire form of the
strict one, and is decoded to it. -/
theorem wire_forms_loose :
    let loose : PhysicalAddress := ⟨" 010.+1_0.\u0663\u2003.-0", 65535⟩
    let strict : PhysicalAddress := ⟨"10.10.3.0", 65535⟩
    IsEndpoint loose [10, 10, 3, 0] ∧ IsEndpoint strict [10, 10, 3, 0] ∧
      loose.encode = strict.encode ∧ loose.encode = .ok [10, 10, 3, 0, 255, 255] ∧
      decode [10, 10, 3, 0, 255, 255] = .ok strict := by
  intro loose strict
  obtain ⟨spelt, made, -, -, same⟩ := wire_forms
  have port : HasPort ⟨loose.host, 65535⟩ := ⟨by decide, by decide⟩
  have first : IsEndpoint loose [10, 10, 3, 0] := ⟨rfl, (spelt _ _).1 (by decide +kernel), port⟩
  have second : IsEndpoint strict [10, 10, 3, 0] := ⟨rfl, (spelt _ _).1 (by decide +kernel), port⟩
  refine ⟨first, second, (same _ _ _ _ first second).2 ⟨rfl, rfl⟩, by decide +kernel, ?_⟩
  obtain ⟨a, wire, named, -, encoded, decoded⟩ := made [10, 10, 3, 0] 65535 rfl (by decide) (by decide)
  have written : ofBytes [10, 10, 3, 0] 65535 = .ok strict := by decide +kernel
  have bytes : strict.encode = .ok [10, 10, 3, 0, 255, 255] := by decide +kernel
  cases written.symm.trans named
  cases bytes.symm.trans encoded
  exact decoded

end RollCall.PhysicalAddress
