import RollCall.Proofs.Packet.RoundTrip

/-!
# What encoding does to a buffer

A node encodes every datagram into one and the same buffer, so what the buffer held before must not show
through.  A packet is encoded into a window of the buffer.  The window is as long as the packet's record
with its tag, it lies inside the buffer, and nothing outside of it changes.  What stands in it afterwards
is made of the packet alone.

That is not so from the outset where a record is filled field by field.  The fields leave gaps between
them, and a byte string may be shorter than its field.  `encodeInPlace` fills a record in this way, and
gives the same because it clears the record first.

* `Bytes.Within`, `Bytes.window` — a change that keeps to a window, and the bytes in it.
* `Code.copied`, `Codec.fillSlots` — what is copied into a field, and into the fields of a record.
* `Codec.fillSlots_cleared` — **a cleared record that is filled is the record that is written.**
* `Codec.encodeInPlace_eq`, `Datagram.encodeInPlace_eq` — encoding field by field is encoding.
* `Datagram.encodings_keep_to_window` — **encoding changes its window and nothing else, and the window
  shows nothing of what the buffer held.**
-/

namespace RollCall

namespace Bytes

variable {buffer front old back new bs : Bytes} {offset : Nat}

/-! ## Windows -/

/-- The bytes of a window. -/
def window (buffer : Bytes) (offset length : Nat) : Bytes := (buffer.drop offset).take length

/-- A buffer differs afterwards in a window at most, which lies inside of it. -/
structure Within (buffer : Bytes) (offset length : Nat) (after : Bytes) : Prop where
  fits : offset + length ≤ buffer.length
  length_eq : after.length = buffer.length
  outside : ∀ i, i < offset ∨ offset + length ≤ i → after[i]? = buffer[i]?

lemma zeros_add (m n : Nat) : zeros (m + n) = zeros m ++ zeros n := List.replicate_add ..

/-- Overwriting the middle of a buffer leaves both ends. -/
lemma overwrite_middle (same : new.length = old.length) :
    overwrite (front ++ (old ++ back)) front.length new = front ++ (new ++ back) := by
  have rest : (front ++ (old ++ back)).drop (front.length + new.length) = back := by
    rw [← List.append_assoc, List.drop_left' (by simp [same])]
  rw [overwrite, List.take_left, rest, List.append_assoc]

/-- A buffer is what stands before a window, in it and behind it. -/
lemma eq_append_window {length : Nat} (fits : offset + length ≤ buffer.length) :
    ∃ front old back, buffer = front ++ (old ++ back) ∧ front.length = offset ∧
      old.length = length := by
  refine ⟨buffer.take offset, window buffer offset length, buffer.drop (offset + length), ?_, ?_, ?_⟩
  · rw [window, ← List.drop_drop, List.take_append_drop, List.take_append_drop]
  · rw [List.length_take]
    omega
  · rw [window, List.length_take, List.length_drop]
    omega

/-- Overwriting keeps to the window. -/
lemma within_overwrite (fits : offset + bs.length ≤ buffer.length) :
    Within buffer offset bs.length (overwrite buffer offset bs) := by
  refine ⟨fits, length_overwrite fits, ?_⟩
  obtain ⟨front, old, back, rfl, rfl, same⟩ := eq_append_window fits
  rw [overwrite_middle same.symm]
  intro i outside
  rcases outside with before | behind
  · rw [List.getElem?_append_left before, List.getElem?_append_left before]
  · rw [List.getElem?_append_right (by omega), List.getElem?_append_right (by omega),
      List.getElem?_append_right (by omega), List.getElem?_append_right (by omega), same]

/-- What is written stands in the window. -/
lemma window_overwrite (fits : offset + bs.length ≤ buffer.length) :
    window (overwrite buffer offset bs) offset bs.length = bs := by
  obtain ⟨front, old, back, rfl, rfl, same⟩ := eq_append_window fits
  rw [overwrite_middle same.symm, window, List.drop_left, List.take_left]

/-- Overwriting the next bytes as well is overwriting all of them. -/
lemma overwrite_next (fits : offset ≤ buffer.length) (first second : Bytes) :
    overwrite (overwrite buffer offset first) (offset + first.length) second
      = overwrite buffer offset (first ++ second) := by
  have front : (buffer.take offset ++ first).length = offset + first.length := by
    rw [List.length_append, List.length_take, Nat.min_eq_left fits]
  rw [overwrite, overwrite, overwrite, ← front, List.take_left, ← List.drop_drop, List.drop_left,
    List.drop_drop, front, List.length_append, List.append_assoc _ first second, Nat.add_assoc]

/-- Overwriting the bytes before as well is overwriting all of them. -/
lemma overwrite_before {first second : Bytes}
    (fits : offset + (first ++ second).length ≤ buffer.length) :
    overwrite (overwrite buffer (offset + first.length) second) offset first
      = overwrite buffer offset (first ++ second) := by
  rw [List.length_append] at fits
  have front : (buffer.take (offset + first.length)).length = offset + first.length := by
    rw [List.length_take, Nat.min_eq_left (by omega)]
  have before : (overwrite buffer (offset + first.length) second).take offset
      = buffer.take offset := by
    rw [overwrite, List.append_assoc, List.take_append_of_le_length (by omega), List.take_take,
      Nat.min_eq_left (Nat.le_add_right ..)]
  have behind : (overwrite buffer (offset + first.length) second).drop (offset + first.length)
      = second ++ buffer.drop (offset + first.length + second.length) := by
    rw [overwrite, List.append_assoc, List.drop_left' front]
  rw [overwrite, before, behind, overwrite, List.length_append, ← Nat.add_assoc]
  simp only [List.append_assoc]

end Bytes

/-! ## Filling a record field by field -/

namespace Code

/-- The bytes that are copied to the front of a field.  Of a byte string these are its own ones, which
may leave the end of the field as it is; any other value fills its field. -/
def copied (convention : Convention) (code : Code) (length : Nat) (value : FieldValue) :
    Except StoreFault Bytes :=
  match code, value with
  | fixedBytes, .bytes bs => .ok (bs.take length)
  | countedBytes, .bytes bs =>
    let kept := bs.take (length - 1)
    .ok ((UInt8.ofNat (min kept.length 255) :: kept).take length)
  | code, value => code.write convention length value

lemma fit_take (length : Nat) (bs : Bytes) : fit length (bs.take length) = fit length bs := by
  rcases Nat.le_total bs.length length with short | long
  · rw [List.take_of_length_le short]
  · simp [fit, long, Bytes.zeros]

/-- A field that was zero before holds the copied bytes and zeros after them. -/
lemma fit_eq {length : Nat} {bs : Bytes} (short : bs.length ≤ length) :
    fit length bs = bs ++ Bytes.zeros (length - bs.length) := by
  rw [fit, List.take_of_length_le]
  simp only [List.length_append, Bytes.length_zeros]
  omega

/-- What is written to a field is what is copied, with zeros after it. -/
lemma write_eq_copied (convention : Convention) (code : Code) (length : Nat) (value : FieldValue) :
    code.write convention length value = (code.copied convention length value).map (fit length) := by
  have full (same : code.copied convention length value = code.write convention length value) :
      code.write convention length value = (code.copied convention length value).map (fit length) := by
    rw [same]
    cases written : code.write convention length value with
    | error fault => rfl
    | ok bs =>
      show Except.ok bs = .ok (fit length bs)
      rw [fit_of_length (length_write written)]
  cases code with
  | fixedBytes =>
    cases value with
    | bytes bs => simp only [copied, write, Except.map, fit_take]
    | _ => exact full rfl
  | countedBytes =>
    cases value with
    | bytes bs => simp only [copied, write, Except.map, fit_take]
    | _ => exact full rfl
  | _ => exact full rfl

lemma length_copied_le {convention : Convention} {code : Code} {length : Nat} {value : FieldValue}
    {bs : Bytes} (copied : code.copied convention length value = .ok bs) : bs.length ≤ length := by
  unfold Code.copied at copied
  split at copied
  · cases copied
    exact List.length_take_le ..
  · cases copied
    exact List.length_take_le ..
  · exact Nat.le_of_eq (length_write copied)

end Code

namespace Codec

variable {codec : Codec} {packet : Packet}

/-- Copies field values into a record that begins at a position of a buffer.  Filler is passed over. -/
def fillSlots (convention : Convention) : List Slot → List FieldValue → Nat → Bytes →
    Except StoreFault Bytes
  | [], _, _, buffer => .ok buffer
  | .filler length :: slots, values, position, buffer =>
    fillSlots convention slots values (position + length) buffer
  | .field code length :: slots, value :: values, position, buffer => do
    let bytes ← code.copied convention length value
    fillSlots convention slots values (position + length) (Bytes.overwrite buffer position bytes)
  | .field _ _ :: _, [], _, _ => .error .unfit

/-- **A cleared record that is filled is the record that is written**, whatever stands before it and
behind it. -/
theorem fillSlots_cleared (convention : Convention) (slots : List Slot) (values : List FieldValue)
    (front back : Bytes) :
    fillSlots convention slots values front.length
        (front ++ (Bytes.zeros (slots.map Slot.length).sum ++ back))
      = (writeSlots convention slots values).map fun record => front ++ (record ++ back) := by
  induction slots generalizing values front with
  | nil => rfl
  | cons slot slots ih =>
    rw [List.map_cons, List.sum_cons, Bytes.zeros_add]
    cases slot with
    | filler length =>
      have next := ih values (front ++ Bytes.zeros length)
      rw [List.length_append, Bytes.length_zeros] at next
      simp only [List.append_assoc] at next
      simp only [fillSlots, Slot.length, List.append_assoc, next, writeSlots]
      cases writeSlots convention slots values with
      | error fault => rfl
      | ok record => simp [Except.map, bind, Except.bind, pure, Except.pure]
    | field code length =>
      cases values with
      | nil => rfl
      | cons value values =>
        simp only [fillSlots, writeSlots, Slot.length, Code.write_eq_copied]
        cases copied : code.copied convention length value with
        | error fault => rfl
        | ok bytes =>
          have short := Code.length_copied_le copied
          -- The field's own zeros divide into those that are overwritten and those that stay.
          have field : Bytes.zeros length
              = Bytes.zeros bytes.length ++ Bytes.zeros (length - bytes.length) := by
            rw [← Bytes.zeros_add, Nat.add_sub_cancel' short]
          have poked : Bytes.overwrite
              (front ++ (Bytes.zeros length ++ Bytes.zeros (slots.map Slot.length).sum ++ back))
              front.length bytes
              = (front ++ Code.fit length bytes)
                ++ (Bytes.zeros (slots.map Slot.length).sum ++ back) := by
            rw [field, List.append_assoc, List.append_assoc,
              Bytes.overwrite_middle (by rw [Bytes.length_zeros]), Code.fit_eq short]
            simp only [List.append_assoc]
          have next := ih values (front ++ Code.fit length bytes)
          rw [List.length_append, Code.length_fit] at next
          show fillSlots convention slots values (front.length + length) (Bytes.overwrite _ _ _) = _
          rw [poked, next]
          cases writeSlots convention slots values with
          | error fault => rfl
          | ok record => simp [Except.map, bind, Except.bind, pure, Except.pure]

/-- Filling a cleared part of a buffer is overwriting it with the record. -/
lemma fillSlots_overwrite (layout : Layout) (values : List FieldValue) {buffer : Bytes}
    {position : Nat} (fits : position + layout.size ≤ buffer.length) :
    fillSlots layout.convention layout.slots values position
        (Bytes.overwrite buffer position (Bytes.zeros layout.size))
      = (writeSlots layout.convention layout.slots values).map (Bytes.overwrite buffer position) := by
  obtain ⟨front, old, back, rfl, rfl, same⟩ := Bytes.eq_append_window fits
  have zeros : (Bytes.zeros layout.size).length = old.length := by rw [Bytes.length_zeros, same]
  rw [Bytes.overwrite_middle zeros, Layout.size_eq_slots, fillSlots_cleared]
  cases written : writeSlots layout.convention layout.slots values with
  | error fault => rfl
  | ok record =>
    have length : record.length = old.length := by
      rw [same, length_writeSlots written, Layout.size_eq_slots]
    show Except.ok _ = Except.ok (Bytes.overwrite _ _ _)
    rw [Bytes.overwrite_middle length]

/-- Encodes a packet into a buffer field by field: the record is cleared, the values are copied into it,
and the tag is put in front. -/
def encodeInPlace (codec : Codec) (packet : Packet) (buffer : Bytes) (offset : Nat) :
    Except EncodeFault (Nat × Bytes) := do
  let shape ← codec.shapeOf packet
  let room := buffer.length - offset
  if room < shape.encodedSize then throw (.noRoom shape.encodedSize room)
  if packet.values.length < shape.type.fields.length then throw .lacksValue
  match shape.byteFields.findSome? (byteFieldFault? packet) with
  | some fault => throw fault
  | none =>
    let cleared := Bytes.overwrite buffer (offset + 1) (Bytes.zeros shape.layout.size)
    match fillSlots shape.layout.convention shape.layout.slots packet.values (offset + 1) cleared with
    | .ok filled => return (shape.encodedSize, Bytes.overwrite filled offset [shape.tag])
    | .error .unfit => throw (.unfit packet.type.name)
    | .error .beyondFloat => throw .beyondFloat

/-- **Encoding field by field is encoding.** -/
theorem encodeInPlace_eq (codec : Codec) (packet : Packet) (buffer : Bytes) (offset : Nat) :
    codec.encodeInPlace packet buffer offset = codec.encodeInto packet buffer offset := by
  have filled {shape : Shape} (fits : shape.encodedSize ≤ buffer.length - offset) :
      fillSlots shape.layout.convention shape.layout.slots packet.values (offset + 1)
          (Bytes.overwrite buffer (offset + 1) (Bytes.zeros shape.layout.size))
        = (writeSlots shape.layout.convention shape.layout.slots packet.values).map
          (Bytes.overwrite buffer (offset + 1)) := by
    refine fillSlots_overwrite shape.layout packet.values ?_
    rw [Shape.encodedSize] at fits
    omega
  obtain ⟨result, done⟩ : ∃ result, codec.encode packet (buffer.length - offset) = result := ⟨_, rfl⟩
  rw [encodeInto, done]
  cases encode_eq_iff.1 done with
  | unsupported unknown => simp [encodeInPlace, shapeOf, unknown, bind, Except.bind]
  | noRoom found tight =>
    simp [encodeInPlace, shapeOf, found, tight, bind, Except.bind, throw, throwThe,
      MonadExceptOf.throw]
  | lacksValue found fits short =>
    simp [encodeInPlace, shapeOf, found, Nat.not_lt.2 fits, short, bind, Except.bind, throw, throwThe,
      MonadExceptOf.throw]
  | misfit found fits valued wrong =>
    simp [encodeInPlace, shapeOf, found, Nat.not_lt.2 fits, Nat.not_lt.2 valued, wrong, bind,
      Except.bind, throw, throwThe, MonadExceptOf.throw]
  | unfit found fits valued checked refused | beyondFloat found fits valued checked refused =>
    simp [encodeInPlace, shapeOf, found, Nat.not_lt.2 fits, Nat.not_lt.2 valued, checked, filled fits,
      refused, Except.map, bind, Except.bind, throw, throwThe, MonadExceptOf.throw]
  | @encoded shape record encoded =>
    have size := encoded.length_eq
    have fits := encoded.fits
    have room : offset + ([shape.tag] ++ record).length ≤ buffer.length := by
      rw [List.singleton_append, size]
      rw [Shape.encodedSize] at fits ⊢
      omega
    have whole : Bytes.overwrite (Bytes.overwrite buffer (offset + 1) record) offset [shape.tag]
        = Bytes.overwrite buffer offset (shape.tag :: record) := Bytes.overwrite_before room
    simp [encodeInPlace, shapeOf, encoded.found, Nat.not_lt.2 fits, Nat.not_lt.2 encoded.valued,
      encoded.checked, filled fits, encoded.written, Except.map, bind, Except.bind, pure, Except.pure,
      whole]
    exact size.symm

/-- What is encoded into a buffer is what is encoded. -/
lemma encodeInto_eq_ok_iff {buffer after : Bytes} {offset n : Nat} :
    codec.encodeInto packet buffer offset = .ok (n, after) ↔
      ∃ bytes, codec.encode packet (buffer.length - offset) = .ok bytes ∧ n = bytes.length ∧
        after = Bytes.overwrite buffer offset bytes := by
  unfold encodeInto
  cases codec.encode packet (buffer.length - offset) with
  | error fault => simp [bind, Except.bind]
  | ok bytes => simp [bind, Except.bind, pure, Except.pure, eq_comm]

/-- With any room that is enough the same is encoded. -/
lemma encode_of_room {room other : Nat} {bytes : Bytes} (encoded : codec.encode packet room = .ok bytes)
    (enough : bytes.length ≤ other) : codec.encode packet other = .ok bytes := by
  obtain ⟨shape, record, whole, rfl⟩ := of_encode encoded
  rw [whole.length_eq] at enough
  exact Encoded.encode_eq { whole with fits := enough }

lemma encodedSize_eq {room : Nat} {bytes : Bytes} (encoded : codec.encode packet room = .ok bytes) :
    codec.encodedSize packet = .ok bytes.length := by
  obtain ⟨shape, record, whole, rfl⟩ := of_encode encoded
  rw [encodedSize, shapeOf, whole.found, whole.length_eq]
  rfl

/-- What is encoded is one byte at least, so where there is room for it the offset is in the buffer. -/
lemma fits_of_encode {buffer bytes : Bytes} {offset : Nat}
    (encoded : codec.encode packet (buffer.length - offset) = .ok bytes) :
    offset + bytes.length ≤ buffer.length := by
  have fits := length_le_of_encode encoded
  obtain ⟨shape, record, whole, rfl⟩ := of_encode encoded
  rw [List.length_cons] at fits ⊢
  omega

end Codec

namespace Envelope

/-- Puts an envelope at the front of a buffer, part by part. -/
def writeOver (e : Envelope) (buffer : Bytes) : Bytes :=
  let buffer := Bytes.overwrite buffer 0 [envelopeVersion]
  let buffer := Bytes.overwrite buffer 1 e.sender.encode
  let buffer := Bytes.overwrite buffer 3 e.destination.encode
  let buffer := Bytes.overwrite buffer 5 (Bytes.bigEndian 4 (Counter.wrap e.counter).toNat)
  Bytes.overwrite buffer 9 [e.kind.code]

/-- An envelope that is written part by part is the envelope. -/
lemma writeOver_eq (e : Envelope) (buffer : Bytes) :
    e.writeOver buffer = Bytes.overwrite buffer 0 e.encode := by
  have next (first second : Bytes) (length : Nat) (known : first.length = length) :
      Bytes.overwrite (Bytes.overwrite buffer 0 first) length second
        = Bytes.overwrite buffer 0 (first ++ second) := by
    rw [← known, ← Bytes.overwrite_next (Nat.zero_le _), Nat.zero_add]
  have sender : e.sender.encode.length = 2 := LogicalAddress.length_encode e.sender
  have destination : e.destination.encode.length = 2 := LogicalAddress.length_encode e.destination
  have counter := Bytes.length_bigEndian 4 (Counter.wrap e.counter).toNat
  rw [writeOver, next _ _ 1 rfl, next _ _ 3 (by simp [sender]), next _ _ 5 (by simp [sender, destination]),
    next _ _ 9 (by simp [sender, destination, counter]), encode]
  simp only [List.append_assoc, List.cons_append, List.nil_append]

end Envelope

namespace Datagram

variable {codec : Codec} {packet : Packet} {sender destination : LogicalAddress} {counter : Int}

/-- Encodes a datagram at the front of a buffer piece by piece: first the body, field by field, and then
the envelope before it. -/
def encodeInPlace (codec : Codec) (packet : Packet) (sender destination : LogicalAddress)
    (counter : Int) (buffer : Bytes) : Except EncodeFault (Nat × Bytes) := do
  if buffer.length < envelopeLength then throw (.noRoom envelopeLength buffer.length)
  let kind := kindOf packet
  let body ← (codecOf codec kind).encodeInPlace packet buffer envelopeLength
  return (envelopeLength + body.1, Envelope.writeOver ⟨sender, destination, counter, kind⟩ body.2)

/-- **Encoding piece by piece is encoding.** -/
theorem encodeInPlace_eq (codec : Codec) (packet : Packet) (sender destination : LogicalAddress)
    (counter : Int) (buffer : Bytes) :
    encodeInPlace codec packet sender destination counter buffer
      = encodeInto codec packet sender destination counter buffer := by
  unfold encodeInPlace
  dsimp only
  rw [Codec.encodeInPlace_eq]
  by_cases enough : envelopeLength ≤ buffer.length
  · rw [if_neg (Nat.not_lt.2 enough), encodeInto, encode_of_le enough]
    cases encoded : (codecOf codec (kindOf packet)).encode packet (buffer.length - envelopeLength) with
    | error fault => simp [Codec.encodeInto, encoded, bind, Except.bind, Except.map]
    | ok body =>
      have fits := Codec.length_le_of_encode encoded
      have length := Envelope.length_encode ⟨sender, destination, counter, kindOf packet⟩
      have whole (envelope : Bytes) (size : envelope.length = envelopeLength) :
          Bytes.overwrite (Bytes.overwrite buffer envelopeLength body) 0 envelope
            = Bytes.overwrite buffer 0 (envelope ++ body) := by
        rw [← Bytes.overwrite_before (by rw [List.length_append, size]; omega), size, Nat.zero_add]
      simp [Codec.encodeInto_eq_ok_iff.2 ⟨body, encoded, rfl, rfl⟩, Envelope.writeOver_eq, whole, length,
        bind, Except.bind, pure, Except.pure, Except.map]
  · rw [if_pos (Nat.lt_of_not_le enough), encodeInto, encode, if_pos (Nat.lt_of_not_le enough)]
    rfl

/-- What is encoded at the front of a buffer is what is encoded. -/
lemma encodeInto_eq_ok_iff {buffer after : Bytes} {n : Nat} :
    encodeInto codec packet sender destination counter buffer = .ok (n, after) ↔
      ∃ bytes, encode codec packet sender destination counter buffer.length = .ok bytes ∧
        n = bytes.length ∧ after = Bytes.overwrite buffer 0 bytes := by
  unfold encodeInto
  cases encode codec packet sender destination counter buffer.length with
  | error fault => simp [bind, Except.bind]
  | ok bytes => simp [bind, Except.bind, pure, Except.pure, eq_comm]

lemma encode_of_room {room other : Nat} {bytes : Bytes}
    (encoded : encode codec packet sender destination counter room = .ok bytes)
    (enough : bytes.length ≤ other) :
    encode codec packet sender destination counter other = .ok bytes := by
  obtain ⟨body, encodedBody, rfl⟩ := of_encode encoded
  rw [List.length_append, Envelope.length_encode] at enough
  rw [encode_of_le (by omega), Codec.encode_of_room encodedBody (by omega)]
  rfl

/-- **Encoding keeps to its window.**  Take any codec, any packet, and any buffer with an offset in it.  If
the packet is encoded there, the window has the length that the codec tells, it lies in the buffer, and
nothing outside of it changes.  The same comes out if the record is cleared and filled field by field.  In
any other buffer with room, wherever in it, the same packet leaves the same bytes, so they show nothing of
what a buffer held.

All this holds of datagrams at the front of a buffer, which are ten bytes longer than their packets.  What
a buffer has in its window then is what a node hands to its transport. -/
theorem encodings_keep_to_window (codec : Codec) (packet : Packet) :
    (∀ buffer offset n after, codec.encodeInto packet buffer offset = .ok (n, after) →
      codec.encodedSize packet = .ok n ∧ Bytes.Within buffer offset n after ∧
      codec.encodeInPlace packet buffer offset = .ok (n, after) ∧
      ∀ other place, place + n ≤ other.length → ∃ later,
        codec.encodeInto packet other place = .ok (n, later) ∧
        Bytes.window later place n = Bytes.window after offset n) ∧
    ∀ sender destination counter buffer n after,
      encodeInto codec packet sender destination counter buffer = .ok (n, after) →
      (∃ size, (codecOf codec (kindOf packet)).encodedSize packet = .ok size ∧
        n = envelopeLength + size) ∧
      Bytes.Within buffer 0 n after ∧
      encodeInPlace codec packet sender destination counter buffer = .ok (n, after) ∧
      encode codec packet sender destination counter buffer.length = .ok (Bytes.window after 0 n) ∧
      ∀ other : Bytes, n ≤ other.length → ∃ later,
        encodeInto codec packet sender destination counter other = .ok (n, later) ∧
        Bytes.window later 0 n = Bytes.window after 0 n := by
  constructor
  · intro buffer offset n after encoded
    have inPlace := (codec.encodeInPlace_eq packet buffer offset).trans encoded
    obtain ⟨bytes, written, rfl, rfl⟩ := Codec.encodeInto_eq_ok_iff.1 encoded
    have fits := Codec.fits_of_encode written
    refine ⟨Codec.encodedSize_eq written, Bytes.within_overwrite fits, inPlace, ?_⟩
    intro other place enough
    have again : codec.encode packet (other.length - place) = .ok bytes :=
      Codec.encode_of_room written (by omega)
    refine ⟨_, Codec.encodeInto_eq_ok_iff.2 ⟨bytes, again, rfl, rfl⟩, ?_⟩
    rw [Bytes.window_overwrite enough, Bytes.window_overwrite fits]
  · intro sender destination counter buffer n after encoded
    have inPlace := (encodeInPlace_eq codec packet sender destination counter buffer).trans encoded
    obtain ⟨bytes, written, rfl, rfl⟩ := encodeInto_eq_ok_iff.1 encoded
    have fits : 0 + bytes.length ≤ buffer.length := by
      rw [Nat.zero_add]
      exact length_le_of_encode written
    refine ⟨?_, Bytes.within_overwrite fits, inPlace, ?_, ?_⟩
    · obtain ⟨body, encodedBody, rfl⟩ := of_encode written
      refine ⟨body.length, Codec.encodedSize_eq encodedBody, ?_⟩
      rw [List.length_append, Envelope.length_encode]
    · rw [Bytes.window_overwrite fits, written]
    · intro other enough
      refine ⟨_, encodeInto_eq_ok_iff.2 ⟨bytes, encode_of_room written enough, rfl, rfl⟩, ?_⟩
      rw [Bytes.window_overwrite (by omega), Bytes.window_overwrite fits]

/-- A picture in a buffer that is full of other bytes: the gap that aligns the exposure, the filler and
the end of the note are zero, and the bytes of the buffer stay around the picture only. -/
theorem encodings_keep_to_window_picture :
    pictureCodec.encodeInto lastPicture (List.replicate 26 238) 4 = .ok (20,
        [238, 238, 238, 238] ++ (pictureBuffer.drop 10).take 20 ++ [238, 238]) ∧
      ∀ other : Bytes, 30 ≤ other.length → ∃ later,
        encodeInto pictureCodec lastPicture (.camera 3) .broadcast (-1) other = .ok (30, later) ∧
        Bytes.window later 0 30 = Bytes.window pictureBuffer 0 30 := by
  obtain ⟨-, datagrams⟩ := encodings_keep_to_window pictureCodec lastPicture
  have encoded : encodeInto pictureCodec lastPicture (.camera 3) .broadcast (-1) (Bytes.zeros 40)
      = .ok (30, pictureBuffer) := by decide +kernel
  obtain ⟨-, -, -, -, others⟩ := datagrams (.camera 3) .broadcast (-1) _ _ _ encoded
  exact ⟨by decide +kernel, others⟩

end Datagram

end RollCall
