import RollCall.Proofs.Node.Calls
import RollCall.Proofs.Packet.RoundTrip
import RollCall.Proofs.Transport

/-!
# When a poll returns

Whatever arrives, a node deals with it, and the faults of the link are counted or passed over.  So
the one thing in a poll that can fail is the announcement, and it fails in one way only: an encoded
heartbeat has fifteen bytes, but a node may be made with buffers of eleven.

* `Datagram.encode_announcement`, `Datagram.encode_announcement_of_lt` — the bytes of an
  announcement, or why there are none.
* `poll_of_announceIfDue` — a poll gives no fault but that of its announcement.
* `poll_of_room`, `poll_of_no_room` — what a poll gives, by the size of the buffers.
* `polls_return_iff` — **every poll of every run returns exactly if the buffers hold a heartbeat.**
-/

namespace RollCall

namespace Datagram

/-- The bytes of an announcement, its envelope included. -/
def announcementLength : Nat := envelopeLength + 5

/-- The shape of announcements, the only one of the shared codec. -/
def announcementShape : Shape := ⟨0, heartbeat, ⟨⟨.big, false⟩, [⟨1, .integer .int false⟩]⟩, []⟩

variable {codec : Codec} {session : Int} {sender destination : LogicalAddress} {counter : Int}
  {room : Nat}

/-- The record of an announcement is its session in four bytes. -/
lemma writeSlots_announcement (nonneg : 0 ≤ session) (small : session < counterRange) :
    Codec.writeSlots ⟨.big, false⟩ [.filler 0, .field (.integer .int false) 4] [.int session]
      = .ok (Bytes.bigEndian 4 session.toNat) := by
  have range : ((256 ^ 4 : Nat) : Int) = counterRange := by decide
  have inside : Code.least false 4 ≤ session ∧ session < Code.bound false 4 :=
    ⟨nonneg, by rw [← range] at small; exact small⟩
  have record : Code.writeInteger .big 4 session = Bytes.bigEndian 4 session.toNat := by
    rw [Code.writeInteger, range, Int.emod_eq_of_lt nonneg small]
    rfl
  simp only [Codec.writeSlots, Code.write, FieldValue.integer?, if_pos inside, record]
  rfl

/-- The body of an announcement is encoded wherever there is room for it. -/
lemma encoded_announcement (nonneg : 0 ≤ session) (small : session < counterRange)
    (fits : announcementLength ≤ room) :
    sharedCodec.Encoded (.announcement session) (room - envelopeLength) announcementShape
      (Bytes.bigEndian 4 session.toNat) where
  found := rfl
  fits := by
    show 5 ≤ room - envelopeLength
    unfold announcementLength at fits
    omega
  valued := by rfl
  checked := rfl
  written := writeSlots_announcement nonneg small

/-- So is the whole announcement. -/
lemma encode_announcement (nonneg : 0 ≤ session) (small : session < counterRange)
    (fits : announcementLength ≤ room) :
    encode codec (.announcement session) sender destination counter room
      = .ok (Envelope.encode ⟨sender, destination, counter, .shared⟩
          ++ 0 :: Bytes.bigEndian 4 session.toNat) := by
  have body := encoded_announcement nonneg small fits
  unfold announcementLength at fits
  rw [encode_of_le (by omega)]
  show (sharedCodec.encode (.announcement session) (room - envelopeLength)).map _ = _
  rw [body.encode_eq]
  rfl

/-- Where there is room for an envelope and no more, the body is what does not fit. -/
lemma encode_announcement_of_lt (envelope : envelopeLength ≤ room)
    (tight : room < announcementLength) :
    encode codec (.announcement session) sender destination counter room
      = .error (.noRoom 5 (room - envelopeLength)) := by
  have size : room - envelopeLength < announcementShape.encodedSize := by
    show room - envelopeLength < 5
    unfold announcementLength at tight
    omega
  rw [encode_of_le envelope]
  show (sharedCodec.encode (.announcement session) (room - envelopeLength)).map _ = _
  rw [Codec.encode_eq_iff.2 (.noRoom (by rfl) size)]
  rfl

end Datagram

namespace Node

variable {σ : Type} {t : Transport σ} {node : Node} {s : σ}

/-! ## The announcement -/

/-- Handing bytes to an orderly transport fails only if the link does not carry them. -/
lemma transmit_orderly (orderly : t.Orderly) (endpoint : PhysicalAddress) (data : Bytes) :
    (transmit t node endpoint data s).1 = .ok () ∨
      ∃ link, (transmit t node endpoint data s).1 = .error (.transport (.link link)) := by
  have fails := orderly.send endpoint data s
  unfold transmit
  generalize t.send endpoint data s = answer at fails ⊢
  rcases answer with ⟨fault | _, s⟩
  · obtain ⟨link, rfl⟩ := fails fault rfl
    exact .inr ⟨link, rfl⟩
  · exact .inl rfl

/-- An announcement for which there is room is sent, or the link does not carry it. -/
lemma announce_of_room (orderly : t.Orderly) (nonneg : 0 ≤ node.session)
    (small : node.session < counterRange) (fits : Datagram.announcementLength ≤ node.room) :
    (announce t node s).1 = .ok () ∨
      ∃ link, (announce t node s).1 = .error (.transport (.link link)) := by
  unfold announce send
  rw [if_pos (show LogicalAddress.broadcast.isBroadcast = true from rfl), sendBroadcast,
    Datagram.encode_announcement nonneg small fits]
  obtain ⟨octets, address, known, reached⟩ := orderly.address udpPort s
  generalize t.broadcastOctets s = answer at known ⊢
  rcases answer with ⟨_, s⟩
  cases known
  dsimp only
  rw [reached]
  exact transmit_orderly orderly _ _

/-- An announcement for which there is no room is refused by the codec. -/
lemma announce_of_no_room (t : Transport σ) (s : σ) (envelope : envelopeLength ≤ node.room)
    (tight : node.room < Datagram.announcementLength) :
    (announce t node s).1 = .error (.encode (.noRoom 5 (node.room - envelopeLength))) := by
  unfold announce send
  rw [if_pos (show LogicalAddress.broadcast.isBroadcast = true from rfl), sendBroadcast,
    Datagram.encode_announcement_of_lt envelope tight]

/-- With room for it, an announcement that is due is no fault of the poll. -/
lemma announceIfDue_of_room (orderly : t.Orderly) (nonneg : 0 ≤ node.session)
    (small : node.session < counterRange) (fits : Datagram.announcementLength ≤ node.room) :
    (announceIfDue t node s).1 = .ok () := by
  unfold announceIfDue
  split
  case isFalse => rfl
  case isTrue =>
    have sent : (announce t { node with lastAnnounce := some node.time } s).1 = .ok () ∨ ∃ link,
        (announce t { node with lastAnnounce := some node.time } s).1
          = .error (.transport (.link link)) :=
      announce_of_room orderly nonneg small fits
    generalize announce t { node with lastAnnounce := some node.time } s = turn at sent ⊢
    rcases turn with ⟨answer, later, s⟩
    rcases sent with sent | ⟨link, sent⟩ <;> cases sent <;> rfl

/-- Without room for an announcement, one that is due is a fault, and nothing else is. -/
lemma announceIfDue_of_no_room (t : Transport σ) (s : σ) (envelope : envelopeLength ≤ node.room)
    (tight : node.room < Datagram.announcementLength) :
    (announceIfDue t node s).1 = if node.isAnnouncementDue then
      .error (.encode (.noRoom 5 (node.room - envelopeLength))) else .ok () := by
  unfold announceIfDue
  split
  case isFalse => rfl
  case isTrue =>
    have refused : (announce t { node with lastAnnounce := some node.time } s).1
        = .error (.encode (.noRoom 5 (node.room - envelopeLength))) :=
      announce_of_no_room t s envelope tight
    generalize announce t { node with lastAnnounce := some node.time } s = turn at refused ⊢
    rcases turn with ⟨answer, later, s⟩
    cases refused
    rfl

/-! ## The poll -/

/-- A poll returns unless its announcement is a fault, and then fails with that fault. -/
lemma poll_of_announceIfDue (orderly : t.Orderly) (node : Node) (time : Int) (s : σ) :
    ∃ served,
      ((announceIfDue t (node.advance time) served).1 = .ok () →
        ∃ received, (poll t node time s).1 = .ok received) ∧
      ∀ fault, (announceIfDue t (node.advance time) served).1 = .error fault →
        (poll t node time s).1 = .error fault := by
  have answered := orderly.poll (node.advance time).time s
  unfold poll
  dsimp only
  generalize t.poll (node.advance time).time s = answer at answered ⊢
  rcases answer with ⟨_, served⟩
  cases answered
  refine ⟨served, ?_⟩
  dsimp only
  rcases announceIfDue t (node.advance time) served with ⟨refused | _, later, s⟩
  · exact ⟨fun returned => (by cases returned), fun fault failed => (by cases failed; rfl)⟩
  · exact ⟨fun _ => drain_returns orderly.receive _ _ _, fun fault failed => (by cases failed)⟩

/-- With room for an announcement, a poll returns. -/
lemma poll_of_room (orderly : t.Orderly) (nonneg : 0 ≤ node.session)
    (small : node.session < counterRange) (fits : Datagram.announcementLength ≤ node.room)
    (time : Int) : ∃ received, (poll t node time s).1 = .ok received := by
  obtain ⟨served, returns, -⟩ := poll_of_announceIfDue orderly node time s
  exact returns (announceIfDue_of_room orderly nonneg small fits)

/-- Without, a poll fails exactly if an announcement is due. -/
lemma poll_of_no_room (orderly : t.Orderly) (envelope : envelopeLength ≤ node.room)
    (tight : node.room < Datagram.announcementLength) (time : Int) :
    if (node.advance time).isAnnouncementDue then
      (poll t node time s).1 = .error (.encode (.noRoom 5 (node.room - envelopeLength)))
    else ∃ received, (poll t node time s).1 = .ok received := by
  obtain ⟨served, returns, fails⟩ := poll_of_announceIfDue orderly node time s
  have answer : (announceIfDue t (node.advance time) served).1
      = if (node.advance time).isAnnouncementDue then
          .error (.encode (.noRoom 5 (node.room - envelopeLength))) else .ok () :=
    announceIfDue_of_no_room t served envelope tight
  split
  case isTrue due =>
    rw [if_pos due] at answer
    exact fails _ answer
  case isFalse early =>
    rw [if_neg early] at answer
    exact returns answer

/-! ## Every poll of every run -/

/-- The session of a new node is a counter, if the one drawn is. -/
lemma sessionOf_range (config : NodeConfig) {drawn : Int} (nonneg : 0 ≤ drawn)
    (small : drawn < counterRange) :
    0 ≤ sessionOf config drawn ∧ sessionOf config drawn < counterRange := by
  unfold sessionOf
  split
  · exact ⟨Counter.wrap_nonneg _, Counter.wrap_lt _⟩
  · exact ⟨nonneg, small⟩

/-- **Every poll returns exactly if the buffers hold a heartbeat.**  Over an orderly transport, a
node whose buffers hold one makes no run in which a poll fails.  A node with smaller buffers can be
made too; each of its polls fails at which an announcement is due, the first one among them, and no
other. -/
theorem polls_return_iff (orderly : t.Orderly) {config : NodeConfig} {codec : Codec} {drawn : Int}
    (nonneg : 0 ≤ drawn) (small : drawn < counterRange)
    (made : create config codec drawn = .ok node) (s : σ) :
    ((∀ calls time, ∃ received,
        (poll t (run t calls node s).1 time (run t calls node s).2).1 = .ok received) ↔
      (Datagram.announcementLength : Int) ≤ config.bufferSize) ∧
    (config.bufferSize < (Datagram.announcementLength : Int) → ∀ calls time,
      if ((run t calls node s).1.advance time).isAnnouncementDue then
        (poll t (run t calls node s).1 time (run t calls node s).2).1
          = .error (.encode (.noRoom 5 (config.bufferSize.toNat - envelopeLength)))
      else ∃ received,
        (poll t (run t calls node s).1 time (run t calls node s).2).1 = .ok received) := by
  have created := created made
  have size := created.size
  have same (calls : List (Call σ)) : (run t calls node s).1.config = config ∧
      (run t calls node s).1.session = sessionOf config drawn := by
    obtain ⟨settings, -, session⟩ := (run_course t calls node s).settings
    rw [settings, session, created.node]
    exact ⟨rfl, rfl⟩
  obtain ⟨low, high⟩ := sessionOf_range config nonneg small
  have wide : (Datagram.announcementLength : Int) ≤ config.bufferSize → ∀ calls time,
      ∃ received, (poll t (run t calls node s).1 time (run t calls node s).2).1 = .ok received := by
    intro fits calls time
    obtain ⟨settings, session⟩ := same calls
    refine poll_of_room orderly (by rw [session]; exact low) (by rw [session]; exact high) ?_ time
    rw [room, settings]
    omega
  have narrow : config.bufferSize < (Datagram.announcementLength : Int) → ∀ calls time,
      if ((run t calls node s).1.advance time).isAnnouncementDue then
        (poll t (run t calls node s).1 time (run t calls node s).2).1
          = .error (.encode (.noRoom 5 (config.bufferSize.toNat - envelopeLength)))
      else ∃ received,
        (poll t (run t calls node s).1 time (run t calls node s).2).1 = .ok received := by
    intro tight calls time
    have size : (run t calls node s).1.room = config.bufferSize.toNat := by
      rw [room, (same calls).1]
    rw [← size]
    exact poll_of_no_room orderly (by omega) (by omega) time
  refine ⟨⟨fun returns => ?_, wide⟩, narrow⟩
  by_contra tight
  have first := narrow (by omega) [] 0
  have due : ((run t [] node s).1.advance 0).isAnnouncementDue = true := by
    rw [created.node]
    rfl
  obtain ⟨received, returned⟩ := returns [] 0
  rw [if_pos due, returned] at first
  cases first

/-! ### The smallest buffers -/

/-- The settings with the smallest buffers that a node can be made with. -/
def tightConfig : NodeConfig where
  host := .flightController
  bufferSize := 11

def tightNode : Node where
  config := tightConfig
  codec := .empty
  session := 5
  map := { window := 500, capacity := 32 }

/-- The first poll of the smallest node fails, and the next one, at which no announcement is due,
returns. -/
theorem polls_return_iff_tight :
    (poll .queue tightNode 0 []).1 = .error (.encode (.noRoom 5 1)) ∧
      ∃ received, (poll .queue (run .queue [.poll 0] tightNode []).1 50
        (run .queue [.poll 0] tightNode []).2).1 = .ok received := by
  have made : create tightConfig .empty 5 = .ok tightNode := rfl
  obtain ⟨-, fails⟩ := polls_return_iff Transport.queue_orderly (by decide) (by decide) made []
  exact ⟨fails (by decide) [] 0, fails (by decide) [.poll 0] 50⟩

/-- It is not so that every poll of every node returns over an orderly transport. -/
theorem not_every_poll_returns :
    ¬ ∀ (t : Transport (List Delivery)) (config : NodeConfig) (codec : Codec) (drawn : Int)
      (node : Node), t.Orderly → 0 ≤ drawn → drawn < counterRange →
      create config codec drawn = .ok node → ∀ calls s time, ∃ received,
        (poll t (run t calls node s).1 time (run t calls node s).2).1 = .ok received := by
  intro returns
  obtain ⟨received, returned⟩ := returns .queue tightConfig .empty 5 tightNode Transport.queue_orderly
    (by decide) (by decide) rfl [] [] 0
  cases returned

end Node

end RollCall
