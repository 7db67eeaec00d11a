import RollCall.Proofs.Lan
import RollCall.Sockets.Scripted
import RollCall.Transport.Embedded

/-!
# Datagrams that wait

Behind every transport there is a row of datagrams that have arrived, and a call to receive takes the
first of them into a buffer.  The transports differ in what they do with one that is longer than the
buffer.  The port of a simulated network and the embedded network stack refuse it.  An operating system
fills the buffer with the front of it and says nothing, and the transport over its sockets passes that
on.  In either way the datagram is gone, and the next call takes the next one.

* `Transport.Hands`, `Transport.Serves` — what a call to receive does with the row of datagrams.
* `Lan.endpoint_serves`, `Embedded.transport_serves` — transports that refuse a long datagram.
* `SocketLayer.Cuts`, `Hosted.transport_serves` — the transport over sockets cuts it.
-/

namespace RollCall

variable {σ ω : Type}

namespace Transport

/-- What a call to receive may do where datagrams wait in a row: what it gives and the state after it. -/
inductive Hands (cuts : Bool) (waiting : σ → List Delivery) (room : Nat) (s : σ) :
    Except TransportFault (Option Delivery) × σ → Prop
  | nothing {after : σ} : waiting s = [] → waiting after = [] →
      Hands cuts waiting room s (.ok none, after)
  | whole {after : σ} {d : Delivery} : waiting s = d :: waiting after → d.data.length ≤ room →
      Hands cuts waiting room s (.ok (some d), after)
  /-- A datagram that is too long is lost. -/
  | refused {after : σ} {d : Delivery} : cuts = false → waiting s = d :: waiting after →
      room < d.data.length →
      Hands cuts waiting room s (.error (.link (.truncated d.data.length d.endpoint room)), after)
  /-- What does not fit of a datagram is lost. -/
  | cut {after : σ} {d : Delivery} : cuts = true → waiting s = d :: waiting after →
      room < d.data.length →
      Hands cuts waiting room s (.ok (some { d with data := d.data.take room }), after)
  /-- The call fails, and takes nothing. -/
  | failed {after : σ} {fault : TransportFault} : waiting after = waiting s →
      Hands cuts waiting room s (.error fault, after)

/-- A transport takes datagrams from a row, and cuts those that are too long or refuses them. -/
structure Serves (t : Transport σ) (cuts : Bool) (waiting : σ → List Delivery) : Prop where
  receive : ∀ room s, Hands cuts waiting room s (t.receive room s)

end Transport

/-! ## Transports that refuse -/

/-- The datagrams that wait at a port. -/
def Lan.waiting (number : Nat) (port : Int) (lan : Lan) : List Delivery :=
  (lan.queueOf number port).map fun transit => ⟨transit.source, transit.data⟩

lemma Lan.endpoint_serves (number : Nat) (address : PhysicalAddress) :
    (Lan.endpoint number address).Serves false (Lan.waiting number address.port) where
  receive room lan := by
    rw [Lan.endpoint]
    cases queue : lan.queueOf number address.port with
    | nil =>
      have empty : Lan.waiting number address.port lan = [] := by rw [Lan.waiting, queue, List.map_nil]
      dsimp only
      rw [Lan.pop_of_nil queue]
      exact .nothing empty empty
    | cons transit rest =>
      obtain ⟨after, popped, -, -, queues⟩ := Lan.pop_of_cons queue
      have row : Lan.waiting number address.port lan
          = ⟨transit.source, transit.data⟩ :: Lan.waiting number address.port after := by
        rw [Lan.waiting, Lan.waiting, queues, if_pos ⟨rfl, rfl⟩, queue, List.map_cons]
      dsimp only
      rw [popped]
      dsimp only
      split
      case isTrue long => exact .refused rfl row long
      case isFalse fits => exact .whole row (Nat.le_of_not_lt fits)

/-- The datagrams that have been received from the stack. -/
def Embedded.waiting (s : Embedded × ω) : List Delivery := s.1.rx.queue

lemma Embedded.transport_serves (stack : NetworkStack ω) :
    (Embedded.transport stack).Serves false Embedded.waiting where
  receive room s := by
    rw [Embedded.transport]
    dsimp only
    cases queue : s.1.rx.queue with
    | nil =>
      rw [PacketBuffer.dequeue, queue]
      exact .nothing queue queue
    | cons d rest =>
      rw [PacketBuffer.dequeue, queue]
      dsimp only
      split
      case isTrue long => exact .refused rfl queue long
      case isFalse fits => exact .whole queue (Nat.le_of_not_lt fits)

/-! ## Sockets -/

/-- An operating system keeps a row of datagrams for every socket.  It fills the buffer of a call with
the first one, as far as that goes. -/
structure SocketLayer.Cuts (os : SocketLayer ω) (inbound : Socket → ω → List Delivery) : Prop where
  nothing : ∀ {socket room w after}, os.receive socket room w = (.ok none, after) →
    inbound socket w = [] ∧ inbound socket after = []
  front : ∀ {socket room w d after}, os.receive socket room w = (.ok (some d), after) → ∃ whole,
    inbound socket w = whole :: inbound socket after ∧ d = { whole with data := whole.data.take room }
  failed : ∀ {socket room w fault after}, os.receive socket room w = (.error fault, after) →
    inbound socket after = inbound socket w

/-- The datagrams that wait at the socket, if there is one. -/
def Hosted.waiting (inbound : Socket → ω → List Delivery) (s : Hosted × ω) : List Delivery :=
  match s.1.socket with
  | none => []
  | some socket => inbound socket s.2

lemma Hosted.transport_serves {os : SocketLayer ω} {inbound : Socket → ω → List Delivery}
    (cuts : os.Cuts inbound) : (Hosted.transport os).Serves true (Hosted.waiting inbound) where
  receive room s := by
    obtain ⟨h, w⟩ := s
    rw [Hosted.transport]
    unfold SocketLayer.receiveAt
    dsimp only
    cases bound : h.socket with
    | none => exact .failed rfl
    | some socket =>
      have row (w : ω) : Hosted.waiting inbound (h, w) = inbound socket w := by
        rw [Hosted.waiting, bound]
      dsimp only
      cases received : os.receive socket room w with
      | mk answer after =>
        cases answer with
        | error fault =>
          have kept : Hosted.waiting inbound (h, after) = Hosted.waiting inbound (h, w) := by
            rw [row, row, cuts.failed received]
          cases fault <;> exact .failed kept
        | ok arrived =>
          cases arrived with
          | none =>
            obtain ⟨before, later⟩ := cuts.nothing received
            exact .nothing ((row w).trans before) ((row after).trans later)
          | some d =>
            obtain ⟨whole, first, rfl⟩ := cuts.front received
            rw [← row, ← row] at first
            by_cases long : room < whole.data.length
            · exact .cut rfl first long
            · have fits := Nat.le_of_not_lt long
              rw [List.take_of_length_le fits]
              exact .whole first fits

/-- The scripted operating system keeps one row for all sockets. -/
lemma ScriptedOs.layer_cuts : ScriptedOs.layer.Cuts fun _ os => os.inbound := by
  have answers (room : Nat) (os : ScriptedOs) :
      (∃ reason, os.receive room
          = (.error (.refused reason), { os with receiveFault := none })) ∨
        os.inbound = [] ∧ os.receive room = (.ok none, os) ∨
        ∃ d rest, os.inbound = d :: rest ∧ os.receive room
          = (.ok (some { d with data := d.data.take room }), { os with inbound := rest }) := by
    unfold ScriptedOs.receive
    cases os.receiveFault with
    | some reason => exact .inl ⟨reason, rfl⟩
    | none =>
      cases inbound : os.inbound with
      | nil => exact .inr (.inl ⟨rfl, rfl⟩)
      | cons d rest => exact .inr (.inr ⟨d, rest, rfl, rfl⟩)
  constructor
  case nothing =>
    intro socket room os after received
    have received : os.receive room = (.ok none, after) := received
    obtain ⟨reason, answer⟩ | ⟨empty, answer⟩ | ⟨d, rest, row, answer⟩ := answers room os
      <;> cases answer.symm.trans received
    exact ⟨empty, empty⟩
  case front =>
    intro socket room os d after received
    have received : os.receive room = (.ok (some d), after) := received
    obtain ⟨reason, answer⟩ | ⟨empty, answer⟩ | ⟨first, rest, row, answer⟩ := answers room os
      <;> cases answer.symm.trans received
    exact ⟨first, row, rfl⟩
  case failed =>
    intro socket room os fault after received
    have received : os.receive room = (.error fault, after) := received
    obtain ⟨reason, answer⟩ | ⟨empty, answer⟩ | ⟨d, rest, row, answer⟩ := answers room os
      <;> cases answer.symm.trans received
    rfl

end RollCall
