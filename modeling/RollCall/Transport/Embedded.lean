import RollCall.Transport.Buffer

/-!
# A transport over an embedded network stack

The stack is outside: it is polled, it takes one datagram at a time and may refuse it, and it hands
over what it has received.  The transport adds a buffer in each direction.  Datagrams to be sent
wait in the one until the stack takes them at the next poll; datagrams received wait in the other
until the node asks for them, and are dropped if they find no room there.

* `NetworkStack` — the calls of a stack.
* `Embedded` — the state of the transport.
* `Embedded.serve` — what a poll does: send what the stack takes, stage what it has received.
* `Embedded.transport` — the transport.
-/

namespace RollCall

/-- The calls of a network stack with the state `ω`. -/
structure NetworkStack (ω : Type) where
  /-- Serves the stack's timers. -/
  poll : Int → ω → ω
  /-- Hands over one datagram; whether the stack takes it. -/
  transmit : Delivery → ω → Bool × ω
  /-- Takes all that the stack has received, the oldest first. -/
  drain : ω → List Delivery × ω

/-- The state of the transport. -/
structure Embedded where
  /-- The directed broadcast address of the stack's network. -/
  broadcast : IPv4
  /-- Datagrams received. -/
  rx : PacketBuffer
  /-- Datagrams to be sent. -/
  tx : PacketBuffer
  /-- The number of datagrams received that found no room. -/
  dropped : Nat := 0
deriving DecidableEq, Repr

namespace Embedded

variable {ω : Type}

/-- The transport over a stack whose address is written with its prefix length. -/
def create (cidr : String) (capacity slots : Int) : Except SetupFault Embedded :=
  match IPv4.Block.aroundText? cidr.toList with
  | none => .error (.stackAddress cidr)
  | some block =>
    (PacketBuffer.create capacity slots).map fun buffer =>
      { broadcast := block.last, rx := buffer, tx := buffer }

/-- Hands waiting datagrams to the stack, in order, until it refuses one. -/
def flush (stack : NetworkStack ω) : List Delivery → PacketBuffer → ω → PacketBuffer × ω
  | [], tx, w => (tx, w)
  | d :: waiting, tx, w =>
    let answer := stack.transmit d w
    if answer.1 then flush stack waiting tx.dequeue.2 answer.2 else (tx, answer.2)

/-- Stages one received datagram, or drops it if it finds no room. -/
def stage (e : Embedded) (d : Delivery) : Embedded :=
  match e.rx.enqueue d with
  | .ok rx => { e with rx := rx }
  | .error _ => { e with dropped := e.dropped + 1 }

/-- Sends what the stack takes and stages what it has received. -/
def serve (stack : NetworkStack ω) (time : Int) (e : Embedded) (w : ω) : Embedded × ω :=
  let sent := flush stack e.tx.queue e.tx (stack.poll time w)
  let received := stack.drain sent.2
  (received.1.foldl stage { e with tx := sent.1 }, received.2)

/-- The transport over a stack. -/
def transport (stack : NetworkStack ω) : Transport (Embedded × ω) where
  poll time s := (.ok (), serve stack time s.1 s.2)
  send destination data s :=
    match s.1.tx.enqueue ⟨destination, data⟩ with
    | .ok tx => (.ok (), { s.1 with tx := tx }, s.2)
    | .error fault => (.error (.link fault), s)
  receive room s :=
    let taken := s.1.rx.dequeue
    let rest := ({ s.1 with rx := taken.2 }, s.2)
    match taken.1 with
    | none => (.ok none, s)
    | some d =>
      if room < d.data.length then (.error (.link (.truncated d.data.length d.endpoint room)), rest)
      else (.ok (some d), rest)
  broadcastOctets s := (.ok s.1.broadcast.bytes, s)

end Embedded

end RollCall
