import RollCall.Transport.Fault

/-!
# Transports

A transport carries datagrams between a node and the outside.  It is a record of functions on a
state: what the transport itself holds and what of the outside it acts on.  Every call returns at
once, and "nothing has arrived" is not a fault.

* `Transport` — the four calls.
* `Transport.inert` — a thing that is no transport: every call fails.
* `Transport.within` — a transport that acts on a part of a larger state.
* `Transport.choose` — a transport that is looked up in the state at every call.
* `Transport.switch` — of two transports the one that the state names.
-/

namespace RollCall

/-- Bytes together with the endpoint that they come from or go to. -/
structure Delivery where
  endpoint : PhysicalAddress
  data : Bytes
deriving DecidableEq, Repr

/-- The calls by which a node uses a link. -/
structure Transport (σ : Type) where
  /-- Serves the transport's own timers and queues. -/
  poll : Int → σ → Except TransportFault Unit × σ
  /-- Tries once to send bytes to an address. -/
  send : PhysicalAddress → Bytes → σ → Except TransportFault Unit × σ
  /-- Takes the next datagram of at most the given number of bytes, if one has arrived. -/
  receive : Nat → σ → Except TransportFault (Option Delivery) × σ
  /-- The octets of the address that reaches every node. -/
  broadcastOctets : σ → Except TransportFault Bytes × σ

namespace Transport

variable {σ τ : Type}

/-- What every call of a thing that is no transport gives. -/
def inert : Transport σ where
  poll _ s := (.error .notATransport, s)
  send _ _ s := (.error .notATransport, s)
  receive _ s := (.error .notATransport, s)
  broadcastOctets s := (.error .notATransport, s)

/-- Runs a call on a part of a larger state; where the part is missing the call fails. -/
def onPart {α : Type} (part? : τ → Option σ) (replace : σ → τ → τ)
    (call : σ → Except TransportFault α × σ) (whole : τ) : Except TransportFault α × τ :=
  match part? whole with
  | some part =>
    let answer := call part
    (answer.1, replace answer.2 whole)
  | none => (.error .notATransport, whole)

/-- The transport that acts on a part of a larger state. -/
def within (part? : τ → Option σ) (replace : σ → τ → τ) (t : Transport σ) : Transport τ where
  poll time := onPart part? replace (t.poll time)
  send destination data := onPart part? replace (t.send destination data)
  receive room := onPart part? replace (t.receive room)
  broadcastOctets := onPart part? replace t.broadcastOctets

/-- The transport that is looked up in the state at every call. -/
def choose (which : σ → Transport σ) : Transport σ where
  poll time s := (which s).poll time s
  send destination data s := (which s).send destination data s
  receive room s := (which s).receive room s
  broadcastOctets s := (which s).broadcastOctets s

/-- One of two. -/
inductive Side where
  | first
  | second
deriving DecidableEq, Repr

namespace Side

/-- The number of the side. -/
def index : Side → Nat
  | first => 0
  | second => 1

/-- The side of a number; there are only two. -/
def ofIndex (index : Int) : Except SetupFault Side :=
  if index = 0 then .ok first
  else if index = 1 then .ok second
  else .error (.selection index)

/-- The one of two things that stands on the side. -/
def pick {α : Type} (side : Side) (a b : α) : α :=
  match side with
  | first => a
  | second => b

end Side

/-- Of two transports the one that the state names; the other is left alone. -/
def switch (side : σ → Side) (a b : Transport σ) : Transport σ := choose fun s => (side s).pick a b

end Transport

end RollCall
