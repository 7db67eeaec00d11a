import Mathlib.Logic.Function.Basic
import RollCall.Proofs.Lan
import RollCall.Proofs.Node.Calls
import RollCall.Proofs.Packet.RoundTrip

/-!
# Fleets

A fleet is a row of nodes on one simulated network.  Its nodes poll and send in any order, and losses
are asked for in between.  What a node hands on of another one is compared with what that one sent.

* `Site`, `Fleet` — where a node stands on the network, and the nodes with their network.
* `Move`, `run` — a step of one node or of the network, and a row of steps.
* `carried`, `surfaced`, `queued` — what one node sent to another, what the other has handed on of it,
  and what still waits there.
* `Founded` — a fleet as it is set up.
-/

namespace RollCall

/-- A packet of the same type with equal values. -/
def Packet.Same (packet other : Packet) : Prop :=
  other.type = packet.type ∧ List.Forall₂ FieldValue.Same packet.values other.values

/-- Whatever a packet is encoded to is decoded to the same packet. -/
def Codec.Survives (codec : Codec) (packet : Packet) : Prop :=
  ∀ room bytes, codec.encode packet room = .ok bytes →
    ∃ other, codec.decode bytes = .ok other ∧ packet.Same other

/-- A packet of a registered type survives, if the codes of its fields cover its values and the rule of
the type judges what is read back as it judges what was written. -/
lemma Codec.Consistent.survives {codec : Codec} {packet : Packet} {shape : Shape}
    (consistent : codec.Consistent) (found : codec.shapeOfType? packet.type.name = some shape)
    (same : shape.type = packet.type)
    (covered : ∀ pair ∈ shape.layout.fields.zip packet.values, pair.1.1.covers pair.2 = true)
    (own : packet.type.construct packet.values = .ok packet)
    (alike : packet.type.refusal (storedValues shape.layout.fields packet.values)
      = packet.type.refusal packet.values) : codec.Survives packet := by
  intro room bytes encoded
  obtain ⟨shape', record, written, rfl⟩ := Codec.of_encode encoded
  obtain rfl : shape' = shape := Option.some.inj (written.found.symm.trans found)
  obtain ⟨number, unrefused, -⟩ := PacketType.construct_eq_ok.1 own
  have fields : shape'.layout.fields.length = packet.values.length := by
    rw [Layout.length_fields, (consistent.sound found).fieldCount, same, number]
  refine ⟨⟨shape'.type, storedValues shape'.layout.fields packet.values⟩, ?_, same,
    same_storedValues fields⟩
  refine Codec.decode_of_encode consistent written covered (PacketType.construct_eq_ok.2 ⟨?_, ?_, rfl⟩)
  · rw [storedValues, List.length_zipWith, fields, Nat.min_self, same, number]
  · rw [same, alike, unrefused]

/-- Where a node stands on a network: the number of its host, and the host's address. -/
structure Site where
  number : Nat
  ip : IPv4
deriving DecidableEq, Repr

namespace Site

/-- The common port of the host. -/
def address (site : Site) : PhysicalAddress := ⟨site.ip.text, udpPort⟩

def link (site : Site) : Transport Lan := Lan.endpoint site.number site.address

/-- The datagrams that wait at the common port. -/
def inbox (site : Site) (lan : Lan) : List Transit := lan.queueOf site.number udpPort

end Site

/-- Nodes on one simulated network. -/
structure Fleet (n : Nat) where
  lan : Lan
  nodes : Fin n → Node

namespace Fleet

variable {n : Nat}

/-- A step of a fleet. -/
inductive Move (n : Nat) where
  | poll (who : Fin n) (time : Int)
  | send (who : Fin n) (destination : LogicalAddress) (packet : Packet)
  /-- The network is asked to lose so many more datagrams. -/
  | lose (count : Int)

/-- The fleet with another state of one node and of the network. -/
def put (fleet : Fleet n) (who : Fin n) (node : Node) (lan : Lan) : Fleet n where
  lan := lan
  nodes := Function.update fleet.nodes who node

/-- The fleet after a call of one node. -/
def after {α : Type} (fleet : Fleet n) (who : Fin n) (turn : Node.Turn Lan α) : Fleet n :=
  fleet.put who turn.2.1 turn.2.2

@[simp] lemma lan_put (fleet : Fleet n) (who : Fin n) (node : Node) (lan : Lan) :
    (fleet.put who node lan).lan = lan := rfl

@[simp] lemma nodes_put_self (fleet : Fleet n) (who : Fin n) (node : Node) (lan : Lan) :
    (fleet.put who node lan).nodes who = node := Function.update_self ..

lemma nodes_put_of_ne (fleet : Fleet n) {who other : Fin n} (different : other ≠ who) (node : Node)
    (lan : Lan) : (fleet.put who node lan).nodes other = fleet.nodes other :=
  Function.update_of_ne different ..

/-- What holds of the new state of one node, and of the others, holds of all nodes. -/
lemma forall_nodes_put (holds : Fin n → Node → Prop) {fleet : Fleet n} {who : Fin n} {node : Node}
    (self : holds who node) (others : ∀ other ≠ who, holds other (fleet.nodes other)) (lan : Lan)
    (i : Fin n) : holds i ((fleet.put who node lan).nodes i) := by
  by_cases here : i = who
  · subst here
    rw [nodes_put_self]
    exact self
  · rw [nodes_put_of_ne _ here]
    exact others i here

@[simp] lemma put_put (fleet : Fleet n) (who : Fin n) (first second : Node) (lan later : Lan) :
    (fleet.put who first lan).put who second later = fleet.put who second later := by
  simp [put]

@[simp] lemma put_self (fleet : Fleet n) (who : Fin n) :
    fleet.put who (fleet.nodes who) fleet.lan = fleet := by
  simp [put]

section Moves

variable (sites : Fin n → Site) (fleet : Fleet n)

def polled (who : Fin n) (time : Int) : Node.Turn Lan (List Received) :=
  Node.poll (sites who).link (fleet.nodes who) time fleet.lan

def sent (who : Fin n) (destination : LogicalAddress) (packet : Packet) : Node.Turn Lan Unit :=
  Node.send (sites who).link (fleet.nodes who) destination packet fleet.lan

def perform : Move n → Fleet n
  | .poll who time => fleet.after who (fleet.polled sites who time)
  | .send who destination packet => fleet.after who (fleet.sent sites who destination packet)
  | .lose count =>
    match fleet.lan.injectLoss count with
    | .ok lan => { fleet with lan := lan }
    | .error _ => fleet

/-- The number of datagrams that the network loses in a move. -/
def dropped (move : Move n) : Nat := fleet.lan.loss - (fleet.perform sites move).lan.loss

/-- The packets of one sender among received ones. -/
def packetsOf (sender : LogicalAddress) (received : List Received) : List Packet :=
  received.filterMap fun r => if r.sender = sender then some r.packet else none

/-- What `b` hands on of `a` in a move. -/
def surfaced (a b : Fin n) : Move n → List Packet
  | .poll who time =>
    if who = b then
      match (fleet.polled sites who time).1 with
      | .ok received => packetsOf (fleet.nodes a).host received
      | .error _ => []
    else []
  | _ => []

/-- What `a` sends to `b` in a move, alone or among all, without the network losing it. -/
def carried (a b : Fin n) (move : Move n) : List Packet :=
  match move with
  | .send who destination packet =>
    if who = a ∧ (destination = (fleet.nodes b).host ∨ destination.isBroadcast = true) ∧
        (fleet.sent sites who destination packet).1.toBool = true ∧ fleet.dropped sites move = 0 then
      [packet]
    else []
  | _ => []

end Moves

/-- The packet of the application in the bytes of a datagram, if it is one of the sender. -/
def packetIn? (codec : Codec) (sender : LogicalAddress) (data : Bytes) : Option Packet :=
  match Envelope.decode data with
  | .ok envelope =>
    if envelope.sender = sender then
      (Datagram.decodeBody codec envelope.kind data).toOption.filter fun packet =>
        !packet.isAnnouncement
    else none
  | .error _ => none

/-- The packets of one sender that wait in a queue. -/
def waiting (codec : Codec) (sender : LogicalAddress) (queue : List Transit) : List Packet :=
  queue.filterMap fun transit => packetIn? codec sender transit.data

/-- The packets of `a` that wait at `b`. -/
def queued (sites : Fin n → Site) (a b : Fin n) (fleet : Fleet n) : List Packet :=
  waiting (fleet.nodes b).codec (fleet.nodes a).host ((sites b).inbox fleet.lan)

/-! ## Runs -/

section Runs

variable (sites : Fin n → Site)

def run (moves : List (Move n)) (fleet : Fleet n) : Fleet n := moves.foldl (perform sites) fleet

/-- The moves of a run, each with the fleet before it. -/
def course : List (Move n) → Fleet n → List (Fleet n × Move n)
  | [], _ => []
  | move :: moves, fleet => (fleet, move) :: course moves (fleet.perform sites move)

/-- What `a` sends to `b` in a run, in the order of sending. -/
def carriedBy (a b : Fin n) (moves : List (Move n)) (fleet : Fleet n) : List Packet :=
  (course sites moves fleet).flatMap fun step => carried sites step.1 a b step.2

/-- What `b` hands on of `a` in a run, in the order of handing on. -/
def surfacedBy (a b : Fin n) (moves : List (Move n)) (fleet : Fleet n) : List Packet :=
  (course sites moves fleet).flatMap fun step => surfaced sites step.1 a b step.2

/-- The number of datagrams that the network loses in a run. -/
def droppedBy (moves : List (Move n)) (fleet : Fleet n) : Nat :=
  ((course sites moves fleet).map fun step => dropped sites step.1 step.2).sum

end Runs

/-! ## Fleets as they are set up -/

/-- A fleet before its first move.  The network is set up, and every node has just been made, stands
at the common port of a host of its own, and has an address of its own.  All have the same codec and
the same size of buffers, which hold an announcement, check the counters of datagrams, and have room
for all others in their maps. -/
structure Founded (sites : Fin n → Site) (codec : Codec) (size : Int) (fleet : Fleet n) : Prop where
  setUp : fleet.lan.SetUp
  sited : ∀ i, fleet.lan.Sited (sites i).number (sites i).ip
  apart : Function.Injective fun i => (sites i).number
  hosts : Function.Injective fun i => (fleet.nodes i).host
  heartbeat : (envelopeLength + 5 : Nat) ≤ size
  made : ∀ i, ∃ (config : NodeConfig) (drawn : Int), 0 ≤ drawn ∧ drawn < counterRange ∧
    Node.create config codec drawn = .ok (fleet.nodes i) ∧ config.dedupe = true ∧
    config.bufferSize = size ∧ (n : Int) - 1 ≤ config.mapCapacity

/-- No node stands where datagrams to its address go elsewhere: at the address that stands for the
sending host itself, or at one of the two that stand for all hosts. -/
def Reachable (sites : Fin n → Site) (lan : Lan) : Prop :=
  ∀ i, (sites i).ip ≠ .localhost ∧ lan.isBroadcast (sites i).ip.bytes = false

instance (sites : Fin n → Site) (lan : Lan) : Decidable (Reachable sites lan) :=
  inferInstanceAs
    (Decidable (∀ i, (sites i).ip ≠ .localhost ∧ lan.isBroadcast (sites i).ip.bytes = false))

/-- A packet of the application that arrives as it was sent. -/
def Move.Sound (codec : Codec) : Move n → Prop
  | .send _ _ packet => packet.isAnnouncement = false ∧ codec.Survives packet
  | _ => True

end Fleet

end RollCall
