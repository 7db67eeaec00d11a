import RollCall.Node.Basic

/-!
# Inbound datagrams

What a node does with one datagram.  Its envelope is read first; a datagram of the node itself is
passed over.  The sender is then entered into the map, whomever the datagram is for.  A datagram for
this node or for all is decoded, and an announcement is noted, before its counter is checked.

* `Outcome` — what becomes of a datagram; each datagram has exactly one outcome.
* `Traffic.tally` — how an outcome is counted.
* `Peer.hear` — what a decoded datagram changes of what is known of its sender.
* `Node.handle` — the outcome of a datagram and the node after it.
-/

namespace RollCall

/-- What becomes of an inbound datagram. -/
inductive Outcome where
  /-- The node's own broadcast came back. -/
  | own
  /-- The datagram cannot be decoded, or claims to come from the broadcast address. -/
  | malformed
  /-- The map has no room for the sender. -/
  | unmapped
  /-- The datagram is for another node. -/
  | misaddressed
  /-- The counter is old. -/
  | duplicate
  /-- An announcement, after so many missed datagrams. -/
  | announced (missed : Nat)
  /-- A packet of the application, after so many missed datagrams. -/
  | surfaced (received : Received) (missed : Nat)

/-- The packet that is handed on, if there is one. -/
def Outcome.received? : Outcome → Option Received
  | surfaced received _ => some received
  | _ => none

/-- Counts an outcome. -/
def Traffic.tally (t : Traffic) : Outcome → Traffic
  | .own => t
  | .malformed => { t with malformed := t.malformed + 1 }
  | .unmapped => { t with unmapped := t.unmapped + 1 }
  | .misaddressed => { t with misaddressed := t.misaddressed + 1 }
  | .duplicate => { t with duplicates := t.duplicates + 1 }
  | .announced missed =>
    { t with announcements := t.announcements + 1, missed := t.missed + missed }
  | .surfaced _ missed => { t with received := t.received + 1, missed := t.missed + missed }

/-- What is known of the sender of a decoded datagram afterwards, and the number of datagrams missed
before it, `none` if it is old.  The announced session, if there is one, is noted in any case. -/
def Peer.hear (dedupe broadcast : Bool) (counter : Int) (session : Option Int) (peer : Peer) :
    Option Nat × Peer :=
  let noted := match session with
    | some session => peer.noteSession session
    | none => peer
  if dedupe then
    match noted.accept? broadcast counter with
    | some accepted => (some accepted.1, accepted.2)
    | none => (none, noted)
  else (some 0, noted)

namespace Node

/-- Whether a datagram with this destination is for the node. -/
def isAddressed (node : Node) (destination : LogicalAddress) : Bool :=
  destination == node.host || destination.isBroadcast

/-- The outcome of a decoded packet, by the number of datagrams missed before it. -/
def outcomeOf (sender : LogicalAddress) (packet : Packet) : Option Nat → Outcome
  | none => .duplicate
  | some missed =>
    if packet.isAnnouncement then .announced missed else .surfaced ⟨sender, packet⟩ missed

/-- The outcome of a datagram for the node from a mapped sender, and the map after it. -/
def judgeBody (node : Node) (envelope : Envelope) (data : Bytes) (peer : Peer) (map : NetworkMap) :
    Outcome × NetworkMap :=
  match Datagram.decodeBody node.codec envelope.kind data with
  | .error _ => (.malformed, map)
  | .ok packet =>
    let hear := Peer.hear node.config.dedupe envelope.destination.isBroadcast envelope.counter
      packet.session?
    (outcomeOf envelope.sender packet (hear peer).1,
      map.update envelope.sender fun peer => (hear peer).2)

/-- The outcome of a datagram, and the map after it. -/
def judge (node : Node) (data : Bytes) (source : PhysicalAddress) : Outcome × NetworkMap :=
  match Envelope.decode data with
  | .error _ => (.malformed, node.map)
  | .ok envelope =>
    if envelope.sender = node.host then (.own, node.map)
    else if envelope.sender.isBroadcast then (.malformed, node.map)
    else
      match node.map.observe envelope.sender source node.time with
      | (.error _, map) => (.unmapped, map)
      | (.ok peer, map) =>
        if node.isAddressed envelope.destination then node.judgeBody envelope data peer map
        else (.misaddressed, map)

/-- Handles a datagram: its outcome, and the node with the outcome counted. -/
def handle (node : Node) (data : Bytes) (source : PhysicalAddress) : Outcome × Node :=
  let judged := node.judge data source
  (judged.1, { node with map := judged.2, traffic := node.traffic.tally judged.1 })

end Node

end RollCall
