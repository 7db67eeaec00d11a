import RollCall.Address.Logical
import RollCall.Address.Physical
import RollCall.Counter

/-!
# What is known of a peer

* `Peer` — where a peer was last heard from and when, the counters of the traffic with it, and the
  session that it last announced.
* `Peer.age`, `Peer.isStale` — how long ago it was heard, and whether that is too long.
* `Peer.accept?` — checks a datagram's counter and, if it is new, moves the expected counter past
  it.
* `Peer.noteSession` — records an announced session.
-/

namespace RollCall

/-- What is known of one peer. -/
structure Peer where
  logical : LogicalAddress
  physical : PhysicalAddress
  /-- When a datagram of the peer was last seen, in milliseconds. -/
  lastSeen : Int
  /-- The counter of the next datagram to the peer alone. -/
  toCounter : Int := 0
  /-- The counter expected on the peer's next datagram to this node alone. -/
  fromCounter : Option Int := none
  /-- The counter expected on the peer's next broadcast. -/
  broadcastCounter : Option Int := none
  /-- The session that the peer last announced. -/
  session : Option Int := none
deriving DecidableEq, Repr

namespace Peer

/-- How long ago the peer was heard. -/
def age (peer : Peer) (time : Int) : Int := time - peer.lastSeen

/-- Whether the peer was heard too long ago. -/
def isStale (window : Nat) (time : Int) (peer : Peer) : Bool :=
  decide ((window : Int) < peer.age time)

/-- The counter expected next on a channel, that of broadcasts or that of datagrams to this node. -/
def expected (broadcast : Bool) (peer : Peer) : Option Int :=
  if broadcast then peer.broadcastCounter else peer.fromCounter

/-- The peer with another expected counter on a channel. -/
def expect (broadcast : Bool) (counter : Option Int) (peer : Peer) : Peer :=
  if broadcast then { peer with broadcastCounter := counter }
  else { peer with fromCounter := counter }

/-- Checks the counter of a datagram: the number of datagrams missed before it and the peer with the
next counter expected, or `none` if the datagram is old. -/
def accept? (broadcast : Bool) (counter : Int) (peer : Peer) : Option (Nat × Peer) :=
  (Counter.missed? (peer.expected broadcast) counter).map fun missed =>
    (missed, peer.expect broadcast (some (Counter.next counter)))

/-- The peer heard again from an address at a time. -/
def refresh (physical : PhysicalAddress) (time : Int) (peer : Peer) : Peer :=
  { peer with physical := physical, lastSeen := time }

/-- Records an announced session.  If another was announced before, the peer has restarted and
counts from the start again, so that nothing is expected of its counters. -/
def noteSession (session : Int) (peer : Peer) : Peer :=
  match peer.session with
  | none => { peer with session := some session }
  | some known =>
    if known = session then peer
    else { peer with session := some session, fromCounter := none, broadcastCounter := none }

/-- Whether an announced session shows that the peer has restarted. -/
def hasRestarted (session : Int) (peer : Peer) : Bool :=
  match peer.session with
  | none => false
  | some known => known != session

end Peer

end RollCall
