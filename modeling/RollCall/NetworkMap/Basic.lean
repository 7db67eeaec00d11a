import RollCall.NetworkMap.Peer

/-!
# Network maps

A network map binds the logical addresses of peers to the physical addresses that they were last
heard from.  Bindings are learned from inbound traffic, the last one heard wins, and a peer that was
not heard within the staleness window counts as absent.  Absent peers are removed when they are
looked up, in bulk, or when room is needed; the counter of the traffic to a removed peer is kept for
the case that it comes back.

* `NetworkMap.observe` — learns or refreshes a binding.
* `NetworkMap.lookup`, `NetworkMap.resolve` — the binding of an address, if the peer is not stale.
* `NetworkMap.purge` — removes every stale peer.
* `NetworkMap.noteSession` — records an announced session.
* `MapFault` — why a map cannot be made or a binding not learned.
-/

namespace RollCall

/-- Why a map cannot be made, or a binding not learned. -/
inductive MapFault where
  /-- The staleness window is not positive. -/
  | windowNotPositive (window : Int)
  /-- The capacity is not positive. -/
  | capacityNotPositive (capacity : Int)
  /-- The broadcast address is no peer. -/
  | broadcast
  /-- The map is full of peers that are not stale. -/
  | full (capacity : Nat) (logical : LogicalAddress)
deriving DecidableEq, Repr

/-- The wording of a fault. -/
def MapFault.message : MapFault → String
  | windowNotPositive window => s!"Staleness window must be positive, got {window}"
  | capacityNotPositive capacity => s!"Capacity must be positive, got {capacity}"
  | broadcast => "Broadcast address cannot be mapped"
  | full capacity logical =>
    s!"Network map full ({capacity} entries), cannot map {logical.text}"

/-- The peers that a node knows, in the order in which they were learned. -/
structure NetworkMap where
  /-- How long a peer may be silent, in milliseconds. -/
  window : Nat
  /-- The most peers that are held. -/
  capacity : Nat
  peers : List Peer := []
  /-- The counters of the traffic to removed peers; the one nearest the front counts. -/
  retired : List (LogicalAddress × Int) := []
deriving DecidableEq, Repr

namespace NetworkMap

/-- The window of a map where none is asked for: five announcements missed at the interval of one
tenth of a second. -/
def defaultWindow : Int := 500

/-- The capacity of a map where none is asked for. -/
def defaultCapacity : Int := 32

/-- The map without peers. -/
def create (window capacity : Int) : Except MapFault NetworkMap :=
  if window ≤ 0 then .error (.windowNotPositive window)
  else if capacity ≤ 0 then .error (.capacityNotPositive capacity)
  else .ok { window := window.toNat, capacity := capacity.toNat }

/-- The peer with an address, stale or not. -/
def find? (map : NetworkMap) (logical : LogicalAddress) : Option Peer :=
  map.peers.find? fun peer => peer.logical == logical

/-- Whether a peer with an address is held, stale or not. -/
def contains (map : NetworkMap) (logical : LogicalAddress) : Bool := (map.find? logical).isSome

/-- The counter kept for a removed peer; a peer never heard of starts at zero. -/
def retiredCounter (map : NetworkMap) (logical : LogicalAddress) : Int :=
  (map.retired.lookup logical).getD 0

/-- Changes the peer with an address, which keeps its place. -/
def update (map : NetworkMap) (logical : LogicalAddress) (change : Peer → Peer) : NetworkMap :=
  { map with
    peers := map.peers.map fun peer => if peer.logical = logical then change peer else peer }

/-- Removes the given peers, all of them held, and keeps their counters. -/
def evict (map : NetworkMap) (gone : Peer → Bool) : NetworkMap :=
  { map with
    peers := map.peers.filter fun peer => !gone peer
    retired :=
      ((map.peers.filter gone).map fun peer => (peer.logical, peer.toCounter)) ++ map.retired }

/-- Removes every stale peer. -/
def purge (map : NetworkMap) (time : Int) : NetworkMap := map.evict (Peer.isStale map.window time)

/-- The number of stale peers. -/
def staleCount (map : NetworkMap) (time : Int) : Nat :=
  map.peers.countP (Peer.isStale map.window time)

/-- Adds a peer at the end, with the counter that was kept for it. -/
def append (map : NetworkMap) (logical : LogicalAddress) (physical : PhysicalAddress) (time : Int) :
    Peer × NetworkMap :=
  let peer : Peer :=
    { logical := logical, physical := physical, lastSeen := time,
      toCounter := map.retiredCounter logical }
  (peer,
    { map with
      peers := map.peers ++ [peer]
      retired := map.retired.filter fun kept => kept.1 != logical })

/-- Learns or refreshes the binding of a peer.  If the peer is new and the map is full, the stale
peers make room; if that is not enough the binding is not learned. -/
def observe (map : NetworkMap) (logical : LogicalAddress) (physical : PhysicalAddress)
    (time : Int) : Except MapFault Peer × NetworkMap :=
  if logical.isBroadcast then (.error .broadcast, map)
  else
    match map.find? logical with
    | some peer =>
      (.ok (peer.refresh physical time), map.update logical (Peer.refresh physical time))
    | none =>
      let roomy := if map.peers.length < map.capacity then map else map.purge time
      if roomy.peers.length < roomy.capacity then
        let added := roomy.append logical physical time
        (.ok added.1, added.2)
      else (.error (.full map.capacity logical), roomy)

/-- The peer with an address, if it is not stale.  A stale one is removed. -/
def lookup (map : NetworkMap) (logical : LogicalAddress) (time : Int) : Option Peer × NetworkMap :=
  match map.find? logical with
  | none => (none, map)
  | some peer =>
    if peer.isStale map.window time then (none, map.evict fun p => p.logical == logical)
    else (some peer, map)

/-- The physical address that a peer was last heard from, if it is not stale. -/
def resolve (map : NetworkMap) (logical : LogicalAddress) (time : Int) :
    Option PhysicalAddress × NetworkMap :=
  let found := map.lookup logical time
  (found.1.map Peer.physical, found.2)

/-- Records an announced session: whether it shows that the peer has restarted, and the map. -/
def noteSession (map : NetworkMap) (logical : LogicalAddress) (session : Int) : Bool × NetworkMap :=
  match map.find? logical with
  | none => (false, map)
  | some peer => (peer.hasRestarted session, map.update logical (Peer.noteSession session))

/-- The map without peers and without kept counters. -/
def clear (map : NetworkMap) : NetworkMap := { map with peers := [], retired := [] }

end NetworkMap

end RollCall
