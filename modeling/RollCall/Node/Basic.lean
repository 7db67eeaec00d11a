import RollCall.NetworkMap.Basic
import RollCall.Packet.Datagram
import RollCall.Setup

/-!
# Nodes

A node is one participant of the network.  It has an address, a codec for the application's packets,
and a map of the peers that it has heard; it announces itself by heartbeats and numbers what it
sends.  A node never reads a clock: the time is what its last poll was told.

* `NodeConfig` — the settings of a node.
* `Traffic` — counters of what became of inbound datagrams.
* `Node` — the state of a node; `Node.create` makes one if its settings make sense.
-/

namespace RollCall

/-- The settings of a node.  Times are in milliseconds. -/
structure NodeConfig where
  host : LogicalAddress
  /-- How long a peer may be silent. -/
  stalenessWindow : Int := NetworkMap.defaultWindow
  /-- The least time between two announcements. -/
  announceInterval : Int := 100
  /-- The most datagrams that one poll takes from the transport. -/
  drainLimit : Int := 32
  /-- The most peers that are held. -/
  mapCapacity : Int := NetworkMap.defaultCapacity
  /-- Whether the counters of datagrams are checked. -/
  dedupe : Bool := true
  /-- The session to announce; drawn at random if none is given. -/
  session : Option Int := none
  /-- The longest datagram that is sent or received. -/
  bufferSize : Int := 256
deriving DecidableEq, Repr

/-- What became of inbound datagrams. -/
structure Traffic where
  /-- Packets of the application handed on. -/
  received : Int := 0
  announcements : Int := 0
  /-- Datagrams that could not be decoded, or claimed to come from the broadcast address. -/
  malformed : Int := 0
  duplicates : Int := 0
  /-- Datagrams inferred lost from gaps in the counters of peers. -/
  missed : Int := 0
  /-- Datagrams for other nodes. -/
  misaddressed : Int := 0
  /-- Datagrams of senders that the map had no room for. -/
  unmapped : Int := 0
  /-- Failed attempts to receive. -/
  receiveErrors : Int := 0
deriving DecidableEq, Repr

/-- A packet of the application with its sender. -/
structure Received where
  sender : LogicalAddress
  packet : Packet

/-- The state of a node. -/
structure Node where
  config : NodeConfig
  codec : Codec
  /-- The session that the node announces. -/
  session : Int
  map : NetworkMap
  /-- The counter of the next broadcast. -/
  broadcastCounter : Int := 0
  /-- The time of the last poll; it never goes back. -/
  time : Int := 0
  /-- When an announcement was last tried. -/
  lastAnnounce : Option Int := none
  traffic : Traffic := {}

namespace Node

/-- The session of a configuration: the given one, cut to the range of sessions, or else the one
drawn. -/
def sessionOf (config : NodeConfig) (drawn : Int) : Int :=
  match config.session with
  | some session => Counter.wrap session
  | none => drawn

/-- A node with the given settings.  The buffer has to hold an envelope and a tag. -/
def create (config : NodeConfig) (codec : Codec) (drawn : Int) : Except SetupFault Node :=
  if config.host.isBroadcast then .error .nodeIsBroadcast
  else if config.announceInterval ≤ 0 ∨ config.drainLimit ≤ 0 then .error .intervalNotPositive
  else if config.bufferSize < envelopeLength + 1 then .error (.bufferTooSmall config.bufferSize)
  else
    match NetworkMap.create config.stalenessWindow config.mapCapacity with
    | .error fault => .error (.map fault)
    | .ok map => .ok { config, codec, session := sessionOf config drawn, map }

/-- The address of the node. -/
def host (node : Node) : LogicalAddress := node.config.host

/-- The bytes of the node's buffers. -/
def room (node : Node) : Nat := node.config.bufferSize.toNat

end Node

end RollCall
