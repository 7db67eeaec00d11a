import RollCall.IPv4.Block
import RollCall.NetworkMap.Basic
import RollCall.Text.Quoted

/-!
# Setting things up

Networks, transports and nodes are made from settings that a user gives, and a setting that makes no
sense is refused when the thing is made, not when it is used.

* `SetupFault` — why something cannot be set up.
* `SetupFault.message` — its wording.
-/

namespace RollCall

/-- Why something cannot be set up. -/
inductive SetupFault where
  /-- The texts of a network's first address and of its broadcast address, or the prefix length, are
  not what they should be. -/
  | network (subnet : String) (prefixLength : Int)
  /-- The text of a host's address is not an address. -/
  | hostUnreadable (text : String)
  /-- The address is not in the network. -/
  | hostOutside (text : String) (block : IPv4.Block)
  /-- The address is the first or the last of the network. -/
  | hostReserved (text : String) (block : IPv4.Block)
  /-- Another host has the address. -/
  | hostTaken (text : String) (block : IPv4.Block)
  /-- Every address of the network is taken. -/
  | hostsExhausted (block : IPv4.Block)
  /-- The port is bound already. -/
  | portTaken (port : Int) (host : String)
  /-- The text of a network stack's address is not an address with a prefix length. -/
  | stackAddress (text : String)
  /-- A packet buffer without room. -/
  | noCapacity (capacity slots : Int)
  /-- There are two transports to select from. -/
  | selection (index : Int)
  /-- There are no ports to try. -/
  | chainLength (length : Int)
  /-- The text of a broadcast address is not an address. -/
  | broadcastUnreadable (text : String)
  /-- The host's address and the prefix length give no broadcast address. -/
  | broadcastUnderivable (host : String) (prefixLength : Int)
  /-- Something of the given kind is not a transport. -/
  | notATransport (kind : String)
  /-- A node cannot have the broadcast address. -/
  | nodeIsBroadcast
  /-- The announcement interval or the limit on datagrams is not positive. -/
  | intervalNotPositive
  /-- A buffer of this size holds no datagram. -/
  | bufferTooSmall (size : Int)
  /-- The network map cannot be made. -/
  | map (fault : MapFault)
deriving DecidableEq, Repr

/-- The wording of a fault. -/
def SetupFault.message : SetupFault → String
  | network subnet prefixLength => s!"Invalid simulated network {subnet}/{prefixLength}"
  | hostUnreadable text => s!"Invalid simulated host address {Text.quote text}"
  | hostOutside text block => s!"{text} is outside simulated subnet {block.text}"
  | hostReserved text block => s!"{text} is not a usable host address in {block.text}"
  | hostTaken text block => s!"{text} is already attached to {block.text}"
  | hostsExhausted block => s!"No free host address left in {block.text}"
  | portTaken port host => s!"Port {port} already bound on simulated host {host}"
  | stackAddress text => s!"Invalid stack address {Text.quote text}"
  | noCapacity capacity slots =>
    s!"Packet buffer needs positive capacity and slots, got {capacity}/{slots}"
  | selection index => s!"Invalid interface selected: {index}"
  | chainLength length => s!"Chain length must be at least 1, got {length}"
  | broadcastUnreadable text => s!"Invalid broadcast address {Text.quote text}"
  | broadcastUnderivable host prefixLength =>
    s!"Cannot derive broadcast address from {host}/{prefixLength}"
  | notATransport kind => s!"{kind} does not implement the Interface protocol"
  | nodeIsBroadcast => "Host address cannot be the broadcast address"
  | intervalNotPositive => "Announce interval and max datagrams per poll must be positive"
  | bufferTooSmall size => s!"Buffer size {size} cannot hold any datagram"
  | map fault => fault.message

end RollCall
