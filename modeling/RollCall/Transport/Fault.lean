import RollCall.Setup

/-!
# Why a transport fails

* `LinkFault` — the link does not carry a datagram.  A node expects this and goes on.
* `TransportFault` — anything that a call of a transport can fail with; a link's fault is one of
  them, and the others mean that the transport is used wrongly.
-/

namespace RollCall

/-- Why a link does not carry a datagram. -/
inductive LinkFault where
  /-- No host of the network has the destination's address. -/
  | unreachable (destination : PhysicalAddress) (block : IPv4.Block)
  /-- The datagram is longer than the buffer for it, and is lost. -/
  | truncated (length : Nat) (source : PhysicalAddress) (room : Nat)
  /-- The packet buffer has no free slot or not enough free bytes. -/
  | bufferFull (packets used : Nat)
  /-- The datagram is longer than the whole packet buffer. -/
  | exceedsCapacity (length capacity : Nat)
  /-- The operating system does not send. -/
  | sendRefused (destination : PhysicalAddress) (reason : String)
  /-- The operating system does not receive. -/
  | receiveRefused (reason : String)
  /-- None of a range of ports can be bound. -/
  | noPort (host : String) (first last : Int)
  /-- The one port cannot be bound. -/
  | portRefused (address : PhysicalAddress) (reason : String)
  /-- A fault that a scripted link was told to have. -/
  | scripted (reason : String)
deriving DecidableEq, Repr

/-- The wording of a fault. -/
def LinkFault.message : LinkFault → String
  | unreachable destination block => s!"Destination {destination.text} unreachable on {block.text}"
  | truncated length source room =>
    s!"Datagram of {length} bytes from {source.text} truncated by {room} byte buffer"
  | bufferFull packets used => s!"Packet buffer full ({packets} packets, {used} bytes)"
  | exceedsCapacity length capacity =>
    s!"Datagram of {length} bytes exceeds buffer capacity {capacity}"
  | sendRefused destination reason => s!"Send to {destination.text} failed: {reason}"
  | receiveRefused reason => s!"Receive failed: {reason}"
  | noPort host first last => s!"Could not bind {host} on ports {first}-{last}"
  | portRefused address reason => s!"Could not bind {address.text}: {reason}"
  | scripted reason => reason

/-- Why the operating system does not do what it is asked. -/
inductive OsFault where
  /-- It refuses, with a reason. -/
  | refused (reason : String)
  /-- The request makes no sense, and is not even made. -/
  | senseless (reason : String)
deriving DecidableEq, Repr

/-- Why a call of a transport fails. -/
inductive TransportFault where
  /-- The link does not carry a datagram. -/
  | link (fault : LinkFault)
  /-- The transport has not been opened. -/
  | notOpen
  /-- The text of a host has no octets. -/
  | unreadableHost
  /-- The thing called is not a transport. -/
  | notATransport
  /-- The operating system fails outside of sending and receiving. -/
  | system (fault : OsFault)
  /-- A setting turns out to make no sense. -/
  | setup (fault : SetupFault)
deriving DecidableEq, Repr

/-- The wording of a fault, where there is one. -/
def TransportFault.message? : TransportFault → Option String
  | link fault => some fault.message
  | notOpen => some "Interface not open"
  | unreadableHost => none
  | notATransport => none
  | system (.refused reason) => some reason
  | system (.senseless reason) => some reason
  | setup fault => some fault.message

end RollCall
