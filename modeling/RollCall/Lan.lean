import RollCall.Transport.Basic

/-!
# Simulated networks

A simulated network is one broadcast domain in memory.  Hosts are attached to it, each with one
address, and bind ports; a datagram is put at the end of the queue of every port that it reaches,
and nothing is lost unless a loss is asked for.

* `Lan.create`, `Lan.attach`, `Lan.bind` — set up a network, its hosts and their ports.
* `Lan.send` — delivers a datagram; `Lan.pop` takes the oldest one of a port.
* `Lan.injectLoss`, `Lan.startLog`, `Lan.takeLog` — loss and the record of what was sent.
* `Lan.endpoint` — a bound port as a transport.
-/

namespace RollCall

/-- A datagram on its way. -/
structure Transit where
  source : PhysicalAddress
  destination : PhysicalAddress
  data : Bytes
deriving DecidableEq, Repr

/-- A port of a host, with the datagrams that have arrived at it, the oldest first. -/
structure BoundPort where
  port : Int
  queue : List Transit := []
deriving DecidableEq, Repr

/-- A host on a simulated network. -/
structure LanHost where
  ip : IPv4
  /-- The bound ports, in the order of their binding. -/
  ports : List BoundPort := []
deriving DecidableEq, Repr

/-- A simulated network. -/
structure Lan where
  block : IPv4.Block
  /-- The broadcast address in force. -/
  broadcast : IPv4
  /-- Whether a broadcast comes back to the endpoint that sent it. -/
  loopback : Bool
  hosts : List LanHost := []
  /-- The number of datagrams that are still to be lost. -/
  loss : Nat := 0
  /-- The datagrams sent since the log was started or last taken; `none` before it is started. -/
  log : Option (List Transit) := none
deriving DecidableEq, Repr

namespace LanHost

/-- The queue of a port, if the port is bound. -/
def queue? (host : LanHost) (port : Int) : Option (List Transit) :=
  (host.ports.find? fun bound => bound.port == port).map BoundPort.queue

/-- Whether a port is bound. -/
def isBound (host : LanHost) (port : Int) : Bool := (host.queue? port).isSome

/-- Changes the queue of a port. -/
def updateQueue (host : LanHost) (port : Int) (change : List Transit → List Transit) : LanHost :=
  { host with
    ports := host.ports.map fun bound =>
      if bound.port = port then { bound with queue := change bound.queue } else bound }

/-- Puts a datagram at the end of a port's queue; if the port is not bound, it is dropped. -/
def deliver (host : LanHost) (port : Int) (transit : Transit) : LanHost :=
  host.updateQueue port (· ++ [transit])

/-- The lowest free port of the chain that starts at the common port.  Of one more port than are
bound, one is free. -/
def nextPort (host : LanHost) : Int :=
  (((List.range (host.ports.length + 1)).map fun (n : Nat) => udpPort + n).find?
    fun port => !host.isBound port).getD udpPort

/-- The text of the host's address. -/
def text (host : LanHost) : String := host.ip.text

/-- The host with a port bound, and the port: the given one, or the next of the chain. -/
def bind (host : LanHost) (port : Option Int) : Except SetupFault (Int × LanHost) :=
  let port := port.getD host.nextPort
  if host.isBound port then .error (.portTaken port host.text)
  else .ok (port, { host with ports := host.ports ++ [{ port := port }] })

end LanHost

namespace Lan

/-! ## Setting up -/

/-- The text of the first address of a network where none is asked for. -/
def defaultSubnet : String := "192.168.1.0"

/-- The prefix length of a network where none is asked for. -/
def defaultPrefixLength : Int := 24

/-- The network with the given first address and prefix length.  Its broadcast address is the last
one of the network, unless another is given. -/
def create (subnet : String) (prefixLength : Int) (broadcast : Option String) (loopback : Bool) :
    Except SetupFault Lan :=
  match IPv4.Block.ofText? (subnet ++ "/" ++ toString prefixLength).toList with
  | none => .error (.network subnet prefixLength)
  | some block =>
    match broadcast with
    | none => .ok { block := block, broadcast := block.last, loopback := loopback }
    | some text =>
      match IPv4.ofText? text.toList with
      | none => .error (.network subnet prefixLength)
      | some ip => .ok { block := block, broadcast := ip, loopback := loopback }

/-- The number of the host with the given octets. -/
def hostAt? (lan : Lan) (octets : Bytes) : Option Nat :=
  lan.hosts.findIdx? fun host => host.ip.bytes == octets

/-- Whether a host has an address. -/
def isTaken (lan : Lan) (ip : IPv4) : Bool := lan.hosts.any fun host => host.ip == ip

/-- The lowest host address of the network that no host has and that is not the broadcast address.
Among two more addresses than there are hosts, one is such. -/
def freeAddress? (lan : Lan) : Option IPv4 :=
  ((List.range (min lan.block.hostCount (lan.hosts.length + 2))).map fun n =>
    IPv4.ofNumber (lan.block.firstHost + n)).find? fun ip => !lan.isTaken ip && ip != lan.broadcast

/-- The address of a text, if a new host may have it. -/
def chosenAddress (lan : Lan) (text : String) : Except SetupFault IPv4 :=
  match IPv4.ofText? text.toList with
  | none => .error (.hostUnreadable text)
  | some ip =>
    if !lan.block.contains ip then .error (.hostOutside text lan.block)
    else if ip = lan.block.first ∨ ip = lan.block.last then .error (.hostReserved text lan.block)
    else if lan.isTaken ip then .error (.hostTaken text lan.block)
    else .ok ip

/-- The address of a new host: the one of a text, or the lowest free one. -/
def addressFor (lan : Lan) (text : Option String) : Except SetupFault IPv4 :=
  match text with
  | some text => lan.chosenAddress text
  | none =>
    match lan.freeAddress? with
    | some ip => .ok ip
    | none => .error (.hostsExhausted lan.block)

/-- Attaches a host: its address and the network. -/
def attach (lan : Lan) (text : Option String) : Except SetupFault (IPv4 × Lan) :=
  (lan.addressFor text).map fun ip => (ip, { lan with hosts := lan.hosts ++ [{ ip := ip }] })

/-- Changes a host. -/
def updateHost (lan : Lan) (number : Nat) (change : LanHost → LanHost) : Lan :=
  { lan with hosts := lan.hosts.modify number change }

/-- Binds a port of a host: the endpoint and the network. -/
def bind (lan : Lan) (number : Nat) (host : LanHost) (port : Option Int) :
    Except SetupFault (PhysicalAddress × Lan) :=
  (host.bind port).map fun bound =>
    (⟨host.text, bound.1⟩, lan.updateHost number fun _ => bound.2)

/-! ## Loss and log -/

/-- Why a loss cannot be asked for. -/
inductive LossFault where
  | negative (count : Int)
deriving DecidableEq, Repr

/-- The wording of a fault. -/
def LossFault.message : LossFault → String
  | negative count => s!"Loss count must be non-negative, got {count}"

/-- Asks for the loss of so many more datagrams. -/
def injectLoss (lan : Lan) (count : Int) : Except LossFault Lan :=
  if count < 0 then .error (.negative count) else .ok { lan with loss := lan.loss + count.toNat }

/-- Starts the log, unless it is started. -/
def startLog (lan : Lan) : Lan := { lan with log := some (lan.log.getD []) }

/-- What the log holds, and the network with an empty log. -/
def takeLog (lan : Lan) : List Transit × Lan :=
  match lan.log with
  | none => ([], lan)
  | some entries => (entries, { lan with log := some [] })

/-! ## Delivery -/

/-- Whether an endpoint of a host is the one that sent a datagram. -/
def isSender (host : LanHost) (port : Int) (octets : Bytes) (source : PhysicalAddress) : Bool :=
  host.ip.bytes == octets && port == source.port

/-- Puts a broadcast at the end of the queue of every endpoint that has its port.  The source's
octets are needed to tell the sender from the others. -/
def deliverBroadcast (lan : Lan) (transit : Transit) : Except TransportFault Unit × Lan :=
  let port := transit.destination.port
  match transit.source.octets with
  | .ok octets =>
    (.ok (),
      { lan with
        hosts := lan.hosts.map fun host =>
          if isSender host port octets transit.source && !lan.loopback then host
          else host.deliver port transit })
  | .error _ =>
    if lan.hosts.any fun host => host.isBound port then (.error .unreadableHost, lan)
    else (.ok (), lan)

/-- Whether octets are the broadcast address of the network or the one of every network. -/
def isBroadcast (lan : Lan) (octets : Bytes) : Bool :=
  octets == lan.broadcast.bytes || octets == IPv4.limitedBroadcast.bytes

/-- Routes a datagram of a host by its destination. -/
def route (lan : Lan) (number : Nat) (transit : Transit) : Except TransportFault Unit × Lan :=
  match transit.destination.octets with
  | .error _ => (.error .unreadableHost, lan)
  | .ok octets =>
    if lan.isBroadcast octets then lan.deliverBroadcast transit
    else
      let target? := if octets = IPv4.localhost.bytes then some number else lan.hostAt? octets
      match target? with
      | none => (.error (.link (.unreachable transit.destination lan.block)), lan)
      | some target =>
        (.ok (), lan.updateHost target fun host => host.deliver transit.destination.port transit)

/-- Records a datagram, if there is a log. -/
def record (lan : Lan) (transit : Transit) : Lan :=
  { lan with log := lan.log.map (· ++ [transit]) }

/-- Sends a datagram from a host.  It is recorded first, then lost if a loss is due, and otherwise
routed. -/
def send (lan : Lan) (number : Nat) (transit : Transit) : Except TransportFault Unit × Lan :=
  let recorded := lan.record transit
  if 0 < recorded.loss then (.ok (), { recorded with loss := recorded.loss - 1 })
  else recorded.route number transit

/-- The queue of a port of a host; empty if the port is not bound. -/
def queueOf (lan : Lan) (number : Nat) (port : Int) : List Transit :=
  (lan.hosts[number]?.bind fun host => host.queue? port).getD []

/-- Takes the oldest datagram of a port. -/
def pop (lan : Lan) (number : Nat) (port : Int) : Option Transit × Lan :=
  match lan.queueOf number port with
  | [] => (none, lan)
  | transit :: rest =>
    (some transit, lan.updateHost number fun host => host.updateQueue port fun _ => rest)

/-! ## Endpoints as transports -/

/-- The transport of a bound port of a host. -/
def endpoint (number : Nat) (address : PhysicalAddress) : Transport Lan where
  poll _ lan := (.ok (), lan)
  send destination data lan := lan.send number ⟨address, destination, data⟩
  receive room lan :=
    let taken := lan.pop number address.port
    match taken.1 with
    | none => (.ok none, taken.2)
    | some transit =>
      if room < transit.data.length then
        (.error (.link (.truncated transit.data.length transit.source room)), taken.2)
      else (.ok (some ⟨transit.source, transit.data⟩), taken.2)
  broadcastOctets lan := (.ok lan.broadcast.bytes, lan)

end Lan

end RollCall
