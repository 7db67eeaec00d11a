import RollCall.Node.Inbound
import RollCall.Transport.Basic

/-!
# Running a node

A node is driven by polls and sends over a transport.  Each call gives a result, the node after it
and the transport's state after it; what was changed before a fault stays changed.

* `Node.send` — encodes a packet and sends it to one peer or to all.
* `Node.announce` — sends the heartbeat to all.
* `Node.poll` — one tick: serves the transport, announces if it is time, removes stale peers, and
  takes what has arrived.
* `Node.resolve` — where a peer can be reached.
* `NodeFault` — why a send or a poll fails.
-/

namespace RollCall

/-- Why a node cannot send, or a poll fails. -/
inductive NodeFault where
  /-- The peer has not been heard yet, or too long ago. -/
  | noRoute (destination : LogicalAddress)
  /-- The packet cannot be encoded. -/
  | encode (fault : EncodeFault)
  /-- The transport fails. -/
  | transport (fault : TransportFault)
  /-- The transport's broadcast address is not an address. -/
  | broadcastAddress (fault : PhysicalFault)
deriving DecidableEq, Repr

/-- The wording of a fault, where there is one. -/
def NodeFault.message? : NodeFault → Option String
  | noRoute destination => some s!"No route to {destination.text}"
  | encode fault => fault.message?
  | transport fault => fault.message?
  | broadcastAddress _ => none

namespace Node

variable {σ : Type}

/-- The result of a call, the node after it, and the transport's state after it. -/
abbrev Turn (σ α : Type) : Type := Except NodeFault α × Node × σ

/-- Hands encoded bytes to the transport. -/
def transmit (t : Transport σ) (node : Node) (endpoint : PhysicalAddress) (data : Bytes) (s : σ) :
    Turn σ Unit :=
  match t.send endpoint data s with
  | (.ok (), s) => (.ok (), node, s)
  | (.error fault, s) => (.error (.transport fault), node, s)

/-- Sends a packet to all, at the transport's broadcast address.  The packet takes a number before
that address is asked for. -/
def sendBroadcast (t : Transport σ) (node : Node) (destination : LogicalAddress) (packet : Packet)
    (s : σ) : Turn σ Unit :=
  match Datagram.encode node.codec packet node.host destination node.broadcastCounter node.room with
  | .error fault => (.error (.encode fault), node, s)
  | .ok data =>
    let node := { node with broadcastCounter := Counter.next node.broadcastCounter }
    match t.broadcastOctets s with
    | (.error fault, s) => (.error (.transport fault), node, s)
    | (.ok octets, s) =>
      match PhysicalAddress.ofBytes octets udpPort with
      | .error fault => (.error (.broadcastAddress fault), node, s)
      | .ok endpoint => transmit t node endpoint data s

/-- Sends a packet to one peer, at the address that it was last heard from. -/
def sendUnicast (t : Transport σ) (node : Node) (destination : LogicalAddress) (packet : Packet)
    (s : σ) : Turn σ Unit :=
  match node.map.lookup destination node.time with
  | (none, map) => (.error (.noRoute destination), { node with map := map }, s)
  | (some peer, map) =>
    match Datagram.encode node.codec packet node.host destination peer.toCounter node.room with
    | .error fault => (.error (.encode fault), { node with map := map }, s)
    | .ok data =>
      let counted := map.update destination fun peer =>
        { peer with toCounter := Counter.next peer.toCounter }
      transmit t { node with map := counted } peer.physical data s

/-- Sends a packet.  Nothing is retried. -/
def send (t : Transport σ) (node : Node) (destination : LogicalAddress) (packet : Packet) (s : σ) :
    Turn σ Unit :=
  if destination.isBroadcast then sendBroadcast t node destination packet s
  else sendUnicast t node destination packet s

/-- Sends the heartbeat to all. -/
def announce (t : Transport σ) (node : Node) (s : σ) : Turn σ Unit :=
  send t node .broadcast (.announcement node.session) s

/-- Whether it is time for an announcement. -/
def isAnnouncementDue (node : Node) : Bool :=
  match node.lastAnnounce with
  | none => true
  | some last => decide (node.config.announceInterval ≤ node.time - last)

/-- Announces the node if it is time to.  That the link does not carry the announcement is no fault
of the poll. -/
def announceIfDue (t : Transport σ) (node : Node) (s : σ) : Turn σ Unit :=
  if node.isAnnouncementDue then
    match announce t { node with lastAnnounce := some node.time } s with
    | (.error (.transport (.link _)), node, s) => (.ok (), node, s)
    | turn => turn
  else (.ok (), node, s)

/-- The node with one more failed attempt to receive. -/
def countReceiveError (node : Node) : Node :=
  { node with traffic := { node.traffic with receiveErrors := node.traffic.receiveErrors + 1 } }

/-- Takes up to the given number of datagrams from the transport, and gives the packets of the
application among them in the order of their arrival.  A datagram that the link fails to hand over
counts as one of them. -/
def drain (t : Transport σ) : Nat → Node → σ → Turn σ (List Received)
  | 0, node, s => (.ok [], node, s)
  | limit + 1, node, s =>
    match t.receive node.room s with
    | (.error (.link _), s) => drain t limit node.countReceiveError s
    | (.error fault, s) => (.error (.transport fault), node, s)
    | (.ok none, s) => (.ok [], node, s)
    | (.ok (some d), s) =>
      let handled := node.handle d.data d.endpoint
      let rest := drain t limit handled.2 s
      (rest.1.map (handled.1.received?.toList ++ ·), rest.2)

/-- The node at a time; a time before the present one is taken for the present one. -/
def advance (node : Node) (time : Int) : Node := { node with time := max node.time time }

/-- The node without its stale peers. -/
def purge (node : Node) : Node := { node with map := node.map.purge node.time }

/-- One tick: the packets of the application that have arrived. -/
def poll (t : Transport σ) (node : Node) (time : Int) (s : σ) : Turn σ (List Received) :=
  let node := node.advance time
  match t.poll node.time s with
  | (.error fault, s) => (.error (.transport fault), node, s)
  | (.ok (), s) =>
    match announceIfDue t node s with
    | (.error fault, node, s) => (.error fault, node, s)
    | (.ok (), node, s) => drain t node.config.drainLimit.toNat node.purge s

/-- Where a peer can be reached, if it is not stale. -/
def resolve (node : Node) (logical : LogicalAddress) : Option PhysicalAddress × Node :=
  let found := node.map.resolve logical node.time
  (found.1, { node with map := found.2 })

/-! ## Listeners -/

/-- What the application does with a received packet: it may use the node and its transport. -/
abbrev Listener (σ : Type) : Type := Received → Node → σ → Node × σ

/-- Shows received packets to listeners, packet by packet and to each listener in turn. -/
def notify (listeners : List (Listener σ)) (received : List Received) (node : Node) (s : σ) :
    Node × σ :=
  received.foldl
    (fun state packet =>
      listeners.foldl (fun state listener => listener packet state.1 state.2) state)
    (node, s)

end Node

end RollCall
