import RollCall.Bench.Scripted
import RollCall.Lan
import RollCall.Node.Recipient
import RollCall.Sample.Flight

/-!
# A test bench

A bench holds simulated networks, hosts on them, links of several kinds, and nodes that run over the
links.  Each of these is known by its number in the order of creation.

* `Link` — the kinds of links; `Bench.transportOf` is the transport of one.
* `Bench.addLan`, `Bench.attach`, `Bench.addLink`, `Bench.addNode` and so on — build the bench.
* `Bench.runPoll`, `Bench.runSend` and so on — drive it.
* `BenchFault` — why a step fails.
-/

namespace RollCall

/-- A link by which a node can be joined to the outside. -/
inductive Link where
  | recorder (r : Recorder)
  /-- A port of a host of a simulated network. -/
  | endpoint (lan host : Nat) (address : PhysicalAddress)
  | embedded (e : Embedded) (stack : ScriptedStack)
  /-- One of two other links. -/
  | selectable (side : Transport.Side) (first second : Nat)
  /-- A thing that is no link at all. -/
  | inert
deriving DecidableEq, Repr

namespace Link

/-- Whether the thing is a link. -/
def isTransport : Link → Bool
  | inert => false
  | _ => true

/-- The link with what it has recorded forgotten. -/
def forget : Link → Link
  | recorder r => recorder { r with sent := [], polls := [] }
  | embedded e stack => embedded e { stack with sent := [], polls := [] }
  | link => link

/-- The link with datagrams arriving from outside, if it takes any. -/
def arrive? (ds : List Delivery) : Link → Option Link
  | recorder r => some (recorder { r with inbound := r.inbound ++ ds })
  | embedded e stack => some (embedded e { stack with inbound := stack.inbound ++ ds })
  | _ => none

end Link

/-- A host on the bench: its network, and its number there. -/
structure BenchHost where
  lan : Nat
  number : Nat
deriving DecidableEq, Repr

/-- What a listener does with a packet. -/
inductive Reaction where
  | ignores
  | fails
  /-- It sends a sign of life to the sender; whether that succeeds does not matter. -/
  | replies
deriving DecidableEq, Repr

/-- A node on the bench. -/
structure BenchNode where
  node : Node
  /-- The number of the link that the node runs over. -/
  link : Nat
  listeners : List Reaction := []
  /-- Every packet that the node has handed on. -/
  log : List Received := []

/-- The state of a test bench. -/
structure Bench where
  lans : List Lan := []
  hosts : List BenchHost := []
  links : List Link := []
  nodes : List BenchNode := []

/-- Why a step on the bench fails. -/
inductive BenchFault where
  /-- There is nothing of that number. -/
  | absent
  /-- The thing cannot be set up. -/
  | setup (fault : SetupFault)
  | loss (fault : Lan.LossFault)
  | transport (fault : TransportFault)
  | node (fault : NodeFault)
  | send (fault : SendFault)
deriving DecidableEq, Repr

namespace Bench

/-- The result of a step, and the bench after it. -/
abbrev Step (α : Type) : Type := Except BenchFault α × Bench

/-- A step that fails and changes nothing. -/
def failed {α : Type} (bench : Bench) (fault : BenchFault) : Step α := (.error fault, bench)

/-! ## Networks and hosts -/

/-- The bench with a network replaced. -/
def setLan (number : Nat) (lan : Lan) (bench : Bench) : Bench :=
  { bench with lans := bench.lans.set number lan }

/-- Adds a network. -/
def addLan (bench : Bench) (lan : Except SetupFault Lan) : Step (Nat × Lan) :=
  match lan with
  | .error fault => bench.failed (.setup fault)
  | .ok lan => (.ok (bench.lans.length, lan), { bench with lans := bench.lans ++ [lan] })

/-- Attaches a host to a network: its number on the bench, its number there, and its address. -/
def attach (bench : Bench) (number : Nat) (text : Option String) : Step (Nat × Nat × IPv4) :=
  match bench.lans[number]? with
  | none => bench.failed .absent
  | some lan =>
    match lan.attach text with
    | .error fault => bench.failed (.setup fault)
    | .ok (ip, attached) =>
      let host : BenchHost := ⟨number, lan.hosts.length⟩
      (.ok (bench.hosts.length, host.number, ip),
        { bench.setLan number attached with hosts := bench.hosts ++ [host] })

/-- Runs a step on a network. -/
def onLan {α : Type} (bench : Bench) (number : Nat) (step : Lan → Except BenchFault α × Lan) :
    Step α :=
  match bench.lans[number]? with
  | none => bench.failed .absent
  | some lan =>
    let answer := step lan
    (answer.1, bench.setLan number answer.2)

/-- Runs a step on the network of a host. -/
def onHost {α : Type} (bench : Bench) (number : Nat)
    (step : Nat → LanHost → Lan → Except BenchFault α × Lan) : Step α :=
  match bench.hosts[number]? with
  | none => bench.failed .absent
  | some at_ =>
    bench.onLan at_.lan fun lan =>
      match lan.hosts[at_.number]? with
      | none => (.error .absent, lan)
      | some host => step at_.number host lan

/-- Asks a network for the loss of datagrams. -/
def injectLoss (bench : Bench) (number : Nat) (count : Int) : Step Unit :=
  bench.onLan number fun lan =>
    match lan.injectLoss count with
    | .ok lan => (.ok (), lan)
    | .error fault => (.error (.loss fault), lan)

/-- Binds a port of a host. -/
def bind (bench : Bench) (host : Nat) (port : Option Int) : Step PhysicalAddress :=
  bench.onHost host fun number host lan =>
    match lan.bind number host port with
    | .ok bound => (.ok bound.1, bound.2)
    | .error fault => (.error (.setup fault), lan)

/-- Sends a datagram from a host as it is. -/
def sendRaw (bench : Bench) (host : Nat) (transit : Transit) : Step Unit :=
  bench.onHost host fun number _ lan =>
    let answer := lan.send number transit
    (answer.1.mapError .transport, answer.2)

/-- Takes the oldest datagram of a port of a host. -/
def receiveRaw (bench : Bench) (host : Nat) (port : Int) : Step (Option Transit) :=
  bench.onHost host fun number _ lan =>
    let answer := lan.pop number port
    (.ok answer.1, answer.2)

/-! ## Links -/

/-- The bench with a link replaced. -/
def setLink (number : Nat) (link : Link) (bench : Bench) : Bench :=
  { bench with links := bench.links.set number link }

/-- Adds a link: its number, and whether it is a transport. -/
def addLink (bench : Bench) (link : Link) : Nat × Bench :=
  (bench.links.length, { bench with links := bench.links ++ [link] })

/-- The transport of a link that selects no other. -/
def directTransport (number : Nat) : Option Link → Transport Bench
  | some (.recorder _) =>
    Transport.within
      (fun bench =>
        match bench.links[number]? with
        | some (.recorder r) => some r
        | _ => none)
      (fun r => setLink number (.recorder r))
      Recorder.transport
  | some (.endpoint lan host address) =>
    Transport.within (fun bench => bench.lans[lan]?) (setLan lan) (Lan.endpoint host address)
  | some (.embedded _ _) =>
    Transport.within
      (fun bench =>
        match bench.links[number]? with
        | some (.embedded e stack) => some (e, stack)
        | _ => none)
      (fun part => setLink number (.embedded part.1 part.2))
      (Embedded.transport ScriptedStack.calls)
  | _ => Transport.inert

/-- The side that a link has selected. -/
def sideOf (number : Nat) (bench : Bench) : Transport.Side :=
  match bench.links[number]? with
  | some (.selectable side _ _) => side
  | _ => .first

/-- The transport of a link behind at most so many selections. -/
def transportBehind : (selections : Nat) → (number : Nat) → Transport Bench
  | 0, _ => Transport.inert
  | selections + 1, number =>
    Transport.choose fun bench =>
      match bench.links[number]? with
      | some (.selectable _ first second) =>
        Transport.switch (sideOf number) (transportBehind selections first)
          (transportBehind selections second)
      | link => directTransport number link

/-- The transport of a link.  A link selects among older ones, so that there are fewer selections
than links. -/
def transportOf (number : Nat) : Transport Bench :=
  Transport.choose fun bench => transportBehind bench.links.length number

/-- Makes a call of a link. -/
def call {α : Type} (bench : Bench) (number : Nat)
    (run : Transport Bench → Bench → Except TransportFault α × Bench) : Step α :=
  match bench.links[number]? with
  | none => bench.failed .absent
  | some _ =>
    let answer := run (transportOf number) bench
    (answer.1.mapError .transport, answer.2)

/-- Changes a link. -/
def changeLink (bench : Bench) (number : Nat) (change : Link → Except BenchFault Link) :
    Step Unit :=
  match bench.links[number]? with
  | none => bench.failed .absent
  | some link =>
    match change link with
    | .ok link => (.ok (), bench.setLink number link)
    | .error fault => bench.failed fault

/-- Selects one of the two links behind a link. -/
def select (bench : Bench) (number : Nat) (index : Int) : Step Unit :=
  bench.changeLink number fun link =>
    match link with
    | .selectable _ first second =>
      ((Transport.Side.ofIndex index).mapError .setup).map fun side =>
        .selectable side first second
    | _ => .error (.transport .notATransport)

/-- Lets datagrams arrive at a link from outside. -/
def arrive (bench : Bench) (number : Nat) (ds : List Delivery) : Step Unit :=
  bench.changeLink number fun link =>
    match link.arrive? ds with
    | some link => .ok link
    | none => .error (.transport .notATransport)

/-! ## Nodes -/

/-- Adds a node over a link: its number and the node. -/
def addNode (bench : Bench) (link : Nat) (config : NodeConfig) (codec : Codec) (drawn : Int)
    (listeners : List Reaction) : Step (Nat × Node) :=
  match bench.links[link]? with
  | none => bench.failed .absent
  | some thing =>
    if !thing.isTransport then bench.failed (.setup (.notATransport "object"))
    else
      match Node.create config codec drawn with
      | .error fault => bench.failed (.setup fault)
      | .ok node =>
        (.ok (bench.nodes.length, node),
          { bench with nodes := bench.nodes ++ [{ node, link, listeners }] })

/-- The bench with a node replaced. -/
def setNode (number : Nat) (node : BenchNode) (bench : Bench) : Bench :=
  { bench with nodes := bench.nodes.set number node }

/-- Runs a call of a node over its link. -/
def runNode {ε α : Type} (bench : Bench) (number : Nat) (fault : ε → BenchFault)
    (turn : BenchNode → Transport Bench → Node → Bench → Except ε α × Node × Bench) : Step α :=
  match bench.nodes[number]? with
  | none => bench.failed .absent
  | some entry =>
    let (result, node, after) := turn entry (transportOf entry.link) entry.node bench
    (result.mapError fault, after.setNode number { entry with node := node })

/-- What a listener does with the node and its link. -/
def react (t : Transport Bench) : Reaction → Node.Listener Bench
  | .replies => fun received node bench =>
    let turn := Node.send t node received.sender ⟨Flight.ping, []⟩ bench
    turn.2
  | _ => fun _ node bench => (node, bench)

/-- Polls a node and shows its listeners what has arrived. -/
def runPoll (bench : Bench) (number : Nat) (time : Int) : Step (List Received) :=
  let polled := bench.runNode number .node fun entry t node bench =>
    match Node.poll t node time bench with
    | (.ok received, node, bench) =>
      let notified := Node.notify (entry.listeners.map (react t)) received node bench
      (.ok received, notified.1, notified.2)
    | turn => turn
  match polled.1, polled.2.nodes[number]? with
  | .ok received, some entry =>
    (.ok received, polled.2.setNode number { entry with log := entry.log ++ received })
  | _, _ => polled

/-- Sends a packet from a node. -/
def runSend (bench : Bench) (number : Nat) (recipient : Recipient) (packet : Packet) : Step Unit :=
  bench.runNode number .send fun _ t node bench => Node.sendTo t node recipient packet bench

/-- Lets a node announce itself. -/
def runAnnounce (bench : Bench) (number : Nat) : Step Unit :=
  bench.runNode number .node fun _ t node bench => Node.announce t node bench

/-- Asks a node where a peer can be reached. -/
def runResolve (bench : Bench) (number : Nat) (logical : LogicalAddress) :
    Step (Option PhysicalAddress) :=
  bench.runNode number .node fun _ _ node bench =>
    let found := node.resolve logical
    (.ok found.1, found.2, bench)

/-- Sets the counter of a node's traffic to a peer, if the peer has an entry in the node's map. -/
def setCounter (bench : Bench) (number : Nat) (logical : LogicalAddress) (counter : Int) :
    Step Unit :=
  bench.runNode number .node fun _ _ node bench =>
    let set := node.map.update logical fun peer => { peer with toCounter := counter }
    (.ok (), { node with map := set }, bench)

end Bench

end RollCall
