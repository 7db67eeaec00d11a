import RollCall.Sockets.Layer

/-!
# A transport over a socket of the operating system

The socket is bound to the first port of a chain of consecutive ports that can be bound, so that
several nodes on one host share the network.  The host's netmask is not known; unless a broadcast
address is given, it is derived from the local address and an assumed prefix length.

* `Hosted` — the settings and the state of the transport.
* `Hosted.openSocket`, `Hosted.close` — bind and release the socket.
* `Hosted.transport` — the transport.
-/

namespace RollCall

/-- The ports that are tried where no other number is asked for. -/
def maxChainLength : Int := 5

/-- The settings and the state of a transport over a socket. -/
structure Hosted where
  /-- The text of the local address to bind. -/
  bindHost : String
  /-- The first port to try; at zero the operating system picks one. -/
  firstPort : Int
  /-- The number of ports to try. -/
  chainLength : Nat
  prefixLength : Int
  /-- The octets of the broadcast address, once known. -/
  broadcast : Option Bytes
  socket : Option Socket := none
  localAddress : Option PhysicalAddress := none
  /-- Whether the bound port is not the first one. -/
  chained : Bool := false
deriving DecidableEq, Repr

namespace Hosted

variable {ω : Type}

/-- The text of the address that stands for every address of the host. -/
def anyHost : String := "0.0.0.0"

/-- A transport that is not open yet. -/
def create (bindHost : String) (firstPort : Int) (broadcast : Option String)
    (prefixLength chainLength : Int) : Except SetupFault Hosted :=
  if chainLength < 1 then .error (.chainLength chainLength)
  else
    match broadcast with
    | none =>
      .ok { bindHost, firstPort, chainLength := chainLength.toNat, prefixLength, broadcast := none }
    | some text =>
      match IPv4.ofText? text.toList with
      | none => .error (.broadcastUnreadable text)
      | some ip =>
        .ok
          { bindHost, firstPort, chainLength := chainLength.toNat, prefixLength,
            broadcast := some ip.bytes }

/-- Whether a socket is bound. -/
def isOpen (h : Hosted) : Bool := h.socket.isSome

/-- The number of ports to try; the system needs to be asked only once to pick one. -/
def attempts (h : Hosted) : Nat := if h.firstPort = 0 then 1 else h.chainLength

/-- The last port to try. -/
def lastPort (h : Hosted) : Int := h.firstPort + (h.attempts - 1 : Nat)

/-- The outcome of trying ports. -/
inductive Search where
  /-- A socket is bound; whether ports were refused before. -/
  | bound (socket : Socket) (chained : Bool)
  /-- Every port was refused. -/
  | exhausted
  /-- A request made no sense. -/
  | senseless (reason : String)
deriving DecidableEq, Repr

/-- Binds the first of so many consecutive ports that can be bound. -/
def search (os : SocketLayer ω) (host : String) :
    (attempts : Nat) → (port : Int) → (chained : Bool) → ω → Search × ω
  | 0, _, _, w => (.exhausted, w)
  | attempts + 1, port, chained, w =>
    match os.openAt ⟨host, port⟩ w with
    | (.ok socket, w) => (.bound socket chained, w)
    | (.error (.refused _), w) => search os host attempts (port + 1) true w
    | (.error (.senseless reason), w) => (.senseless reason, w)

/-- The directed broadcast address of the network that a host's address lies in. -/
def derivedBroadcast (host : String) (prefixLength : Int) : Except SetupFault Bytes :=
  match IPv4.Block.aroundText? (host ++ "/" ++ toString prefixLength).toList with
  | some block => .ok block.last.bytes
  | none => .error (.broadcastUnderivable host prefixLength)

/-- Records the local address of a bound socket and, if none is known yet, the broadcast address. -/
def settle (h : Hosted) (address : PhysicalAddress) : Except TransportFault Unit × Hosted :=
  let settled := { h with localAddress := some address }
  match h.broadcast with
  | some _ => (.ok (), settled)
  | none =>
    match derivedBroadcast address.host h.prefixLength with
    | .ok octets => (.ok (), { settled with broadcast := some octets })
    | .error fault => (.error (.setup fault), settled)

/-- Looks up where a bound socket can be reached. -/
def locate (os : SocketLayer ω) (socket : Socket) (w : ω) : Except OsFault PhysicalAddress × ω :=
  match os.localAddress socket w with
  | (.error fault, w) => (.error fault, w)
  | (.ok address, w) =>
    if address.host = anyHost then
      let route := os.routeHost w
      (.ok { address with host := route.1.getD localhostText }, route.2)
    else (.ok address, w)

/-- Binds a socket, unless one is bound. -/
def openSocket (os : SocketLayer ω) (h : Hosted) (w : ω) :
    Except TransportFault Unit × Hosted × ω :=
  if h.isOpen then (.ok (), h, w)
  else
    match search os h.bindHost h.attempts h.firstPort false w with
    | (.exhausted, w) => (.error (.link (.noPort h.bindHost h.firstPort h.lastPort)), h, w)
    | (.senseless reason, w) => (.error (.system (.senseless reason)), h, w)
    | (.bound socket chained, w) =>
      let h := { h with socket := some socket, chained := chained }
      match locate os socket w with
      | (.error fault, w) => (.error (.system fault), h, w)
      | (.ok address, w) =>
        let settled := h.settle address
        (settled.1, settled.2, w)

/-- Releases the socket, if one is bound. -/
def close (os : SocketLayer ω) (h : Hosted) (w : ω) : Hosted × ω :=
  match h.socket with
  | none => (h, w)
  | some socket => ({ h with socket := none }, os.close socket w)

/-- The address that the socket is bound to, available from the first opening on. -/
def address (h : Hosted) : Except TransportFault PhysicalAddress :=
  match h.localAddress with
  | some address => .ok address
  | none => .error .notOpen

/-- The transport over the sockets of an operating system. -/
def transport (os : SocketLayer ω) : Transport (Hosted × ω) where
  poll _ s := (.ok (), s)
  send destination data s :=
    let answer := os.sendFrom s.1.socket ⟨destination, data⟩ s.2
    (answer.1, s.1, answer.2)
  receive room s :=
    let answer := os.receiveAt s.1.socket room s.2
    (answer.1, s.1, answer.2)
  broadcastOctets s :=
    match s.1.broadcast with
    | some octets => (.ok octets, s)
    | none => (.error .notOpen, s)

end Hosted

end RollCall
