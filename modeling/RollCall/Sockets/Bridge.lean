import RollCall.Sockets.Layer

/-!
# A transport to one port of the same host

A bridge connects two processes on one host.  Whatever a node sends, to one or to all, goes to one
fixed port, and whatever arrives counts as coming from this host.

* `Bridge` — the settings and the state of the transport.
* `Bridge.openSocket`, `Bridge.close` — bind and release the socket.
* `Bridge.transport` — the transport.
-/

namespace RollCall

/-- The settings and the state of a transport to one port. -/
structure Bridge where
  bindPort : Int
  targetPort : Int
  socket : Option Socket := none
  localAddress : Option PhysicalAddress := none
deriving DecidableEq, Repr

namespace Bridge

variable {ω : Type}

/-- Whether a socket is bound. -/
def isOpen (b : Bridge) : Bool := b.socket.isSome

/-- Binds a socket, unless one is bound. -/
def openSocket (os : SocketLayer ω) (b : Bridge) (w : ω) :
    Except TransportFault Unit × Bridge × ω :=
  if b.isOpen then (.ok (), b, w)
  else
    let wanted : PhysicalAddress := ⟨localhostText, b.bindPort⟩
    match os.openAt wanted w with
    | (.error (.refused reason), w) => (.error (.link (.portRefused wanted reason)), b, w)
    | (.error (.senseless reason), w) => (.error (.system (.senseless reason)), b, w)
    | (.ok socket, w) =>
      let b := { b with socket := some socket }
      match os.localAddress socket w with
      | (.error fault, w) => (.error (.system fault), b, w)
      | (.ok address, w) =>
        (.ok (), { b with localAddress := some ⟨localhostText, address.port⟩ }, w)

/-- Releases the socket, if one is bound. -/
def close (os : SocketLayer ω) (b : Bridge) (w : ω) : Bridge × ω :=
  match b.socket with
  | none => (b, w)
  | some socket => ({ b with socket := none }, os.close socket w)

/-- The address that the socket is bound to, available from the first opening on. -/
def address (b : Bridge) : Except TransportFault PhysicalAddress :=
  match b.localAddress with
  | some address => .ok address
  | none => .error .notOpen

/-- The transport over the sockets of an operating system. -/
def transport (os : SocketLayer ω) : Transport (Bridge × ω) where
  poll _ s := (.ok (), s)
  send _ data s :=
    let answer := os.sendFrom s.1.socket ⟨⟨localhostText, s.1.targetPort⟩, data⟩ s.2
    (answer.1, s.1, answer.2)
  receive room s :=
    let answer := os.receiveAt s.1.socket room s.2
    (answer.1.map (Option.map fun d => ⟨⟨localhostText, d.endpoint.port⟩, d.data⟩), s.1, answer.2)
  broadcastOctets s := (.ok IPv4.localhost.bytes, s)

end Bridge

end RollCall
