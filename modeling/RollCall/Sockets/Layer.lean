import RollCall.Transport.Basic

/-!
# Sockets of an operating system

The operating system is outside, and any of its calls may fail.  A socket is known by a number.

* `SocketLayer` — the calls.
* `SocketLayer.openAt` — makes a socket, prepares it and binds it; a socket that the system refuses
  to prepare is closed again.
-/

namespace RollCall

/-- A socket by its number. -/
abbrev Socket := Nat

/-- The socket calls of an operating system with the state `ω`. -/
structure SocketLayer (ω : Type) where
  create : ω → Except OsFault Socket × ω
  allowBroadcast : Socket → ω → Except OsFault Unit × ω
  bind : Socket → PhysicalAddress → ω → Except OsFault Unit × ω
  /-- Makes the socket answer at once when nothing has arrived. -/
  stopBlocking : Socket → ω → Except OsFault Unit × ω
  /-- The address that the socket is bound to. -/
  localAddress : Socket → ω → Except OsFault PhysicalAddress × ω
  close : Socket → ω → ω
  send : Socket → Delivery → ω → Except OsFault Unit × ω
  /-- Takes the next datagram, cut to the given number of bytes. -/
  receive : Socket → Nat → ω → Except OsFault (Option Delivery) × ω
  /-- The address of the interface that traffic leaves by, if it can be found out. -/
  routeHost : ω → Option String × ω

/-- The text of the address of this host itself. -/
def localhostText : String := IPv4.localhost.text

namespace SocketLayer

variable {ω : Type}

/-- Prepares a socket and binds it. -/
def prepare (os : SocketLayer ω) (socket : Socket) (address : PhysicalAddress) (w : ω) :
    Except OsFault Unit × ω :=
  match os.allowBroadcast socket w with
  | (.error fault, w) => (.error fault, w)
  | (.ok (), w) =>
    match os.bind socket address w with
    | (.error fault, w) => (.error fault, w)
    | (.ok (), w) => os.stopBlocking socket w

/-- A new socket bound to an address.  A socket that the system refuses to prepare is closed; one
that was asked for something senseless is left as it is. -/
def openAt (os : SocketLayer ω) (address : PhysicalAddress) (w : ω) : Except OsFault Socket × ω :=
  match os.create w with
  | (.error fault, w) => (.error fault, w)
  | (.ok socket, w) =>
    match os.prepare socket address w with
    | (.ok (), w) => (.ok socket, w)
    | (.error (.refused reason), w) => (.error (.refused reason), os.close socket w)
    | (.error (.senseless reason), w) => (.error (.senseless reason), w)

/-- Sends bytes from a socket. -/
def sendFrom (os : SocketLayer ω) (socket : Option Socket) (d : Delivery) (w : ω) :
    Except TransportFault Unit × ω :=
  match socket with
  | none => (.error .notOpen, w)
  | some socket =>
    match os.send socket d w with
    | (.ok (), w) => (.ok (), w)
    | (.error (.refused reason), w) => (.error (.link (.sendRefused d.endpoint reason)), w)
    | (.error (.senseless reason), w) => (.error (.system (.senseless reason)), w)

/-- Takes the next datagram from a socket. -/
def receiveAt (os : SocketLayer ω) (socket : Option Socket) (room : Nat) (w : ω) :
    Except TransportFault (Option Delivery) × ω :=
  match socket with
  | none => (.error .notOpen, w)
  | some socket =>
    match os.receive socket room w with
    | (.ok d, w) => (.ok d, w)
    | (.error (.refused reason), w) => (.error (.link (.receiveRefused reason)), w)
    | (.error (.senseless reason), w) => (.error (.system (.senseless reason)), w)

end SocketLayer

end RollCall
