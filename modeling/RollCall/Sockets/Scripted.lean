import RollCall.Sockets.Bridge
import RollCall.Sockets.Hosted

/-!
# A scripted operating system

An operating system whose behaviour is laid down in advance: which ports are taken, what arrives,
and which send or receive fails.

* `ScriptedOs` — its state.
* `ScriptedOs.layer` — its socket calls.
* `Station` — a transport over its sockets, of either kind; `Station.visit` opens it for a moment.
-/

namespace RollCall

/-- A socket of the scripted operating system. -/
structure ScriptedSocket where
  number : Socket
  broadcasts : Bool := false
  blocks : Bool := true
  bound : Option PhysicalAddress := none
deriving DecidableEq, Repr

/-- A datagram that was sent. -/
structure Sent where
  source : PhysicalAddress
  delivery : Delivery
deriving DecidableEq, Repr

/-- The state of the scripted operating system. -/
structure ScriptedOs where
  taken : List Int := []
  routeHost : Option String := none
  /-- The sockets that are not closed, the oldest first. -/
  sockets : List ScriptedSocket := []
  /-- The number of the next socket. -/
  nextSocket : Socket := 0
  /-- The next port for those who do not ask for a certain one. -/
  nextPort : Int := 40000
  inbound : List Delivery := []
  /-- The reason why the next send is to fail. -/
  sendFault : Option String := none
  /-- The reason why the next receive is to fail. -/
  receiveFault : Option String := none
  sent : List Sent := []
deriving DecidableEq, Repr

namespace ScriptedOs

/-- The longest datagram that can be sent. -/
def maxDatagram : Nat := 65507

/-- Takes ports. -/
def take (os : ScriptedOs) (ports : List Int) : ScriptedOs := { os with taken := os.taken ++ ports }

/-- Frees ports. -/
def free (os : ScriptedOs) (ports : List Int) : ScriptedOs :=
  { os with taken := os.taken.filter fun port => !ports.contains port }

/-- Changes a socket. -/
def modify (os : ScriptedOs) (socket : Socket) (change : ScriptedSocket → ScriptedSocket) :
    ScriptedOs :=
  { os with sockets := os.sockets.map fun s => if s.number = socket then change s else s }

/-- A socket that is not closed. -/
def find? (os : ScriptedOs) (socket : Socket) : Option ScriptedSocket :=
  os.sockets.find? fun s => s.number == socket

/-- Binds a socket to a port that is not taken, and takes the port.  Port 0 stands for the next port
in turn, whether that one is taken or not; if 0 itself is taken, it is refused like any other. -/
def bind (socket : Socket) (address : PhysicalAddress) (os : ScriptedOs) :
    Except OsFault Unit × ScriptedOs :=
  if address.port < 0 ∨ 65535 < address.port then
    (.error (.senseless "bind(): port must be 0-65535."), os)
  else if os.taken.contains address.port then
    (.error (.refused "[Errno 98] Address already in use"), os)
  else
    let port := if address.port = 0 then os.nextPort else address.port
    let os := if address.port = 0 then { os with nextPort := os.nextPort + 1 } else os
    let bound := os.modify socket fun s => { s with bound := some { address with port := port } }
    (.ok (), bound.take [port])

/-- Closes a socket and frees its port. -/
def close (socket : Socket) (os : ScriptedOs) : ScriptedOs :=
  let rest := { os with sockets := os.sockets.filter fun s => s.number != socket }
  match (os.find? socket).bind ScriptedSocket.bound with
  | some address => rest.free [address.port]
  | none => rest

/-- The address that a socket is bound to; an unbound one has the empty address. -/
def addressOf (os : ScriptedOs) (socket : Socket) : PhysicalAddress :=
  ((os.find? socket).bind ScriptedSocket.bound).getD ⟨Hosted.anyHost, 0⟩

/-- Sends a datagram, unless this send is to fail. -/
def send (socket : Socket) (d : Delivery) (os : ScriptedOs) : Except OsFault Unit × ScriptedOs :=
  match os.sendFault with
  | some reason => (.error (.refused reason), { os with sendFault := none })
  | none =>
    if maxDatagram < d.data.length then (.error (.refused "[Errno 90] Message too long"), os)
    else (.ok (), { os with sent := os.sent ++ [⟨os.addressOf socket, d⟩] })

/-- Takes the oldest datagram, unless this receive is to fail.  What does not fit is cut off. -/
def receive (room : Nat) (os : ScriptedOs) : Except OsFault (Option Delivery) × ScriptedOs :=
  match os.receiveFault with
  | some reason => (.error (.refused reason), { os with receiveFault := none })
  | none =>
    match os.inbound with
    | [] => (.ok none, os)
    | d :: rest => (.ok (some { d with data := d.data.take room }), { os with inbound := rest })

/-- The socket calls of the scripted operating system. -/
def layer : SocketLayer ScriptedOs where
  create os :=
    (.ok os.nextSocket,
      { os with
        sockets := os.sockets ++ [{ number := os.nextSocket }]
        nextSocket := os.nextSocket + 1 })
  allowBroadcast socket os := (.ok (), os.modify socket fun s => { s with broadcasts := true })
  bind := bind
  stopBlocking socket os := (.ok (), os.modify socket fun s => { s with blocks := false })
  localAddress socket os := (.ok (os.addressOf socket), os)
  close := close
  send := send
  receive _ := receive
  routeHost os := (os.routeHost, os)

end ScriptedOs

/-- A transport over the sockets of the scripted operating system. -/
inductive Station where
  | hosted (h : Hosted)
  | bridge (b : Bridge)
deriving DecidableEq, Repr

namespace Station

/-- Whether a socket is bound. -/
def isOpen : Station → Bool
  | hosted h => h.isOpen
  | bridge b => b.isOpen

/-- Whether the bound port is not the first one that was tried; a bridge tries only one. -/
def chained? : Station → Option Bool
  | hosted h => some h.chained
  | bridge _ => none

/-- Binds a socket, unless one is bound. -/
def openSocket (station : Station) (os : ScriptedOs) :
    Except TransportFault Unit × Station × ScriptedOs :=
  match station with
  | hosted h =>
    let answer := h.openSocket ScriptedOs.layer os
    (answer.1, hosted answer.2.1, answer.2.2)
  | bridge b =>
    let answer := b.openSocket ScriptedOs.layer os
    (answer.1, bridge answer.2.1, answer.2.2)

/-- Releases the socket, if one is bound. -/
def close (station : Station) (os : ScriptedOs) : Station × ScriptedOs :=
  match station with
  | hosted h =>
    let answer := h.close ScriptedOs.layer os
    (hosted answer.1, answer.2)
  | bridge b =>
    let answer := b.close ScriptedOs.layer os
    (bridge answer.1, answer.2)

/-- The address that the socket is bound to. -/
def address : Station → Except TransportFault PhysicalAddress
  | hosted h => h.address
  | bridge b => b.address

/-- Opens the station, looks at it, and closes it again: the address and whether it was open. -/
def visit (station : Station) (os : ScriptedOs) :
    Except TransportFault (PhysicalAddress × Bool) × Station × ScriptedOs :=
  match station.openSocket os with
  | (.error fault, station, os) => (.error fault, station, os)
  | (.ok (), station, os) =>
    let seen := station.address.map fun address => (address, station.isOpen)
    (seen, station.close os)

/-- The calls of a station. -/
def transport : Transport (Station × ScriptedOs) :=
  Transport.choose fun s =>
    match s.1 with
    | hosted _ =>
      Transport.within
        (fun s =>
          match s.1 with
          | hosted h => some (h, s.2)
          | bridge _ => none)
        (fun part _ => (hosted part.1, part.2))
        (Hosted.transport ScriptedOs.layer)
    | bridge _ =>
      Transport.within
        (fun s =>
          match s.1 with
          | hosted _ => none
          | bridge b => some (b, s.2))
        (fun part _ => (bridge part.1, part.2))
        (Bridge.transport ScriptedOs.layer)

end Station

end RollCall
