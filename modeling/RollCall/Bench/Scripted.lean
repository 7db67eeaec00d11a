import RollCall.Transport.Embedded

/-!
# Scripted transports

Stand-ins for the outside of a node, which record what they are asked and do what they were told.

* `Recorder` — a transport that records what is sent over it.
* `ScriptedStack` — a network stack that records what it transmits.
-/

namespace RollCall

/-- A transport that records what is sent over it. -/
structure Recorder where
  broadcast : Bytes
  sent : List Delivery := []
  /-- The times of the polls. -/
  polls : List Int := []
  /-- What has arrived, the oldest first. -/
  inbound : List Delivery := []
  /-- The number of sends that are still to fail. -/
  failingSends : Nat := 0
  /-- The number of receives that are still to fail. -/
  failingReceives : Nat := 0
  /-- The number of polls that are still to fail. -/
  failingPolls : Nat := 0
deriving DecidableEq, Repr

namespace Recorder

/-- The octets of the broadcast address where no others are asked for. -/
def defaultBroadcast : Bytes := [192, 168, 1, 255]

/-- A fault of the link that was asked for. -/
def fault (reason : String) : TransportFault := .link (.scripted reason)

/-- A poll is recorded, even one that fails. -/
def poll (time : Int) (r : Recorder) : Except TransportFault Unit × Recorder :=
  let recorded := { r with polls := r.polls ++ [time] }
  match r.failingPolls with
  | 0 => (.ok (), recorded)
  | n + 1 => (.error (fault "poll failed"), { recorded with failingPolls := n })

/-- A datagram is recorded unless its send fails. -/
def send (d : Delivery) (r : Recorder) : Except TransportFault Unit × Recorder :=
  match r.failingSends with
  | 0 => (.ok (), { r with sent := r.sent ++ [d] })
  | n + 1 => (.error (fault "link down"), { r with failingSends := n })

/-- A receive that fails takes nothing; a datagram that does not fit is lost. -/
def receive (room : Nat) (r : Recorder) : Except TransportFault (Option Delivery) × Recorder :=
  match r.failingReceives with
  | n + 1 => (.error (fault "stack error"), { r with failingReceives := n })
  | 0 =>
    match r.inbound with
    | [] => (.ok none, r)
    | d :: rest =>
      let taken := { r with inbound := rest }
      if room < d.data.length then (.error (fault "datagram too long"), taken)
      else (.ok (some d), taken)

/-- The recorder as a transport. -/
def transport : Transport Recorder where
  poll := poll
  send destination data := send ⟨destination, data⟩
  receive := receive
  broadcastOctets r := (.ok r.broadcast, r)

end Recorder

/-- A network stack that records what it transmits. -/
structure ScriptedStack where
  sent : List Delivery := []
  /-- The times of the polls. -/
  polls : List Int := []
  /-- What has arrived, the oldest first. -/
  inbound : List Delivery := []
  /-- The number of datagrams that are still accepted; `none` if all are. -/
  accepts : Option Nat := none
deriving DecidableEq, Repr

namespace ScriptedStack

/-- A datagram is recorded if it is accepted. -/
def transmit (d : Delivery) (s : ScriptedStack) : Bool × ScriptedStack :=
  match s.accepts with
  | none => (true, { s with sent := s.sent ++ [d] })
  | some 0 => (false, s)
  | some (n + 1) => (true, { s with sent := s.sent ++ [d], accepts := some n })

/-- The calls of the stack. -/
def calls : NetworkStack ScriptedStack where
  poll time s := { s with polls := s.polls ++ [time] }
  transmit := transmit
  drain s := (s.inbound, { s with inbound := [] })

end ScriptedStack

end RollCall
