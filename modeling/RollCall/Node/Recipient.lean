import RollCall.Address.Written
import RollCall.Node.Run

/-!
# Recipients

The application names the recipient of a packet by its address, or by a text for one.  The text is
read first, before anything of the node is looked at.

* `Recipient`, `Recipient.address` — a recipient and the address that it stands for.
* `Node.sendTo` — sends a packet to a recipient.
* `SendFault` — why that fails.
-/

namespace RollCall

/-- Whom a packet is sent to. -/
inductive Recipient where
  | named (logical : LogicalAddress)
  /-- The address is written out. -/
  | written (text : String)
deriving DecidableEq, Repr

/-- The address that a recipient stands for. -/
def Recipient.address : Recipient → Except AddressFault LogicalAddress
  | named logical => .ok logical
  | written text => LogicalAddress.ofText text

/-- Why a packet is not sent to a recipient. -/
inductive SendFault where
  /-- The text is not that of an address. -/
  | recipient (fault : AddressFault)
  /-- The node cannot send, or its transport does not carry the datagram. -/
  | node (fault : NodeFault)
deriving DecidableEq, Repr

namespace Node

variable {σ : Type}

/-- Sends a packet to a recipient: the result, the node and the transport's state after it. -/
def sendTo (t : Transport σ) (node : Node) (recipient : Recipient) (packet : Packet) (s : σ) :
    Except SendFault Unit × Node × σ :=
  match recipient.address with
  | .error fault => (.error (.recipient fault), node, s)
  | .ok destination =>
    let turn := send t node destination packet s
    (turn.1.mapError .node, turn.2)

end Node

end RollCall
