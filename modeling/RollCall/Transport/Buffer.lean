import RollCall.Transport.Basic

/-!
# Packet buffers

A packet buffer is a first-in first-out queue of datagrams with a bound on their number and on the
sum of their lengths.

* `PacketBuffer.create` — an empty buffer.
* `PacketBuffer.canEnqueue` — whether a datagram of some length finds room.
* `PacketBuffer.enqueue`, `PacketBuffer.peek?`, `PacketBuffer.dequeue` — the queue's operations.
-/

namespace RollCall

/-- A bounded queue of datagrams, the oldest first. -/
structure PacketBuffer where
  /-- The most bytes that are held. -/
  capacity : Nat
  /-- The most datagrams that are held. -/
  slots : Nat
  queue : List Delivery := []
  /-- The bytes that are held. -/
  used : Nat := 0
deriving DecidableEq, Repr

namespace PacketBuffer

/-- The bytes of a socket's buffer where no other size is asked for. -/
def defaultCapacity : Int := 512

/-- The datagrams of a socket's buffer where no other number is asked for. -/
def defaultSlots : Int := 8

/-- The empty buffer. -/
def create (capacity slots : Int) : Except SetupFault PacketBuffer :=
  if capacity ≤ 0 ∨ slots ≤ 0 then .error (.noCapacity capacity slots)
  else .ok { capacity := capacity.toNat, slots := slots.toNat }

/-- The number of datagrams held. -/
def length (b : PacketBuffer) : Nat := b.queue.length

/-- Whether a datagram of a length finds room. -/
def canEnqueue (b : PacketBuffer) (size : Int) : Bool :=
  decide (b.length < b.slots) && decide ((b.used : Int) + size ≤ b.capacity)

/-- Enters a datagram at the end. -/
def enqueue (b : PacketBuffer) (d : Delivery) : Except LinkFault PacketBuffer :=
  if b.capacity < d.data.length then .error (.exceedsCapacity d.data.length b.capacity)
  else if b.canEnqueue d.data.length then
    .ok { b with queue := b.queue ++ [d], used := b.used + d.data.length }
  else .error (.bufferFull b.length b.used)

/-- The oldest datagram. -/
def peek? (b : PacketBuffer) : Option Delivery := b.queue.head?

/-- Takes the oldest datagram. -/
def dequeue (b : PacketBuffer) : Option Delivery × PacketBuffer :=
  match b.queue with
  | [] => (none, b)
  | d :: rest => (some d, { b with queue := rest, used := b.used - d.data.length })

/-- The buffer without datagrams. -/
def clear (b : PacketBuffer) : PacketBuffer := { b with queue := [], used := 0 }

end PacketBuffer

end RollCall
