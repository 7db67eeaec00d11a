import Mathlib.Algebra.GroupWithZero.Nat
import RollCall.Transport.Buffer

/-!
# The room in a packet buffer

A packet buffer counts the bytes that it holds beside the datagrams themselves.  As long as the count is
right, the two reasons to refuse a datagram come down to one: there is no free slot, or there are not
enough free bytes.

* `PacketBuffer.heldBytes`, `PacketBuffer.HasRoom` — the bytes of the datagrams that are held, and whether
  one more finds room.
* `PacketBuffer.Sound` — a buffer that counts right and keeps to its bounds; `sound_create`, `Sound.push`
  and `Sound.dequeue` say that buffers are sound.
* `PacketBuffer.Sound.canEnqueue_iff`, `PacketBuffer.Sound.enqueue_eq` — **a datagram is entered just if it
  finds room, and the buffer can tell before.**
-/

namespace RollCall.PacketBuffer

variable {b : PacketBuffer} {d : Delivery}

/-- The bytes of the datagrams that are held. -/
def heldBytes (b : PacketBuffer) : Nat := (b.queue.map fun d => d.data.length).sum

/-- There is a free slot for a datagram, and there are enough free bytes. -/
def HasRoom (b : PacketBuffer) (d : Delivery) : Prop :=
  b.queue.length < b.slots ∧ b.heldBytes + d.data.length ≤ b.capacity

instance : Decidable (b.HasRoom d) := inferInstanceAs (Decidable (_ ∧ _))

/-- A buffer that counts its bytes right and keeps to its bounds. -/
structure Sound (b : PacketBuffer) : Prop where
  used : b.used = b.heldBytes
  capacity : b.heldBytes ≤ b.capacity
  slots : b.queue.length ≤ b.slots

/-- The buffer with one more datagram at the end. -/
def push (b : PacketBuffer) (d : Delivery) : PacketBuffer :=
  { b with queue := b.queue ++ [d], used := b.used + d.data.length }

@[simp] lemma queue_push : (b.push d).queue = b.queue ++ [d] := rfl

@[simp] lemma heldBytes_push : (b.push d).heldBytes = b.heldBytes + d.data.length := by
  simp [heldBytes]

lemma push_ne (b : PacketBuffer) (d : Delivery) : b.push d ≠ b := by
  intro same
  have queues := congrArg queue same
  simp at queues

/-- A new buffer is empty and has the bounds that were asked for. -/
lemma sound_create {capacity slots : Int} (made : create capacity slots = .ok b) :
    b.Sound ∧ b.queue = [] ∧ (b.capacity : Int) = capacity ∧ (b.slots : Int) = slots := by
  unfold create at made
  split at made
  · cases made
  · cases made
    refine ⟨⟨rfl, Nat.zero_le _, Nat.zero_le _⟩, rfl, ?_, ?_⟩
    · exact Int.toNat_of_nonneg (by omega)
    · exact Int.toNat_of_nonneg (by omega)

lemma dequeue_of_nil (empty : b.queue = []) : b.dequeue = (none, b) := by
  rw [dequeue, empty]

lemma dequeue_of_cons {rest : List Delivery} (first : b.queue = d :: rest) :
    b.dequeue = (some d, { b with queue := rest, used := b.used - d.data.length }) := by
  rw [dequeue, first]

namespace Sound

/-- A buffer can tell whether a datagram finds room. -/
lemma canEnqueue_iff (sound : b.Sound) : b.canEnqueue d.data.length = true ↔ b.HasRoom d := by
  simp only [canEnqueue, HasRoom, Bool.and_eq_true, decide_eq_true_eq, sound.used]
  exact and_congr_right fun _ => by omega

/-- **A datagram is entered just if it finds room.**  One that is longer than the whole buffer finds none. -/
theorem enqueue_eq (sound : b.Sound) (d : Delivery) :
    (b.HasRoom d ∧ b.enqueue d = .ok (b.push d)) ∨
      ¬ b.HasRoom d ∧ ∃ fault, b.enqueue d = .error fault := by
  by_cases room : b.HasRoom d
  · have short : ¬ b.capacity < d.data.length := by
      have bytes := room.2
      omega
    refine .inl ⟨room, ?_⟩
    rw [enqueue, if_neg short, if_pos (sound.canEnqueue_iff.2 room), push]
  · have full : ¬ b.canEnqueue d.data.length = true := fun tells => room (sound.canEnqueue_iff.1 tells)
    refine .inr ⟨room, ?_⟩
    rw [enqueue, if_neg full]
    split <;> exact ⟨_, rfl⟩

lemma push (sound : b.Sound) (room : b.HasRoom d) : (b.push d).Sound := by
  refine ⟨?_, ?_, ?_⟩
  · rw [heldBytes_push, ← sound.used]
    rfl
  · rw [heldBytes_push]
    exact room.2
  · rw [queue_push, List.length_append]
    exact room.1

lemma dequeue (sound : b.Sound) : b.dequeue.2.Sound := by
  cases first : b.queue with
  | nil =>
    rw [dequeue_of_nil first]
    exact sound
  | cons d rest =>
    obtain ⟨used, capacity, slots⟩ := sound
    rw [heldBytes, first] at used capacity
    rw [first] at slots
    simp only [List.map_cons, List.sum_cons, List.length_cons] at used capacity slots
    rw [dequeue_of_cons first]
    constructor <;> simp only [heldBytes] <;> omega

end Sound

end RollCall.PacketBuffer
