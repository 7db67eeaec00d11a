import Mathlib.Data.List.DropRight
import RollCall.Proofs.Transport.Buffer

/-!
# Datagrams through a packet buffer

A packet buffer hands datagrams out in the order in which they were entered, and loses none but by being
cleared.  The bytes that it counts are those of the datagrams that it holds, whatever the order of the
calls, so that it can always tell beforehand whether it would take a datagram.

* `Call`, `Answer`, `perform`, `run` — a buffer over a row of calls, with what each call answered.
* `sinceClear`, `entered`, `taken` — the datagrams that went in and came out since the buffer was empty.
* `Kept.perform`, `Kept.run` — every call keeps the bounds and the order, and so does a run.
* `Sound.perform_enqueue` — **a datagram is entered or refused just as the buffer tells.**
* `first_in_first_out` — all of it for every run of calls on a new buffer.
-/

namespace RollCall.PacketBuffer

/-! ## Runs -/

/-- The calls of a buffer. -/
inductive Call where
  | enqueue (d : Delivery)
  | dequeue
  | peek
  | canEnqueue (size : Int)
  | clear
deriving DecidableEq, Repr

/-- What a call answers. -/
inductive Answer where
  | entered
  | refused (fault : LinkFault)
  | took (d : Option Delivery)
  | first (d : Option Delivery)
  | tells (room : Bool)
  | cleared
deriving DecidableEq, Repr

/-- A call and what it answered. -/
structure Event where
  call : Call
  answer : Answer
deriving DecidableEq, Repr

/-- What a call answers, and the buffer afterwards. -/
def perform (b : PacketBuffer) : Call → Answer × PacketBuffer
  | .enqueue d =>
    match b.enqueue d with
    | .ok after => (.entered, after)
    | .error fault => (.refused fault, b)
  | .dequeue => (.took b.dequeue.1, b.dequeue.2)
  | .peek => (.first b.peek?, b)
  | .canEnqueue size => (.tells (b.canEnqueue size), b)
  | .clear => (.cleared, b.clear)

/-- The events of a row of calls, after those before, and the buffer afterwards. -/
def run (calls : List Call) (s : List Event × PacketBuffer) : List Event × PacketBuffer :=
  calls.foldl (fun s call => (s.1 ++ [⟨call, (s.2.perform call).1⟩], (s.2.perform call).2)) s

/-- The datagram that an event entered. -/
def Event.entered? : Event → Option Delivery
  | ⟨.enqueue d, .entered⟩ => some d
  | _ => none

/-- The datagram that an event took out. -/
def Event.taken? : Event → Option Delivery
  | ⟨_, .took d⟩ => d
  | _ => none

/-- The events after the last call to clear the buffer. -/
def sinceClear (events : List Event) : List Event :=
  events.rtakeWhile fun event => decide (event.call ≠ .clear)

/-- The datagrams that were entered since the buffer was cleared. -/
def entered (events : List Event) : List Delivery := (sinceClear events).filterMap Event.entered?

/-- The datagrams that were taken out since the buffer was cleared. -/
def taken (events : List Event) : List Delivery := (sinceClear events).filterMap Event.taken?

variable {b : PacketBuffer} {d : Delivery} {events : List Event} {event : Event}

lemma filterMap_sinceClear (f : Event → Option Delivery) (kept : event.call ≠ .clear) :
    (sinceClear (events ++ [event])).filterMap f
      = (sinceClear events).filterMap f ++ (f event).toList := by
  rw [sinceClear, List.rtakeWhile_concat_pos _ _ _ (by simpa using kept), List.filterMap_append]
  rfl

lemma entered_append (kept : event.call ≠ .clear) :
    entered (events ++ [event]) = entered events ++ event.entered?.toList :=
  filterMap_sinceClear _ kept

lemma taken_append (kept : event.call ≠ .clear) :
    taken (events ++ [event]) = taken events ++ event.taken?.toList :=
  filterMap_sinceClear _ kept

lemma sinceClear_clear (answer : Answer) : sinceClear (events ++ [⟨.clear, answer⟩]) = [] :=
  List.rtakeWhile_concat_neg _ _ _ (by simp)

/-! ## One call -/

/-- Whatever the length of a datagram is, a buffer that counts right can tell whether it has room. -/
lemma Sound.canEnqueue_eq (sound : b.Sound) (size : Int) : b.canEnqueue size = true ↔
    b.queue.length < b.slots ∧ (b.heldBytes : Int) + size ≤ b.capacity := by
  rw [canEnqueue, Bool.and_eq_true, decide_eq_true_eq, decide_eq_true_eq, sound.used, length]

/-- **A datagram is entered just if the buffer tells that it has room**, and a refusal changes nothing. -/
theorem Sound.perform_enqueue (sound : b.Sound) (d : Delivery) :
    (b.canEnqueue d.data.length = true ∧ b.perform (.enqueue d) = (.entered, b.push d)) ∨
      b.canEnqueue d.data.length = false ∧ ∃ fault, b.perform (.enqueue d) = (.refused fault, b) := by
  rcases sound.enqueue_eq d with ⟨room, entered⟩ | ⟨full, fault, refused⟩
  · refine .inl ⟨sound.canEnqueue_iff.2 room, ?_⟩
    rw [perform, entered]
  · refine .inr ⟨Bool.eq_false_iff.2 (mt sound.canEnqueue_iff.1 full), fault, ?_⟩
    rw [perform, refused]

lemma Sound.clear (b : PacketBuffer) : b.clear.Sound := ⟨rfl, Nat.zero_le _, Nat.zero_le _⟩

/-- The buffer after some events: it counts right and keeps to its bounds, and what was entered has been
taken out, in order, or is held. -/
structure Kept (capacity slots : Int) (s : List Event × PacketBuffer) : Prop where
  sound : s.2.Sound
  capacity_eq : (s.2.capacity : Int) = capacity
  slots_eq : (s.2.slots : Int) = slots
  order : taken s.1 ++ s.2.queue = entered s.1

namespace Kept

variable {capacity slots : Int} {s : List Event × PacketBuffer}

/-- An event that neither enters nor takes out a datagram, and leaves the buffer as it is. -/
lemma idle (kept : Kept capacity slots (events, b)) (other : event.call ≠ .clear)
    (enters : event.entered? = none) (takes : event.taken? = none) :
    Kept capacity slots (events ++ [event], b) := by
  refine { kept with order := ?_ }
  rw [taken_append other, entered_append other, enters, takes]
  simpa using kept.order

lemma enqueue (kept : Kept capacity slots (events, b)) (d : Delivery) :
    Kept capacity slots (events ++ [⟨.enqueue d, (b.perform (.enqueue d)).1⟩],
      (b.perform (.enqueue d)).2) := by
  rcases kept.sound.perform_enqueue d with ⟨tells, enters⟩ | ⟨-, fault, refuses⟩
  · rw [enters]
    have room : b.HasRoom d := kept.sound.canEnqueue_iff.1 tells
    refine { kept with sound := kept.sound.push room, order := ?_ }
    have before : taken events ++ b.queue = PacketBuffer.entered events := kept.order
    rw [taken_append (by simp), entered_append (by simp), ← before]
    simp [Event.taken?, Event.entered?]
  · rw [refuses]
    exact kept.idle (by simp) rfl rfl

lemma dequeue (kept : Kept capacity slots (events, b)) :
    Kept capacity slots (events ++ [⟨.dequeue, .took b.dequeue.1⟩], b.dequeue.2) := by
  cases first : b.queue with
  | nil =>
    rw [dequeue_of_nil first]
    exact kept.idle (by simp) rfl rfl
  | cons d rest =>
    have sound := kept.sound.dequeue
    rw [dequeue_of_cons first] at sound ⊢
    refine { kept with sound := sound, order := ?_ }
    have before : taken events ++ b.queue = entered events := kept.order
    rw [taken_append (by simp), entered_append (by simp), ← before, first]
    simp [Event.taken?, Event.entered?]

lemma clear (kept : Kept capacity slots (events, b)) :
    Kept capacity slots (events ++ [⟨.clear, .cleared⟩], b.clear) := by
  refine { kept with sound := .clear b, order := ?_ }
  rw [taken, entered, sinceClear_clear]
  rfl

/-- **Every call keeps the bounds and the order.** -/
theorem perform (kept : Kept capacity slots (events, b)) (call : Call) :
    Kept capacity slots (events ++ [⟨call, (b.perform call).1⟩], (b.perform call).2) := by
  cases call with
  | enqueue d => exact kept.enqueue d
  | dequeue => exact kept.dequeue
  | peek => exact kept.idle (by simp) rfl rfl
  | canEnqueue size => exact kept.idle (by simp) rfl rfl
  | clear => exact kept.clear

lemma run (kept : Kept capacity slots s) (calls : List Call) :
    Kept capacity slots (run calls s) := by
  induction calls generalizing s with
  | nil => exact kept
  | cons call calls ih => exact ih (kept.perform call)

end Kept

/-- The events of a run are its calls, each with an answer. -/
lemma map_call_run (calls : List Call) (s : List Event × PacketBuffer) :
    (run calls s).1.map Event.call = s.1.map Event.call ++ calls := by
  induction calls generalizing s with
  | nil => simp [run]
  | cons call calls ih =>
    show (run calls _).1.map Event.call = _
    rw [ih]
    simp

lemma kept_of_create {capacity slots : Int} (made : create capacity slots = .ok b) :
    Kept capacity slots ([], b) := by
  obtain ⟨sound, empty, capacity, slots⟩ := sound_create made
  exact ⟨sound, capacity, slots, by rw [empty]; rfl⟩

/-! ## The whole run -/

/-- **A packet buffer is a bounded queue.**  Take a new buffer and any row of calls.  The bytes that it
counts are those of the datagrams that it holds, at most as many as it was made for, and it holds at most
as many datagrams as it has slots.  Before each further datagram, of whatever length, it tells just
whether a slot and as many bytes are free; if it says so the datagram is entered, and if not there is a
fault and the buffer stays as it is.  The datagrams taken out since it was last cleared and those that it
holds are, in order, the ones that were entered since then. -/
theorem first_in_first_out {capacity slots : Int} (made : create capacity slots = .ok b)
    (calls : List Call) :
    let events := (run calls ([], b)).1
    let after := (run calls ([], b)).2
    events.map Event.call = calls ∧
    after.used = (after.queue.map fun d => d.data.length).sum ∧ (after.used : Int) ≤ capacity ∧
    (after.queue.length : Int) ≤ slots ∧
    (∀ size : Int, after.canEnqueue size = true ↔
      (after.queue.length : Int) < slots ∧ (after.used : Int) + size ≤ capacity) ∧
    (∀ d, (after.canEnqueue d.data.length = true ∧
        after.perform (.enqueue d) = (.entered, after.push d)) ∨
      after.canEnqueue d.data.length = false ∧
        ∃ fault, after.perform (.enqueue d) = (.refused fault, after)) ∧
    taken events ++ after.queue = entered events := by
  intro events after
  have kept : Kept capacity slots (events, after) := (kept_of_create made).run calls
  have bytes : (after.capacity : Int) = capacity := kept.capacity_eq
  have places : (after.slots : Int) = slots := kept.slots_eq
  have sound : after.Sound := kept.sound
  refine ⟨map_call_run calls _, sound.used, ?_, ?_, ?_, sound.perform_enqueue, kept.order⟩
  · have most := sound.capacity
    rw [sound.used]
    omega
  · have most := sound.slots
    omega
  · intro size
    rw [sound.canEnqueue_eq, sound.used]
    omega

/-- A datagram of so many bytes. -/
def load (size : Nat) : Delivery := ⟨⟨"10.1.2.9", 25560⟩, List.replicate size 7⟩

/-- A datagram without bytes takes a slot.  One that is longer than the buffer, one that finds too few
free bytes and one that finds no free slot are refused. -/
def rush : List Call :=
  [.enqueue (load 9), .enqueue (load 5), .clear, .enqueue (load 6), .enqueue (load 3), .peek,
    .enqueue (load 0), .canEnqueue 2, .enqueue (load 1), .dequeue, .enqueue (load 8)]

/-- After the rush the datagram without bytes and the longest that fits are held. -/
theorem first_in_first_out_rush :
    let b : PacketBuffer := { capacity := 8, slots := 2 }
    create 8 2 = .ok b ∧ (run rush ([], b)).2.queue = [load 0, load 8] ∧
      taken (run rush ([], b)).1 = [load 6] ∧
      taken (run rush ([], b)).1 ++ (run rush ([], b)).2.queue = entered (run rush ([], b)).1 := by
  intro b
  have made : create 8 2 = .ok b := by decide
  obtain ⟨-, -, -, -, -, -, order⟩ := first_in_first_out made rush
  exact ⟨made, by decide +kernel, by decide +kernel, order⟩

end RollCall.PacketBuffer
