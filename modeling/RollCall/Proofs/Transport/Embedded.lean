import Mathlib.Data.List.Basic
import RollCall.Bench.Scripted
import RollCall.Proofs.Transport
import RollCall.Proofs.Transport.Buffer
import RollCall.Transport.Embedded

/-!
# Datagrams through an embedded network stack

A datagram to be sent waits in one buffer until the stack takes it, and a datagram that the stack has
received waits in another until it is asked for.  Neither way loses, doubles or reorders any, but for what
comes when there is no room for it, and that is counted.

What has passed is kept in an account beside the transport.  Of the stack it has what the stack takes and
delivers, of the caller what the calls answer, and of the receive buffer how each datagram found it.

* `NetworkStack.noting` — a stack that notes what it takes and what it delivers.
* `Account`, `Call.perform`, `run` — a run of the transport with its account.
* `Conserved` — the account balances.
* `flush_conserves`, `foldl_stage` — the two loops of a poll.
* `Kept.perform`, `Kept.run` — every call keeps the balance, and so does a run.
* `attend_eq` — a poll that stages only what has room is never refused by the buffer.
* `conserves_datagrams` — **what is sent and received balances along every run, and no poll fails.**
-/

namespace RollCall

variable {ω : Type}

/-! ## Accounts -/

/-- What has passed between a transport and its stack. -/
structure Exchange where
  /-- The datagrams that the stack took. -/
  accepted : List Delivery := []
  /-- The datagrams that the stack had received and delivered. -/
  delivered : List Delivery := []
deriving DecidableEq, Repr

/-- The stack that notes what it takes and what it delivers. -/
def NetworkStack.noting (stack : NetworkStack ω) : NetworkStack (ω × Exchange) where
  poll time w := (stack.poll time w.1, w.2)
  transmit d w :=
    let answer := stack.transmit d w.1
    (answer.1, answer.2,
      if answer.1 then { w.2 with accepted := w.2.accepted ++ [d] } else w.2)
  drain w :=
    let answer := stack.drain w.1
    (answer.1, answer.2, { w.2 with delivered := w.2.delivered ++ answer.1 })

namespace Embedded

/-- A datagram that the stack delivered: how it found the receive buffer, and whether it was dropped. -/
structure Arrival where
  datagram : Delivery
  buffer : PacketBuffer
  dropped : Bool
deriving DecidableEq, Repr

/-- A datagram that a call to receive took: into how much room, and whether the call returned it. -/
structure Taking where
  datagram : Delivery
  room : Nat
  returned : Bool
deriving DecidableEq, Repr

/-- What has passed between a transport and its caller, and what came to the receive buffer. -/
structure Account where
  /-- The datagrams that were sent without a fault. -/
  sent : List Delivery := []
  arrivals : List Arrival := []
  takings : List Taking := []
deriving DecidableEq, Repr

/-- Datagrams come to the receive buffer one by one.  One is dropped if the buffer is the same after. -/
def arrivalsFrom (e : Embedded) : List Delivery → List Arrival
  | [] => []
  | d :: ds => ⟨d, e.rx, decide ((e.stage d).rx = e.rx)⟩ :: arrivalsFrom (e.stage d) ds

/-- The datagrams that come to the receive buffer in a poll. -/
def arrivalsOf (stack : NetworkStack ω) (time : Int) (s : Embedded × ω) : List Arrival :=
  let sent := flush stack s.1.tx.queue s.1.tx (stack.poll time s.2)
  arrivalsFrom { s.1 with tx := sent.1 } (stack.drain sent.2).1

/-- The datagram that a call to receive took, by what it answered.  A call that finds it too long for its
room does not return it, and it is the one that was first. -/
def takingsOf (e : Embedded) (room : Nat) : Except TransportFault (Option Delivery) → List Taking
  | .ok answer => answer.toList.map fun d => ⟨d, room, true⟩
  | .error (.link (.truncated _ _ _)) => e.rx.peek?.toList.map fun d => ⟨d, room, false⟩
  | .error _ => []

/-- The calls of a transport; between them the stack may change on its own. -/
inductive Call (ω : Type) where
  | send (destination : PhysicalAddress) (data : Bytes)
  | poll (time : Int)
  | receive (room : Nat)
  | outside (change : ω → ω)

/-- A transport, its stack with what it has noted, and the account. -/
abbrev Audit (ω : Type) : Type := (Embedded × ω × Exchange) × Account

/-- The transport and the account after a call. -/
def Call.perform (stack : NetworkStack ω) : Call ω → Audit ω → Audit ω
  | .send destination data, (s, account) =>
    let answer := (transport stack.noting).send destination data s
    (answer.2, if answer.1.isOk then { account with sent := account.sent ++ [⟨destination, data⟩] }
      else account)
  | .poll time, (s, account) =>
    (((transport stack.noting).poll time s).2,
      { account with arrivals := account.arrivals ++ arrivalsOf stack.noting time s })
  | .receive room, (s, account) =>
    let answer := (transport stack.noting).receive room s
    (answer.2, { account with takings := account.takings ++ takingsOf s.1 room answer.1 })
  | .outside change, (s, account) => ((s.1, change s.2.1, s.2.2), account)

/-- The transport and the account after a run of calls. -/
def run (stack : NetworkStack ω) (calls : List (Call ω)) (s : Audit ω) : Audit ω :=
  calls.foldl (fun s call => call.perform stack s) s

/-- The account of a transport balances. -/
structure Conserved (capacity slots : Int) (s : Audit ω) : Prop where
  /-- What was sent has been taken by the stack, in order, or waits. -/
  outgoing : s.1.2.2.accepted ++ s.1.1.tx.queue = s.2.sent
  delivered : s.2.arrivals.map Arrival.datagram = s.1.2.2.delivered
  /-- What was delivered and not dropped has been taken by the caller, in order, or waits. -/
  incoming : s.2.takings.map Taking.datagram ++ s.1.1.rx.queue
    = (s.2.arrivals.filter fun a => !a.dropped).map Arrival.datagram
  dropped : s.1.1.dropped = s.2.arrivals.countP Arrival.dropped
  /-- What was dropped found no free slot or not enough free bytes. -/
  crowded : ∀ a ∈ s.2.arrivals, a.dropped = true →
    slots ≤ a.buffer.queue.length ∨ capacity < (a.buffer.heldBytes + a.datagram.data.length : Nat)
  /-- What was taken was returned just if it was not too long. -/
  returned : ∀ t ∈ s.2.takings, t.returned = true ↔ t.datagram.data.length ≤ t.room

/-! ## The two loops of a poll -/

lemma flush_noting (stack : NetworkStack ω) (waiting : List Delivery) (tx : PacketBuffer)
    (w : ω × Exchange) : flush stack waiting tx w.1
      = ((flush stack.noting waiting tx w).1, (flush stack.noting waiting tx w).2.1) := by
  induction waiting generalizing tx w with
  | nil => rfl
  | cons d waiting ih =>
    have same : (stack.noting.transmit d w).1 = (stack.transmit d w.1).1 := rfl
    rw [flush, flush, same]
    split
    · exact ih _ (stack.noting.transmit d w).2
    · rfl

/-- That the stack takes notes changes nothing. -/
lemma transport_noting_over (stack : NetworkStack ω) :
    (transport stack.noting).Over (transport stack) fun s => (s.1, s.2.1) where
  poll time s := by
    have flushed : flush stack s.1.tx.queue s.1.tx (stack.poll time s.2.1) = _ :=
      flush_noting stack s.1.tx.queue s.1.tx (stack.noting.poll time s.2)
    simp only [transport, serve, flushed]
    rfl
  send destination data s := by
    simp only [transport]
    split <;> rfl
  receive room s := by
    simp only [transport]
    split
    · rfl
    · split <;> rfl
  broadcastOctets s := rfl

/-- **Sending.**  What the stack takes leaves the buffer, and what it does not take stays, in order. -/
theorem flush_conserves (stack : NetworkStack ω) {waiting : List Delivery} {tx : PacketBuffer}
    (sound : tx.Sound) (queued : tx.queue = waiting) (w : ω × Exchange) :
    (flush stack.noting waiting tx w).1.Sound ∧
      (flush stack.noting waiting tx w).2.2.accepted ++ (flush stack.noting waiting tx w).1.queue
        = w.2.accepted ++ waiting ∧
      (flush stack.noting waiting tx w).2.2.delivered = w.2.delivered := by
  induction waiting generalizing tx w with
  | nil =>
    refine ⟨sound, ?_, rfl⟩
    rw [flush, queued]
  | cons d waiting ih =>
    rw [flush]
    by_cases taken : (stack.noting.transmit d w).1 = true
    · rw [if_pos taken]
      have after : tx.dequeue.2.queue = waiting := by rw [PacketBuffer.dequeue_of_cons queued]
      obtain ⟨sound, accepted, delivered⟩ := ih sound.dequeue after (stack.noting.transmit d w).2
      have noted : (stack.noting.transmit d w).2.2 = { w.2 with accepted := w.2.accepted ++ [d] } :=
        if_pos taken
      rw [noted] at accepted delivered
      refine ⟨sound, ?_, delivered⟩
      rw [accepted, List.append_assoc, List.singleton_append]
    · rw [if_neg taken]
      have noted : (stack.noting.transmit d w).2.2 = w.2 := if_neg taken
      refine ⟨sound, ?_, ?_⟩
      · rw [noted, queued]
      · rw [noted]

/-- A datagram that comes is staged if it finds room, and dropped otherwise. -/
lemma stage_eq {e : Embedded} (sound : e.rx.Sound) (d : Delivery) :
    (e.rx.HasRoom d ∧ e.stage d = { e with rx := e.rx.push d }) ∨
      ¬ e.rx.HasRoom d ∧ e.stage d = { e with dropped := e.dropped + 1 } := by
  rcases sound.enqueue_eq d with ⟨room, entered⟩ | ⟨full, fault, refused⟩
  · exact .inl ⟨room, by rw [stage, entered]⟩
  · exact .inr ⟨full, by rw [stage, refused]⟩

/-- What datagrams that come one by one do to a transport. -/
structure Staged (e : Embedded) (arrivals : List Arrival) (after : Embedded) : Prop where
  tx : after.tx = e.tx
  sound : after.rx.Sound
  capacity : after.rx.capacity = e.rx.capacity
  slots : after.rx.slots = e.rx.slots
  /-- The buffer gets what is not dropped, in order. -/
  queue : after.rx.queue
    = e.rx.queue ++ (arrivals.filter fun a => !a.dropped).map Arrival.datagram
  dropped : after.dropped = e.dropped + arrivals.countP Arrival.dropped
  /-- What is dropped found no room. -/
  crowded : ∀ a ∈ arrivals, a.dropped = true → a.buffer.capacity = e.rx.capacity ∧
    a.buffer.slots = e.rx.slots ∧ ¬ a.buffer.HasRoom a.datagram

lemma Staged.nil {e : Embedded} (sound : e.rx.Sound) : Staged e [] e where
  tx := rfl
  sound := sound
  capacity := rfl
  slots := rfl
  queue := by simp
  dropped := by simp
  crowded := by simp

/-- A datagram that finds room goes to the end of the buffer. -/
lemma Staged.kept {e after : Embedded} {d : Delivery} {arrivals : List Arrival}
    (staged : Staged { e with rx := e.rx.push d } arrivals after) :
    Staged e (⟨d, e.rx, false⟩ :: arrivals) after where
  tx := staged.tx
  sound := staged.sound
  capacity := staged.capacity
  slots := staged.slots
  queue := by simp [staged.queue]
  dropped := by simp [staged.dropped]
  crowded := by
    intro a among dropped
    rcases List.mem_cons.1 among with rfl | among
    · cases dropped
    · exact staged.crowded a among dropped

/-- A datagram that finds no room leaves the buffer as it is. -/
lemma Staged.lost {e after : Embedded} {d : Delivery} {arrivals : List Arrival}
    (full : ¬ e.rx.HasRoom d) (staged : Staged { e with dropped := e.dropped + 1 } arrivals after) :
    Staged e (⟨d, e.rx, true⟩ :: arrivals) after where
  tx := staged.tx
  sound := staged.sound
  capacity := staged.capacity
  slots := staged.slots
  queue := by simp [staged.queue]
  dropped := by simp [staged.dropped, Nat.add_assoc, Nat.add_comm 1]
  crowded := by
    intro a among dropped
    rcases List.mem_cons.1 among with rfl | among
    · exact ⟨rfl, rfl, full⟩
    · exact staged.crowded a among dropped

/-- **Receiving.**  The datagrams that come are staged or dropped one by one. -/
theorem foldl_stage {e : Embedded} (sound : e.rx.Sound) (ds : List Delivery) :
    Staged e (arrivalsFrom e ds) (ds.foldl stage e) := by
  induction ds generalizing e with
  | nil => exact .nil sound
  | cons d ds ih =>
    rw [List.foldl_cons, arrivalsFrom]
    rcases stage_eq sound d with ⟨room, staged⟩ | ⟨full, staged⟩
    · rw [staged, decide_eq_false (PacketBuffer.push_ne e.rx d)]
      exact .kept (ih (sound.push room))
    · rw [staged, decide_eq_true rfl]
      exact .lost full (ih sound)

lemma map_datagram_arrivalsFrom (e : Embedded) (ds : List Delivery) :
    (arrivalsFrom e ds).map Arrival.datagram = ds := by
  induction ds generalizing e with
  | nil => rfl
  | cons d ds ih => rw [arrivalsFrom, List.map_cons, ih]

/-! ## Runs -/

/-- The account balances, and both buffers count right. -/
structure Kept (capacity slots : Int) (s : Audit ω) : Prop extends Conserved capacity slots s where
  tx : s.1.1.tx.Sound
  rx : s.1.1.rx.Sound
  capacity_eq : (s.1.1.rx.capacity : Int) = capacity
  slots_eq : (s.1.1.rx.slots : Int) = slots

namespace Kept

variable {stack : NetworkStack ω} {capacity slots : Int} {s : Audit ω}

lemma send (kept : Kept capacity slots s) (destination : PhysicalAddress) (data : Bytes) :
    Kept capacity slots ((Call.send destination data).perform stack s) := by
  obtain ⟨⟨e, w⟩, account⟩ := s
  simp only [Call.perform, transport]
  rcases kept.tx.enqueue_eq ⟨destination, data⟩ with ⟨room, entered⟩ | ⟨full, fault, refused⟩
  · simp only [entered]
    refine { kept with tx := kept.tx.push room, outgoing := ?_ }
    show w.2.accepted ++ (e.tx.queue ++ _) = account.sent ++ _
    rw [← List.append_assoc, kept.outgoing]
  · simp only [refused]
    exact kept

lemma poll (kept : Kept capacity slots s) (time : Int) :
    Kept capacity slots ((Call.poll time).perform stack s) := by
  obtain ⟨⟨e, w⟩, account⟩ := s
  obtain ⟨tx, sent, delivered⟩ := flush_conserves stack kept.tx rfl (stack.noting.poll time w)
  simp only [Call.perform, transport, serve, arrivalsOf]
  generalize flush stack.noting e.tx.queue e.tx (stack.noting.poll time w) = flushed at tx sent delivered ⊢
  have staged := foldl_stage (e := { e with tx := flushed.1 }) kept.rx (stack.noting.drain flushed.2).1
  have all := map_datagram_arrivalsFrom { e with tx := flushed.1 } (stack.noting.drain flushed.2).1
  generalize arrivalsFrom { e with tx := flushed.1 } (stack.noting.drain flushed.2).1 = arrivals
    at staged all ⊢
  constructor
  case toConserved =>
    constructor
    case outgoing =>
      show flushed.2.2.accepted ++ _ = account.sent
      rw [staged.tx, sent]
      exact kept.outgoing
    case delivered =>
      show _ = flushed.2.2.delivered ++ (stack.drain flushed.2.1).1
      rw [List.map_append, kept.delivered, delivered, all]
      rfl
    case incoming =>
      rw [staged.queue, ← List.append_assoc, kept.incoming, List.filter_append, List.map_append]
    case dropped =>
      rw [staged.dropped, List.countP_append, ← kept.dropped]
    case crowded =>
      intro a among dropped
      rcases List.mem_append.1 among with before | now
      · exact kept.crowded a before dropped
      · obtain ⟨capacity, slots, full⟩ := staged.crowded a now dropped
        have widths := kept.capacity_eq
        have places := kept.slots_eq
        rw [PacketBuffer.HasRoom, capacity, slots] at full
        dsimp only at widths places full
        omega
    case returned => exact kept.returned
  case tx =>
    rw [staged.tx]
    exact tx
  case rx => exact staged.sound
  case capacity_eq =>
    rw [staged.capacity]
    exact kept.capacity_eq
  case slots_eq =>
    rw [staged.slots]
    exact kept.slots_eq

lemma receive (kept : Kept capacity slots s) (room : Nat) :
    Kept capacity slots ((Call.receive room).perform stack s) := by
  obtain ⟨⟨e, w⟩, account⟩ := s
  have incoming := kept.incoming
  have taken := kept.rx.dequeue
  simp only [Call.perform, transport]
  cases first : e.rx.queue with
  | nil =>
    rw [PacketBuffer.dequeue_of_nil first]
    simpa [takingsOf] using kept
  | cons d rest =>
    dsimp only at incoming taken
    rw [first] at incoming
    rw [PacketBuffer.dequeue_of_cons first] at taken ⊢
    have peeked : e.rx.peek? = some d := by rw [PacketBuffer.peek?, first, List.head?_cons]
    -- Returned or not, the datagram leaves the buffer and is taken.
    have next (returned : Bool) (fair : returned = true ↔ d.data.length ≤ room) :
        Kept capacity slots (({ e with rx := { e.rx with
            queue := rest, used := e.rx.used - d.data.length } }, w),
          { account with takings := account.takings ++ [⟨d, room, returned⟩] }) := by
      refine { kept with rx := taken, incoming := ?_, returned := ?_ }
      · simpa using incoming
      · intro t among
        rcases List.mem_append.1 among with before | now
        · exact kept.returned t before
        · cases List.mem_singleton.1 now
          exact fair
    dsimp only
    split
    case isTrue long =>
      simp only [takingsOf, peeked]
      exact next false (by simp [long])
    case isFalse fits => exact next true (by simpa using fits)

/-- **Every call keeps the balance.** -/
theorem perform (kept : Kept capacity slots s) (call : Call ω) :
    Kept capacity slots (call.perform stack s) := by
  cases call with
  | send destination data => exact kept.send destination data
  | poll time => exact kept.poll time
  | receive room => exact kept.receive room
  | outside change => exact { kept with }

lemma run (kept : Kept capacity slots s) (calls : List (Call ω)) :
    Kept capacity slots (run stack calls s) := by
  induction calls generalizing s with
  | nil => exact kept
  | cons call calls ih => exact ih (kept.perform call)

end Kept

/-- A new transport has passed nothing. -/
lemma kept_of_create {e : Embedded} {cidr : String} {capacity slots : Int}
    (made : create cidr capacity slots = .ok e) (w : ω) :
    Kept capacity slots (((e, w, {}), {}) : Audit ω) := by
  unfold create at made
  split at made
  · cases made
  · cases built : PacketBuffer.create capacity slots with
    | error fault => rw [built] at made; cases made
    | ok buffer =>
      rw [built] at made
      cases made
      obtain ⟨sound, empty, capacity, slots⟩ := PacketBuffer.sound_create built
      constructor
      case toConserved => constructor <;> simp [empty]
      case tx => exact sound
      case rx => exact sound
      case capacity_eq => exact capacity
      case slots_eq => exact slots

/-! ## Polls that could be refused -/

/-- Takes in one received datagram: it is dropped if the buffer tells that it finds no room, and entered
otherwise. -/
def takeIn (e : Embedded) (d : Delivery) : Except LinkFault Embedded :=
  if e.rx.canEnqueue d.data.length then (e.rx.enqueue d).map fun rx => { e with rx := rx }
  else .ok { e with dropped := e.dropped + 1 }

/-- A poll that asks the buffer first and then enters what finds room, so that the buffer could refuse. -/
def attend (stack : NetworkStack ω) (time : Int) (e : Embedded) (w : ω) :
    Except LinkFault (Embedded × ω) :=
  let sent := flush stack e.tx.queue e.tx (stack.poll time w)
  let received := stack.drain sent.2
  (received.1.foldlM takeIn { e with tx := sent.1 }).map fun e => (e, received.2)

lemma takeIn_eq {e : Embedded} (sound : e.rx.Sound) (d : Delivery) : e.takeIn d = .ok (e.stage d) := by
  have tells := sound.canEnqueue_iff (d := d)
  rcases sound.enqueue_eq d with ⟨room, entered⟩ | ⟨full, fault, refused⟩
  · rw [takeIn, stage, if_pos (tells.2 room), entered]
    rfl
  · rw [takeIn, stage, if_neg (mt tells.1 full), refused]

lemma sound_stage {e : Embedded} (sound : e.rx.Sound) (d : Delivery) : (e.stage d).rx.Sound := by
  rcases stage_eq sound d with ⟨room, staged⟩ | ⟨full, staged⟩
  · rw [staged]
    exact sound.push room
  · rw [staged]
    exact sound

lemma foldlM_takeIn {e : Embedded} (sound : e.rx.Sound) (ds : List Delivery) :
    ds.foldlM takeIn e = .ok (ds.foldl stage e) := by
  induction ds generalizing e with
  | nil => rfl
  | cons d ds ih =>
    rw [List.foldlM_cons, takeIn_eq sound, List.foldl_cons]
    exact ih (sound_stage sound d)

/-- **A poll is never refused** by a buffer that counts right. -/
theorem attend_eq (stack : NetworkStack ω) (time : Int) {e : Embedded} (sound : e.rx.Sound) (w : ω) :
    attend stack time e w = .ok (serve stack time e w) := by
  have admitted (tx : PacketBuffer) (ds : List Delivery) := foldlM_takeIn (e := { e with tx := tx }) sound ds
  rw [attend, admitted]
  rfl

/-! ## The balance of a run -/

/-- **What is sent and received balances along every run.**  Take a new transport over any stack, which
takes or refuses what it likes and delivers what it likes, and any run of calls.  What the stack has taken
and what waits to be sent are, in order, the datagrams that were sent without a fault.  What the caller has
taken and what waits for it are, in order, the datagrams that the stack delivered but for those dropped;
these are counted, and each had found no free slot or not enough free bytes.  A poll never fails, even one
whose buffer could refuse what it enters.  The notes that this is told by change nothing. -/
theorem conserves_datagrams {e : Embedded} {cidr : String} {capacity slots : Int}
    (made : create cidr capacity slots = .ok e) (stack : NetworkStack ω) (w : ω)
    (calls : List (Call ω)) :
    Conserved capacity slots (run stack calls ((e, w, {}), {})) ∧
      (∀ time later, attend stack time (run stack calls ((e, w, {}), {})).1.1 later
        = .ok ((transport stack).poll time ((run stack calls ((e, w, {}), {})).1.1, later)).2) ∧
      (transport stack.noting).Over (transport stack) fun s => (s.1, s.2.1) :=
  have kept : Kept capacity slots (run stack calls ((e, w, {}), {})) := (kept_of_create made w).run calls
  ⟨kept.toConserved, fun time later => attend_eq stack time kept.rx later, transport_noting_over stack⟩

/-- A datagram of so many bytes, to or from one of the hosts. -/
def parcel (size : Nat) : Delivery := ⟨⟨"10.1.2.9", 25560⟩, List.replicate size 7⟩

/-- What a stack has received that takes only one datagram for now. -/
def burst : ScriptedStack where
  inbound := [parcel 3, parcel 6, parcel 4, parcel 1]
  accepts := some 1

/-- Two datagrams are sent and a third finds no room; the stack takes one.  What the stack has received
comes, and the caller asks twice, once with too little room.  Then the stack takes all. -/
def errands : List (Call ScriptedStack) :=
  [.send (parcel 3).endpoint (parcel 3).data, .send (parcel 4).endpoint (parcel 4).data,
    .send (parcel 2).endpoint (parcel 2).data, .poll 10, .receive 2, .receive 8,
    .outside fun stack => { stack with accepts := none }, .poll 20]

/-- A transport with eight bytes and two slots each way. -/
def narrow : Embedded where
  broadcast := ⟨0x0a0102ff, by decide⟩
  rx := { capacity := 8, slots := 2 }
  tx := { capacity := 8, slots := 2 }

/-- Of the four datagrams received one is dropped for its length and one for want of a slot. -/
theorem conserves_datagrams_errands :
    create "10.1.2.3/24" 8 2 = .ok narrow ∧
    (run ScriptedStack.calls errands ((narrow, burst, {}), {})).1.2.2
      = ⟨[parcel 3, parcel 4], [parcel 3, parcel 6, parcel 4, parcel 1]⟩ ∧
    (run ScriptedStack.calls errands ((narrow, burst, {}), {})).1.1.dropped = 2 ∧
    (run ScriptedStack.calls errands ((narrow, burst, {}), {})).2.takings
      = [⟨parcel 3, 2, false⟩, ⟨parcel 4, 8, true⟩] ∧
    Conserved 8 2 (run ScriptedStack.calls errands ((narrow, burst, {}), {})) :=
  have made : create "10.1.2.3/24" 8 2 = .ok narrow := by decide +kernel
  ⟨made, by decide +kernel, by decide +kernel, by decide +kernel,
    (conserves_datagrams made ScriptedStack.calls burst errands).1⟩

end Embedded

end RollCall
