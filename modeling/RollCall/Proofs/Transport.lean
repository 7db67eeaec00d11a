import Mathlib.Tactic.Lemma
import RollCall.Transport.Basic

/-!
# Transports that nodes are run over

What is proved of a node holds over any transport, or over any that keeps a promise that every
transport gives.  This module has these promises, and the transports that proofs need.

* `Transport.HasBroadcast` — the transport's broadcast address is an address.
* `Transport.Orderly` — besides, its calls fail as links do, if at all.
* `Transport.Over` — a transport acts on a part of its state as another one does.
* `Transport.queue` — the plainest transport.
* `Transport.noted` — a transport that keeps notes of its `Event`s, by any rule.
* `Transport.noting`, `Transport.clocked`, `Transport.logging` — the ones that note what is handed to
  them, when they are polled, and every `Errand` with how it ended.
-/

namespace RollCall

lemma PhysicalAddress.ofBytes_of_le {octets : Bytes} (enough : 4 ≤ octets.length) (port : Int) :
    ∃ address, ofBytes octets port = .ok address := by
  match octets with
  | a :: b :: c :: d :: rest => exact ⟨_, rfl⟩
  | [] | [_] | [_, _] | [_, _, _] => simp at enough

namespace Transport

variable {σ : Type}

/-- The broadcast address can be asked for at any time, and has at least four octets. -/
structure HasBroadcast (t : Transport σ) : Prop where
  octets : ∀ s, ∃ octets, (t.broadcastOctets s).1 = .ok octets ∧ 4 ≤ octets.length

/-- A transport of which every call returns, except that the link may fail to carry a datagram. -/
structure Orderly (t : Transport σ) : Prop extends HasBroadcast t where
  poll : ∀ time s, (t.poll time s).1 = .ok ()
  send : ∀ endpoint data s fault, (t.send endpoint data s).1 = .error fault →
    ∃ link, fault = .link link
  receive : ∀ room s fault, (t.receive room s).1 = .error fault → ∃ link, fault = .link link

/-- Where the broadcast address is asked for, there is one to send to. -/
lemma HasBroadcast.address {t : Transport σ} (has : t.HasBroadcast) (port : Int) (s : σ) :
    ∃ octets address, (t.broadcastOctets s).1 = .ok octets ∧
      PhysicalAddress.ofBytes octets port = .ok address := by
  obtain ⟨octets, known, enough⟩ := has.octets s
  obtain ⟨address, reached⟩ := PhysicalAddress.ofBytes_of_le enough port
  exact ⟨octets, address, known, reached⟩

/-- The transport `u` acts on a part of its state as `t` does. -/
structure Over {τ : Type} (u : Transport τ) (t : Transport σ) (part : τ → σ) : Prop where
  poll : ∀ time w, t.poll time (part w) = ((u.poll time w).1, part (u.poll time w).2)
  send : ∀ endpoint data w, t.send endpoint data (part w)
    = ((u.send endpoint data w).1, part (u.send endpoint data w).2)
  receive : ∀ room w, t.receive room (part w) = ((u.receive room w).1, part (u.receive room w).2)
  broadcastOctets : ∀ w,
    t.broadcastOctets (part w) = ((u.broadcastOctets w).1, part (u.broadcastOctets w).2)

/-- The plainest transport: what has arrived is a queue, and what is sent goes nowhere. -/
def queue : Transport (List Delivery) where
  poll _ s := (.ok (), s)
  send _ _ s := (.ok (), s)
  receive _ s := (.ok s.head?, s.tail)
  broadcastOctets s := (.ok [255, 255, 255, 255], s)

lemma queue_orderly : queue.Orderly where
  octets _ := ⟨_, rfl, by decide⟩
  poll _ _ := rfl
  send _ _ _ _ failed := by cases failed
  receive _ _ _ failed := by cases failed

/-- What a transport was asked to do for a datagram that leaves, and what it answered. -/
inductive Errand where
  /-- It was asked for its broadcast address. -/
  | asked (answer : Except TransportFault Bytes)
  /-- It was handed a datagram. -/
  | handed (delivery : Delivery) (answer : Except TransportFault Unit)

/-- What can be noted of a transport. -/
inductive Event where
  | polled (time : Int)
  | ran (errand : Errand)

/-- The transport that keeps notes beside its state, with a rule that says what an event adds to them. -/
def noted {α : Type} (t : Transport σ) (note : Event → α → α) : Transport (σ × α) where
  poll time s :=
    let answer := t.poll time s.1
    (answer.1, answer.2, note (.polled time) s.2)
  send endpoint data s :=
    let answer := t.send endpoint data s.1
    (answer.1, answer.2, note (.ran (.handed ⟨endpoint, data⟩ answer.1)) s.2)
  receive room s :=
    let answer := t.receive room s.1
    (answer.1, answer.2, s.2)
  broadcastOctets s :=
    let answer := t.broadcastOctets s.1
    (answer.1, answer.2, note (.ran (.asked answer.1)) s.2)

/-- Whatever it notes, it acts as the transport does. -/
lemma noted_over {α : Type} (t : Transport σ) (note : Event → α → α) :
    (t.noted note).Over t Prod.fst where
  poll _ _ := rfl
  send _ _ _ := rfl
  receive _ _ := rfl
  broadcastOctets _ := rfl

/-- The transport that notes every datagram that is handed to it, whether it carries it or not. -/
def noting (t : Transport σ) : Transport (σ × List Delivery) :=
  t.noted fun event handed =>
    match event with
    | .ran (.handed delivery _) => handed ++ [delivery]
    | _ => handed

lemma noting_over (t : Transport σ) : t.noting.Over t Prod.fst := t.noted_over _

/-- The transport that notes the times that it is polled with. -/
def clocked (t : Transport σ) : Transport (σ × List Int) :=
  t.noted fun event times =>
    match event with
    | .polled time => times ++ [time]
    | .ran _ => times

lemma clocked_over (t : Transport σ) : t.clocked.Over t Prod.fst := t.noted_over _

/-- The transport that logs its errands. -/
def logging (t : Transport σ) : Transport (σ × List Errand) :=
  t.noted fun event log =>
    match event with
    | .polled _ => log
    | .ran errand => log ++ [errand]

lemma logging_over (t : Transport σ) : t.logging.Over t Prod.fst := t.noted_over _

end Transport

end RollCall
