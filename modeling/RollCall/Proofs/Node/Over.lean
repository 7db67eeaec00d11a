import RollCall.Proofs.Node.Calls
import RollCall.Proofs.Transport

/-!
# Running over a part of the state

A node cannot tell a transport from one that acts on a larger state in the same way: every call gives
the same result and leaves the same node.  So what a transport notes beside its state does not change
the runs over it.

* `send_over`, `announceIfDue_over`, `drain_over`, `poll_over` — the calls of a node.
* `run_over` — whole runs.
-/

namespace RollCall.Node

variable {σ τ : Type} {t : Transport σ} {u : Transport τ} {part : τ → σ}

lemma transmit_over (acts : u.Over t part) (node : Node) (endpoint : PhysicalAddress)
    (data : Bytes) (w : τ) : transmit t node endpoint data (part w)
      = ((transmit u node endpoint data w).1, (transmit u node endpoint data w).2.1,
          part (transmit u node endpoint data w).2.2) := by
  rw [transmit, transmit, acts.send]
  rcases u.send endpoint data w with ⟨_ | _, w⟩ <;> rfl

lemma send_over (acts : u.Over t part) (node : Node) (destination : LogicalAddress)
    (packet : Packet) (w : τ) : send t node destination packet (part w)
      = ((send u node destination packet w).1, (send u node destination packet w).2.1,
          part (send u node destination packet w).2.2) := by
  rw [send, send]
  split
  · rw [sendBroadcast, sendBroadcast, acts.broadcastOctets]
    split
    · rfl
    · rcases u.broadcastOctets w with ⟨_ | octets, w⟩
      · rfl
      · dsimp only
        split
        · rfl
        · exact transmit_over acts _ _ _ w
  · rw [sendUnicast, sendUnicast]
    split
    · rfl
    · split
      · rfl
      · exact transmit_over acts _ _ _ w

lemma announceIfDue_over (acts : u.Over t part) (node : Node) (w : τ) :
    announceIfDue t node (part w)
      = ((announceIfDue u node w).1, (announceIfDue u node w).2.1,
          part (announceIfDue u node w).2.2) := by
  rw [announceIfDue, announceIfDue, announce, announce, send_over acts]
  split
  · rcases send u _ .broadcast _ w with ⟨fault | _, later, w⟩
    · dsimp only
      split <;> simp_all
    · rfl
  · rfl

lemma drain_over (acts : u.Over t part) (limit : Nat) (node : Node) (w : τ) :
    drain t limit node (part w) = ((drain u limit node w).1, (drain u limit node w).2.1,
      part (drain u limit node w).2.2) := by
  induction limit generalizing node w with
  | zero => rfl
  | succ limit ih =>
    rw [drain, drain, acts.receive]
    rcases u.receive node.room w with ⟨fault | arrived, w⟩
    · cases fault with
      | link fault => exact ih _ w
      | _ => rfl
    · cases arrived with
      | none => rfl
      | some d =>
        dsimp only
        rw [ih]

lemma poll_over (acts : u.Over t part) (node : Node) (time : Int) (w : τ) :
    poll t node time (part w)
      = ((poll u node time w).1, (poll u node time w).2.1, part (poll u node time w).2.2) := by
  rw [poll, poll, acts.poll]
  rcases u.poll (node.advance time).time w with ⟨_ | _, w⟩
  · rfl
  · dsimp only
    rw [announceIfDue_over acts]
    rcases announceIfDue u (node.advance time) w with ⟨_ | _, later, w⟩
    · rfl
    · exact drain_over acts _ _ w

/-- The same call, over the larger state; the outside leaves the rest of it alone. -/
def Call.beside {α : Type} : Call σ → Call (σ × α)
  | poll time => .poll time
  | send destination packet => .send destination packet
  | announce => .announce
  | resolve logical => .resolve logical
  | outside change => .outside fun w => (change w.1, w.2)

/-- **The runs are the same.**  Whatever a transport notes beside its state, the node after a run and
the state are those without the note. -/
theorem run_over {α : Type} {u : Transport (σ × α)} (acts : u.Over t Prod.fst)
    (calls : List (Call σ)) (node : Node) (w : σ × α) :
    run t calls node w.1 = ((run u (calls.map .beside) node w).1,
      (run u (calls.map .beside) node w).2.1) := by
  induction calls generalizing node w with
  | nil => rfl
  | cons call calls ih =>
    have step : call.perform t node w.1
        = ((call.beside.perform u node w).1, (call.beside.perform u node w).2.1) := by
      cases call with
      | poll time =>
        rw [Call.perform, poll_over acts]
        rfl
      | send destination packet =>
        rw [Call.perform, send_over acts]
        rfl
      | announce =>
        rw [Call.perform, announce, send_over acts]
        rfl
      | resolve | outside => rfl
    rw [run, step, List.map_cons, run]
    exact ih _ _

end RollCall.Node
