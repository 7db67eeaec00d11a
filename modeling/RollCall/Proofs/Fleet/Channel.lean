import Mathlib.Tactic.Lemma
import RollCall.Proofs.Counter

/-!
# The numbers of one channel

A sender numbers its datagrams to a receiver, and they wait there until they are taken.  Some may be
lost on the way, but none overtakes another.  So the datagrams that wait have rising numbers, from the
one that is expected next to the one that is given out next, and of the numbers in between as many are
missing as were lost.

* `InStep` — sender, queue and receiver agree on the numbers.
* `InStep.send`, `InStep.lose` — a datagram is put at the end of the queue, or lost.
* `InStep.take` — **the first datagram is taken, and after no more missed ones than were lost.**
* `InStep.forget` — the receiver forgets what it expects.
-/

namespace RollCall

/-- The numbers behind the counters of a channel: `first` is the one expected next, `last` the one
given out next, and `numbers` are those of the datagrams that wait. -/
structure Backlog (waiting : List Int) (next : Int) (expected : Option Int) (lost : Nat)
    (first last : Int) (numbers : List Int) : Prop where
  counters : waiting = numbers.map Counter.wrap
  next : next = Counter.wrap last
  expected : expected = none ∨ expected = some (Counter.wrap first)
  rising : numbers.Pairwise (· < ·)
  inside : ∀ n ∈ numbers, first ≤ n ∧ n < last
  ordered : first ≤ last
  complete : last - first ≤ numbers.length + lost

/-- The counters that wait on a channel, the one given out next, and the one expected next, if any is,
agree, with so many datagrams lost. -/
def InStep (waiting : List Int) (next : Int) (expected : Option Int) (lost : Nat) : Prop :=
  ∃ first last numbers, Backlog waiting next expected lost first last numbers

/-- Of rising numbers no more fit between two bounds than there are numbers. -/
lemma length_le_of_rising {low high : Int} {numbers : List Int}
    (rising : numbers.Pairwise (· < ·)) (inside : ∀ n ∈ numbers, low ≤ n ∧ n < high)
    (ordered : low ≤ high) : (numbers.length : Int) ≤ high - low := by
  induction numbers generalizing low with
  | nil => simpa using ordered
  | cons n numbers ih =>
    obtain ⟨above, rising⟩ := List.pairwise_cons.1 rising
    obtain ⟨lower, upper⟩ := inside n List.mem_cons_self
    have rest : (numbers.length : Int) ≤ high - (n + 1) := by
      refine ih rising ?_ (by omega)
      intro m among
      exact ⟨above m among, (inside m (List.mem_cons_of_mem n among)).2⟩
    rw [List.length_cons]
    omega

namespace InStep

variable {waiting : List Int} {next counter : Int} {expected : Option Int} {lost more : Nat}

lemma start : InStep [] 0 none 0 :=
  ⟨0, 0, [], rfl, rfl, .inl rfl, .nil, by simp, Int.le_refl 0, by simp⟩

lemma mono (inStep : InStep waiting next expected lost) (le : lost ≤ more) :
    InStep waiting next expected more := by
  obtain ⟨first, last, numbers, backlog⟩ := inStep
  have complete := backlog.complete
  exact ⟨first, last, numbers, { backlog with complete := by omega }⟩

lemma forget (inStep : InStep waiting next expected lost) : InStep waiting next none lost := by
  obtain ⟨first, last, numbers, backlog⟩ := inStep
  exact ⟨first, last, numbers, { backlog with expected := .inl rfl }⟩

/-- Nothing is expected that was not expected before. -/
lemma expecting {other : Option Int} (inStep : InStep waiting next expected lost)
    (change : other = none ∨ other = expected) : InStep waiting next other lost := by
  rcases change with unknown | same
  · rw [unknown]
    exact inStep.forget
  · rw [same]
    exact inStep

/-- The next number is a counter already. -/
lemma wrap_next (inStep : InStep waiting next expected lost) : Counter.wrap next = next := by
  obtain ⟨first, last, numbers, backlog⟩ := inStep
  rw [backlog.next, Counter.wrap_wrap]

/-- The number of the next datagram is put to use. -/
lemma send (inStep : InStep waiting next expected lost) :
    InStep (waiting ++ [next]) (Counter.next next) expected lost := by
  obtain ⟨first, last, numbers, backlog⟩ := inStep
  have ordered := backlog.ordered
  have complete := backlog.complete
  refine ⟨first, last + 1, numbers ++ [last], ?_, ?_, backlog.expected, ?_, ?_, by omega, ?_⟩
  · rw [backlog.counters, backlog.next, List.map_append, List.map_singleton]
  · rw [backlog.next, Counter.next_wrap]
  · refine List.pairwise_append.2 ⟨backlog.rising, List.pairwise_singleton _ _, ?_⟩
    intro n among m same
    rw [List.mem_singleton.1 same]
    exact (backlog.inside n among).2
  · intro n among
    rcases List.mem_append.1 among with old | new
    · obtain ⟨lower, upper⟩ := backlog.inside n old
      omega
    · rw [List.mem_singleton.1 new]
      omega
  · simp
    omega

/-- The number of the next datagram is lost with it. -/
lemma lose (inStep : InStep waiting next expected lost) :
    InStep waiting (Counter.next next) expected (lost + 1) := by
  obtain ⟨first, last, numbers, backlog⟩ := inStep
  have ordered := backlog.ordered
  have complete := backlog.complete
  refine ⟨first, last + 1, numbers, backlog.counters, ?_, backlog.expected, backlog.rising, ?_,
    by omega, ?_⟩
  · rw [backlog.next, Counter.next_wrap]
  · intro n among
    obtain ⟨lower, upper⟩ := backlog.inside n among
    omega
  · omega

/-- **What is taken is new.**  No more are missed before it than were lost. -/
theorem take (inStep : InStep (counter :: waiting) next expected lost)
    (few : lost < Counter.halfRange) :
    ∃ missed, Counter.missed? expected counter = some missed ∧ missed ≤ lost ∧
      InStep waiting next (some (Counter.next counter)) lost := by
  obtain ⟨first, last, numbers, backlog⟩ := inStep
  cases numbers with
  | nil => cases backlog.counters
  | cons n numbers =>
    obtain ⟨rfl, rfl⟩ := List.cons.inj backlog.counters
    obtain ⟨above, rising⟩ := List.pairwise_cons.1 backlog.rising
    obtain ⟨lower, upper⟩ := backlog.inside n List.mem_cons_self
    have room : ((n :: numbers).length : Int) ≤ last - n := by
      refine length_le_of_rising backlog.rising ?_ (by omega)
      intro m among
      rcases List.mem_cons.1 among with same | later
      · omega
      · exact ⟨Int.le_of_lt (above m later), (backlog.inside m among).2⟩
    have complete := backlog.complete
    have rest : InStep (numbers.map Counter.wrap) next (some (Counter.next (Counter.wrap n))) lost := by
      refine ⟨n + 1, last, numbers, rfl, backlog.next, .inr ?_, rising, ?_, by omega, ?_⟩
      · rw [Counter.next_wrap]
      · intro m later
        exact ⟨above m later, (backlog.inside m (List.mem_cons_of_mem n later)).2⟩
      · rw [List.length_cons] at complete
        omega
    rcases backlog.expected with unknown | known
    · exact ⟨0, by rw [unknown, Counter.missed?_none], Nat.zero_le _, rest⟩
    · refine ⟨(n - first).toNat, ?_, by omega, rest⟩
      rw [known]
      exact Counter.missed?_wrap_of_le lower (by omega)

end InStep

end RollCall
