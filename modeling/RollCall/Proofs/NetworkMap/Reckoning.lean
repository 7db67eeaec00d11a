import Mathlib.Data.List.Induction
import RollCall.Proofs.Counter
import RollCall.Proofs.NetworkMap.Lookup

/-!
# The check of counters compares numbers

The check knows a datagram by a counter of 32 bits and by its channel, that of broadcasts or that of
datagrams to this node alone.  Behind the counter is the datagram's number in the count of its sender,
which has no end.  As long as a number lies within half the range of the last one accepted on its
channel, the check says of its counter what the comparison of the two numbers says.

* `Peer.missed?`, `Peer.checked` — what the check says of one datagram, and the entry afterwards.
* `Peer.verdicts`, `Peer.accepted` — a run of datagrams, and those of them accepted on a channel.
* `Peer.Near` — each number of a run lies close to the last one accepted on its channel.
* `expected_afterAll` — the entry expects the counter after the last number accepted.
* `verdicts_filter` — the channels do not know of each other.
* `check_reckons` — **the run compares numbers**, and on each channel those accepted and those missed
  add up to the stretch from the first number to the last.
-/

namespace RollCall

-- Powers and sums are the core library's, also where Mathlib has its own.
attribute [local instance (high)] instPowNat Zero.ofOfNat0

/-- A datagram as the check of counters meets it. -/
structure Stamp where
  /-- Whether it is a broadcast. -/
  broadcast : Bool
  /-- Its number in the count of the sender, of which the counter is what is left in 32 bits. -/
  number : Int
deriving DecidableEq, Repr

/-- A datagram of a run with what the check says of it. -/
structure Verdict where
  stamp : Stamp
  /-- How many datagrams were missed before it; nothing is said of an old one. -/
  missed : Option Nat
deriving DecidableEq, Repr

namespace Peer

variable {peer : Peer} {stamp : Stamp} {stamps : List Stamp} {channel : Bool}

/-- What the check says of a datagram: how many were missed before it, nothing if it is old. -/
def missed? (peer : Peer) (stamp : Stamp) : Option Nat :=
  (peer.accept? stamp.broadcast (Counter.wrap stamp.number)).map Prod.fst

/-- The entry after the check of a datagram; an old one leaves it as it is. -/
def checked (peer : Peer) (stamp : Stamp) : Peer :=
  ((peer.accept? stamp.broadcast (Counter.wrap stamp.number)).map Prod.snd).getD peer

/-- The entry after a run of datagrams. -/
def afterAll (peer : Peer) (stamps : List Stamp) : Peer := stamps.foldl checked peer

/-- What the check says of each datagram of a run. -/
def verdicts (peer : Peer) : List Stamp → List Verdict
  | [] => []
  | stamp :: stamps => ⟨stamp, peer.missed? stamp⟩ :: verdicts (peer.checked stamp) stamps

/-- The numbers accepted on a channel, each with how many were missed before it. -/
def accepted (channel : Bool) (peer : Peer) (stamps : List Stamp) : List (Int × Nat) :=
  (peer.verdicts stamps).filterMap fun verdict =>
    if verdict.stamp.broadcast = channel then verdict.missed.map (verdict.stamp.number, ·) else none

/-- The number accepted last on a channel. -/
def lastAccepted (channel : Bool) (peer : Peer) (stamps : List Stamp) : Option Int :=
  (peer.accepted channel stamps).getLast?.map Prod.fst

/-- Each number of a run lies within half the range of the last one accepted before it on its
channel, if any was. -/
def Near (peer : Peer) (stamps : List Stamp) : Prop :=
  ∀ place (inside : place < stamps.length),
    ∀ last ∈ peer.lastAccepted stamps[place].broadcast (stamps.take place),
      last - 2 ^ (31 : Nat) ≤ stamps[place].number ∧
        stamps[place].number ≤ last + 2 ^ (31 : Nat) - 1

instance (peer : Peer) (stamps : List Stamp) : Decidable (Near peer stamps) :=
  inferInstanceAs (Decidable (∀ place (_ : place < stamps.length), ∀ _ ∈ _, _ ∧ _))

/-- The numbers accepted and those missed before them add up to the stretch from the first number
accepted to the last. -/
def Balanced (accepted : List (Int × Nat)) : Prop :=
  ∀ first ∈ accepted.head?, ∀ last ∈ accepted.getLast?,
    (accepted.length : Int) + ((accepted.map Prod.snd).sum : Nat) = last.1 - first.1 + 1

/-! ## One datagram -/

/-- The check says what the comparison with the expected counter says. -/
lemma missed?_eq (peer : Peer) (stamp : Stamp) :
    peer.missed? stamp
      = Counter.missed? (peer.expected stamp.broadcast) (Counter.wrap stamp.number) := by
  simp [missed?, accept?, Function.comp_def]

/-- An old datagram leaves the entry as it is. -/
lemma checked_of_old (old : peer.missed? stamp = none) : peer.checked stamp = peer := by
  rw [missed?, Option.map_eq_none_iff] at old
  rw [checked, old]
  rfl

/-- A new datagram moves the expected counter of its channel past its number. -/
lemma checked_of_new {missed : Nat} (new : peer.missed? stamp = some missed) :
    peer.checked stamp = peer.expect stamp.broadcast (some (Counter.wrap (stamp.number + 1))) := by
  rw [missed?_eq] at new
  rw [checked, accept?, new, Counter.next_wrap]
  rfl

/-- The check of a datagram does not look at the other channel, and leaves it as it is. -/
lemma expected_checked_other (other : stamp.broadcast ≠ channel) :
    (peer.checked stamp).expected channel = peer.expected channel := by
  obtain rfl : channel = !stamp.broadcast := Bool.eq_not_of_ne (Ne.symm other)
  cases answer : peer.missed? stamp with
  | none => rw [checked_of_old answer]
  | some missed => rw [checked_of_new answer, expected_expect_other]

/-- **Near numbers compare.**  Where the counter after that of a number is expected, a near number is
new exactly if it is later, and the numbers in between were missed. -/
theorem missed?_of_near {last : Int}
    (expected : peer.expected stamp.broadcast = some (Counter.wrap (last + 1)))
    (near : last - 2 ^ (31 : Nat) ≤ stamp.number ∧ stamp.number ≤ last + 2 ^ (31 : Nat) - 1) :
    peer.missed? stamp
      = if last < stamp.number then some (stamp.number - last - 1).toNat else none := by
  have half : (Counter.halfRange : Int) = 2 ^ (31 : Nat) - 1 := by decide
  have other : ((counterRange - Counter.halfRange : Nat) : Int) = 2 ^ (31 : Nat) + 1 := by decide
  rw [missed?_eq, expected]
  split
  case isTrue later =>
    rw [Counter.missed?_wrap_of_le (by omega) (by omega), Int.sub_sub]
  case isFalse earlier =>
    exact Counter.missed?_wrap_of_lt (by omega) (by omega)

/-! ## The sum of a channel -/

lemma Balanced.nil : Balanced [] := by
  intro first none
  cases none

/-- One number more keeps the sum, if it is the first and nothing was missed, or if the numbers after
the last one were. -/
lemma Balanced.concat {accepted : List (Int × Nat)} {number : Int} {missed : Nat}
    (balanced : Balanced accepted)
    (follows : match accepted.getLast? with
      | none => missed = 0
      | some last => (missed : Int) = number - last.1 - 1) :
    Balanced (accepted ++ [(number, missed)]) := by
  intro first opens last closes
  obtain rfl : (number, missed) = last := by simpa using closes
  cases accepted with
  | nil =>
    obtain rfl : (number, missed) = first := by simpa using opens
    obtain rfl : missed = 0 := follows
    simp
  | cons head rest =>
    obtain rfl : head = first := by simpa using opens
    cases before : (head :: rest).getLast? with
    | none => simp at before
    | some known =>
      have sum := balanced head rfl known before
      rw [before] at follows
      simp only [List.length_append, List.map_append, List.sum_append] at sum ⊢
      simp at sum ⊢
      omega

/-! ## A run -/

lemma verdicts_append (peer : Peer) (before after : List Stamp) :
    peer.verdicts (before ++ after)
      = peer.verdicts before ++ (peer.afterAll before).verdicts after := by
  induction before generalizing peer with
  | nil => rfl
  | cons stamp before ih => simp [verdicts, afterAll, ih]

/-- The entry after one datagram more. -/
lemma afterAll_concat (peer : Peer) (before : List Stamp) (stamp : Stamp) :
    peer.afterAll (before ++ [stamp]) = (peer.afterAll before).checked stamp := by
  simp [afterAll]

/-- What is accepted with one datagram more. -/
lemma accepted_concat (peer : Peer) (before : List Stamp) (stamp : Stamp) :
    peer.accepted channel (before ++ [stamp]) = peer.accepted channel before ++
      if stamp.broadcast = channel then
        ((peer.afterAll before).missed? stamp).toList.map (stamp.number, ·)
      else [] := by
  rw [accepted, verdicts_append, List.filterMap_append, ← accepted]
  congr 1
  by_cases same : stamp.broadcast = channel
  · cases answer : (peer.afterAll before).missed? stamp <;> simp [verdicts, same, answer]
  · simp [verdicts, same]

/-- The last number accepted with one datagram more: its own, if it is on the channel and new. -/
lemma lastAccepted_concat (peer : Peer) (before : List Stamp) (stamp : Stamp) :
    peer.lastAccepted channel (before ++ [stamp])
      = if stamp.broadcast = channel ∧ (peer.afterAll before).missed? stamp ≠ none then
          some stamp.number
        else peer.lastAccepted channel before := by
  rw [lastAccepted, accepted_concat, lastAccepted]
  by_cases here : stamp.broadcast = channel
  · cases answer : (peer.afterAll before).missed? stamp <;> simp [here]
  · simp [here]

/-- **The channels do not know of each other.**  What the check says on a channel is what it says of
that channel's datagrams alone. -/
theorem verdicts_filter (channel : Bool) (peer : Peer) (stamps : List Stamp) :
    (peer.verdicts stamps).filter (·.stamp.broadcast == channel)
      = peer.verdicts (stamps.filter (·.broadcast == channel)) := by
  -- The two runs meet each datagram of the channel with entries that expect the same there.
  have alike (p q : Peer) (same : p.expected channel = q.expected channel) :
      (p.verdicts stamps).filter (·.stamp.broadcast == channel)
        = q.verdicts (stamps.filter (·.broadcast == channel)) := by
    induction stamps generalizing p q with
    | nil => rfl
    | cons stamp stamps ih =>
      by_cases here : stamp.broadcast = channel
      case pos =>
        subst here
        have answer : p.missed? stamp = q.missed? stamp := by rw [missed?_eq, missed?_eq, same]
        have after : (p.checked stamp).expected stamp.broadcast
            = (q.checked stamp).expected stamp.broadcast := by
          cases said : q.missed? stamp with
          | none => rw [checked_of_old said, checked_of_old (answer.trans said), same]
          | some missed =>
            rw [checked_of_new said, checked_of_new (answer.trans said), expected_expect_self,
              expected_expect_self]
        simp [verdicts, answer, ih _ _ after]
      case neg =>
        have after : (p.checked stamp).expected channel = q.expected channel := by
          rw [expected_checked_other here, same]
        simp [verdicts, here, ih _ _ after]
  exact alike peer peer rfl

section Reckoning

variable (fresh : ∀ channel, peer.expected channel = none)

include fresh

/-- **The entry expects the counter after the last number accepted**, and nothing on a channel where
none was. -/
theorem expected_afterAll (stamps : List Stamp) (channel : Bool) :
    (peer.afterAll stamps).expected channel
      = (peer.lastAccepted channel stamps).map fun n => Counter.wrap (n + 1) := by
  induction stamps using List.reverseRecOn with
  | nil => exact fresh channel
  | append_singleton before stamp ih =>
    rw [afterAll_concat, lastAccepted_concat]
    by_cases here : stamp.broadcast = channel
    case pos =>
      subst here
      cases answer : (peer.afterAll before).missed? stamp with
      | none => simpa [checked_of_old answer] using ih
      | some missed => simp [checked_of_new answer]
    case neg => simpa [expected_checked_other here, here] using ih

variable (near : peer.Near stamps)

include near

/-- What the check says of each datagram of the run. -/
lemma missed?_afterAll {place : Nat} (inside : place < stamps.length) :
    (peer.afterAll (stamps.take place)).missed? stamps[place]
      = match peer.lastAccepted stamps[place].broadcast (stamps.take place) with
        | none => some 0
        | some last =>
          if last < stamps[place].number then some (stamps[place].number - last - 1).toNat
          else none := by
  have expected := expected_afterAll fresh (stamps.take place) stamps[place].broadcast
  cases known : peer.lastAccepted stamps[place].broadcast (stamps.take place) with
  | none =>
    rw [known] at expected
    rw [missed?_eq, expected]
    rfl
  | some last =>
    rw [known] at expected
    exact missed?_of_near expected (near place inside last known)

/-- On each channel the datagrams accepted and those missed add up, at any point of the run. -/
lemma balanced_accepted {place : Nat} (reached : place ≤ stamps.length) (channel : Bool) :
    Balanced (peer.accepted channel (stamps.take place)) := by
  induction place with
  | zero => exact Balanced.nil
  | succ place ih =>
    have inside : place < stamps.length := reached
    have before := ih (Nat.le_of_lt inside)
    have answer := missed?_afterAll fresh near inside
    rw [← List.take_append_getElem inside, accepted_concat]
    by_cases here : stamps[place].broadcast = channel
    case neg => simpa [here] using before
    case pos =>
      subst here
      rw [if_pos rfl, answer]
      unfold lastAccepted
      cases known : (peer.accepted stamps[place].broadcast (stamps.take place)).getLast? with
      | none =>
        refine before.concat ?_
        simp [known]
      | some last =>
        simp only [Option.map_some]
        split
        case isTrue later =>
          refine before.concat ?_
          simp [known]
          omega
        case isFalse earlier => simpa using before

/-- **The run compares numbers.**  The first datagram of a channel is always new, and after it one is
new exactly if its number is later than the last one accepted on its channel; the numbers between the
two were missed.  An old datagram leaves the entry as it is, and no datagram touches the other channel.
On each channel those accepted and those missed add up to the stretch from the first number accepted to
the last, however often the counters wrap. -/
theorem check_reckons :
    (∀ place (inside : place < stamps.length),
      let stamp := stamps[place]
      let entry := peer.afterAll (stamps.take place)
      (entry.missed? stamp
        = match peer.lastAccepted stamp.broadcast (stamps.take place) with
          | none => some 0
          | some last =>
            if last < stamp.number then some (stamp.number - last - 1).toNat else none) ∧
      (entry.missed? stamp = none → entry.checked stamp = entry) ∧
      ∀ other, stamp.broadcast ≠ other →
        (entry.checked stamp).expected other = entry.expected other) ∧
    (∀ channel, (peer.verdicts stamps).filter (·.stamp.broadcast == channel)
      = peer.verdicts (stamps.filter (·.broadcast == channel))) ∧
    ∀ place ≤ stamps.length, ∀ channel,
      Balanced (peer.accepted channel (stamps.take place)) := by
  refine ⟨fun place inside => ⟨?_, checked_of_old, fun other => expected_checked_other⟩,
    fun channel => verdicts_filter channel peer stamps,
    fun place reached channel => balanced_accepted fresh near reached channel⟩
  exact missed?_afterAll fresh near inside

end Reckoning

/-- A peer of which nothing is expected yet. -/
def newcomer : Peer where
  logical := .missionControl
  physical := ⟨"10.0.0.2", 25560⟩
  lastSeen := 0

/-- Broadcasts and other datagrams take turns.  The counters of the others wrap after the first one,
and then one comes late; the broadcasts jump as far ahead and as far back as near numbers may. -/
def jumps : List Stamp :=
  [⟨false, 2 ^ (32 : Nat) - 2⟩, ⟨true, 5⟩, ⟨false, 2 ^ (32 : Nat) + 1⟩, ⟨false, 2 ^ (32 : Nat)⟩,
    ⟨true, 5 + 2 ^ (31 : Nat) - 1⟩, ⟨true, 4⟩, ⟨false, 2 ^ (32 : Nat) + 2⟩]

/-- The late one and the jump back are old, the jump ahead is new. -/
theorem check_reckons_jumps :
    (∀ channel, newcomer.expected channel = none) ∧ newcomer.Near jumps ∧
      (newcomer.verdicts jumps).map Verdict.missed
        = [some 0, some 0, some 2, none, some (2 ^ (31 : Nat) - 2), none, some 0] ∧
      newcomer.accepted false jumps
        = [(2 ^ (32 : Nat) - 2, 0), (2 ^ (32 : Nat) + 1, 2), (2 ^ (32 : Nat) + 2, 0)] ∧
      ∀ channel, Balanced (newcomer.accepted channel jumps) := by
  have fresh : ∀ channel, newcomer.expected channel = none := by decide
  have near : newcomer.Near jumps := by decide +kernel
  exact ⟨fresh, near, by decide +kernel, by decide +kernel,
    (check_reckons fresh near).2.2 jumps.length (Nat.le_refl _)⟩

end Peer

end RollCall
