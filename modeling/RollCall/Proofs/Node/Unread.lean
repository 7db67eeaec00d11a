import RollCall.Proofs.Node.Accounting
import RollCall.Proofs.Node.Restart

/-!
# Datagrams that arrive and cannot be read

The datagrams missed are inferred from the counters: those between the one expected and the one that
comes.  A datagram whose body the node cannot decode is counted as malformed and its sender is held
for it, but its counter is not looked at, so that the same counter is still expected afterwards.
The next datagram that can be decoded is then found to come too late, and the node counts those
before it as missed, although they have arrived.

* `Outcome.missed`, `missed_run` — what an outcome adds to the datagrams missed, and what a run
  does.
* `Arrival.on_channel` — what becomes of a datagram of a peer that is held.
* `Arrival.gap` — how many datagrams of a channel have come since the last one that was decoded.
* `Seamless` — no datagram is decoded after ones that were not, unless nothing was expected.
* `seamless_course` — the arrivals of a course that have come without a gap are in order exactly if
  they are seamless.
* `unmissed_iff_seamless` — **what has arrived is not missed exactly if it is seamless.**
-/

namespace RollCall

-- Powers are the core library's, also where Mathlib has its own.
attribute [local instance (high)] instPowNat

/-- The number of datagrams that are found to be missed before one. -/
def Outcome.missed : Outcome → Nat
  | announced missed | surfaced _ missed => missed
  | _ => 0

/-- A datagram that has come in order: it is counted as received, announced or malformed, and none
is found to be missed before it. -/
def Outcome.isInOrder (outcome : Outcome) : Bool :=
  outcome.missed == 0 &&
    [some Tally.received, some .announcements, some .malformed].contains outcome.tally?

lemma Outcome.isInOrder_outcomeOf (sender : LogicalAddress) (packet : Packet)
    (missed : Option Nat) :
    (Node.outcomeOf sender packet missed).isInOrder = decide (missed = some 0) := by
  cases missed with
  | none => rfl
  | some missed =>
    cases kind : packet.isAnnouncement <;>
      simp [Node.outcomeOf, kind, isInOrder, Outcome.missed, tally?, Bool.beq_eq_decide_eq]

/-- Noting a session that shows a restart clears what is expected, and noting any other changes
nothing of it. -/
lemma Peer.expected_noted_eq (peer : Peer) (session : Option Int) (channel : Bool) :
    (peer.noted session).expected channel
      = if session.any peer.hasRestarted then none else peer.expected channel := by
  cases session with
  | none => rfl
  | some announced =>
    cases known : peer.session with
    | none =>
      rw [expected_noted (fun _ _ => .inl known)]
      simp [hasRestarted, known]
    | some before =>
      by_cases same : before = announced
      · subst same
        rw [expected_noted (by rintro _ ⟨⟩; exact .inr known)]
        simp [hasRestarted, known]
      · simp only [noted, noteSession, known, hasRestarted, Option.any_some,
          bne_iff_ne, ne_eq, same, not_false_eq_true, if_true]
        cases channel <;> rfl

/-- The check of a counter gives what was missed before it. -/
lemma Peer.hear_fst (channel : Bool) (counter : Int) (session : Option Int) (peer : Peer) :
    (Peer.hear true channel counter session peer).1
      = Counter.missed? ((peer.noted session).expected channel) counter := by
  rw [hear_checked]
  split <;> simp_all

/-- A counter that is checked and new moves what is expected past it. -/
lemma Peer.expected_hear_self {peer : Peer} {channel : Bool} {counter : Int}
    {session : Option Int} {missed : Nat}
    (new : (Peer.hear true channel counter session peer).1 = some missed) :
    (Peer.hear true channel counter session peer).2.expected channel
      = some (Counter.next counter) := by
  rw [hear_fst] at new
  rw [hear_checked, new]
  exact expected_expect_self _ _ _

/-- On the other channel a datagram shows only by the session that it announces. -/
lemma Peer.expected_hear_other {other channel : Bool} (different : channel ≠ other)
    (counter : Int) (session : Option Int) (peer : Peer) :
    (Peer.hear true other counter session peer).2.expected channel
      = (peer.noted session).expected channel := by
  obtain rfl : channel = !other := Bool.eq_not_of_ne different
  rw [hear_checked]
  split
  · exact expected_expect_other _ _ _
  · rfl

/-- Nothing is missed before a number if nothing is expected, or if it lies past the one expected by
a multiple of the range of counters. -/
lemma Counter.missed?_eq_zero_iff (number : Int) (gap : Option Nat) :
    missed? (gap.map fun k : Nat => wrap (number - k)) (wrap number) = some 0
      ↔ ∀ k ∈ gap, counterRange ∣ k := by
  cases gap with
  | none => simp [missed?_none]
  | some k =>
    have positive : 0 < halfRange := by decide
    have distance : number - (number - k) = (k : Int) := by omega
    rw [Option.map_some, missed?_eq_some_iff, ahead_wrap, and_iff_left positive, distance, wrap,
      ← Int.natCast_emod, Int.toNat_natCast]
    simpa using (Nat.dvd_iff_mod_eq_zero).symm

namespace Node

variable {σ : Type} {t : Transport σ} {a : Arrival} {peer : LogicalAddress} {channel : Bool}
  {m n : Node} {heard : List Arrival}

/-! ## What is counted as missed -/

/-- The datagrams missed as a gauge. -/
def missedGauge : Gauge where
  amount traffic := traffic.missed
  weight attempt := ((attempt.arrival?.map fun a => a.outcome.missed).getD 0 : Nat)
  heard node d := by
    show (node.traffic.tally (node.judge d.data d.endpoint).1).missed
      = node.traffic.missed + ((node.judge d.data d.endpoint).1.missed : Int)
    cases (node.judge d.data d.endpoint).1 <;> simp [Traffic.tally, Outcome.missed]
  failed node fault := by simp [countReceiveError, Attempt.arrival?]

lemma total_missedGauge (attempts : List Attempt) :
    missedGauge.total attempts
      = (((attempts.filterMap Attempt.arrival?).map fun a => a.outcome.missed).sum : Nat) := by
  induction attempts with
  | nil => rfl
  | cons attempt attempts ih =>
    rw [Gauge.total_cons, ih]
    cases attempt with
    | heard arrival =>
      rw [List.filterMap_cons_some (show (Attempt.heard arrival).arrival? = some arrival from rfl),
        List.map_cons, List.sum_cons, Nat.cast_add]
      rfl
    | failed fault =>
      rw [List.filterMap_cons_none (show (Attempt.failed fault).arrival? = none from rfl)]
      exact Int.zero_add _

/-- **A run misses what its arrivals are found to miss.** -/
theorem missed_run (t : Transport σ) (calls : List (Call σ)) (node : Node) (s : σ) :
    (run t calls node s).1.traffic.missed = node.traffic.missed
      + (((arrivals t calls node s).map fun a => a.outcome.missed).sum : Nat) := by
  rw [← arrivals_attempts, ← total_missedGauge]
  exact missedGauge.amount_run t calls node s

/-! ## A datagram on a channel -/

/-- The counter of a datagram of the peer on a channel, whether or not its body can be decoded. -/
def Arrival.stampOn? (peer : LogicalAddress) (channel : Bool) (a : Arrival) : Option Int :=
  if a.channel? peer = some channel then a.envelope?.map Envelope.counter else none

/-- What becomes of a datagram that comes on a channel of a peer that is held then. -/
inductive Arrival.OnChannel (a : Arrival) (peer : LogicalAddress) (channel : Bool) : Prop
  /-- The body cannot be decoded: the datagram is malformed, and the peer is as it was entered. -/
  | unread : a.letter? peer = none → a.outcome = .malformed →
      a.after.map.find? peer = some (a.known peer) → OnChannel a peer channel
  /-- The body is a packet, and the peer is heard. -/
  | read {envelope : Envelope} {packet : Packet} : a.letter? peer = some (envelope, packet) →
      a.stampOn? peer channel = some envelope.counter →
      a.outcome = outcomeOf peer packet (Peer.hear a.node.config.dedupe channel envelope.counter
        packet.session? (a.known peer)).1 →
      a.after.map.find? peer = some (Peer.hear a.node.config.dedupe channel envelope.counter
        packet.session? (a.known peer)).2 → OnChannel a peer channel

lemma Arrival.channel?_eq_some_iff : a.channel? peer = some channel ↔ ∃ envelope,
    a.envelope? = some envelope ∧ envelope.sender = peer ∧
      a.node.isAddressed envelope.destination = true ∧
      envelope.destination.isBroadcast = channel := by
  simp only [channel?, Option.bind_eq_some_iff, Option.ite_none_right_eq_some, Option.some.injEq,
    and_assoc]

lemma Arrival.on_channel (distinct : a.node.map.Distinct)
    (heard : a.channel? peer = some channel) (held : a.after.map.contains peer = true)
    (foreign : peer ≠ a.node.host) (unicast : peer.isBroadcast = false) :
    a.OnChannel peer channel := by
  obtain ⟨envelope, read, rfl, addressed, rfl⟩ := channel?_eq_some_iff.1 heard
  have decoded : Envelope.decode a.datagram.data = .ok envelope := by
    rw [envelope?] at read
    cases decoded : Envelope.decode a.datagram.data with
    | error fault => rw [decoded] at read; cases read
    | ok other => rw [decoded] at read; cases read; rfl
  have exits := judged a.node a.datagram.data a.datagram.endpoint
  have outcome : a.outcome = (a.node.judge a.datagram.data a.datagram.endpoint).1 := rfl
  have map : a.after.map = (a.node.judge a.datagram.data a.datagram.endpoint).2 := rfl
  generalize a.node.judge a.datagram.data a.datagram.endpoint = result at exits outcome map
  cases exits with
  | unreadable undecoded => rw [decoded] at undecoded; cases undecoded
  | own decoded' same =>
    cases decoded.symm.trans decoded'
    exact absurd same foreign
  | pretended decoded' _ named =>
    cases decoded.symm.trans decoded'
    rw [unicast] at named
    cases named
  | unmapped decoded' _ _ refused =>
    -- A peer that is held needs no room, so that it would not have been refused.
    cases decoded.symm.trans decoded'
    obtain ⟨entry, found⟩ := Option.isSome_iff_exists.1 held
    rw [map] at found
    have before := distinct.find?_of_observe_error refused found
    rw [NetworkMap.observe, if_neg (by simp [unicast]), before] at refused
    cases refused
  | misaddressed learned elsewhere =>
    cases decoded.symm.trans learned.decoded
    rw [addressed] at elsewhere
    cases elsewhere
  | @undecodable _ entry after fault learned _ body =>
    cases decoded.symm.trans learned.decoded
    obtain ⟨rfl, found⟩ := distinct.find?_observe_self learned.observed
    have packed : a.packet? = none := by
      rw [packet?, read]
      show (Datagram.decodeBody a.node.codec envelope.kind a.datagram.data).toOption = none
      rw [body]
      rfl
    refine .unread ?_ outcome (by rw [map]; exact found)
    rw [letter?, read, packed, Option.bind_some]
    split <;> rfl
  | @decoded _ entry after packet learned _ body =>
    cases decoded.symm.trans learned.decoded
    obtain ⟨rfl, found⟩ := distinct.find?_observe_self learned.observed
    have packed : a.packet? = some packet := by
      rw [packet?, read]
      show (Datagram.decodeBody a.node.codec envelope.kind a.datagram.data).toOption = some packet
      rw [body]
      rfl
    refine .read (letter?_eq_some_iff.2 ⟨read, packed, rfl, addressed⟩) ?_ outcome ?_
    · rw [stampOn?, if_pos heard, read]
      rfl
    · rw [map, NetworkMap.find?_update (fun peer => Peer.logical_hear _ _ _ _ peer), if_pos rfl,
        found]
      rfl

/-! ## Gaps that are none -/

/-- Whether a datagram of the peer shows that it has restarted. -/
def Arrival.restarts (a : Arrival) (peer : LogicalAddress) : Bool :=
  (a.letter? peer).any fun letter => letter.2.session?.any (a.known peer).hasRestarted

/-- How many datagrams of a channel have come since the last one that was decoded, after an arrival;
`none` where nothing is expected on the channel. -/
def Arrival.gap (peer : LogicalAddress) (channel : Bool) (before : Option Nat) (a : Arrival) :
    Option Nat :=
  if a.channel? peer = some channel then
    if (a.letter? peer).isSome then some 0 else before.map (· + 1)
  else if a.restarts peer then none else before

/-- Whether a datagram of the channel is decoded, if it is, with nothing expected or right after
another that was.  It does so too if so many came in between that the counters are round again. -/
def Arrival.Joins (peer : LogicalAddress) (channel : Bool) (gap : Option Nat) (a : Arrival) :
    Prop :=
  a.channel? peer = some channel → (a.letter? peer).isSome = true → a.restarts peer = false →
    ∀ k ∈ gap, counterRange ∣ k

/-- Every datagram of the channel that is decoded joins on. -/
def Seamless (peer : LogicalAddress) (channel : Bool) : Option Nat → List Arrival → Prop
  | _, [] => True
  | gap, a :: later =>
    a.Joins peer channel gap ∧ Seamless peer channel (a.gap peer channel gap) later

instance (gap : Option Nat) : Decidable (a.Joins peer channel gap) :=
  inferInstanceAs (Decidable (_ → _ → _ → ∀ k ∈ gap, _))

instance Seamless.decidable (peer : LogicalAddress) (channel : Bool) :
    ∀ (gap : Option Nat) (heard : List Arrival), Decidable (Seamless peer channel gap heard)
  | _, [] => inferInstanceAs (Decidable True)
  | gap, a :: later =>
    have := Seamless.decidable peer channel (a.gap peer channel gap) later
    inferInstanceAs (Decidable (a.Joins peer channel gap ∧ Seamless peer channel _ later))

/-- The counter of the next datagram on a channel has that number, and the one expected lies before
it by the datagrams that could not be read. -/
def Awaits (peer : LogicalAddress) (channel : Bool) (gap : Option Nat) (next : Int) (node : Node) :
    Prop :=
  node.map.expectation peer channel = gap.map fun k : Nat => Counter.wrap (next - k)

variable {gap : Option Nat} {next : Int}

lemma Arrival.channel?_of_letter (letter : (a.letter? peer).isSome = true) :
    a.channel? peer ≠ none := by
  obtain ⟨⟨envelope, packet⟩, is⟩ := Option.isSome_iff_exists.1 letter
  obtain ⟨read, -, meant⟩ := letter?_eq_some_iff.1 is
  rw [channel?, read, Option.bind_some, if_pos meant]
  exact Option.some_ne_none _

/-- What is expected of a peer as it is entered, once an announced session is noted. -/
lemma Awaits.noted (awaits : Awaits peer channel gap next a.node) {envelope : Envelope}
    {packet : Packet} (letter : a.letter? peer = some (envelope, packet)) :
    ((a.known peer).noted packet.session?).expected channel
      = (if a.restarts peer then none else gap).map fun k : Nat => Counter.wrap (next - k) := by
  have restarts : a.restarts peer = packet.session?.any (a.known peer).hasRestarted := by
    rw [Arrival.restarts, letter]
    rfl
  rw [Peer.expected_noted_eq, ← restarts, Arrival.known, NetworkMap.expected_entered, awaits]
  split <;> rfl

/-- A datagram of the channel is in order just if it joins on, and then the next one is awaited. -/
lemma Awaits.here (awaits : Awaits peer channel gap next a.node)
    (heard : a.channel? peer = some channel)
    (stamped : a.stampOn? peer channel = some (Counter.wrap next))
    (dedupe : a.node.config.dedupe = true) (on : a.OnChannel peer channel) :
    (a.outcome.isInOrder = true ↔ a.Joins peer channel gap) ∧
      (a.Joins peer channel gap →
        Awaits peer channel (a.gap peer channel gap) (next + 1) a.after) := by
  cases on with
  | unread closed outcome found =>
    have joins : a.Joins peer channel gap := by
      intro _ letter
      rw [closed] at letter
      cases letter
    refine ⟨iff_of_true (by rw [outcome]; rfl) joins, fun _ => ?_⟩
    have after : a.gap peer channel gap = gap.map (· + 1) := by
      rw [Arrival.gap, if_pos heard, closed]
      rfl
    rw [Awaits, after, NetworkMap.expectation, found, Option.bind_some, Arrival.known,
      NetworkMap.expected_entered, awaits, Option.map_map]
    congr 1
    funext k
    simp only [Function.comp_apply, Nat.cast_add, Nat.cast_one]
    congr 1
    omega
  | @read envelope packet letter stamp outcome found =>
    obtain counter : Counter.wrap next = envelope.counter :=
      Option.some.inj (stamped.symm.trans stamp)
    rw [dedupe, ← counter] at outcome found
    have said := Peer.hear_fst channel (Counter.wrap next) packet.session? (a.known peer)
    rw [awaits.noted letter] at said
    have joins : a.Joins peer channel gap
        ↔ (Peer.hear true channel (Counter.wrap next) packet.session? (a.known peer)).1
          = some 0 := by
      rw [said, Counter.missed?_eq_zero_iff]
      simp only [Arrival.Joins, heard, letter, Option.isSome_some, forall_const]
      cases a.restarts peer <;> simp
    refine ⟨?_, fun joined => ?_⟩
    · rw [joins, outcome, Outcome.isInOrder_outcomeOf, decide_eq_true_eq]
    · have after : a.gap peer channel gap = some 0 := by
        rw [Arrival.gap, if_pos heard, letter]
        rfl
      rw [Awaits, after, NetworkMap.expectation, found, Option.bind_some,
        Peer.expected_hear_self (joins.1 joined), Counter.next_wrap]
      simp

/-- A datagram that comes elsewhere changes what is awaited only by a restart that it shows. -/
lemma Awaits.elsewhere (awaits : Awaits peer channel gap next a.node)
    (distinct : a.node.map.Distinct)
    (kept : a.node.map.contains peer = true → a.after.map.contains peer = true)
    (dedupe : a.node.config.dedupe = true) (elsewhere : a.channel? peer ≠ some channel)
    (on : ∀ other, a.channel? peer = some other → a.OnChannel peer other) :
    Awaits peer channel (a.gap peer channel gap) next a.after := by
  rw [Arrival.gap, if_neg elsewhere]
  cases letter : a.letter? peer with
  | none =>
    have steady : a.restarts peer = false := by rw [Arrival.restarts, letter]; rfl
    rw [steady, if_neg Bool.false_ne_true, Awaits,
      (Arrival.of_no_letter distinct kept letter).expectation, awaits]
  | some packed =>
    have decoded : (a.letter? peer).isSome = true := by rw [letter]; rfl
    obtain ⟨other, heard⟩ := Option.ne_none_iff_exists'.1 (Arrival.channel?_of_letter decoded)
    have different : channel ≠ other := by
      rintro rfl
      exact elsewhere heard
    cases on other heard with
    | unread closed => rw [letter] at closed; cases closed
    | read letter _ _ found =>
      rw [Awaits, NetworkMap.expectation, found, dedupe, Option.bind_some,
        Peer.expected_hear_other different, awaits.noted letter]

/-! ## Courses -/

/-- What is asked of the arrivals of a course, as far as the peer is concerned: it is held from its
first datagram on, and on the channel its datagrams arrive without a gap from some number on. -/
structure Complete (peer : LogicalAddress) (channel : Bool) (first : Int) (heard : List Arrival) :
    Prop where
  kept : Kept peer heard
  entered : ∀ a ∈ heard, a.channel? peer ≠ none → a.after.map.contains peer = true
  numbered : heard.filterMap (Arrival.stampOn? peer channel)
    = (List.range (heard.filterMap (Arrival.stampOn? peer channel)).length).map
        fun k : Nat => Counter.wrap (first + k)

lemma Arrival.stampOn?_of_ne (elsewhere : a.channel? peer ≠ some channel) :
    a.stampOn? peer channel = none := if_neg elsewhere

lemma Arrival.isSome_stampOn? (heard : a.channel? peer = some channel) :
    ∃ counter, a.stampOn? peer channel = some counter := by
  obtain ⟨envelope, read, -⟩ := channel?_eq_some_iff.1 heard
  exact ⟨envelope.counter, by rw [stampOn?, if_pos heard, read]; rfl⟩

section Cons

variable {later : List Arrival}

lemma Complete.later_of_ne (complete : Complete peer channel next (a :: later))
    (elsewhere : a.channel? peer ≠ some channel) : Complete peer channel next later where
  kept := complete.kept.of_cons.2.2
  entered b among := complete.entered b (List.mem_cons_of_mem a among)
  numbered := by
    have numbered := complete.numbered
    rwa [List.filterMap_cons_none (Arrival.stampOn?_of_ne elsewhere)] at numbered

/-- The first datagram on the channel has the first number, and the others go on from the next. -/
lemma Complete.later_of_eq (complete : Complete peer channel next (a :: later))
    (heard : a.channel? peer = some channel) :
    a.stampOn? peer channel = some (Counter.wrap next) ∧
      Complete peer channel (next + 1) later := by
  obtain ⟨counter, stamped⟩ := Arrival.isSome_stampOn? heard
  have numbered := complete.numbered
  rw [List.filterMap_cons_some stamped, List.length_cons, List.range_succ_eq_map, List.map_cons,
    List.cons.injEq, List.map_map] at numbered
  obtain ⟨first, rest⟩ := numbered
  refine ⟨by rw [stamped, first]; simp, complete.kept.of_cons.2.2,
    fun b among => complete.entered b (List.mem_cons_of_mem a among), rest.trans ?_⟩
  refine List.map_congr_left fun k _ => ?_
  simp only [Function.comp_apply, Nat.succ_eq_add_one, Nat.cast_add, Nat.cast_one]
  congr 1
  omega

end Cons

/-- **The arrivals of a course that have come without a gap are in order exactly if they are
seamless.**  The induction carries what is awaited along, up to the first datagram that does not
join on. -/
theorem seamless_course (course : Course m heard n) (dedupe : m.config.dedupe = true)
    (distinct : m.map.Distinct)
    (strangers : ∀ entry ∈ m.map.peers, entry.logical.isBroadcast = false ∧ entry.logical ≠ m.host)
    (linked : m.map.contains peer = true → ∀ a ∈ heard.head?, a.node.map.contains peer = true)
    (complete : Complete peer channel next heard) (awaits : Awaits peer channel gap next m) :
    (∀ a ∈ heard, a.channel? peer = some channel → a.outcome.isInOrder = true)
      ↔ Seamless peer channel gap heard := by
  induction course generalizing gap next with
  | quiet _ => simp [Seamless]
  | @heard m n a later quiet course ih =>
    obtain ⟨kept, waited, -⟩ := complete.kept.of_cons
    have checks : a.node.config.dedupe = true := by rwa [quiet.config]
    have here : a.node.map.Distinct := quiet.distinct distinct
    have after : a.after.map.Distinct := distinct_handle here _ _
    have others := (Course.quiet quiet).foreign distinct strangers
    have othersAfter :=
      (Course.heard (a := a) (.refl a.node) (.quiet (.refl a.after))).foreign here others
    have awaited : Awaits peer channel gap next a.node := by
      rw [Awaits, (quiet.undisturbed distinct fun held => linked held a rfl).expectation, awaits]
    have on (other : Bool) (heard : a.channel? peer = some other) : a.OnChannel peer other := by
      have named : a.channel? peer ≠ none := by rw [heard]; exact Option.some_ne_none _
      have held := complete.entered a List.mem_cons_self named
      obtain ⟨entry, found⟩ := Option.isSome_iff_exists.1 held
      obtain ⟨unicast, foreign⟩ := othersAfter entry (NetworkMap.mem_of_find? found)
      rw [NetworkMap.logical_of_find? found] at unicast foreign
      exact Arrival.on_channel here heard held foreign unicast
    rw [List.forall_mem_cons, Seamless]
    by_cases heard : a.channel? peer = some channel
    case pos =>
      obtain ⟨stamped, rest⟩ := complete.later_of_eq heard
      obtain ⟨told, step⟩ := awaited.here heard stamped checks (on channel heard)
      simp only [heard, forall_const, told]
      exact and_congr_right fun joins => ih checks after othersAfter waited rest (step joins)
    case neg =>
      have joins : a.Joins peer channel gap := fun here => absurd here heard
      simp only [heard, false_implies, joins, true_and]
      exact ih checks after othersAfter waited (complete.later_of_ne heard)
        (awaited.elsewhere here kept checks heard on)

/-- **What has arrived is not missed exactly if it is seamless.**  A new node that checks counters
makes any run, with any transport, in which the datagrams of a peer on a channel arrive completely:
each of them once and in order, from some first number on, and the peer is held from its first
datagram on. The node has missed as many datagrams as were found to be missed before each of its
arrivals.  And every datagram of the peer on the channel is counted as received, announced or
malformed, with none missed before it, exactly if on the channel none is decoded after ones that
could not be: unless none had been decoded before those, or the peer has shown a restart since, or
those were so many that the counters are round again. -/
theorem unmissed_iff_seamless {config : NodeConfig} {codec : Codec} {drawn : Int} {node : Node}
    (made : create config codec drawn = .ok node) (dedupe : config.dedupe = true)
    (calls : List (Call σ)) (s : σ) (peer : LogicalAddress) (channel : Bool) {first : Int}
    (complete : Complete peer channel first (arrivals t calls node s)) :
    (run t calls node s).1.traffic.missed
        = (((arrivals t calls node s).map fun a => a.outcome.missed).sum : Nat) ∧
      ((∀ a ∈ arrivals t calls node s, a.channel? peer = some channel →
          a.outcome.missed = 0 ∧ (a.outcome.tally? = some .received ∨
            a.outcome.tally? = some .announcements ∨ a.outcome.tally? = some .malformed))
        ↔ Seamless peer channel none (arrivals t calls node s)) := by
  have new := created made
  have nobody := (NetworkMap.of_create new.map).1
  have checks : node.config.dedupe = true := by rwa [new.node]
  refine ⟨?_, ?_⟩
  · rw [missed_run, new.node]
    exact Int.zero_add _
  · have course := run_course t calls node s
    have awaits : Awaits peer channel none first node := by
      rw [Awaits, NetworkMap.expectation, NetworkMap.find?, nobody]
      rfl
    rw [← seamless_course course checks new.distinct (by simp [nobody]) ?_ complete awaits]
    · simp [Outcome.isInOrder]
    · intro held
      rw [NetworkMap.contains, NetworkMap.find?, nobody] at held
      cases held

/-! ### A body that cannot be read -/

/-- A broadcast of mission control with a body that the node cannot read. -/
def garbledOf (counter : Int) : Delivery where
  endpoint := ⟨"10.0.0.2", udpPort⟩
  data := Envelope.encode ⟨.missionControl, .broadcast, counter, .application⟩ ++ [238]

/-- Such broadcasts before, between and after two heartbeats. -/
def garbledPost : List Delivery :=
  [garbledOf 0, heartbeatOf 1, garbledOf 2, heartbeatOf 3, garbledOf 4]

lemma complete_garbledPost :
    Complete .missionControl true 0 (arrivals .queue [.poll 0] listener garbledPost) where
  kept := by decide +kernel
  entered := by decide +kernel
  numbered := by decide +kernel

/-- The three of them are counted as malformed, and the one in between as missed as well. -/
theorem unmissed_iff_seamless_garbled :
    Complete .missionControl true 0 (arrivals .queue [.poll 0] listener garbledPost) ∧
      (arrivals .queue [.poll 0] listener garbledPost).map (fun a => a.outcome.tally?)
        = [some .malformed, some .announcements, some .malformed, some .announcements,
          some .malformed] ∧
      (run .queue [.poll 0] listener garbledPost).1.traffic.missed = 1 ∧
      ¬ Seamless .missionControl true none (arrivals .queue [.poll 0] listener garbledPost) := by
  obtain ⟨total, seamless⟩ := unmissed_iff_seamless listener_made rfl [.poll 0] garbledPost
    .missionControl true complete_garbledPost
  refine ⟨complete_garbledPost, by decide +kernel, ?_, fun joins => ?_⟩
  · rw [total]
    decide +kernel
  · have unmissed : ∀ a ∈ arrivals .queue [.poll 0] listener garbledPost,
        a.channel? .missionControl = some true → a.outcome.missed = 0 :=
      fun a among heard => (seamless.2 joins a among heard).1
    revert unmissed
    decide +kernel

/-- Not everything that has arrived is unmissed. -/
theorem not_every_arrival_unmissed :
    ¬ ∀ (config : NodeConfig) (codec : Codec) (drawn : Int) (node : Node)
      (calls : List (Call (List Delivery))) (s : List Delivery) (peer : LogicalAddress)
      (channel : Bool) (first : Int),
      create config codec drawn = .ok node → config.dedupe = true →
        Complete peer channel first (arrivals .queue calls node s) →
          ∀ a ∈ arrivals .queue calls node s, a.channel? peer = some channel →
            a.outcome.missed = 0 := by
  intro unmissed
  have all := unmissed _ _ _ _ [.poll 0] garbledPost _ _ _ listener_made rfl complete_garbledPost
  revert all
  decide +kernel

end Node

end RollCall
