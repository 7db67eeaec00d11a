import RollCall.Proofs.Node.Accounting
import RollCall.Proofs.Node.Sequence
import RollCall.Proofs.Packet.Canonical
import RollCall.Proofs.Waiting
import RollCall.Sample.Flight

/-!
# Datagrams that are longer than the buffer

A node receives into a buffer of the size that it was made with.  Of a longer datagram it should use
nothing.  Where the transport refuses such a datagram, the node is told that something was lost, and
goes on with the next one.  Where it is cut, the node sees the front of it, and cannot tell it from a
datagram that was sent like this.  A tag implies a length, so the front is no packet, with one
exception: a packet that fills the buffer to the last byte.  Then what was sent with a tail is taken for
what it is without.

* `Trial`, `pollTrials` — the attempts to receive, each with the datagram as it was sent.
* `Trial.Sound` — nothing of an overlong datagram is used, and all that is handed on was sent.
* `Trial.Overrun` — the front of an overlong datagram is accepted.
* `expectation_handle` — a datagram that is not accepted moves no sequence.
* `sound_iff` — one attempt is sound, unless an overrun is cut.
* `drain_row` — a drain takes the datagrams one by one, and goes on after each.
* `Unfilled` — no packet fills the buffer.
* `overlong_refused_unless_filled` — **all polls of all runs, over each transport.**
-/

namespace RollCall

/-- An accepted datagram is handed on or is counted as an announcement. -/
lemma Outcome.isAccepted_iff (outcome : Outcome) : outcome.isAccepted = true ↔
    outcome.received? ≠ none ∨ outcome.tally? = some .announcements := by
  cases outcome <;> simp [Outcome.isAccepted, Outcome.received?, Outcome.tally?]

/-- An old counter leaves what is expected as it was: another session than before would have made it
new. -/
lemma Peer.expected_hear_of_old {peer : Peer} {dedupe broadcast : Bool} {counter : Int}
    {session : Option Int} (old : (hear dedupe broadcast counter session peer).1 = none)
    (channel : Bool) :
    (hear dedupe broadcast counter session peer).2.expected channel = peer.expected channel := by
  cases dedupe with
  | false =>
    rw [hear_unchecked] at old
    cases old
  | true =>
    rw [hear_checked] at old ⊢
    cases answer : Counter.missed? ((peer.noted session).expected broadcast) counter with
    | some missed =>
      rw [answer] at old
      cases old
    | none =>
      refine expected_noted (fun announced among => ?_) channel
      cases known : peer.session with
      | none => exact .inl rfl
      | some session' =>
        refine .inr (congrArg some (Classical.byContradiction fun different => ?_))
        rw [among, noted, noteSession, known] at answer
        dsimp only at answer
        rw [if_neg different] at answer
        cases broadcast <;> cases answer

namespace Node

open Transport (Serves Hands)

variable {σ : Type} {t : Transport σ} {waiting : σ → List Delivery} {cuts : Bool} {node : Node} {s : σ}

/-! ## Attempts and what they take -/

/-- An attempt of a node to receive, with the datagram that it takes from those that wait, as it was
sent. -/
structure Trial where
  node : Node
  taken : Option Delivery
  attempt : Attempt

/-- What is gone from the front of a row. -/
def gone (before after : List Delivery) : Option Delivery :=
  if after.length < before.length then before.head? else none

@[simp] lemma gone_self (row : List Delivery) : gone row row = none := by simp [gone]

@[simp] lemma gone_cons (d : Delivery) (row : List Delivery) : gone (d :: row) row = some d := by
  simp [gone]

namespace Trial

/-- What a call to receive amounts to, if it gives a datagram or a fault of the link. -/
def ofAnswer (waiting : σ → List Delivery) (node : Node) (s : σ) :
    Except TransportFault (Option Delivery) × σ → Option Trial
  | (.error (.link fault), after) => some ⟨node, gone (waiting s) (waiting after), .failed fault⟩
  | (.ok (some d), after) => some ⟨node, gone (waiting s) (waiting after), .heard ⟨node, d⟩⟩
  | _ => none

/-- The node after the attempt. -/
def after (trial : Trial) : Node :=
  match trial.attempt with
  | .heard arrival => arrival.after
  | .failed _ => trial.node.countReceiveError

/-- What should be so of every attempt. -/
structure Sound (trial : Trial) : Prop where
  /-- Nothing of a datagram that is longer than the buffer is handed on, no announcement is counted,
  and no sequence moves. -/
  overlong : ∀ d, trial.taken = some d → trial.node.room < d.data.length →
    trial.attempt.received? = none ∧ trial.attempt.tally? ≠ some .announcements ∧
      ∀ logical channel counter, trial.after.map.expectation logical channel = some counter →
        trial.node.map.expectation logical channel = some counter
  /-- A packet that is handed on is the one in the datagram that was sent, all of it. -/
  whole : ∀ received, trial.attempt.received? = some received → ∃ d envelope,
    trial.taken = some d ∧ Envelope.decode d.data = .ok envelope ∧
      envelope.sender = received.sender ∧
      Datagram.decodeBody trial.node.codec envelope.kind d.data = .ok received.packet

/-- The front of a datagram that is longer than the buffer is a datagram that the node accepts. -/
def Overrun (trial : Trial) : Prop :=
  ∃ d, trial.taken = some d ∧ trial.node.room < d.data.length ∧
    (trial.node.handle (d.data.take trial.node.room) d.endpoint).1.isAccepted = true

end Trial

/-- The attempts while a node drains its transport. -/
def drainTrials (t : Transport σ) (waiting : σ → List Delivery) : Nat → Node → σ → List Trial
  | 0, _, _ => []
  | limit + 1, node, s =>
    match Trial.ofAnswer waiting node s (t.receive node.room s) with
    | none => []
    | some trial => trial :: drainTrials t waiting limit trial.after (t.receive node.room s).2

/-- Where a poll begins to take datagrams, if it gets that far. -/
def pollStart (t : Transport σ) (node : Node) (time : Int) (s : σ) : Option (Node × σ) :=
  match t.poll (node.advance time).time s with
  | (.error _, _) => none
  | (.ok (), s) =>
    match announceIfDue t (node.advance time) s with
    | (.error _, _) => none
    | (.ok (), node, s) => some (node.purge, s)

/-- The attempts of a poll. -/
def pollTrials (t : Transport σ) (waiting : σ → List Delivery) (node : Node) (time : Int) (s : σ) :
    List Trial :=
  match pollStart t node time s with
  | none => []
  | some (start, s) => drainTrials t waiting node.config.drainLimit.toNat start s

lemma attempts_drainTrials (t : Transport σ) (waiting : σ → List Delivery) (limit : Nat)
    (node : Node) (s : σ) :
    (drainTrials t waiting limit node s).map Trial.attempt = drainAttempts t limit node s := by
  induction limit generalizing node s with
  | zero => rfl
  | succ limit ih =>
    rw [drainTrials, drainAttempts]
    rcases t.receive node.room s with ⟨fault | arrived, after⟩
    · cases fault with
      | link fault => exact congrArg _ (ih node.countReceiveError after)
      | _ => rfl
    · cases arrived with
      | none => rfl
      | some d => exact congrArg _ (ih (node.handle d.data d.endpoint).2 after)

/-- A poll that gets so far is a drain from there. -/
lemma poll_of_start {start : Node × σ} {time : Int} (begun : pollStart t node time s = some start) :
    poll t node time s = drain t node.config.drainLimit.toNat start.1 start.2 ∧ Quiet node start.1 := by
  have advanced : Quiet node (node.advance time) := .of_map_eq rfl rfl rfl rfl
  revert begun
  rw [pollStart, poll]
  rcases t.poll (node.advance time).time s with ⟨_ | _, s⟩
  · rintro ⟨⟩
  · have announced := Quiet.announceIfDue t (node.advance time) s
    dsimp only
    generalize announceIfDue t (node.advance time) s = turn at announced ⊢
    rcases turn with ⟨_ | _, later, s⟩
    · rintro ⟨⟩
    · rintro ⟨⟩
      have quiet := advanced.trans announced
      refine ⟨?_, quiet.trans (.purge later)⟩
      dsimp only
      rw [← quiet.config]

lemma poll_of_no_start {time : Int} (begun : pollStart t node time s = none) :
    ∃ fault, (poll t node time s).1 = .error fault := by
  revert begun
  rw [pollStart, poll]
  rcases t.poll (node.advance time).time s with ⟨fault | _, s⟩
  · exact fun _ => ⟨_, rfl⟩
  · dsimp only
    rcases announceIfDue t (node.advance time) s with ⟨fault | _, later, s⟩
    · exact fun _ => ⟨fault, rfl⟩
    · rintro ⟨⟩

/-! ## Datagrams that are not accepted -/

/-- **A datagram that is not accepted moves no sequence.**  It may make the node forget a stale peer. -/
theorem expectation_handle {data : Bytes} {source : PhysicalAddress} {logical : LogicalAddress}
    {channel : Bool} {counter : Int} (distinct : node.map.Distinct)
    (dropped : (node.handle data source).1.isAccepted = false)
    (later : (node.handle data source).2.map.expectation logical channel = some counter) :
    node.map.expectation logical channel = some counter := by
  obtain ⟨peer, found, expected⟩ := Option.bind_eq_some_iff.1 later
  have kept (before : node.map.find? logical = some peer) :
      node.map.expectation logical channel = some counter := by
    rw [NetworkMap.expectation, before]
    exact expected
  by_cases other : ∀ envelope, Envelope.decode data = .ok envelope → logical ≠ envelope.sender
  · exact kept (find?_of_find?_handle distinct other found)
  · obtain ⟨envelope, other⟩ := not_forall.1 other
    obtain ⟨decoded, same⟩ := Classical.not_imp.1 other
    obtain rfl := not_not.1 same
    have entered {known : Peer} (fresh : known = node.map.entered envelope.sender source node.time) :
        known.expected channel = node.map.expectation envelope.sender channel := by
      rw [fresh, NetworkMap.expected_entered]
    replace dropped : (node.judge data source).1.isAccepted = false := dropped
    replace found : (node.judge data source).2.find? envelope.sender = some peer := found
    have exits := judged node data source
    generalize node.judge data source = result at exits dropped found
    cases exits with
    | unreadable | own | pretended => exact kept found
    | unmapped decoded' _ _ refused =>
      cases decoded.symm.trans decoded'
      exact kept (distinct.find?_of_observe_error refused found)
    | misaddressed learned | undecodable learned =>
      cases decoded.symm.trans learned.decoded
      obtain ⟨fresh, held⟩ := distinct.find?_observe_self learned.observed
      cases held.symm.trans found
      rw [← entered fresh, expected]
    | decoded learned =>
      cases decoded.symm.trans learned.decoded
      obtain ⟨fresh, held⟩ := distinct.find?_observe_self learned.observed
      rw [NetworkMap.find?_update fun peer => Peer.logical_hear _ _ _ _ peer, if_pos rfl, held] at found
      cases found
      rw [Outcome.isAccepted_outcomeOf, Option.isSome_eq_false_iff, Option.isNone_iff_eq_none] at dropped
      rw [Peer.expected_hear_of_old dropped] at expected
      rw [← entered fresh, expected]

/-- A datagram that is accepted is as long as its tag says. -/
lemma length_of_accepted {data : Bytes} {source : PhysicalAddress}
    (accepted : (node.handle data source).1.isAccepted = true) : ∃ kind tag shape,
      (Datagram.codecOf node.codec kind).shapeOfTag? tag = some shape ∧
        data.length = envelopeLength + shape.encodedSize := by
  replace accepted : (node.judge data source).1.isAccepted = true := accepted
  have exits := judged node data source
  generalize node.judge data source = result at exits accepted
  cases exits with
  | @decoded envelope _ _ packet learned _ body =>
    have long := Envelope.long_of_decode learned.decoded
    obtain ⟨type, values, read, -⟩ :=
      Codec.decode_eq_ok_iff.1 (Datagram.decodeBody_eq_ok_iff.1 body)
    obtain ⟨tag, shape, record, framed, -, -⟩ := Codec.read_eq_ok_iff.1 read
    have length := congrArg List.length framed.split
    rw [List.length_drop, List.length_cons, framed.full] at length
    refine ⟨envelope.kind, tag, shape, framed.known, ?_⟩
    rw [Shape.encodedSize]
    omega
  | _ => cases accepted

/-- A packet that is handed on is the one in its datagram. -/
lemma read_of_received {data : Bytes} {source : PhysicalAddress} {received : Received}
    (surfaced : (node.handle data source).1.received? = some received) : ∃ envelope,
      Envelope.decode data = .ok envelope ∧ envelope.sender = received.sender ∧
        Datagram.decodeBody node.codec envelope.kind data = .ok received.packet := by
  replace surfaced : (node.judge data source).1.received? = some received := surfaced
  have exits := judged node data source
  generalize node.judge data source = result at exits surfaced
  cases exits with
  | @decoded envelope _ _ packet learned _ body =>
    refine ⟨envelope, learned.decoded, ?_⟩
    cases missed : (Peer.hear node.config.dedupe envelope.destination.isBroadcast envelope.counter
        packet.session? _).1 with
    | none =>
      rw [missed] at surfaced
      cases surfaced
    | some n =>
      rw [missed, outcomeOf] at surfaced
      dsimp only at surfaced
      split at surfaced <;> cases surfaced
      exact ⟨rfl, body⟩
  | _ => cases surfaced

/-! ## One attempt -/

/-- Of a datagram that is lost nothing is used. -/
lemma Trial.Sound.of_failed (node : Node) (taken : Option Delivery) (fault : LinkFault) :
    Trial.Sound ⟨node, taken, .failed fault⟩ where
  overlong _ _ _ := ⟨rfl, nofun, fun _ _ _ => id⟩
  whole _ surfaced := nomatch surfaced

/-- **One attempt is sound**, unless the front of an overlong datagram is accepted that was cut. -/
theorem sound_iff {answer : Except TransportFault (Option Delivery) × σ} {trial : Trial}
    (distinct : node.map.Distinct) (hands : Hands cuts waiting node.room s answer)
    (made : Trial.ofAnswer waiting node s answer = some trial) :
    trial.Sound ↔ ¬ (cuts = true ∧ trial.Overrun) := by
  cases hands with
  | nothing => cases made
  | @whole after d row fits =>
    obtain rfl := Option.some.inj made
    rw [row, gone_cons]
    refine iff_of_true ⟨fun d' same long => ?_, fun received surfaced => ?_⟩ ?_
    · cases same
      exact absurd fits (Nat.not_le_of_lt long)
    · obtain ⟨envelope, read⟩ := read_of_received surfaced
      exact ⟨d, envelope, rfl, read⟩
    · rintro ⟨-, d', same, long, -⟩
      cases same
      exact absurd fits (Nat.not_le_of_lt long)
  | refused refuses =>
    obtain rfl := Option.some.inj made
    exact iff_of_true (.of_failed ..) fun overrun => by simp [refuses] at overrun
  | @cut after d cut row long =>
    obtain rfl := Option.some.inj made
    rw [row, gone_cons]
    constructor
    · rintro sound ⟨-, d', same, -, accepted⟩
      cases same
      obtain ⟨silent, quiet, -⟩ := sound.overlong d rfl long
      rcases (Outcome.isAccepted_iff _).1 accepted with surfaced | announced
      · exact surfaced silent
      · exact quiet announced
    · intro within
      have dropped : (node.handle (d.data.take node.room) d.endpoint).1.isAccepted = false :=
        Bool.eq_false_iff.2 fun accepted => within ⟨cut, d, rfl, long, accepted⟩
      have unused := mt (Outcome.isAccepted_iff _).2 (Bool.eq_false_iff.1 dropped)
      obtain ⟨silent, quiet⟩ := not_or.1 unused
      refine ⟨fun _ _ _ => ⟨not_not.1 silent, quiet, fun logical channel counter later => ?_⟩,
        fun received surfaced => ?_⟩
      · exact expectation_handle distinct dropped later
      · cases (not_not.1 silent).symm.trans surfaced
  | @failed after fault kept =>
    cases fault with
    | link fault =>
      obtain rfl := Option.some.inj made
      rw [kept, gone_self]
      refine iff_of_true (.of_failed ..) ?_
      rintro ⟨-, d, none, -⟩
      cases none
    | _ => cases made

/-! ## A drain -/

/-- What taking, failing to take and handling keep holds at every attempt of a drain, and each of them is
the answer to a call to receive. -/
lemma of_mem_drainTrials (serves : t.Serves cuts waiting) (holds : Node → Prop)
    (failed : ∀ {node}, holds node → holds node.countReceiveError)
    (handled : ∀ {node} (d : Delivery), holds node → holds (node.handle d.data d.endpoint).2)
    {limit : Nat} (start : holds node) {trial : Trial}
    (among : trial ∈ drainTrials t waiting limit node s) : holds trial.node ∧ ∃ s answer,
      Hands cuts waiting trial.node.room s answer ∧
        Trial.ofAnswer waiting trial.node s answer = some trial := by
  induction limit generalizing node s with
  | zero => cases among
  | succ limit ih =>
    have hands := serves.receive node.room s
    rw [drainTrials] at among
    generalize t.receive node.room s = answer at among hands
    cases made : Trial.ofAnswer waiting node s answer with
    | none =>
      rw [made] at among
      cases among
    | some first =>
      rw [made] at among
      have here : first.node = node ∧ holds first.after := by
        unfold Trial.ofAnswer at made
        split at made <;> cases made
        · exact ⟨rfl, failed start⟩
        · exact ⟨rfl, handled _ start⟩
      rcases List.mem_cons.1 among with rfl | later
      · exact ⟨by rw [here.1]; exact start, s, answer, by rw [here.1]; exact ⟨hands, made⟩⟩
      · exact ih here.2 later

/-- What a call to receive takes is the front of the row.  An answer that is no attempt leaves the row as
it is, and says that nothing waits only if nothing does. -/
lemma row_of_hands {answer : Except TransportFault (Option Delivery) × σ}
    (hands : Hands cuts waiting node.room s answer) :
    (gone (waiting s) (waiting answer.2)).toList ++ waiting answer.2 = waiting s ∧
      (Trial.ofAnswer waiting node s answer = none → waiting answer.2 = waiting s) ∧
      (answer.1 = .ok none → waiting answer.2 = []) := by
  cases hands with
  | nothing empty still =>
    exact ⟨by rw [empty, still]; rfl, fun _ => still.trans empty.symm, fun _ => still⟩
  | whole row | refused _ row | cut _ row => exact ⟨by rw [row, gone_cons]; rfl, nofun, nofun⟩
  | failed kept => exact ⟨by rw [kept, gone_self]; rfl, fun _ => kept, nofun⟩

lemma filterMap_taken_cons (trial : Trial) (later : List Trial) :
    (trial :: later).filterMap Trial.taken = trial.taken.toList ++ later.filterMap Trial.taken := by
  rw [List.filterMap_cons]
  cases trial.taken <;> rfl

/-- **A drain takes the first datagrams of the row**, one by one.  Unless the transport fails in another
way than links do, it makes as many attempts as it may, or nothing is left. -/
theorem drain_row (serves : t.Serves cuts waiting) (limit : Nat) (node : Node) (s : σ) :
    (drainTrials t waiting limit node s).filterMap Trial.taken ++ waiting (drain t limit node s).2.2
        = waiting s ∧
      ((∃ received, (drain t limit node s).1 = .ok received) →
        (drainTrials t waiting limit node s).length = limit ∨
          waiting (drain t limit node s).2.2 = []) := by
  induction limit generalizing node s with
  | zero => exact ⟨rfl, fun _ => .inl rfl⟩
  | succ limit ih =>
    obtain ⟨row, kept, emptied⟩ := row_of_hands (serves.receive node.room s)
    rw [drain, drainTrials]
    generalize t.receive node.room s = answer at row kept emptied ⊢
    rcases answer with ⟨fault | arrived, after⟩
    · cases fault with
      | link fault =>
        obtain ⟨rest, goesOn⟩ := ih node.countReceiveError after
        dsimp only [Trial.ofAnswer]
        rw [filterMap_taken_cons, List.append_assoc, List.length_cons]
        exact ⟨(congrArg _ rest).trans row,
          fun returned => (goesOn returned).imp_left (congrArg (· + 1))⟩
      | _ =>
        refine ⟨kept rfl, ?_⟩
        rintro ⟨_, ⟨⟩⟩
    · cases arrived with
      | none => exact ⟨kept rfl, fun _ => .inr (emptied rfl)⟩
      | some d =>
        obtain ⟨rest, goesOn⟩ := ih (node.handle d.data d.endpoint).2 after
        dsimp only [Trial.ofAnswer]
        rw [filterMap_taken_cons, List.append_assoc, List.length_cons]
        refine ⟨(congrArg _ rest).trans row, fun returned => (goesOn ?_).imp_left (congrArg (· + 1))⟩
        obtain ⟨received, returned⟩ := returned
        cases later : (drain t limit (node.handle d.data d.endpoint).2 after).1 with
        | ok received => exact ⟨received, rfl⟩
        | error fault =>
          rw [later] at returned
          cases returned

/-! ## All polls -/

/-- How a poll goes about what waits at the transport. -/
structure Attends (t : Transport σ) (waiting : σ → List Delivery) (holds : Trial → Prop) (node : Node)
    (time : Int) (s : σ) : Prop where
  trials : ∀ trial ∈ pollTrials t waiting node time s, holds trial
  /-- What is handed on is what the attempts give. -/
  handed : ∀ received, (poll t node time s).1 = .ok received →
    received = (pollTrials t waiting node time s).filterMap fun trial => trial.attempt.received?
  /-- Datagrams are taken in their row, one by one. -/
  row : ∀ start, pollStart t node time s = some start →
    (pollTrials t waiting node time s).filterMap Trial.taken ++ waiting (poll t node time s).2.2
      = waiting start.2
  /-- A poll that returns has made as many attempts as it may, or nothing waits any more. -/
  goesOn : ∀ received, (poll t node time s).1 = .ok received →
    (pollTrials t waiting node time s).length = node.config.drainLimit.toNat ∨
      waiting (poll t node time s).2.2 = []

lemma Attends.mono {holds weaker : Trial → Prop} {time : Int}
    (attends : Attends t waiting holds node time s) (follows : ∀ trial, holds trial → weaker trial) :
    Attends t waiting weaker node time s :=
  { attends with trials := fun trial among => follows trial (attends.trials trial among) }

/-- **Every poll** goes about it in this way, and each of its attempts is sound, unless an overrun is
cut. -/
theorem attends (serves : t.Serves cuts waiting) (distinct : node.map.Distinct) (time : Int) (s : σ) :
    Attends t waiting (fun trial => (trial.Sound ↔ ¬ (cuts = true ∧ trial.Overrun)) ∧
      trial.node.codec = node.codec ∧ trial.node.config = node.config) node time s := by
  cases begun : pollStart t node time s with
  | none =>
    obtain ⟨fault, failed⟩ := poll_of_no_start begun
    refine ⟨fun trial among => ?_, fun received returned => ?_, fun start same => ?_,
      fun received returned => ?_⟩
    · rw [pollTrials, begun] at among
      cases among
    · cases failed.symm.trans returned
    · cases begun.symm.trans same
    · cases failed.symm.trans returned
  | some start =>
    obtain ⟨drained, quiet⟩ := poll_of_start begun
    have trials : pollTrials t waiting node time s
        = drainTrials t waiting node.config.drainLimit.toNat start.1 start.2 := by
      rw [pollTrials, begun]
    obtain ⟨row, goesOn⟩ := drain_row serves node.config.drainLimit.toNat start.1 start.2
    refine ⟨fun trial among => ?_, fun received returned => ?_, ?_, fun received returned => ?_⟩
    · rw [trials] at among
      obtain ⟨⟨distinct, settings⟩, s, answer, hands, made⟩ := of_mem_drainTrials serves
        (fun n => n.map.Distinct ∧ n.codec = node.codec ∧ n.config = node.config) id
        (fun d here => ⟨distinct_handle here.1 d.data d.endpoint, here.2⟩)
        ⟨quiet.distinct distinct, quiet.codec, quiet.config⟩ among
      exact ⟨sound_iff distinct hands made, settings⟩
    · rw [drained] at returned
      rw [trials, received_drain returned, ← arrivals_drainAttempts, ← attempts_drainTrials t waiting,
        List.filterMap_map, List.filterMap_filterMap]
      rfl
    · intro start' same
      cases begun.symm.trans same
      rw [trials, drained]
      exact row
    · rw [drained] at returned ⊢
      rw [trials]
      exact goesOn ⟨received, returned⟩

/-- No packet that a codec knows, and no announcement, fills a buffer to the last byte. -/
def Unfilled (codec : Codec) (room : Nat) : Prop :=
  ∀ entry ∈ sharedCodec.byTag ++ codec.byTag, envelopeLength + entry.2.encodedSize ≠ room

instance (codec : Codec) (room : Nat) : Decidable (Unfilled codec room) :=
  inferInstanceAs (Decidable (∀ entry ∈ _, _))

/-- Where no packet fills the buffer, nothing overruns it. -/
lemma Unfilled.no_overrun {trial : Trial} (unfilled : Unfilled trial.node.codec trial.node.room) :
    ¬ trial.Overrun := by
  rintro ⟨d, -, long, accepted⟩
  obtain ⟨kind, tag, shape, known, length⟩ := length_of_accepted accepted
  rw [List.length_take, Nat.min_eq_left (Nat.le_of_lt long)] at length
  obtain ⟨before, later, table, -⟩ := List.lookup_eq_some_iff.1 known
  have listed : (tag, shape) ∈ (Datagram.codecOf trial.node.codec kind).byTag := by simp [table]
  refine unfilled (tag, shape) (List.mem_append.2 ?_) length.symm
  cases kind with
  | shared => exact .inl listed
  | application => exact .inr listed

/-- **Overlong datagrams are refused, unless a packet fills the buffer.**  Take a new node, with buffers
of any size, over a port of a simulated network, over an embedded network stack, or over the socket of
an operating system that cuts datagrams.  Over the first two every attempt of every poll of every run is
sound.  Over the third an attempt is sound unless the front of an overlong datagram is one that the node
accepts; no attempt is like this if no packet fills the buffer.  All go on with the next datagram. -/
theorem overlong_refused_unless_filled {ω υ : Type} {config : NodeConfig} {codec : Codec} {drawn : Int}
    (made : create config codec drawn = .ok node) (number : Nat) (address : PhysicalAddress)
    (stack : NetworkStack ω) {os : SocketLayer υ} {inbound : Socket → υ → List Delivery}
    (cutting : os.Cuts inbound) :
    (∀ s calls time, Attends (Lan.endpoint number address) (Lan.waiting number address.port) Trial.Sound
      (run (Lan.endpoint number address) calls node s).1 time
      (run (Lan.endpoint number address) calls node s).2) ∧
    (∀ s calls time, Attends (Embedded.transport stack) Embedded.waiting Trial.Sound
      (run (Embedded.transport stack) calls node s).1 time
      (run (Embedded.transport stack) calls node s).2) ∧
    (∀ s calls time, Attends (Hosted.transport os) (Hosted.waiting inbound)
      (fun trial => (trial.Sound ↔ ¬ trial.Overrun) ∧
        (Unfilled codec config.bufferSize.toNat → trial.Sound))
      (run (Hosted.transport os) calls node s).1 time (run (Hosted.transport os) calls node s).2) := by
  have every {σ : Type} {t : Transport σ} {cuts : Bool} {waiting : σ → List Delivery}
      (serves : t.Serves cuts waiting) (s : σ) (calls : List (Call σ)) (time : Int) :
      Attends t waiting (fun trial => (trial.Sound ↔ ¬ (cuts = true ∧ trial.Overrun)) ∧
        trial.node.codec = codec ∧ trial.node.config = config) (run t calls node s).1 time
        (run t calls node s).2 := by
    have course := run_course t calls node s
    have new := (created made).node
    obtain ⟨settings, known, -⟩ := course.settings
    refine (attends serves (course.distinct (created made).distinct).1 time _).mono fun trial here => ?_
    rw [known, settings, new] at here
    exact here
  refine ⟨fun s calls time => ?_, fun s calls time => ?_, fun s calls time => ?_⟩
  · exact (every (Lan.endpoint_serves number address) s calls time).mono fun trial here =>
      here.1.2 fun cut => nomatch cut.1
  · exact (every (Embedded.transport_serves stack) s calls time).mono fun trial here =>
      here.1.2 fun cut => nomatch cut.1
  · refine (every (Hosted.transport_serves cutting) s calls time).mono fun trial here => ?_
    obtain ⟨iff, known, settings⟩ := here
    refine ⟨by simpa using iff, fun unfilled => iff.2 fun cut => ?_⟩
    refine Unfilled.no_overrun ?_ cut.2
    rw [known, room, settings]
    exact unfilled

/-! ### A command with a tail -/

/-- The settings of a node with buffers of some size. -/
def sized (size : Int) : NodeConfig where
  host := .flightController
  bufferSize := size

def sizedNode (size : Int) : Node where
  config := sized size
  codec := Flight.codec
  session := 5
  map := { window := 500, capacity := 32 }

/-- A stack that accepts what is sent and receives nothing. -/
def silentStack : NetworkStack Unit where
  poll _ w := w
  transmit _ w := (true, w)
  drain w := ([], w)

/-- A transport over the first socket of the scripted operating system. -/
def socketed : Hosted × ScriptedOs :=
  ({ bindHost := "10.1.2.3", firstPort := udpPort, chainLength := 1, prefixLength := 24,
     broadcast := some [10, 1, 2, 255], socket := some 0 },
    { sockets := [{ number := 0, blocks := false }], nextSocket := 1 })

/-- A command of twelve bytes from the mission control, with a tail. -/
def commandWith (tail : Bytes) : Delivery where
  endpoint := ⟨"10.1.2.4", udpPort⟩
  data := Envelope.encode ⟨.missionControl, .broadcast, 0, .application⟩
    ++ 1 :: List.replicate 12 65 ++ tail

/-- The datagrams arrive. -/
def arriving (post : List Delivery) : Call (Hosted × ScriptedOs) :=
  .outside fun s => (s.1, { s.2 with inbound := s.2.inbound ++ post })

/-- The node and the state of the transport when the datagrams have arrived. -/
def reached (size : Int) (post : List Delivery) : Node × Hosted × ScriptedOs :=
  run (Hosted.transport ScriptedOs.layer) [arriving post] (sizedNode size) socketed

/-- The attempts of the first poll after that. -/
def firstTrials (size : Int) (post : List Delivery) : List Trial :=
  pollTrials (Hosted.transport ScriptedOs.layer) (Hosted.waiting fun _ os => os.inbound)
    (reached size post).1 0 (reached size post).2

/-- The names of the packets that the poll hands on. -/
def firstPolled (size : Int) (post : List Delivery) : Option (List String) :=
  (poll (Hosted.transport ScriptedOs.layer) (reached size post).1 0 (reached size post).2).1.toOption.map
    (List.map fun received => received.packet.type.name)

/-- Buffers of sixty-four bytes are filled by none of the packets of the application.  A command with a
long tail is refused, and the one after it is handed on. -/
theorem overlong_refused_unless_filled_sixty_four :
    Unfilled Flight.codec 64 ∧
    (∀ trial ∈ firstTrials 64 [commandWith (Bytes.zeros 60), commandWith []], trial.Sound) ∧
    firstPolled 64 [commandWith (Bytes.zeros 60), commandWith []] = some ["RawCommand"] := by
  have made : create (sized 64) Flight.codec 5 = .ok (sizedNode 64) := rfl
  have unfilled : Unfilled Flight.codec 64 := by decide +kernel
  obtain ⟨-, -, hosted⟩ := overlong_refused_unless_filled made 0 ⟨"10.1.2.3", udpPort⟩ silentStack
    ScriptedOs.layer_cuts
  refine ⟨unfilled, fun trial among => ?_, by decide +kernel⟩
  exact ((hosted socketed [arriving _] 0).trials trial among).2 unfilled

/-- A command fills buffers of twenty-three bytes.  With one byte more it is taken for the command
without. -/
theorem not_every_overlong_refused :
    create (sized 23) Flight.codec 5 = .ok (sizedNode 23) ∧ (commandWith [0]).data.length = 24 ∧
    firstPolled 23 [commandWith [0]] = some ["RawCommand"] ∧
    ¬ ∀ trial ∈ firstTrials 23 [commandWith [0]], trial.Sound := by
  refine ⟨rfl, by decide +kernel, by decide +kernel, fun sound => ?_⟩
  have first : (firstTrials 23 [commandWith [0]]).head?.map
      (fun trial => (trial.taken, trial.node.room, trial.attempt.received?.isSome))
        = some (some (commandWith [0]), 23, true) := by decide +kernel
  obtain ⟨trial, first, same⟩ := Option.map_eq_some_iff.1 first
  simp only [Prod.mk.injEq] at same
  obtain ⟨taken, room, surfaced⟩ := same
  have long : trial.node.room < (commandWith [0]).data.length := by
    rw [room]
    decide +kernel
  obtain ⟨silent, -⟩ := (sound trial (List.mem_of_mem_head? first)).overlong _ taken long
  rw [silent] at surfaced
  cases surfaced

end Node

end RollCall
