import RollCall.Proofs.Counter
import RollCall.Proofs.Node.Calls
import RollCall.Proofs.Transport

/-!
# Every datagram at most once

A network may lose, repeat and reorder datagrams, and mix those of many peers.  A node that checks
counters still takes the datagrams of a peer in the order in which the peer numbered them, and none
of them twice, as long as it does not forget the peer and the peer does not restart.

The counter that the node expects is the one after the last number that it took.  `Expects` says so,
and `Follows` adds that the numbers are those that the peer gives.  Every way of handling a datagram
keeps it: a datagram of another peer, or one that is for another node or cannot be decoded, disturbs
nothing (`Undisturbed`), and one of the peer itself is new exactly if its number is later than the last
one taken (`Follows.hear`).

* `Arrival.channel?`, `Arrival.acceptedOn?` — on which channel a peer's datagram comes, and is taken.
* `Kept` — the peer is not forgotten.
* `Expects` — what is expected of the peer follows from the last numbers taken.
* `Numbering`, `Numbering.Stamped` — how a peer numbers what it sends.
* `Follows.hear`, `Follows.run` — what one arrival keeps, and what all arrivals of a course keep.
* `accepted_once` — the datagrams taken of a peer have rising numbers on each channel, none of them
  is taken twice, and a datagram dropped as old changes nothing of what is expected.
-/

namespace RollCall

-- Powers are the core library's, also where Mathlib has its own.
attribute [local instance (high)] instPowNat

/-- Whether the packet of a datagram is noted or handed on. -/
def Outcome.isAccepted : Outcome → Bool
  | announced _ | surfaced _ _ => true
  | _ => false

/-- Whether a datagram is dropped because its counter is old. -/
def Outcome.isDuplicate : Outcome → Bool
  | duplicate => true
  | _ => false

@[simp] lemma Outcome.isAccepted_outcomeOf (sender : LogicalAddress) (packet : Packet)
    (missed : Option Nat) : (Node.outcomeOf sender packet missed).isAccepted = missed.isSome := by
  cases missed with
  | none => rfl
  | some missed => cases kind : packet.isAnnouncement <;> simp [Node.outcomeOf, kind, isAccepted]

@[simp] lemma Outcome.isDuplicate_outcomeOf (sender : LogicalAddress) (packet : Packet)
    (missed : Option Nat) : (Node.outcomeOf sender packet missed).isDuplicate = missed.isNone := by
  cases missed with
  | none => rfl
  | some missed => cases kind : packet.isAnnouncement <;> simp [Node.outcomeOf, kind, isDuplicate]

namespace NetworkMap

/-- The counter that is expected next of a peer on a channel, if any is. -/
def expectation (map : NetworkMap) (logical : LogicalAddress) (broadcast : Bool) : Option Int :=
  (map.find? logical).bind (Peer.expected broadcast)

/-- The session that a peer announced last, if it did. -/
def announced (map : NetworkMap) (logical : LogicalAddress) : Option Int :=
  (map.find? logical).bind Peer.session

/-- What is expected of a peer is the same in two maps. -/
structure Undisturbed (logical : LogicalAddress) (before after : NetworkMap) : Prop where
  expectation : ∀ broadcast,
    after.expectation logical broadcast = before.expectation logical broadcast
  announced : after.announced logical = before.announced logical

/-- A peer that is held throughout is undisturbed if nothing is found of it that differs from what
was found before. -/
lemma Undisturbed.of_kept {logical : LogicalAddress} {before after : NetworkMap}
    (kept : before.contains logical = true → after.contains logical = true)
    (found : ∀ {peer}, after.find? logical = some peer → ∃ known,
      before.find? logical = some known ∧ (∀ broadcast, peer.expected broadcast
        = known.expected broadcast) ∧ peer.session = known.session) :
    Undisturbed logical before after := by
  cases there : after.find? logical with
  | some peer =>
    obtain ⟨known, here, same, session⟩ := found there
    refine ⟨fun broadcast => ?_, ?_⟩
    · simp [NetworkMap.expectation, there, here, same]
    · simp [NetworkMap.announced, there, here, session]
  | none =>
    have here : before.find? logical = none := by
      cases here : before.find? logical with
      | none => rfl
      | some known =>
        have held := kept (by rw [contains, here]; rfl)
        rw [contains, there] at held
        cases held
    refine ⟨fun broadcast => ?_, ?_⟩
    · simp [NetworkMap.expectation, there, here]
    · simp [NetworkMap.announced, there, here]

/-- Of a peer that is entered the same is expected as before: of a new one nothing. -/
lemma expected_entered (map : NetworkMap) (logical : LogicalAddress) (physical : PhysicalAddress)
    (time : Int) (broadcast : Bool) :
    (map.entered logical physical time).expected broadcast
      = map.expectation logical broadcast := by
  unfold entered NetworkMap.expectation
  cases map.find? logical <;> cases broadcast <;> rfl

lemma session_entered (map : NetworkMap) (logical : LogicalAddress) (physical : PhysicalAddress)
    (time : Int) : (map.entered logical physical time).session = map.announced logical := by
  unfold entered NetworkMap.announced
  cases map.find? logical <;> rfl

/-- A peer that is found as it was entered is undisturbed. -/
lemma Undisturbed.of_entered {logical : LogicalAddress} {before after : NetworkMap}
    {physical : PhysicalAddress} {time : Int}
    (found : after.find? logical = some (before.entered logical physical time)) :
    Undisturbed logical before after := by
  refine ⟨fun broadcast => ?_, ?_⟩
  · rw [← expected_entered before logical physical time, NetworkMap.expectation, found]
    rfl
  · rw [← session_entered before logical physical time, NetworkMap.announced, found]
    rfl

end NetworkMap

/-- Hearing a session that was announced before, or the first one, resets no expected counter. -/
lemma Peer.expected_noted {peer : Peer} {session : Option Int}
    (same : ∀ announced ∈ session, peer.session = none ∨ peer.session = some announced)
    (broadcast : Bool) : (peer.noted session).expected broadcast = peer.expected broadcast := by
  unfold noted
  cases session with
  | none => rfl
  | some announced =>
    show (peer.noteSession announced).expected broadcast = _
    unfold noteSession
    rcases same announced rfl with unknown | known
    · rw [unknown]
      cases broadcast <;> rfl
    · rw [known]
      dsimp only
      rw [if_pos rfl]

section Hearing

variable {peer : Peer} {channel : Bool} {last session : Option Int} {number : Int}

/-- A number later than the last one taken is new, and the one after it is expected then. -/
lemma Peer.hear_later
    (expected : peer.expected channel = last.map fun n => Counter.wrap (n + 1))
    (same : ∀ announced ∈ session, peer.session = none ∨ peer.session = some announced)
    (later : ∀ n ∈ last, n < number ∧ number - n ≤ Counter.halfRange) :
    ∃ missed, Peer.hear true channel (Counter.wrap number) session peer
      = (some missed, (peer.noted session).expect channel (some (Counter.wrap (number + 1)))) := by
  rw [hear_checked, expected_noted same, expected, Counter.next_wrap]
  cases last with
  | none => exact ⟨0, rfl⟩
  | some n =>
    obtain ⟨after, near⟩ := later n rfl
    have new : Counter.missed? (some (Counter.wrap (n + 1))) (Counter.wrap number)
        = some (number - (n + 1)).toNat :=
      Counter.missed?_wrap_of_le (by omega) (by omega)
    refine ⟨(number - (n + 1)).toNat, ?_⟩
    rw [Option.map_some, new]

/-- A number not later than the last one taken is old, and what is expected stays as it is. -/
lemma Peer.hear_earlier {n : Int} (expected : peer.expected channel = some (Counter.wrap (n + 1)))
    (same : ∀ announced ∈ session, peer.session = none ∨ peer.session = some announced)
    (earlier : number ≤ n) (near : n + 1 - number ≤ (counterRange - Counter.halfRange : Nat)) :
    Peer.hear true channel (Counter.wrap number) session peer = (none, peer.noted session) := by
  have old : number < n + 1 := by omega
  rw [hear_checked, expected_noted same, expected, Counter.missed?_wrap_of_lt old near]

end Hearing

namespace Node

/-! ## The datagrams of one peer -/

namespace Arrival

/-- The channel on which a datagram of the peer reaches the node: that of broadcasts or that of
datagrams to the node alone. -/
def channel? (a : Arrival) (peer : LogicalAddress) : Option Bool :=
  a.envelope?.bind fun envelope =>
    if envelope.sender = peer ∧ a.node.isAddressed envelope.destination = true then
      some envelope.destination.isBroadcast
    else none

/-- The channel on which a datagram of the peer is taken. -/
def acceptedOn? (a : Arrival) (peer : LogicalAddress) : Option Bool :=
  if a.outcome.isAccepted then a.channel? peer else none

lemma channel_of_acceptedOn {a : Arrival} {peer : LogicalAddress} {channel : Bool}
    (taken : a.acceptedOn? peer = some channel) : a.channel? peer = some channel := by
  rw [acceptedOn?] at taken
  split at taken
  · exact taken
  · cases taken

/-- The channel stands in the datagram itself. -/
lemma broadcast_of_channel {a : Arrival} {peer : LogicalAddress} {channel : Bool}
    (heard : a.channel? peer = some channel) :
    a.envelope?.map (fun envelope => envelope.destination.isBroadcast) = some channel := by
  rw [channel?] at heard
  obtain ⟨envelope, read, heard⟩ := Option.bind_eq_some_iff.1 heard
  split at heard
  · rw [read, ← heard]; rfl
  · cases heard

/-- What an arrival does to what is known of a peer that is kept. -/
inductive Effect (a : Arrival) (peer : LogicalAddress) : Prop
  /-- The datagram is of another peer, or gets no further than to the sender's entry. -/
  | undisturbed : a.acceptedOn? peer = none →
      (a.channel? peer ≠ none → a.outcome.isDuplicate = false) →
      NetworkMap.Undisturbed peer a.node.map a.after.map → Effect a peer
  /-- The datagram is a packet of the peer. -/
  | heard {envelope : Envelope} {packet : Packet} {known : Peer} :
      a.envelope? = some envelope → a.packet? = some packet →
      a.channel? peer = some envelope.destination.isBroadcast →
      known = a.node.map.entered peer a.datagram.endpoint a.node.time →
      a.outcome = outcomeOf envelope.sender packet (Peer.hear a.node.config.dedupe
        envelope.destination.isBroadcast envelope.counter packet.session? known).1 →
      a.after.map.find? peer = some (Peer.hear a.node.config.dedupe
        envelope.destination.isBroadcast envelope.counter packet.session? known).2 → Effect a peer

lemma effect {a : Arrival} {peer : LogicalAddress} (distinct : a.node.map.Distinct)
    (kept : a.node.map.contains peer = true → a.after.map.contains peer = true) :
    a.Effect peer := by
  have dropped (refused : a.outcome.isAccepted = false) (new : a.outcome.isDuplicate = false)
      (found : ∀ {p}, a.after.map.find? peer = some p → a.node.map.find? peer = some p) :
      a.Effect peer :=
    .undisturbed (by rw [acceptedOn?, refused]; rfl) (fun _ => new)
      (.of_kept kept fun there => ⟨_, found there, fun _ => rfl, rfl⟩)
  by_cases other : ∀ envelope, Envelope.decode a.datagram.data = .ok envelope →
      peer ≠ envelope.sender
  case pos =>
    have unheard : a.channel? peer = none := by
      unfold channel? envelope?
      cases decoded : Envelope.decode a.datagram.data with
      | error fault => rfl
      | ok envelope => simp [Except.toOption, (other envelope decoded).symm]
    refine .undisturbed ?_ (fun heard => absurd unheard heard) (.of_kept kept fun there => ?_)
    · rw [acceptedOn?, unheard, ite_self]
    · exact ⟨_, find?_of_find?_handle distinct other there, fun _ => rfl, rfl⟩
  case neg =>
    obtain ⟨envelope, other⟩ := not_forall.1 other
    obtain ⟨decoded, same⟩ := Classical.not_imp.1 other
    obtain rfl := not_not.1 same
    have exits := judged a.node a.datagram.data a.datagram.endpoint
    have outcome : a.outcome = (a.node.judge a.datagram.data a.datagram.endpoint).1 := rfl
    have map : a.after.map = (a.node.judge a.datagram.data a.datagram.endpoint).2 := rfl
    generalize a.node.judge a.datagram.data a.datagram.endpoint = result at exits outcome map
    cases exits with
    | unreadable undecoded => rw [decoded] at undecoded; cases undecoded
    | own | pretended =>
      exact dropped (by rw [outcome]; rfl) (by rw [outcome]; rfl) (by rw [map]; exact id)
    | unmapped decoded' _ _ refused =>
      cases decoded.symm.trans decoded'
      refine dropped (by rw [outcome]; rfl) (by rw [outcome]; rfl) ?_
      rw [map]
      exact distinct.find?_of_observe_error refused
    | misaddressed learned | undecodable learned =>
      cases decoded.symm.trans learned.decoded
      obtain ⟨rfl, found⟩ := distinct.find?_observe_self learned.observed
      dsimp only at map outcome
      rw [← map] at found
      refine .undisturbed ?_ (fun _ => by rw [outcome]; rfl) (.of_entered found)
      rw [acceptedOn?, outcome]
      rfl
    | @decoded _ known after packet learned addressed body =>
      cases decoded.symm.trans learned.decoded
      obtain ⟨entered, found⟩ := distinct.find?_observe_self learned.observed
      have read : a.envelope? = some envelope := by rw [envelope?, decoded]; rfl
      have packed : a.packet? = some packet := by
        rw [packet?, read]
        show (Datagram.decodeBody a.node.codec envelope.kind a.datagram.data).toOption = _
        rw [body]
        rfl
      refine .heard read packed ?_ entered outcome ?_
      · rw [channel?, read]
        show (if _ then _ else _) = _
        rw [if_pos ⟨rfl, addressed⟩]
      · rw [map, NetworkMap.find?_update (fun peer => Peer.logical_hear _ _ _ _ peer), if_pos rfl,
          found]
        rfl

end Arrival

/-- The peer, once it is held, stays held from before the first arrival until after the last one. -/
def Kept (peer : LogicalAddress) (heard : List Arrival) : Prop :=
  (heard.flatMap fun a => [a.node, a.after]).IsChain fun before after =>
    before.map.contains peer = true → after.map.contains peer = true

instance (peer : LogicalAddress) (heard : List Arrival) : Decidable (Kept peer heard) :=
  inferInstanceAs (Decidable (List.IsChain _ _))

lemma Kept.of_cons {peer : LogicalAddress} {a : Arrival} {later : List Arrival}
    (kept : Kept peer (a :: later)) :
    (a.node.map.contains peer = true → a.after.map.contains peer = true) ∧
      (a.after.map.contains peer = true →
        ∀ b ∈ later.head?, b.node.map.contains peer = true) ∧ Kept peer later := by
  unfold Kept at kept
  rw [List.flatMap_cons, List.cons_append, List.singleton_append, List.isChain_cons_cons] at kept
  obtain ⟨handled, kept⟩ := kept
  cases later with
  | nil => exact ⟨handled, fun _ _ none => (by cases none), .nil⟩
  | cons b later =>
    rw [List.flatMap_cons, List.cons_append, List.isChain_cons_cons] at kept
    obtain ⟨waited, kept⟩ := kept
    refine ⟨handled, fun held c first => ?_, ?_⟩
    · cases first
      exact waited held
    · rw [Kept, List.flatMap_cons]
      exact kept

/-- A quiet change disturbs no peer that is kept. -/
lemma Quiet.undisturbed {m n : Node} {peer : LogicalAddress} (quiet : Quiet m n)
    (distinct : m.map.Distinct)
    (kept : m.map.contains peer = true → n.map.contains peer = true) :
    NetworkMap.Undisturbed peer m.map n.map := by
  refine .of_kept kept fun found => ?_
  obtain ⟨known, before, same⟩ := quiet.found distinct found
  refine ⟨known, before, fun broadcast => ?_, ?_⟩
  · rw [same]; cases broadcast <;> rfl
  · rw [same]

/-- What the node knows of a peer follows from the last number taken on each channel: the counter after
it is expected, or nothing if there is none.  The peer announces one session. -/
structure Expects (peer : LogicalAddress) (session : Int) (last : Bool → Option Int) (node : Node) :
    Prop where
  dedupe : node.config.dedupe = true
  distinct : node.map.Distinct
  expectation : ∀ channel,
    node.map.expectation peer channel = (last channel).map fun n => Counter.wrap (n + 1)
  announced : ∀ known ∈ node.map.announced peer, known = session

namespace Expects

variable {peer : LogicalAddress} {session : Int} {last : Bool → Option Int} {m n : Node}
  {physical : PhysicalAddress} {time : Int} {carried : Option Int}

/-- What does not disturb the peer keeps what is known of it. -/
lemma undisturbed (expects : Expects peer session last m) (config : n.config = m.config)
    (distinct : n.map.Distinct) (same : NetworkMap.Undisturbed peer m.map n.map) :
    Expects peer session last n where
  dedupe := by rw [config, expects.dedupe]
  distinct := distinct
  expectation channel := by rw [same.expectation, expects.expectation]
  announced := by rw [same.announced]; exact expects.announced

/-- The entry of the peer expects what follows the last numbers taken. -/
lemma expected_entered (expects : Expects peer session last m) (channel : Bool) :
    (m.map.entered peer physical time).expected channel
      = (last channel).map fun n => Counter.wrap (n + 1) := by
  rw [NetworkMap.expected_entered, expects.expectation]

/-- A session that the peer carries is its first one, or the one that it announced before. -/
lemma same_session (expects : Expects peer session last m)
    (sessions : ∀ announced ∈ carried, announced = session) :
    ∀ announced ∈ carried, (m.map.entered peer physical time).session = none ∨
      (m.map.entered peer physical time).session = some announced := by
  intro announced held
  rw [sessions announced held, NetworkMap.session_entered]
  cases known : m.map.announced peer with
  | none => exact .inl rfl
  | some before => exact .inr (congrArg some (expects.announced before known))

lemma session_noted (expects : Expects peer session last m)
    (sessions : ∀ announced ∈ carried, announced = session) :
    ∀ before ∈ ((m.map.entered peer physical time).noted carried).session, before = session := by
  intro before noted
  rw [Peer.session_noted, NetworkMap.session_entered] at noted
  rcases Option.or_eq_some_iff.1 noted with new | ⟨-, unchanged⟩
  · exact sessions before new
  · exact expects.announced before unchanged

/-- After a number is taken, it is the last one on its channel. -/
lemma taken (expects : Expects peer session last m) (config : n.config = m.config)
    (distinct : n.map.Distinct) {channel : Bool} {number : Int}
    (sessions : ∀ announced ∈ carried, announced = session)
    (found : n.map.find? peer = some (((m.map.entered peer physical time).noted carried).expect
      channel (some (Counter.wrap (number + 1))))) :
    Expects peer session (Function.update last channel (some number)) n where
  dedupe := by rw [config, expects.dedupe]
  distinct := distinct
  expectation other := by
    rw [NetworkMap.expectation, found]
    show (Peer.expect _ _ _).expected other = _
    by_cases same : other = channel
    · subst same
      rw [Function.update_self, Peer.expected_expect_self]
      rfl
    · obtain rfl : other = !channel := Bool.eq_not_of_ne same
      rw [Function.update_of_ne same, Peer.expected_expect_other,
        Peer.expected_noted (expects.same_session sessions), expects.expected_entered]
  announced := by
    rw [NetworkMap.announced, found]
    show ∀ before ∈ (Peer.expect _ _ _).session, before = session
    rw [Peer.session_expect]
    exact expects.session_noted sessions

/-- After a number is dropped, the same is known as before. -/
lemma dropped (expects : Expects peer session last m) (config : n.config = m.config)
    (distinct : n.map.Distinct) (sessions : ∀ announced ∈ carried, announced = session)
    (found : n.map.find? peer = some ((m.map.entered peer physical time).noted carried)) :
    Expects peer session last n where
  dedupe := by rw [config, expects.dedupe]
  distinct := distinct
  expectation other := by
    rw [NetworkMap.expectation, found]
    show (Peer.noted _ _).expected other = _
    rw [Peer.expected_noted (expects.same_session sessions), expects.expected_entered]
  announced := by
    rw [NetworkMap.announced, found]
    exact expects.session_noted sessions

/-- A peer of which a number was taken is held. -/
lemma held (expects : Expects peer session last m) {channel : Bool} {number : Int}
    (taken : last channel = some number) : m.map.contains peer = true := by
  have something := expects.expectation channel
  rw [taken, NetworkMap.expectation] at something
  cases here : m.map.find? peer with
  | none => rw [here] at something; cases something
  | some _ => rw [NetworkMap.contains, here]; rfl

end Expects

/-- How a peer numbers the datagrams that it sends: on each channel consecutively from some first
number on, and fewer of them than half the range of counters. -/
structure Numbering where
  number : Bytes → Int
  first : Bool → Int
  count : Bool → Nat
  few : ∀ channel, count channel < 2 ^ (31 : Nat)

namespace Numbering

variable {numbering : Numbering} {session : Int} {peer : LogicalAddress} {a : Arrival}

/-- Whether a number is given on a channel. -/
def Gives (numbering : Numbering) (channel : Bool) (number : Int) : Prop :=
  numbering.first channel ≤ number ∧ number < numbering.first channel + numbering.count channel

/-- A datagram of the peer, if the arrival is one, is as the peer sent it: it carries the counter of
its number, and if it announces a session, then the one session of the peer. -/
def Stamped (numbering : Numbering) (session : Int) (peer : LogicalAddress) (a : Arrival) : Prop :=
  ∀ envelope ∈ a.envelope?, ∀ channel ∈ a.channel? peer,
    envelope.counter = Counter.wrap (numbering.number a.datagram.data) ∧
      numbering.Gives channel (numbering.number a.datagram.data) ∧
      ∀ packet ∈ a.packet?, ∀ announced ∈ packet.session?, announced = session

instance (numbering : Numbering) (channel : Bool) (number : Int) :
    Decidable (numbering.Gives channel number) :=
  inferInstanceAs (Decidable (_ ∧ _))

instance (numbering : Numbering) (session : Int) (peer : LogicalAddress) (a : Arrival) :
    Decidable (numbering.Stamped session peer a) :=
  inferInstanceAs (Decidable (∀ _ ∈ a.envelope?, ∀ _ ∈ a.channel? peer,
    _ ∧ _ ∧ ∀ _ ∈ a.packet?, ∀ _ ∈ Packet.session? _, _))

/-- Two numbers that are given on a channel differ by less than half the range of counters. -/
lemma Gives.near {channel : Bool} {m n : Int} (hm : numbering.Gives channel m)
    (hn : numbering.Gives channel n) : n - m + 1 < 2 ^ (31 : Nat) := by
  have few := numbering.few channel
  obtain ⟨hm, -⟩ := hm
  obtain ⟨-, hn⟩ := hn
  omega

/-- What the node knows of the peer follows from the last number taken on each channel: the counter
after it is expected, or nothing if there is none. -/
structure Follows (numbering : Numbering) (session : Int) (peer : LogicalAddress)
    (last : Bool → Option Int) (node : Node) : Prop where
  dedupe : node.config.dedupe = true
  distinct : node.map.Distinct
  given : ∀ channel, ∀ n ∈ last channel, numbering.Gives channel n
  expectation : ∀ channel,
    node.map.expectation peer channel = (last channel).map fun n => Counter.wrap (n + 1)
  announced : ∀ known ∈ node.map.announced peer, known = session

/-- The last numbers taken after an arrival. -/
def advance (numbering : Numbering) (peer : LogicalAddress) (a : Arrival) (last : Bool → Option Int) :
    Bool → Option Int :=
  match a.acceptedOn? peer with
  | some channel => Function.update last channel (some (numbering.number a.datagram.data))
  | none => last

lemma advance_of_accepted {last : Bool → Option Int} {channel : Bool}
    (taken : a.acceptedOn? peer = some channel) : numbering.advance peer a last
      = Function.update last channel (some (numbering.number a.datagram.data)) := by
  rw [advance, taken]

lemma advance_of_refused {last : Bool → Option Int} (refused : a.acceptedOn? peer = none) :
    numbering.advance peer a last = last := by
  rw [advance, refused]

lemma Follows.expects {last : Bool → Option Int} {node : Node}
    (follows : numbering.Follows session peer last node) : Expects peer session last node :=
  ⟨follows.dedupe, follows.distinct, follows.expectation, follows.announced⟩

lemma Follows.of_expects {last : Bool → Option Int} {node : Node}
    (expects : Expects peer session last node)
    (given : ∀ channel, ∀ n ∈ last channel, numbering.Gives channel n) :
    numbering.Follows session peer last node :=
  ⟨expects.dedupe, expects.distinct, given, expects.expectation, expects.announced⟩

/-- Where nothing is known of the peer, nothing of it has been taken. -/
lemma Follows.start {node : Node} (dedupe : node.config.dedupe = true)
    (distinct : node.map.Distinct) (new : node.map.contains peer = false) :
    numbering.Follows session peer (fun _ => none) node := by
  have absent : node.map.find? peer = none := by simpa [NetworkMap.contains] using new
  refine ⟨dedupe, distinct, fun _ _ h => (by cases h), fun channel => ?_, ?_⟩
  · rw [NetworkMap.expectation, absent]; rfl
  · rw [NetworkMap.announced, absent]; exact fun _ h => (by cases h)

/-- Numbers that were given stay so when another one is taken. -/
lemma Gives.update {last : Bool → Option Int} {channel : Bool} {number : Int}
    (given : ∀ channel, ∀ n ∈ last channel, numbering.Gives channel n)
    (gives : numbering.Gives channel number) (other : Bool) :
    ∀ n ∈ Function.update last channel (some number) other, numbering.Gives other n := by
  by_cases same : other = channel
  · subst same
    rw [Function.update_self]
    rintro n ⟨⟩
    exact gives
  · rw [Function.update_of_ne same]
    exact given other

/-- **One arrival.**  If a datagram of the peer is taken, its number is later than the last one taken
on its channel.  If it is dropped as old, the peer is held and the same is expected of it. -/
theorem Follows.hear {last : Bool → Option Int} (follows : numbering.Follows session peer last a.node)
    (stamped : numbering.Stamped session peer a)
    (kept : a.node.map.contains peer = true → a.after.map.contains peer = true) :
    numbering.Follows session peer (numbering.advance peer a last) a.after ∧
      (∀ channel, a.acceptedOn? peer = some channel →
        ∀ n ∈ last channel, n < numbering.number a.datagram.data) ∧
      (a.channel? peer ≠ none → a.outcome.isDuplicate = true →
        a.node.map.contains peer = true ∧ ∀ channel,
          a.after.map.expectation peer channel = a.node.map.expectation peer channel) := by
  have distinct : a.after.map.Distinct := distinct_handle follows.distinct _ _
  have config : a.after.config = a.node.config := rfl
  cases a.effect follows.distinct kept with
  | undisturbed refused new same =>
    refine ⟨?_, fun channel taken => ?_, fun heard old => ?_⟩
    · rw [advance_of_refused refused]
      exact .of_expects (follows.expects.undisturbed config distinct same) follows.given
    · rw [refused] at taken; cases taken
    · rw [new heard] at old; cases old
  | @heard envelope packet known read packed heard entered outcome found =>
    subst entered
    obtain ⟨counter, gives, announces⟩ := stamped envelope read _ heard
    have sessions := announces packet packed
    rw [follows.dedupe, counter] at outcome found
    generalize envelope.destination.isBroadcast = channel at *
    have half : (Counter.halfRange : Int) = 2 ^ 31 - 1 := by decide
    -- Both numbers are given on the channel, so they lie close enough for their counters to compare.
    by_cases later : ∀ n ∈ last channel, n < numbering.number a.datagram.data
    case pos =>
      obtain ⟨missed, judged⟩ := Peer.hear_later (follows.expects.expected_entered channel)
        (follows.expects.same_session sessions) fun n taken =>
          ⟨later n taken, by have near := (follows.given channel n taken).near gives; omega⟩
      rw [judged] at outcome found
      have accepted : a.outcome.isAccepted = true := by simp [outcome]
      have new : a.outcome.isDuplicate = false := by simp [outcome]
      have taken : a.acceptedOn? peer = some channel := by
        rw [Arrival.acceptedOn?, if_pos accepted, heard]
      refine ⟨?_, fun other takenOn => ?_, fun _ old => ?_⟩
      · rw [advance_of_accepted taken]
        exact .of_expects (follows.expects.taken config distinct sessions found)
          (Gives.update follows.given gives)
      · cases taken.symm.trans takenOn
        exact later
      · rw [new] at old; cases old
    case neg =>
      obtain ⟨n, later⟩ := not_forall.1 later
      obtain ⟨taken, earlier⟩ := Classical.not_imp.1 later
      have near : n + 1 - numbering.number a.datagram.data
          ≤ (counterRange - Counter.halfRange : Nat) := by
        have near := gives.near (follows.given channel n taken)
        have range : ((counterRange - Counter.halfRange : Nat) : Int) = 2 ^ 31 + 1 := by decide
        omega
      have expected : (a.node.map.entered peer a.datagram.endpoint a.node.time).expected channel
          = some (Counter.wrap (n + 1)) := by
        rw [follows.expects.expected_entered, show last channel = some n from taken]
        rfl
      rw [Peer.hear_earlier expected (follows.expects.same_session sessions) (Int.not_lt.1 earlier) near]
        at outcome found
      have refused : a.acceptedOn? peer = none := by
        rw [Arrival.acceptedOn?, outcome]
        rfl
      have after := follows.expects.dropped config distinct sessions found
      refine ⟨?_, fun other takenOn => ?_, fun _ _ => ⟨follows.expects.held taken, fun other => ?_⟩⟩
      · rw [advance_of_refused refused]
        exact .of_expects after follows.given
      · rw [refused] at takenOn; cases takenOn
      · rw [after.expectation, follows.expectation]

/-- **All arrivals.**  Along a course, the datagrams that are taken have rising numbers on each
channel, all of them later than the last ones taken before, and a datagram dropped as old finds the
peer held and moves nothing. -/
theorem Follows.run {last : Bool → Option Int} {m n : Node} {heard : List Arrival}
    (course : Course m heard n) (follows : numbering.Follows session peer last m)
    (linked : m.map.contains peer = true → ∀ a ∈ heard.head?, a.node.map.contains peer = true)
    (kept : Kept peer heard) (stamped : ∀ a ∈ heard, numbering.Stamped session peer a) :
    (∀ a ∈ heard, ∀ channel, a.acceptedOn? peer = some channel →
        ∀ n ∈ last channel, n < numbering.number a.datagram.data) ∧
      heard.Pairwise (fun a b => ∀ channel, a.acceptedOn? peer = some channel →
        b.acceptedOn? peer = some channel →
          numbering.number a.datagram.data < numbering.number b.datagram.data) ∧
      ∀ a ∈ heard, a.channel? peer ≠ none → a.outcome.isDuplicate = true →
        a.node.map.contains peer = true ∧ ∀ channel,
          a.after.map.expectation peer channel = a.node.map.expectation peer channel := by
  induction course generalizing last with
  | quiet _ => simp
  | @heard m n a later quiet course ih =>
    obtain ⟨handled, waited, keptLater⟩ := kept.of_cons
    have here : numbering.Follows session peer last a.node :=
      .of_expects (follows.expects.undisturbed quiet.config (quiet.distinct follows.distinct)
        (quiet.undisturbed follows.distinct fun held => linked held a rfl)) follows.given
    have stampedHere := stamped a List.mem_cons_self
    obtain ⟨after, rises, old⟩ := here.hear stampedHere handled
    obtain ⟨above, sorted, oldLater⟩ := ih after waited keptLater fun b held =>
      stamped b (List.mem_cons_of_mem a held)
    -- A later number is above the last one taken now, be it the one of `a` or an earlier one.
    have beyond : ∀ b ∈ later, ∀ channel, b.acceptedOn? peer = some channel →
        (∀ n ∈ last channel, n < numbering.number b.datagram.data) ∧
          (a.acceptedOn? peer = some channel →
            numbering.number a.datagram.data < numbering.number b.datagram.data) := by
      intro b held channel taken
      have later := above b held channel taken
      cases first : a.acceptedOn? peer with
      | none =>
        rw [advance_of_refused first] at later
        exact ⟨later, fun h => (by cases h)⟩
      | some other =>
        rw [advance_of_accepted first] at later
        by_cases same : channel = other
        · subst same
          rw [Function.update_self] at later
          have step := later _ rfl
          exact ⟨fun n before => Int.lt_trans (rises channel first n before) step, fun _ => step⟩
        · rw [Function.update_of_ne same] at later
          exact ⟨later, fun h => absurd (Option.some.inj h).symm same⟩
    refine ⟨List.forall_mem_cons.2 ⟨rises, fun b held channel taken =>
        (beyond b held channel taken).1⟩, List.pairwise_cons.2 ⟨fun b held channel first taken =>
        (beyond b held channel taken).2 first, sorted⟩, List.forall_mem_cons.2 ⟨old, oldLater⟩⟩

end Numbering

/-- **Every datagram at most once.**  A new node that checks counters makes any run, with any
transport.  Take a part of its arrivals at whose begin it does not hold the peer, and during which it
does not forget the peer, and let the peer number its datagrams on each channel and announce one
session.  Then the datagrams that are taken of the peer have rising numbers on each channel, none of
them is taken twice, and one that is dropped as old finds the peer held and leaves both of its
expected counters alone. -/
theorem accepted_once {σ : Type} {t : Transport σ} {config : NodeConfig} {codec : Codec}
    {drawn : Int} {node : Node} (made : create config codec drawn = .ok node)
    (dedupe : config.dedupe = true) (calls : List (Call σ)) (s : σ) {heard : List Arrival}
    (part : heard <:+: arrivals t calls node s) {peer : LogicalAddress}
    (new : ∀ a ∈ heard.head?, a.node.map.contains peer = false) (kept : Kept peer heard)
    {numbering : Numbering} {session : Int}
    (stamped : ∀ a ∈ heard, numbering.Stamped session peer a) :
    (∀ channel, ((heard.filter fun a => a.acceptedOn? peer = some channel).map fun a =>
        numbering.number a.datagram.data).Pairwise (· < ·)) ∧
      ((heard.filter fun a => (a.acceptedOn? peer).isSome).map fun a => a.datagram.data).Nodup ∧
      ∀ a ∈ heard, a.channel? peer ≠ none → a.outcome.isDuplicate = true →
        a.node.map.contains peer = true ∧ ∀ channel,
          a.after.map.expectation peer channel = a.node.map.expectation peer channel := by
  obtain ⟨before, after, whole⟩ := part
  obtain ⟨_, course, -⟩ := (whole ▸ run_course t calls node s).split
  obtain ⟨m, first, course⟩ := course.split
  cases heard with
  | nil => simp
  | cons a later =>
    have created := created made
    have distinct : m.map.Distinct := (first.distinct created.distinct).1
    have checks : m.config.dedupe = true := by
      rw [first.settings.1, created.node]
      exact dedupe
    cases course with
    | heard quiet course =>
      have follows : numbering.Follows session peer (fun _ => none) a.node :=
        .start (by rw [quiet.config, checks]) (quiet.distinct distinct) (new a rfl)
      obtain ⟨-, sorted, old⟩ := follows.run (.heard (.refl _) course)
        (fun held b first => (by cases first; exact held)) kept stamped
      refine ⟨fun channel => ?_, ?_, old⟩
      · rw [List.pairwise_map, List.pairwise_filter]
        refine sorted.imp fun rises first second => ?_
        exact rises channel (of_decide_eq_true first) (of_decide_eq_true second)
      · rw [List.Nodup, List.pairwise_map, List.pairwise_filter]
        refine sorted.imp fun {a b} rises first second same => ?_
        obtain ⟨channel, first⟩ := Option.isSome_iff_exists.1 first
        obtain ⟨other, second⟩ := Option.isSome_iff_exists.1 second
        have here := Arrival.broadcast_of_channel (Arrival.channel_of_acceptedOn first)
        have there := Arrival.broadcast_of_channel (Arrival.channel_of_acceptedOn second)
        rw [Arrival.envelope?, same] at here
        obtain rfl : channel = other := Option.some.inj (here.symm.trans there)
        have less := rises channel first second
        rw [same] at less
        exact absurd less (Int.lt_irrefl _)

/-! ### A counter that wraps -/

/-- The last counter and then the first one. -/
def overTheEnd : Numbering where
  number data :=
    match Envelope.decode data with
    | .ok envelope => if envelope.counter = 0 then counterRange else envelope.counter
    | .error _ => 0
  first _ := counterRange - 1
  count _ := 2
  few _ := by decide

/-- Two heartbeats, the second of them after the counter has wrapped, and the first one again. -/
def heardOverTheEnd : List Arrival :=
  arrivals .queue [.poll 0] listener [heartbeatOf (counterRange - 1), heartbeatOf counterRange,
    heartbeatOf (counterRange - 1)]

/-- Across the wrap the two heartbeats are taken in order, and the repeated one is dropped. -/
theorem accepted_once_over_the_end :
    heardOverTheEnd.map (fun a => a.outcome.isDuplicate) = [false, false, true] ∧
      ((heardOverTheEnd.filter fun a => a.acceptedOn? .missionControl = some true).map fun a =>
        overTheEnd.number a.datagram.data).Pairwise (· < ·) ∧
      ((heardOverTheEnd.filter fun a => (a.acceptedOn? .missionControl).isSome).map fun a =>
        a.datagram.data).Nodup ∧
      ∀ a ∈ heardOverTheEnd, a.channel? .missionControl ≠ none → a.outcome.isDuplicate = true →
        a.node.map.contains .missionControl = true ∧ ∀ channel,
          a.after.map.expectation .missionControl channel
            = a.node.map.expectation .missionControl channel := by
  have new : ∀ a ∈ heardOverTheEnd.head?, a.node.map.contains .missionControl = false := by
    decide +kernel
  have kept : Kept .missionControl heardOverTheEnd := by decide +kernel
  have stamped : ∀ a ∈ heardOverTheEnd, overTheEnd.Stamped 7 .missionControl a := by
    decide +kernel
  obtain ⟨rising, once, unmoved⟩ := accepted_once listener_made rfl _ _ List.infix_rfl new kept stamped
  exact ⟨by decide +kernel, rising true, once, unmoved⟩

end Node

end RollCall
