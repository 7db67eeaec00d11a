import RollCall.Proofs.NetworkMap.History
import RollCall.Proofs.Node.Hearing
import RollCall.Proofs.Node.Sequence
import RollCall.Proofs.Node.Tracking

/-!
# Holding on to a peer

A peer is removed when it was not heard for longer than the window, and at no other time: not to make
room for another, and not when another is looked up.  So a node that has heard a peer within its window
holds on to it through all that a drain takes in, and where the peer stands, what it announced and what
is expected of its counters stay what they were as long as every datagram in its name is its own.

* `Genuine`, `Truthful` — what a datagram tells of the peer is true, and what a node knows of it.
* `Told`, `told_of_sender` — what is known of a peer after a datagram of it.
* `Retains` — the counter that was expected of the peer is expected still, or a newer one has come.
* `Held` — the peer was heard within the window; `Held.handle`, `Held.purge`, `Held.send` keep it.
* `Handles`, `drain_handles` — a drain is a row of arrivals with nothing in between.
* `Handles.held`, `Handles.enters` — **a peer that is held stays held through a drain, and one that a
  drain enters is held after it.**
-/

namespace RollCall

/-- What is expected after a counter that is new. -/
def Counter.Moves (expected later : Int) : Prop :=
  ∃ counter missed, Counter.missed? (some expected) counter = some missed ∧ later = Counter.next counter

namespace Peer

variable {peer : Peer} {session : Option Int}

/-- The session that a datagram announces is known after it, and otherwise the one that was. -/
lemma session_hear (dedupe broadcast : Bool) (counter : Int) (session : Option Int) (peer : Peer) :
    (hear dedupe broadcast counter session peer).2.session = session.or peer.session := by
  cases dedupe with
  | false => rw [hear_unchecked, session_noted]
  | true =>
    rw [hear_checked]
    split
    · rw [session_expect, session_noted]
    · rw [session_noted]

/-- Unless a datagram announces another session than before, what was expected is expected still, or is
moved on by the counter of the datagram. -/
lemma expected_hear (dedupe broadcast : Bool) (counter : Int)
    (same : ∀ announced ∈ session, peer.session = none ∨ peer.session = some announced)
    {channel : Bool} {expected : Int} (before : peer.expected channel = some expected) :
    ∃ later, (hear dedupe broadcast counter session peer).2.expected channel = some later ∧
      Relation.ReflGen Counter.Moves expected later := by
  have noted := (expected_noted same channel).trans before
  cases dedupe with
  | false => exact ⟨expected, by rw [hear_unchecked, noted], .refl⟩
  | true =>
    rw [hear_checked]
    split
    · rename_i missed new
      by_cases here : channel = broadcast
      · subst here
        rw [noted] at new
        exact ⟨_, expected_expect_self _ _ _, .single ⟨counter, missed, new, rfl⟩⟩
      · obtain rfl : channel = !broadcast := Bool.eq_not_of_ne here
        exact ⟨expected, by rw [expected_expect_other, noted], .refl⟩
    · exact ⟨expected, noted, .refl⟩

end Peer

namespace NetworkMap

variable {map after : NetworkMap} {logical : LogicalAddress} {peer : Peer}
  {physical : PhysicalAddress} {time : Int}

/-- A peer is entered where and when it was heard. -/
lemma place_entered (map : NetworkMap) (logical : LogicalAddress) (physical : PhysicalAddress)
    (time : Int) : (map.entered logical physical time).physical = physical ∧
      (map.entered logical physical time).lastSeen = time := by
  unfold entered
  split <;> exact ⟨rfl, rfl⟩

/-- A peer that is refused was not held. -/
lemma absent_of_observe_error {fault : MapFault} (unicast : logical.isBroadcast = false)
    (refused : map.observe logical physical time = (.error fault, after)) :
    map.find? logical = none := by
  have seen := observed map logical physical time
  rw [refused] at seen
  cases seen with
  | broadcast named => rw [unicast] at named; cases named
  | full _ absent => exact absent

/-- A look-up removes no peer that is not stale. -/
lemma Distinct.find?_lookup_of_live (distinct : map.Distinct)
    (found : map.find? logical = some peer) (live : peer.isStale map.window time = false)
    (other : LogicalAddress) : (map.lookup other time).2.find? logical = some peer := by
  by_cases same : logical = other
  · subst same
    have kept : map.lookup logical time = (some peer, map) := by
      rw [NetworkMap.lookup, found]
      dsimp only
      rw [live, if_neg Bool.false_ne_true]
    rw [kept]
    exact found
  · rcases lookup_eq map other time with unchanged | removed
    · rw [unchanged]
      exact found
    · rw [removed, distinct.find?_evict, found]
      simp [Option.filter, logical_of_find? found, same]

end NetworkMap

namespace Node

variable {σ : Type} {node m n : Node} {peer : LogicalAddress} {endpoint : PhysicalAddress}
  {session since : Int} {d : Delivery}

/-! ## What is true of a peer -/

/-- If a datagram names the peer as its sender, it comes from the peer's endpoint, and it announces no
session but the peer's. -/
structure Genuine (codec : Codec) (peer : LogicalAddress) (endpoint : PhysicalAddress)
    (session : Int) (d : Delivery) : Prop where
  source : d.sender? = some peer → d.endpoint = endpoint
  announces : ∀ {envelope packet}, Envelope.decode d.data = .ok envelope → envelope.sender = peer →
    Datagram.decodeBody codec envelope.kind d.data = .ok packet →
    ∀ announced ∈ packet.session?, announced = session

/-- If a node knows the peer, it knows it at its endpoint and with no session but its own. -/
structure Truthful (peer : LogicalAddress) (endpoint : PhysicalAddress) (session : Int) (node : Node) :
    Prop where
  distinct : node.map.Distinct
  place : ∀ {known}, node.map.find? peer = some known → known.physical = endpoint
  announced : ∀ known ∈ node.map.announced peer, known = session

/-- What is known of a peer after a datagram of it: what it was entered with, or what was heard
besides. -/
inductive Told (node : Node) (d : Delivery) (peer : LogicalAddress) : Peer → Prop
  | entered : Told node d peer (node.map.entered peer d.endpoint node.time)
  | heard {envelope : Envelope} {packet : Packet} : Envelope.decode d.data = .ok envelope →
      envelope.sender = peer → Datagram.decodeBody node.codec envelope.kind d.data = .ok packet →
      Told node d peer (Peer.hear node.config.dedupe envelope.destination.isBroadcast envelope.counter
        packet.session? (node.map.entered peer d.endpoint node.time)).2

/-- A datagram of a peer is one that the map has no room for, or the peer is held after it. -/
lemma told_of_sender (distinct : node.map.Distinct) (named : d.sender? = some peer)
    (foreign : peer ≠ node.host) (unicast : peer.isBroadcast = false) :
    ((node.handle d.data d.endpoint).1 = .unmapped ∧ node.map.find? peer = none ∧
        (node.handle d.data d.endpoint).2.map.find? peer = none) ∨
      ∃ known, (node.handle d.data d.endpoint).2.map.find? peer = some known ∧
        Told node d peer known := by
  cases decoded : Envelope.decode d.data with
  | error fault =>
    rw [d.sender?_of_error decoded] at named
    cases named
  | ok envelope =>
    rw [d.sender?_of_ok decoded] at named
    obtain rfl : envelope.sender = peer := Option.some.inj named
    show ((node.judge d.data d.endpoint).1 = .unmapped ∧ _ ∧
      (node.judge d.data d.endpoint).2.find? _ = none) ∨
        ∃ known, (node.judge d.data d.endpoint).2.find? _ = some known ∧ _
    have exits := judged node d.data d.endpoint
    generalize node.judge d.data d.endpoint = result at exits ⊢
    cases exits with
    | unreadable undecoded => rw [decoded] at undecoded; cases undecoded
    | own decoded' own =>
      cases decoded.symm.trans decoded'
      exact absurd own foreign
    | pretended decoded' _ pretended =>
      cases decoded.symm.trans decoded'
      rw [unicast] at pretended
      cases pretended
    | @unmapped _ _ after decoded' _ _ refused =>
      cases decoded.symm.trans decoded'
      have absent := NetworkMap.absent_of_observe_error unicast refused
      refine .inl ⟨rfl, absent, ?_⟩
      cases found : after.find? envelope.sender with
      | none => rfl
      | some known =>
        have held := distinct.find?_of_observe_error refused found
        rw [absent] at held
        cases held
    | misaddressed learned | undecodable learned =>
      cases decoded.symm.trans learned.decoded
      obtain ⟨rfl, found⟩ := distinct.find?_observe_self learned.observed
      exact .inr ⟨_, found, .entered⟩
    | decoded learned _ body =>
      cases decoded.symm.trans learned.decoded
      obtain ⟨rfl, found⟩ := distinct.find?_observe_self learned.observed
      refine .inr ⟨_, ?_, .heard decoded rfl body⟩
      rw [NetworkMap.find?_update fun peer => Peer.logical_hear _ _ _ _ peer, if_pos rfl, found]
      rfl

namespace Told

variable {known : Peer}

/-- The peer is where and when the datagram says. -/
lemma place (told : Told node d peer known) :
    known.physical = d.endpoint ∧ known.lastSeen = node.time := by
  obtain ⟨physical, lastSeen⟩ := node.map.place_entered peer d.endpoint node.time
  cases told with
  | entered => exact ⟨physical, lastSeen⟩
  | heard => exact ⟨(Peer.inPlace_hear _ _ _ _ _).physical.trans physical,
      (Peer.inPlace_hear _ _ _ _ _).lastSeen.trans lastSeen⟩

/-- No session but the peer's is known of it. -/
lemma announced (told : Told node d peer known)
    (truthful : Truthful peer endpoint session node)
    (genuine : Genuine node.codec peer endpoint session d) :
    ∀ announced ∈ known.session, announced = session := by
  have before := truthful.announced
  rw [← NetworkMap.session_entered node.map peer d.endpoint node.time] at before
  cases told with
  | entered => exact before
  | heard decoded sender body =>
    have heard := genuine.announces decoded sender body
    intro announced noted
    rw [Peer.session_hear] at noted
    rcases Option.or_eq_some_iff.1 noted with new | ⟨-, unchanged⟩
    · exact heard announced new
    · exact before announced unchanged

/-- What was expected of the peer is expected still, or the datagram moves it on. -/
lemma expected (told : Told node d peer known)
    (truthful : Truthful peer endpoint session node)
    (genuine : Genuine node.codec peer endpoint session d) {channel : Bool} {expected : Int}
    (before : node.map.expectation peer channel = some expected) :
    ∃ later, known.expected channel = some later ∧ Relation.ReflGen Counter.Moves expected later := by
  rw [← NetworkMap.expected_entered node.map peer d.endpoint node.time] at before
  cases told with
  | entered => exact ⟨expected, before, .refl⟩
  | heard decoded sender body =>
    refine Peer.expected_hear _ _ _ ?_ before
    intro announced carried
    rw [genuine.announces decoded sender body announced carried, NetworkMap.session_entered]
    cases known : node.map.announced peer with
    | none => exact .inl rfl
    | some before => exact .inr (congrArg some (truthful.announced before known))

end Told

/-- What was expected of the peer is expected still, or a new counter has moved it on. -/
def Retains (peer : LogicalAddress) (m n : Node) : Prop :=
  ∀ channel expected, m.map.expectation peer channel = some expected →
    ∃ later, n.map.expectation peer channel = some later ∧ Relation.ReflGen Counter.Moves expected later

/-- Nothing that is expected of the peer has changed. -/
def Unmoved (peer : LogicalAddress) (m n : Node) : Prop :=
  ∀ channel, n.map.expectation peer channel = m.map.expectation peer channel

lemma Unmoved.of_map_eq (same : n.map = m.map) : Unmoved peer m n := fun _ => by rw [same]

lemma Unmoved.trans {o : Node} (first : Unmoved peer m n) (second : Unmoved peer n o) :
    Unmoved peer m o := fun channel => (second channel).trans (first channel)

lemma Unmoved.retains (unmoved : Unmoved peer m n) : Retains peer m n :=
  fun channel expected before => ⟨expected, (unmoved channel).trans before, .refl⟩

/-- What is retained after a change of nothing that is expected is retained from before it. -/
lemma Unmoved.retains_after {o : Node} (unmoved : Unmoved peer m n) (retains : Retains peer n o) :
    Retains peer m o :=
  fun channel expected before => retains channel expected ((unmoved channel).trans before)

namespace Truthful

/-- A change in which nothing is heard makes nothing untrue. -/
lemma quiet (truthful : Truthful peer endpoint session m) (quiet : Quiet m n) :
    Truthful peer endpoint session n where
  distinct := quiet.distinct truthful.distinct
  place found := by
    obtain ⟨known, before, same⟩ := quiet.found truthful.distinct found
    have here := truthful.place before
    rw [same]
    exact here
  announced := by
    intro announced noted
    obtain ⟨known, found, noted⟩ := Option.bind_eq_some_iff.1 noted
    obtain ⟨before, found, same⟩ := quiet.found truthful.distinct found
    rw [same] at noted
    exact truthful.announced announced (Option.bind_eq_some_iff.2 ⟨before, found, noted⟩)

/-- A change of no part of the map. -/
lemma of_map_eq (truthful : Truthful peer endpoint session m) (same : n.map = m.map) :
    Truthful peer endpoint session n where
  distinct := same ▸ truthful.distinct
  place found := truthful.place (same ▸ found)
  announced := same ▸ truthful.announced

/-- What is known of the peer after a datagram was known before it, or the datagram tells it. -/
lemma handle (truthful : Truthful peer endpoint session node)
    (genuine : Genuine node.codec peer endpoint session d) (foreign : peer ≠ node.host)
    (unicast : peer.isBroadcast = false) :
    Truthful peer endpoint session (node.handle d.data d.endpoint).2 := by
  have origin {known : Peer} (found : (node.handle d.data d.endpoint).2.map.find? peer = some known) :
      node.map.find? peer = some known ∨ d.sender? = some peer ∧ Told node d peer known := by
    by_cases named : d.sender? = some peer
    · rcases told_of_sender truthful.distinct named foreign unicast with
        ⟨-, -, absent⟩ | ⟨told, held, tells⟩
      · rw [absent] at found
        cases found
      · rw [held] at found
        exact .inr ⟨named, Option.some.inj found ▸ tells⟩
    · refine .inl (find?_of_find?_handle truthful.distinct ?_ found)
      rintro envelope decoded rfl
      exact named (d.sender?_of_ok decoded)
  refine ⟨distinct_handle truthful.distinct _ _, fun found => ?_, fun announced noted => ?_⟩
  · rcases origin found with before | ⟨named, told⟩
    · exact truthful.place before
    · exact told.place.1.trans (genuine.source named)
  · obtain ⟨known, found, noted⟩ := Option.bind_eq_some_iff.1 noted
    rcases origin found with before | ⟨-, told⟩
    · exact truthful.announced announced (Option.bind_eq_some_iff.2 ⟨known, before, noted⟩)
    · exact told.announced truthful genuine announced noted

end Truthful

/-! ## Holding on -/

/-- A node that has heard the peer at a time or later, within its window. -/
structure Held (peer : LogicalAddress) (endpoint : PhysicalAddress) (session since : Int)
    (node : Node) : Prop extends Truthful peer endpoint session node where
  heard : ∃ known, node.map.find? peer = some known ∧ since ≤ known.lastSeen
  past : since ≤ node.time
  fresh : node.time - since ≤ node.map.window

namespace Held

/-- The peer is held, and is not stale. -/
lemma live (held : Held peer endpoint session since node) :
    ∃ known, node.map.find? peer = some known ∧ since ≤ known.lastSeen ∧
      known.isStale node.map.window node.time = false := by
  obtain ⟨known, found, later⟩ := held.heard
  have young := held.fresh
  exact ⟨known, found, later, Peer.isStale_eq_false_iff.2 (by omega)⟩

/-- A look-up gives the peer's endpoint. -/
lemma resolve (held : Held peer endpoint session since node) :
    (node.resolve peer).1 = some endpoint := by
  obtain ⟨known, found, -, live⟩ := held.live
  rw [Node.resolve, NetworkMap.resolve, NetworkMap.lookup, found]
  dsimp only
  rw [live, if_neg Bool.false_ne_true]
  exact congrArg some (held.place found)

/-- Time may pass until the window is over. -/
lemma later (held : Held peer endpoint session since m) (same : n.map = m.map)
    (forward : m.time ≤ n.time) (fresh : n.time - since ≤ m.map.window) :
    Held peer endpoint session since n where
  toTruthful := held.toTruthful.of_map_eq same
  heard := same ▸ held.heard
  past := held.past.trans forward
  fresh := same ▸ fresh

/-- A change of neither the map nor the time. -/
lemma of_map_eq (held : Held peer endpoint session since m) (same : n.map = m.map)
    (time : n.time = m.time) : Held peer endpoint session since n :=
  held.later same time.ge (time ▸ held.fresh)

/-- A change in which nothing is heard, no time passes and the peer is not removed. -/
lemma quiet (held : Held peer endpoint session since m) (quiet : Quiet m n) (time : n.time = m.time)
    (window : n.map.window = m.map.window)
    (kept : n.map.contains peer = true) :
    Held peer endpoint session since n ∧ Unmoved peer m n := by
  obtain ⟨known, found, later⟩ := held.heard
  obtain ⟨still, there⟩ := Option.isSome_iff_exists.1 kept
  obtain ⟨before, here, same⟩ := quiet.found held.distinct there
  obtain rfl : before = known := Option.some.inj (here.symm.trans found)
  refine ⟨⟨held.toTruthful.quiet quiet, ⟨still, there, by rw [same]; exact later⟩, ?_, ?_⟩, ?_⟩
  · rw [time]
    exact held.past
  · rw [time, window]
    exact held.fresh
  · exact (quiet.undisturbed held.distinct fun _ => kept).expectation

/-- Removing what is stale does not remove the peer. -/
lemma purge (held : Held peer endpoint session since node) :
    Held peer endpoint session since node.purge ∧ Unmoved peer node node.purge := by
  obtain ⟨known, found, -, live⟩ := held.live
  refine held.quiet (.purge node) rfl rfl ?_
  rw [NetworkMap.contains, Node.purge, NetworkMap.purge, held.distinct.find?_evict, found]
  simp [Option.filter, live]

/-- Sending does not remove the peer. -/
lemma send (held : Held peer endpoint session since node) (t : Transport σ)
    (destination : LogicalAddress) (packet : Packet) (s : σ) :
    Held peer endpoint session since (Node.send t node destination packet s).2.1 ∧
      Unmoved peer node (Node.send t node destination packet s).2.1 := by
  obtain ⟨known, found, -, live⟩ := held.live
  have idle := Idle.send t node destination packet s
  refine held.quiet (.send t node destination packet s) idle.time idle.window ?_
  have exits := sends t node destination packet s
  generalize Node.send t node destination packet s = turn at exits ⊢
  cases exits with
  | noRoute _ looked =>
    have kept := held.distinct.find?_lookup_of_live found live destination
    rw [looked] at kept
    exact Option.isSome_of_eq_some kept
  | unencodable | unaddressed => exact Option.isSome_of_eq_some found
  | broadcast =>
    rw [transmit_node]
    exact Option.isSome_of_eq_some found
  | unicast =>
    rw [transmit_node, countUnicast, NetworkMap.contains, NetworkMap.find?_update (by intro peer; rfl)]
    split <;> simp [found]

end Held

/-- After a datagram of the peer it is held as heard now. -/
lemma Told.held {known : Peer} (told : Told node d peer known)
    (found : (node.handle d.data d.endpoint).2.map.find? peer = some known)
    (truthful : Truthful peer endpoint session (node.handle d.data d.endpoint).2) :
    Held peer endpoint session node.time (node.handle d.data d.endpoint).2 where
  toTruthful := truthful
  heard := ⟨known, found, told.place.2.ge⟩
  past := le_refl node.time
  fresh := by
    show node.time - node.time ≤ _
    omega

/-- A peer that there is room for is held after a datagram of it. -/
lemma Truthful.enter (truthful : Truthful peer endpoint session node)
    (genuine : Genuine node.codec peer endpoint session d) (named : d.sender? = some peer)
    (mapped : (node.handle d.data d.endpoint).1 ≠ .unmapped) (foreign : peer ≠ node.host)
    (unicast : peer.isBroadcast = false) :
    Held peer endpoint session node.time (node.handle d.data d.endpoint).2 := by
  rcases told_of_sender truthful.distinct named foreign unicast with ⟨refused, -⟩ | ⟨known, held, told⟩
  · exact absurd refused mapped
  · exact told.held held (truthful.handle genuine foreign unicast)

/-- **One datagram.**  A peer that is held stays held, and is heard now if the datagram is its own. -/
theorem Held.handle (held : Held peer endpoint session since node)
    (genuine : Genuine node.codec peer endpoint session d) (foreign : peer ≠ node.host)
    (unicast : peer.isBroadcast = false) :
    Held peer endpoint session since (node.handle d.data d.endpoint).2 ∧
      Retains peer node (node.handle d.data d.endpoint).2 ∧
      (d.sender? = some peer →
        Held peer endpoint session node.time (node.handle d.data d.endpoint).2) := by
  obtain ⟨known, found, later, live⟩ := held.live
  have truthful := held.toTruthful.handle genuine foreign unicast
  have fresh : node.time - since ≤ (node.handle d.data d.endpoint).2.map.window := by
    rw [(settings_handle node d.data d.endpoint).1]
    exact held.fresh
  by_cases named : d.sender? = some peer
  · rcases told_of_sender held.distinct named foreign unicast with ⟨-, absent, -⟩ | ⟨after, there, told⟩
    · rw [found] at absent
      cases absent
    · refine ⟨⟨truthful, ⟨after, there, ?_⟩, held.past, fresh⟩, fun channel expected before => ?_,
        fun _ => told.held there truthful⟩
      · rw [told.place.2]
        exact held.past
      · rw [NetworkMap.expectation, there]
        exact told.expected held.toTruthful genuine before
  · have same : (node.handle d.data d.endpoint).2.map.find? peer = some known := by
      have different {envelope : Envelope} (decoded : Envelope.decode d.data = .ok envelope) :
          peer ≠ envelope.sender := by
        rintro rfl
        exact named (d.sender?_of_ok decoded)
      refine keeps_handle (fun map => map.find? peer = some known) found ?_ ?_
      · intro envelope decoded
        exact held.distinct.find?_observe_of_live found live (different decoded)
      · intro envelope decoded map change keeps _ here
        rw [NetworkMap.find?_update keeps, if_neg (different decoded), here]
    refine ⟨⟨truthful, ⟨known, same, later⟩, held.past, fresh⟩, ?_, fun own => absurd own named⟩
    refine Unmoved.retains fun channel => ?_
    rw [NetworkMap.expectation, NetworkMap.expectation, same, found]

/-! ## Drains -/

/-- Nothing has changed but counts of what became of datagrams. -/
structure Still (m n : Node) : Prop where
  map : n.map = m.map
  time : n.time = m.time
  config : n.config = m.config
  codec : n.codec = m.codec

lemma Still.refl (m : Node) : Still m m := ⟨rfl, rfl, rfl, rfl⟩

lemma Still.trans {o : Node} (first : Still m n) (second : Still n o) : Still m o :=
  ⟨second.map.trans first.map, second.time.trans first.time, second.config.trans first.config,
    second.codec.trans first.codec⟩

/-- A node goes from `m` to `n` by handling the arrivals one after the other, and nothing else. -/
inductive Handles : Node → List Arrival → Node → Prop
  | done {m n : Node} : Still m n → Handles m [] n
  | next {m n : Node} {a : Arrival} {later : List Arrival} :
      Still m a.node → Handles a.after later n → Handles m (a :: later) n

lemma Handles.after_still {heard : List Arrival} {o : Node} (still : Still m n)
    (handles : Handles n heard o) : Handles m heard o := by
  cases handles with
  | done later => exact .done (still.trans later)
  | next here later => exact .next (still.trans here) later

lemma drain_handles (t : Transport σ) (limit : Nat) (node : Node) (s : σ) :
    Handles node (drainArrivals t limit node s) (drain t limit node s).2.1 := by
  induction limit generalizing node s with
  | zero => exact .done (.refl _)
  | succ limit ih =>
    rw [drain, drainArrivals]
    rcases t.receive node.room s with ⟨fault | arrived, s⟩
    · cases fault with
      | link kind =>
        have counted : Still node node.countReceiveError := ⟨rfl, rfl, rfl, rfl⟩
        exact (ih node.countReceiveError s).after_still counted
      | _ => exact .done (.refl _)
    · cases arrived with
      | none => exact .done (.refl _)
      | some d => exact .next (.refl _) (ih _ s)

/-- The states before and after each arrival. -/
def statesOf (heard : List Arrival) : List Node := heard.flatMap fun a => [a.node, a.after]

/-- What a drain does to a peer that is held, at every state on the way. -/
structure Holds (peer : LogicalAddress) (endpoint : PhysicalAddress) (session since : Int)
    (m : Node) (heard : List Arrival) (n : Node) : Prop where
  final : Held peer endpoint session since n
  states : ∀ state ∈ statesOf heard, Held peer endpoint session since state
  retained : (m :: (statesOf heard ++ [n])).IsChain (Retains peer)

section Handles

variable {heard : List Arrival}

/-- **A peer that is held stays held through a drain**, and is heard now if a datagram of it was taken. -/
theorem Handles.held (handles : Handles m heard n) (held : Held peer endpoint session since m)
    (genuine : ∀ a ∈ heard, Genuine m.codec peer endpoint session a.datagram)
    (foreign : peer ≠ m.host) (unicast : peer.isBroadcast = false) :
    Holds peer endpoint session since m heard n ∧
      ((∃ a ∈ heard, a.datagram.sender? = some peer) → Held peer endpoint session m.time n) := by
  induction handles generalizing since with
  | done still =>
    have retained : Retains peer _ _ := (Unmoved.of_map_eq still.map).retains
    refine ⟨⟨held.of_map_eq still.map still.time, by simp [statesOf], ?_⟩, by simp⟩
    simpa [statesOf] using retained
  | @next m n a rest still _ ih =>
    have here := held.of_map_eq still.map still.time
    have own := genuine a List.mem_cons_self
    rw [← still.codec] at own
    rw [Node.host, ← still.config] at foreign
    obtain ⟨after, handled, told⟩ := here.handle own foreign unicast
    have others : ∀ b ∈ rest, Genuine a.after.codec peer endpoint session b.datagram := by
      intro b among
      have same : a.after.codec = m.codec := still.codec
      rw [same]
      exact genuine b (List.mem_cons_of_mem a among)
    obtain ⟨holds, final⟩ := ih after others foreign
    refine ⟨⟨holds.final, ?_, ?_⟩, ?_⟩
    · intro state among
      rw [statesOf, List.flatMap_cons, List.mem_append] at among
      rcases among with first | more
      · rcases List.mem_cons.1 first with rfl | last
        · exact here
        · rw [List.mem_singleton.1 last]
          exact after
      · exact holds.states state more
    · have chain := holds.retained
      rw [statesOf, List.flatMap_cons]
      exact .cons_cons (Unmoved.of_map_eq still.map).retains (.cons_cons handled chain)
    · have now : a.after.time = m.time := still.time
      rw [now] at final
      rintro ⟨b, among, named⟩
      rcases List.mem_cons.1 among with rfl | later
      · have again := told named
        rw [still.time] at again
        exact (ih again others foreign).1.final
      · exact final ⟨b, later, named⟩

/-- What a drain leaves alone. -/
structure Handles.Settings (m n : Node) : Prop where
  time : n.time = m.time
  window : n.map.window = m.map.window
  config : n.config = m.config
  codec : n.codec = m.codec

lemma Handles.settings (handles : Handles m heard n) : Handles.Settings m n := by
  induction handles with
  | done still => exact ⟨still.time, by rw [still.map], still.config, still.codec⟩
  | @next m n a rest still _ ih =>
    have same := (settings_handle a.node a.datagram.data a.datagram.endpoint).1
    rw [still.map] at same
    exact ⟨ih.time.trans still.time, ih.window.trans same, ih.config.trans still.config,
      ih.codec.trans still.codec⟩

lemma Handles.split {before : List Arrival} {a : Arrival} {later : List Arrival}
    (handles : Handles m (before ++ a :: later) n) :
    ∃ k, Handles m before k ∧ Still k a.node ∧ Handles a.after later n := by
  induction before generalizing m with
  | nil =>
    cases handles with
    | next still rest => exact ⟨m, .done (.refl m), still, rest⟩
  | cons b before ih =>
    cases handles with
    | next still rest =>
      obtain ⟨k, here, there, last⟩ := ih rest
      exact ⟨k, .next still here, there, last⟩

/-- What is known of the peer stays true through a drain. -/
lemma Handles.truthful (handles : Handles m heard n)
    (truthful : Truthful peer endpoint session m)
    (genuine : ∀ a ∈ heard, Genuine m.codec peer endpoint session a.datagram)
    (foreign : peer ≠ m.host) (unicast : peer.isBroadcast = false) :
    Truthful peer endpoint session n := by
  induction handles with
  | done still => exact truthful.of_map_eq still.map
  | next still _ ih =>
    rw [Node.host, ← still.config] at foreign
    rw [← still.codec] at genuine
    exact ih ((truthful.of_map_eq still.map).handle (genuine _ List.mem_cons_self) foreign unicast)
      (fun b among => genuine b (List.mem_cons_of_mem _ among)) foreign

/-- **A peer of which a drain takes a datagram, and finds room for it, is held from then on.** -/
theorem Handles.enters {before later : List Arrival} {a : Arrival}
    (handles : Handles m (before ++ a :: later) n) (truthful : Truthful peer endpoint session m)
    (genuine : ∀ b ∈ before ++ a :: later, Genuine m.codec peer endpoint session b.datagram)
    (foreign : peer ≠ m.host) (unicast : peer.isBroadcast = false)
    (named : a.datagram.sender? = some peer) (mapped : a.outcome ≠ .unmapped) :
    Held peer endpoint session m.time a.after ∧
      Holds peer endpoint session m.time a.after later n := by
  obtain ⟨k, first, still, rest⟩ := handles.split
  obtain ⟨own, others⟩ := List.forall_mem_cons.1 (List.forall_mem_append.1 genuine).2
  have known := first.truthful truthful (List.forall_mem_append.1 genuine).1 foreign unicast
  have codec : a.node.codec = m.codec := still.codec.trans first.settings.codec
  have host : a.node.host = m.host := by rw [Node.host, still.config, first.settings.config, Node.host]
  have time : a.node.time = m.time := still.time.trans first.settings.time
  rw [← codec] at own others
  rw [← host] at foreign
  have entered := (known.of_map_eq still.map).enter own named mapped foreign unicast
  rw [time] at entered
  exact ⟨entered, (rest.held entered others foreign unicast).1⟩

end Handles

end Node

end RollCall
