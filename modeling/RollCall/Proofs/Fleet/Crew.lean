import Mathlib.Data.Fintype.Card
import RollCall.Proofs.Fleet.Basic
import RollCall.Proofs.Fleet.Channel
import RollCall.Proofs.Node.Numbering
import RollCall.Proofs.Node.Sequence
import RollCall.Proofs.Node.Tracking

/-!
# The nodes of a fleet

What a fleet has been set up with does not change; call it the crew.  A node that hears nothing but
the datagrams of its crew knows only members of the crew, each where it stands, has room for all of
them, and refuses none of their datagrams, as long as their counters are new.

* `Crew`, `Letter` — what does not change, and a datagram from one node to another.
* `Fit` — a node that has heard only the crew.
* `Unheard` — a change without hearing; `Fit.unheard` says that it keeps a node fit.
* `Fit.judge_eq` — no letter of another node is refused.
* `Fit.own`, `Fit.hear` — **a letter is passed over by the node that sent it, and is taken by any
  other.**
* `Fit.heard` — the node is fit after it.
-/

namespace RollCall

namespace NetworkMap

variable {before after : NetworkMap} {logical : LogicalAddress}

/-- What is expected of a peer is as before, or nothing. -/
structure Unexpected (logical : LogicalAddress) (before after : NetworkMap) : Prop where
  expectation : ∀ channel, after.expectation logical channel = none ∨
    after.expectation logical channel = before.expectation logical channel
  announced : after.announced logical = none ∨ after.announced logical = before.announced logical

lemma Unexpected.of_found (found : ∀ {peer}, after.find? logical = some peer → ∃ known,
    before.find? logical = some known ∧ (∀ channel, peer.expected channel = known.expected channel) ∧
      peer.session = known.session) : Unexpected logical before after := by
  cases there : after.find? logical with
  | none => constructor <;> simp [NetworkMap.expectation, NetworkMap.announced, there]
  | some peer =>
    obtain ⟨known, here, same, session⟩ := found there
    constructor
    · intro channel
      simp [NetworkMap.expectation, there, here, same]
    · simp [NetworkMap.announced, there, here, session]

end NetworkMap

namespace Fleet

variable {n : Nat}

/-- What does not change of a fleet. -/
structure Crew (n : Nat) where
  site : Fin n → Site
  host : Fin n → LogicalAddress
  session : Fin n → Int
  codec : Codec
  /-- The bytes of every buffer. -/
  size : Nat

/-- The nodes can be told apart, are reached where they stand, and can announce themselves. -/
structure Crew.Sound (crew : Crew n) : Prop where
  apart : Function.Injective fun i => (crew.site i).number
  hosts : Function.Injective crew.host
  unicast : ∀ i, (crew.host i).isBroadcast = false
  elsewhere : ∀ i, (crew.site i).ip ≠ .localhost
  nonneg : ∀ i, 0 ≤ crew.session i
  small : ∀ i, crew.session i < counterRange
  heartbeat : envelopeLength + 5 ≤ crew.size

/-- A datagram of `a` that is for `b`, alone or among all. -/
structure Letter (crew : Crew n) (a b : Fin n) (transit : Transit) (envelope : Envelope)
    (packet : Packet) : Prop where
  source : transit.source = (crew.site a).address
  decoded : Envelope.decode transit.data = .ok envelope
  sender : envelope.sender = crew.host a
  destination : envelope.destination.isBroadcast = true ∨ envelope.destination = crew.host b
  body : Datagram.decodeBody crew.codec envelope.kind transit.data = .ok packet
  session : ∀ announced ∈ packet.session?, announced = crew.session a
  fits : transit.data.length ≤ crew.size

/-- No datagram was refused, and none missed where none was lost. -/
structure Smooth (lost : Nat) (traffic : Traffic) : Prop where
  duplicates : traffic.duplicates = 0
  malformed : traffic.malformed = 0
  misaddressed : traffic.misaddressed = 0
  unmapped : traffic.unmapped = 0
  missed : lost = 0 → traffic.missed = 0

/-- A node that has heard only the crew, with so many datagrams lost. -/
structure Fit (crew : Crew n) (lost : Nat) (i : Fin n) (node : Node) : Prop where
  dedupe : node.config.dedupe = true
  room : node.room = crew.size
  host : node.host = crew.host i
  session : node.session = crew.session i
  codec : node.codec = crew.codec
  distinct : node.map.Distinct
  roomy : n ≤ node.map.capacity + 1
  known : ∀ peer ∈ node.map.peers, ∃ j ≠ i,
    peer.logical = crew.host j ∧ peer.physical = (crew.site j).address
  sessions : ∀ j, node.map.announced (crew.host j) = none ∨
    node.map.announced (crew.host j) = some (crew.session j)
  smooth : Smooth lost node.traffic

/-- A change without hearing anything; it may be a datagram that is sent. -/
structure Unheard (m n : Node) : Prop where
  quiet : Node.Quiet m n
  traffic : n.traffic = m.traffic
  capacity : n.map.capacity = m.map.capacity

variable {crew : Crew n} {lost more : Nat} {i a b : Fin n} {node m k : Node} {transit : Transit}
  {envelope : Envelope} {packet : Packet}

lemma Unheard.refl (m : Node) : Unheard m m := ⟨.refl m, rfl, rfl⟩

/-- Nothing is expected of a peer that was not expected before. -/
lemma Unheard.unexpected (change : Unheard m k) (distinct : m.map.Distinct)
    (logical : LogicalAddress) : NetworkMap.Unexpected logical m.map k.map := by
  refine .of_found fun found => ?_
  obtain ⟨known, here, same⟩ := change.quiet.found distinct found
  refine ⟨known, here, ?_, by rw [same]⟩
  intro channel
  rw [same]
  cases channel <;> rfl

lemma Smooth.mono {traffic : Traffic} (smooth : Smooth lost traffic) (le : lost ≤ more) :
    Smooth more traffic :=
  { smooth with missed := fun none => smooth.missed (by omega) }

/-- A datagram that is taken is counted as such, with those that were missed before it. -/
lemma Smooth.tally {traffic : Traffic} (smooth : Smooth lost traffic) {missed : Nat}
    (few : missed ≤ lost) (sender : LogicalAddress) (packet : Packet) :
    Smooth lost (traffic.tally (Node.outcomeOf sender packet (some missed))) := by
  have none : lost = 0 → traffic.missed + missed = 0 := by
    intro nothing
    have before := smooth.missed nothing
    omega
  rw [Node.outcomeOf]
  split
  · exact { smooth with missed := none }
  · exact { smooth with missed := none }

namespace Fit

lemma mono (fit : Fit crew lost i node) (le : lost ≤ more) : Fit crew more i node :=
  { fit with smooth := fit.smooth.mono le }

lemma announced_of (fit : Fit crew lost i m) (j : Fin n)
    (change : NetworkMap.Unexpected (crew.host j) m.map k.map) :
    k.map.announced (crew.host j) = none ∨
      k.map.announced (crew.host j) = some (crew.session j) := by
  rcases change.announced with unknown | same
  · exact .inl unknown
  · rw [same]
    exact fit.sessions j

lemma unheard (fit : Fit crew lost i m) (change : Unheard m k) : Fit crew lost i k := by
  have config := change.quiet.config
  have distinct := change.quiet.distinct fit.distinct
  constructor
  case dedupe => rw [config, fit.dedupe]
  case room => rw [Node.room, config, ← Node.room, fit.room]
  case host => rw [Node.host, config, ← Node.host, fit.host]
  case session => rw [change.quiet.session, fit.session]
  case codec => rw [change.quiet.codec, fit.codec]
  case distinct => exact distinct
  case roomy => rw [change.capacity]; exact fit.roomy
  case known =>
    intro peer held
    obtain ⟨known, here, same⟩ :=
      change.quiet.found fit.distinct (distinct.find?_eq_some_iff.2 ⟨held, rfl⟩)
    obtain ⟨j, other, logical, physical⟩ := fit.known known (NetworkMap.mem_of_find? here)
    rw [same]
    exact ⟨j, other, logical, physical⟩
  case sessions =>
    intro j
    exact fit.announced_of j (change.unexpected fit.distinct _)
  case smooth => rw [change.traffic]; exact fit.smooth

lemma foreign (fit : Fit crew lost i node) (sound : crew.Sound) :
    ∀ peer ∈ node.map.peers, peer.logical.isBroadcast = false ∧ peer.logical ≠ node.host := by
  intro peer held
  obtain ⟨j, other, logical, -⟩ := fit.known peer held
  rw [logical, fit.host]
  exact ⟨sound.unicast j, fun same => other (sound.hosts same)⟩

/-- There is room for every node of the crew: besides a new one, the map holds only others. -/
lemma length_lt (fit : Fit crew lost b node) (different : a ≠ b)
    (absent : node.map.find? (crew.host a) = none) (time : Int) :
    (node.map.roomy time).peers.length < node.map.capacity := by
  have distinct := fit.distinct.roomy time
  have others : ((node.map.roomy time).peers.map Peer.logical).toFinset
      ⊆ ((Finset.univ.erase b).erase a).image crew.host := by
    intro logical among
    obtain ⟨peer, held, rfl⟩ := List.mem_map.1 (List.mem_toFinset.1 among)
    have here := NetworkMap.mem_of_mem_roomy held
    obtain ⟨j, other, logical, -⟩ := fit.known peer here
    have new : j ≠ a := by
      rintro rfl
      exact NetworkMap.find?_eq_none_iff.1 absent peer here logical
    rw [logical]
    exact Finset.mem_image_of_mem _ (by simp [new, other])
  have count : ((node.map.roomy time).peers.map Peer.logical).toFinset.card
      = (node.map.roomy time).peers.length := by
    rw [List.toFinset_card_of_nodup distinct, List.length_map]
  have fewer := (Finset.card_le_card others).trans Finset.card_image_le
  rw [count, Finset.card_erase_of_mem (by simp [different]), Finset.card_erase_of_mem (by simp),
    Finset.card_univ, Fintype.card_fin] at fewer
  have roomy := fit.roomy
  have two : 2 ≤ n := by
    have first := a.isLt
    have second := b.isLt
    have apart : a.val ≠ b.val := fun same => different (Fin.ext same)
    omega
  omega

lemma observe_ne_error (fit : Fit crew lost b node) (sound : crew.Sound) (different : a ≠ b)
    {source : PhysicalAddress} {fault : MapFault} {map : NetworkMap} :
    node.map.observe (crew.host a) source node.time ≠ (.error fault, map) := by
  intro refused
  have seen := NetworkMap.observed node.map (crew.host a) source node.time
  rw [refused] at seen
  cases seen with
  | broadcast named =>
    rw [sound.unicast a] at named
    cases named
  | full _ absent full =>
    have room := fit.length_lt different absent node.time
    omega

/-- The letter that comes back to its sender changes nothing. -/
lemma own (fit : Fit crew lost b node) (letter : Letter crew b b transit envelope packet) :
    node.handle transit.data transit.source = (.own, node) := by
  have own : envelope.sender = node.host := by rw [letter.sender, fit.host]
  have judged : node.judge transit.data transit.source = (.own, node.map) := by
    rw [Node.judge, letter.decoded]
    exact if_pos own
  rw [Node.handle, judged]
  rfl

end Fit

/-- **No letter of another node is refused**: its sender is entered into the map, and its counter is
checked. -/
theorem Fit.judge_eq (fit : Fit crew lost b node) (sound : crew.Sound)
    (letter : Letter crew a b transit envelope packet) (different : a ≠ b) :
    ∃ known map, node.map.observe (crew.host a) transit.source node.time = (.ok known, map) ∧
      node.judge transit.data transit.source
        = (Node.outcomeOf (crew.host a) packet
            (Peer.hear node.config.dedupe envelope.destination.isBroadcast envelope.counter
              packet.session? known).1,
          map.update (crew.host a) fun peer =>
            (Peer.hear node.config.dedupe envelope.destination.isBroadcast envelope.counter
              packet.session? peer).2) := by
  have exits := Node.judged node transit.data transit.source
  generalize node.judge transit.data transit.source = result at exits ⊢
  cases exits with
  | unreadable undecoded => rw [letter.decoded] at undecoded; cases undecoded
  | own decoded own =>
    cases letter.decoded.symm.trans decoded
    rw [letter.sender, fit.host] at own
    exact absurd (sound.hosts own) different
  | pretended decoded _ pretended =>
    cases letter.decoded.symm.trans decoded
    rw [letter.sender, sound.unicast] at pretended
    cases pretended
  | unmapped decoded _ _ refused =>
    cases letter.decoded.symm.trans decoded
    rw [letter.sender] at refused
    exact absurd refused (fit.observe_ne_error sound different)
  | misaddressed learned unaddressed =>
    cases letter.decoded.symm.trans learned.decoded
    rcases letter.destination with named | mine
    · simp [Node.isAddressed, named] at unaddressed
    · simp [Node.isAddressed, mine, fit.host] at unaddressed
  | undecodable learned _ undecoded =>
    cases letter.decoded.symm.trans learned.decoded
    rw [fit.codec, letter.body] at undecoded
    cases undecoded
  | @decoded _ known map read learned _ body =>
    cases letter.decoded.symm.trans learned.decoded
    rw [fit.codec, letter.body] at body
    cases body
    have observed := learned.observed
    rw [letter.sender] at observed ⊢
    exact ⟨known, map, observed, rfl⟩

/-- What a node does with the letter of another one. -/
structure Hears (crew : Crew n) (a : Fin n) (node : Node) (envelope : Envelope) (packet : Packet)
    (missed : Nat) (result : Outcome × Node) : Prop where
  outcome : result.1 = Node.outcomeOf (crew.host a) packet (some missed)
  traffic : result.2.traffic
    = node.traffic.tally (Node.outcomeOf (crew.host a) packet (some missed))
  expected : result.2.map.expectation (crew.host a) envelope.destination.isBroadcast
    = some (Counter.next envelope.counter)
  other : result.2.map.expectation (crew.host a) (!envelope.destination.isBroadcast)
    = node.map.expectation (crew.host a) (!envelope.destination.isBroadcast)
  announced : result.2.map.announced (crew.host a)
    = packet.session?.or (node.map.announced (crew.host a))
  others : ∀ logical ≠ crew.host a, NetworkMap.Unexpected logical node.map result.2.map

/-- Of the other nodes nothing is expected that was not expected before. -/
lemma Fit.unexpected_handle (fit : Fit crew lost b node)
    (letter : Letter crew a b transit envelope packet) {logical : LogicalAddress}
    (other : logical ≠ crew.host a) : NetworkMap.Unexpected logical node.map
      (node.handle transit.data transit.source).2.map := by
  refine .of_found fun found => ?_
  refine ⟨_, Node.find?_of_find?_handle fit.distinct ?_ found, fun _ => rfl, rfl⟩
  intro read decoded
  cases letter.decoded.symm.trans decoded
  rw [letter.sender]
  exact other

/-- **A letter is taken** if its counter is new, whoever of the crew has sent it. -/
theorem Fit.hear (fit : Fit crew lost b node) (sound : crew.Sound)
    (letter : Letter crew a b transit envelope packet) (different : a ≠ b) {missed : Nat}
    (new : Counter.missed? (node.map.expectation (crew.host a) envelope.destination.isBroadcast)
      envelope.counter = some missed) :
    Hears crew a node envelope packet missed (node.handle transit.data transit.source) := by
  obtain ⟨known, map, observed, judged⟩ := fit.judge_eq sound letter different
  obtain ⟨entered, found⟩ := fit.distinct.find?_observe_self observed
  have expected (channel : Bool) : known.expected channel
      = node.map.expectation (crew.host a) channel := by
    rw [entered, NetworkMap.expected_entered]
  have session : known.session = node.map.announced (crew.host a) := by
    rw [entered, NetworkMap.session_entered]
  -- The announced session is the one that the node knows, so that nothing is reset.
  have same : ∀ announced ∈ packet.session?, known.session = none ∨
      known.session = some announced := by
    intro announced here
    rw [session, letter.session announced here]
    exact fit.sessions a
  have heard : Peer.hear node.config.dedupe envelope.destination.isBroadcast envelope.counter
      packet.session? known
      = (some missed, (known.noted packet.session?).expect envelope.destination.isBroadcast
          (some (Counter.next envelope.counter))) := by
    rw [fit.dedupe, Peer.hear_checked, Peer.expected_noted same, expected, new]
  rw [heard] at judged
  have after : (node.handle transit.data transit.source).2.map.find? (crew.host a)
      = some ((known.noted packet.session?).expect envelope.destination.isBroadcast
          (some (Counter.next envelope.counter))) := by
    show (node.judge transit.data transit.source).2.find? (crew.host a) = _
    rw [judged, NetworkMap.find?_update (fun peer => Peer.logical_hear _ _ _ _ peer), if_pos rfl,
      found, Option.map_some, heard]
  have outcome : (node.handle transit.data transit.source).1
      = Node.outcomeOf (crew.host a) packet (some missed) := congrArg Prod.fst judged
  refine ⟨outcome, congrArg node.traffic.tally outcome, ?_, ?_, ?_,
    fun _ other => fit.unexpected_handle letter other⟩
  · rw [NetworkMap.expectation, after]
    exact Peer.expected_expect_self _ _ _
  · rw [NetworkMap.expectation, after]
    show Peer.expected _ (Peer.expect _ _ _) = _
    rw [Peer.expected_expect_other, Peer.expected_noted same, expected]
  · rw [NetworkMap.announced, after]
    show Peer.session (Peer.expect _ _ _) = _
    rw [Peer.session_expect, Peer.session_noted, session]

/-- The node is fit after it, since no more are missed than were lost. -/
lemma Fit.heard (fit : Fit crew lost b node) (sound : crew.Sound)
    (letter : Letter crew a b transit envelope packet) (different : a ≠ b) {missed : Nat}
    (few : missed ≤ lost)
    (hears : Hears crew a node envelope packet missed (node.handle transit.data transit.source)) :
    Fit crew lost b (node.handle transit.data transit.source).2 := by
  constructor
  case dedupe => exact fit.dedupe
  case room => exact fit.room
  case host => exact fit.host
  case session => exact fit.session
  case codec => exact fit.codec
  case distinct => exact Node.distinct_handle fit.distinct _ _
  case roomy =>
    rw [(Node.settings_handle _ _ _).2]
    exact fit.roomy
  case known =>
    intro peer held
    rcases Node.mem_handle (fit.foreign sound) ⟨transit.source, transit.data⟩ held with
      ⟨before, here, place, -⟩ | ⟨told, -⟩
    · rw [place.logical, place.physical]
      exact fit.known before here
    · have seen : (Node.Arrival.mk node ⟨transit.source, transit.data⟩).sighting?
          = some ⟨envelope.sender, transit.source, node.time⟩ :=
        Node.sighting?_of_decode letter.decoded
      rw [seen, letter.sender, letter.source] at told
      obtain ⟨logical, physical, -⟩ := NetworkMap.Sighting.mk.inj (Option.some.inj told)
      exact ⟨a, different, logical.symm, physical.symm⟩
  case sessions =>
    intro j
    by_cases same : j = a
    · subst same
      rw [hears.announced]
      cases said : packet.session? with
      | none => exact fit.sessions j
      | some announced => exact .inr (by rw [letter.session announced said]; rfl)
    · exact fit.announced_of j (hears.others _ fun host => same (sound.hosts host))
  case smooth =>
    rw [hears.traffic]
    exact fit.smooth.tally few _ _

end Fleet

end RollCall
