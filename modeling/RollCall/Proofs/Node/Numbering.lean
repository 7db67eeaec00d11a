import RollCall.Proofs.Counter
import RollCall.Proofs.Node.Calls
import RollCall.Proofs.Node.Over
import RollCall.Proofs.Packet.RoundTrip
import RollCall.Proofs.Transport

/-!
# The numbers of sent datagrams

A node counts what it sends, its broadcasts together and the datagrams to each peer apart.  The
number of a peer moves about: it stands in the peer's entry while there is one, and is put aside when
the entry is removed.  Still it is only ever changed by a datagram that is handed to the transport,
and then by one.

* `nextNumber` — the number of the next datagram to a destination, wherever it stands.
* `countersTo` — the counters of the noted datagrams to a destination.
* `Unsent` — a change that leaves all numbers alone, as everything does but handing over a datagram.
* `Numbered` — the numbers of the node agree with what was noted.
* `handed_numbered` — **the datagrams to a destination are numbered from zero on without a gap.**
-/

namespace RollCall

/-- There is one broadcast address. -/
lemma LogicalAddress.isBroadcast_iff {a : LogicalAddress} :
    a.isBroadcast = true ↔ a = broadcast := by
  obtain ⟨role, number, fits⟩ := a
  constructor
  · intro named
    obtain rfl : role = .broadcast := by simpa [isBroadcast] using named
    cases number with
    | none => rfl
    | some n => cases fits
  · intro same
    rw [same]
    rfl

namespace Node

variable {σ : Type}

/-- A run with what it hands to the transport: the node and the transport's state after it, and the
datagrams handed over in their order. -/
def runNoting (t : Transport σ) (calls : List (Call σ)) (node : Node) (s : σ) :
    Node × σ × List Delivery :=
  run t.noting (calls.map .beside) node (s, [])

/-- The number of the next datagram to a destination: the one of all broadcasts, or that of a peer.
-/
def nextNumber (node : Node) (destination : LogicalAddress) : Int :=
  if destination.isBroadcast then node.broadcastCounter else node.map.nextCounter destination

/-- The counter of a datagram, if its envelope can be read and names the destination. -/
def counterTo? (destination : LogicalAddress) (d : Delivery) : Option Int :=
  match Envelope.decode d.data with
  | .ok envelope => if envelope.destination = destination then some envelope.counter else none
  | .error _ => none

/-- The counters of the noted datagrams to a destination, in their order. -/
def countersTo (destination : LogicalAddress) (noted : List Delivery) : List Int :=
  noted.filterMap (counterTo? destination)

lemma countersTo_append (destination : LogicalAddress) (noted : List Delivery) (d : Delivery) :
    countersTo destination (noted ++ [d])
      = countersTo destination noted ++ (counterTo? destination d).toList := by
  unfold countersTo
  rw [List.filterMap_append, List.filterMap_cons, List.filterMap_nil]
  cases counterTo? destination d <;> rfl

/-! ## Changes that send nothing -/

/-- The node `n` comes from `m` without a datagram being handed over: all numbers are kept. -/
structure Unsent (m n : Node) : Prop where
  config : n.config = m.config
  distinct : m.map.Distinct → n.map.Distinct
  numbers : m.map.Distinct → ∀ destination, n.nextNumber destination = m.nextNumber destination

namespace Unsent

variable {m n o : Node}

/-- A change of neither the map nor the number of broadcasts. -/
lemma of_map_eq (config : n.config = m.config) (same : n.map = m.map)
    (broadcasts : n.broadcastCounter = m.broadcastCounter) : Unsent m n where
  config := config
  distinct distinct := same ▸ distinct
  numbers _ destination := by rw [nextNumber, nextNumber, same, broadcasts]

/-- A change of the map that keeps the numbers of peers. -/
lemma of_map {map : NetworkMap} (distinct : m.map.Distinct → map.Distinct)
    (counters : m.map.Distinct → ∀ logical, map.nextCounter logical = m.map.nextCounter logical) :
    Unsent m { m with map := map } where
  config := rfl
  distinct := distinct
  numbers here destination := by
    unfold nextNumber
    dsimp only
    rw [counters here]

lemma refl (m : Node) : Unsent m m := of_map_eq rfl rfl rfl

lemma purge (node : Node) : Unsent node node.purge :=
  of_map (fun distinct => distinct.purge node.time) fun distinct => distinct.nextCounter_evict _

lemma lookup (node : Node) (logical : LogicalAddress) :
    Unsent node { node with map := (node.map.lookup logical node.time).2 } :=
  of_map (fun distinct => distinct.lookup logical node.time) fun distinct =>
    distinct.nextCounter_lookup logical node.time

lemma handle (node : Node) (data : Bytes) (source : PhysicalAddress) :
    Unsent node (node.handle data source).2 where
  config := rfl
  distinct distinct := distinct_handle distinct data source
  numbers distinct destination := by
    unfold nextNumber
    rw [nextCounter_handle distinct, handle_broadcastCounter]

end Unsent

/-! ## Sending -/

/-- The node `n` comes from `m` by handing over a datagram: the datagram carries the number of its
destination as it was, that number goes up by one, and no other number changes. -/
structure Sent (m n : Node) (destination : LogicalAddress) (data : Bytes) : Prop where
  config : n.config = m.config
  distinct : n.map.Distinct
  envelope : ∃ kind, Envelope.decode data
    = .ok ⟨m.host, destination, Counter.wrap (m.nextNumber destination), kind⟩
  number : n.nextNumber destination = Counter.next (m.nextNumber destination)
  others : ∀ other ≠ destination, n.nextNumber other = m.nextNumber other

/-- What a send gives over the transport that notes.  It hands nothing over and changes no number, or
it hands one datagram over, and then nothing but the transport can be at fault. -/
inductive Given (node : Node) (destination : LogicalAddress) (s : σ × List Delivery) :
    Turn (σ × List Delivery) Unit → Prop
  | withheld {fault : NodeFault} {n : Node} : Unsent node n →
      Given node destination s (.error fault, n, s)
  | handed {answer : Except NodeFault Unit} {n : Node} {rest : σ} {endpoint : PhysicalAddress}
      {data : Bytes} : Sent node n destination data →
      (∀ fault, answer = .error fault → ∃ cause, fault = .transport cause) →
      Given node destination s (answer, n, rest, s.2 ++ [⟨endpoint, data⟩])

/-- Bytes that are encoded carry the number that they were encoded with. -/
lemma decode_of_encoded {codec : Codec} {packet : Packet} {sender destination : LogicalAddress}
    {counter : Int} {room : Nat} {data : Bytes}
    (encoded : Datagram.encode codec packet sender destination counter room = .ok data) :
    ∃ kind, Envelope.decode data = .ok ⟨sender, destination, Counter.wrap counter, kind⟩ := by
  obtain ⟨body, -, rfl⟩ := Datagram.of_encode encoded
  exact ⟨_, Envelope.decode_append _ _⟩

variable {t : Transport σ} {node : Node} {destination : LogicalAddress} {packet : Packet}

/-- Handing bytes over notes them, whatever becomes of them. -/
lemma given_transmit {m n : Node} {data : Bytes} (sent : Sent m n destination data)
    (endpoint : PhysicalAddress) {s s' : σ × List Delivery} (noted : s'.2 = s.2) :
    Given m destination s (transmit t.noting n endpoint data s') := by
  obtain ⟨rest, log⟩ := s'
  cases noted
  unfold transmit Transport.noting Transport.noted
  dsimp only
  rcases t.send endpoint data rest with ⟨fault | _, later⟩
  · exact .handed sent fun _ failed => (by cases failed; exact ⟨_, rfl⟩)
  · exact .handed sent fun _ failed => (by cases failed)

/-- The number of broadcasts goes up. -/
lemma Sent.countBroadcast (broadcast : destination.isBroadcast = true)
    (distinct : node.map.Distinct) {data : Bytes}
    (encoded : Datagram.encode node.codec packet node.host destination node.broadcastCounter node.room
      = .ok data) : Sent node node.countBroadcast destination data := by
  have number : node.nextNumber destination = node.broadcastCounter := if_pos broadcast
  refine ⟨rfl, distinct, ?_, ?_, fun other different => ?_⟩
  · rw [number]
    exact decode_of_encoded encoded
  · rw [number]
    exact if_pos broadcast
  · have peer : other.isBroadcast ≠ true := fun named => different <|
      (LogicalAddress.isBroadcast_iff.1 named).trans
        (LogicalAddress.isBroadcast_iff.1 broadcast).symm
    rw [nextNumber, nextNumber, if_neg peer, if_neg peer]
    rfl

/-- The number of a peer goes up. -/
lemma Sent.countUnicast (unicast : destination.isBroadcast = false) (distinct : node.map.Distinct)
    {peer : Peer} (found : node.map.find? destination = some peer) {data : Bytes}
    (encoded : Datagram.encode node.codec packet node.host destination peer.toCounter node.room
      = .ok data) : Sent node (node.countUnicast destination) destination data := by
  have number : node.nextNumber destination = peer.toCounter := by
    rw [nextNumber, unicast, if_neg Bool.false_ne_true, NetworkMap.nextCounter_of_find? found]
  have keeps (p : Peer) :
      Peer.logical { p with toCounter := Counter.next p.toCounter } = p.logical := rfl
  refine ⟨rfl, distinct.update keeps destination, ?_, ?_, fun other different => ?_⟩
  · rw [number]
    exact decode_of_encoded encoded
  · rw [number, nextNumber, unicast, if_neg Bool.false_ne_true]
    exact NetworkMap.nextCounter_update_self keeps found
  · rw [nextNumber, nextNumber, Node.countUnicast, NetworkMap.nextCounter_update_of_ne keeps different]

lemma given_send (has : t.HasBroadcast) (distinct : node.map.Distinct) (s : σ × List Delivery) :
    Given node destination s (send t.noting node destination packet s) := by
  have exits := sends t.noting node destination packet s
  generalize send t.noting node destination packet s = turn at exits ⊢
  cases exits with
  | noRoute _ looked =>
    have removed := Unsent.lookup node destination
    rw [looked] at removed
    exact .withheld removed
  | unencodable => exact .withheld (.refl node)
  | unaddressed _ _ unread =>
    obtain ⟨octets, address, known, reached⟩ := has.address udpPort s.1
    exact absurd reached (unread octets address known)
  | broadcast named encoded asked =>
    have noted : (t.noting.broadcastOctets s).2.2 = s.2 := rfl
    rw [asked] at noted
    exact given_transmit (.countBroadcast named distinct encoded) _ noted
  | unicast unnamed found encoded =>
    exact given_transmit (.countUnicast unnamed distinct found encoded) _ rfl

/-! ## The invariant -/

/-- The numbers of the node agree with what was noted: the datagrams to each destination carry the
counters of zero, one and so on, and the number of the next one is their count. -/
structure Numbered (node : Node) (noted : List Delivery) : Prop where
  distinct : node.map.Distinct
  read : ∀ d ∈ noted, ∃ envelope, Envelope.decode d.data = .ok envelope ∧
    envelope.sender = node.host
  counters : ∀ destination, countersTo destination noted
    = (List.range (countersTo destination noted).length).map fun k : Nat => Counter.wrap k
  next : ∀ destination,
    node.nextNumber destination = Counter.wrap (countersTo destination noted).length

/-- A new node counts from zero. -/
lemma Created.nextNumber {config : NodeConfig} {codec : Codec} {drawn : Int}
    (created : Created config codec drawn node) (destination : LogicalAddress) :
    node.nextNumber destination = 0 := by
  rw [Node.nextNumber, NetworkMap.nextCounter_of_create created.map, created.node]
  exact ite_self _

namespace Numbered

variable {m n : Node} {noted : List Delivery}

/-- A new node has noted nothing. -/
lemma of_created {config : NodeConfig} {codec : Codec} {drawn : Int}
    (created : Created config codec drawn node) : Numbered node [] :=
  ⟨created.distinct, fun _ noted => absurd noted List.not_mem_nil, fun _ => rfl,
    created.nextNumber⟩

lemma unsent (numbered : Numbered m noted) (change : Unsent m n) : Numbered n noted where
  distinct := change.distinct numbered.distinct
  read d here := by
    obtain ⟨envelope, decoded, sender⟩ := numbered.read d here
    exact ⟨envelope, decoded, by rw [sender, host, host, change.config]⟩
  counters := numbered.counters
  next destination := by rw [change.numbers numbered.distinct, numbered.next]

lemma sent (numbered : Numbered m noted) {data : Bytes} (change : Sent m n destination data)
    (endpoint : PhysicalAddress) : Numbered n (noted ++ [⟨endpoint, data⟩]) := by
  obtain ⟨kind, decoded⟩ := change.envelope
  have sender : n.host = m.host := by rw [host, host, change.config]
  have last (other : LogicalAddress) : counterTo? other ⟨endpoint, data⟩
      = if destination = other then some (Counter.wrap (m.nextNumber destination)) else none := by
    rw [counterTo?, decoded]
  have here : countersTo destination (noted ++ [⟨endpoint, data⟩])
      = countersTo destination noted ++ [Counter.wrap (countersTo destination noted).length] := by
    rw [countersTo_append, last, if_pos rfl, numbered.next, Counter.wrap_wrap]
    rfl
  have elsewhere {other : LogicalAddress} (different : other ≠ destination) :
      countersTo other (noted ++ [⟨endpoint, data⟩]) = countersTo other noted := by
    rw [countersTo_append, last, if_neg different.symm]
    exact List.append_nil _
  refine ⟨change.distinct, fun d among => ?_, fun other => ?_, fun other => ?_⟩
  · rw [sender]
    rcases List.mem_append.1 among with before | new
    · exact numbered.read d before
    · obtain rfl := List.mem_singleton.1 new
      exact ⟨_, decoded, rfl⟩
  · by_cases same : other = destination
    · subst same
      rw [here, List.length_append, List.length_singleton, List.range_succ, List.map_append,
        ← numbered.counters]
      rfl
    · rw [elsewhere same, ← numbered.counters]
  · by_cases same : other = destination
    · subst same
      rw [change.number, numbered.next, here, List.length_append, List.length_singleton,
        Counter.next_wrap]
      rfl
    · rw [change.others other same, elsewhere same, numbered.next]

/-! ## Every call keeps it -/

lemma send (has : t.HasBroadcast) {s : σ × List Delivery} (numbered : Numbered node s.2)
    (destination : LogicalAddress) (packet : Packet) :
    Numbered (send t.noting node destination packet s).2.1
      (send t.noting node destination packet s).2.2.2 := by
  have given : Given node destination s (Node.send t.noting node destination packet s) :=
    given_send has numbered.distinct s
  generalize Node.send t.noting node destination packet s = turn at given ⊢
  cases given with
  | withheld change => exact numbered.unsent change
  | handed change => exact numbered.sent change _

lemma announceIfDue (has : t.HasBroadcast) {s : σ × List Delivery} (numbered : Numbered node s.2) :
    Numbered (announceIfDue t.noting node s).2.1 (announceIfDue t.noting node s).2.2.2 := by
  cases due : node.isAnnouncementDue with
  | false =>
    rw [announceIfDue_of_early due]
    exact numbered
  | true =>
    have noted : Unsent node { node with lastAnnounce := some node.time } := .of_map_eq rfl rfl rfl
    rw [announceIfDue_of_due due]
    exact (numbered.unsent noted).send has .broadcast (.announcement node.session)

lemma drain {s : σ × List Delivery} (numbered : Numbered node s.2) (limit : Nat) :
    Numbered (drain t.noting limit node s).2.1 (drain t.noting limit node s).2.2.2 := by
  refine drain_keeps (fun (n : Node) (s : σ × List Delivery) => Numbered n s.2) ?_ ?_ ?_ limit numbered
  · intro _ _ _ here
    exact here
  · intro _ _ here
    exact here.unsent (.of_map_eq rfl rfl rfl)
  · intro n _ d here
    exact here.unsent (.handle n d.data d.endpoint)

lemma poll (has : t.HasBroadcast) {s : σ × List Delivery} (numbered : Numbered node s.2)
    (time : Int) :
    Numbered (poll t.noting node time s).2.1 (poll t.noting node time s).2.2.2 := by
  have advanced : Unsent node (node.advance time) := .of_map_eq rfl rfl rfl
  unfold Node.poll
  dsimp only
  have served : t.noting.poll (node.advance time).time s
      = ((t.poll (node.advance time).time s.1).1, (t.poll (node.advance time).time s.1).2, s.2) := rfl
  rw [served]
  rcases t.poll (node.advance time).time s.1 with ⟨fault | _, rest⟩
  · exact numbered.unsent advanced
  · have announced := (numbered.unsent advanced).announceIfDue has (s := (rest, s.2))
    dsimp only
    generalize Node.announceIfDue t.noting (node.advance time) (rest, s.2) = turn at announced ⊢
    rcases turn with ⟨_ | _, later, s⟩
    · exact announced
    · exact (announced.unsent (.purge later)).drain _

lemma perform (has : t.HasBroadcast) {s : σ × List Delivery} (numbered : Numbered node s.2)
    (call : Call σ) :
    Numbered (call.beside.perform t.noting node s).1 (call.beside.perform t.noting node s).2.2 := by
  cases call with
  | poll time => exact numbered.poll has time
  | send destination packet => exact numbered.send has destination packet
  | announce => exact numbered.send has .broadcast (.announcement node.session)
  | resolve logical => exact numbered.unsent (.lookup node logical)
  | outside change => exact numbered

lemma run (has : t.HasBroadcast) {s : σ × List Delivery} (numbered : Numbered node s.2)
    (calls : List (Call σ)) :
    Numbered (run t.noting (calls.map .beside) node s).1
      (run t.noting (calls.map .beside) node s).2.2 := by
  induction calls generalizing node s with
  | nil => exact numbered
  | cons call calls ih => exact ih (numbered.perform has call)

end Numbered

/-- **Numbers never repeat, skip or reset.**  A new node makes any run, with any inbound traffic, over
any transport with a broadcast address, be it that the link carries a datagram or not.  Then every
datagram that was handed to the transport is of the node, and those to any destination, all
broadcasts together or a peer, carry the counters of zero, one, two and so on.  A send hands over one
datagram more to its destination, with the next counter, or none; and one that fails because there is
no route or because the packet cannot be encoded hands over none and leaves every number alone. -/
theorem handed_numbered (has : t.HasBroadcast) {config : NodeConfig} {codec : Codec} {drawn : Int}
    (made : create config codec drawn = .ok node) (calls : List (Call σ)) (s : σ) :
    (∀ d ∈ (runNoting t calls node s).2.2, ∃ envelope, Envelope.decode d.data = .ok envelope ∧
      envelope.sender = (runNoting t calls node s).1.host) ∧
    (∀ destination, countersTo destination (runNoting t calls node s).2.2
      = (List.range (countersTo destination (runNoting t calls node s).2.2).length).map
          fun k : Nat => Counter.wrap k) ∧
    ∀ destination packet answer later rest,
      send t.noting (runNoting t calls node s).1 destination packet (runNoting t calls node s).2
        = (answer, later, rest) →
      (rest.2 = (runNoting t calls node s).2.2 ∨
        ∃ d, rest.2 = (runNoting t calls node s).2.2 ++ [d] ∧ counterTo? destination d
          = some (Counter.wrap (countersTo destination (runNoting t calls node s).2.2).length)) ∧
      ((∃ unknown, answer = .error (.noRoute unknown)) ∨ (∃ fault, answer = .error (.encode fault)) →
        rest = (runNoting t calls node s).2 ∧ ∀ other,
          later.nextNumber other = (runNoting t calls node s).1.nextNumber other) := by
  have numbered : Numbered (runNoting t calls node s).1 (runNoting t calls node s).2.2 :=
    (Numbered.of_created (created made)).run has calls
  generalize runNoting t calls node s = reached at numbered ⊢
  refine ⟨numbered.read, numbered.counters, fun destination packet answer later rest turned => ?_⟩
  have given : Given reached.1 destination reached.2
      (send t.noting reached.1 destination packet reached.2) :=
    given_send has numbered.distinct reached.2
  rw [turned] at given
  cases given with
  | withheld change =>
    exact ⟨.inl rfl, fun _ => ⟨rfl, change.numbers numbered.distinct⟩⟩
  | @handed _ _ _ endpoint data change fails =>
    refine ⟨.inr ⟨⟨endpoint, data⟩, rfl, ?_⟩, ?_⟩
    · obtain ⟨kind, decoded⟩ := change.envelope
      rw [counterTo?, decoded, numbered.next, Counter.wrap_wrap]
      exact if_pos rfl
    · rintro (⟨unknown, failed⟩ | ⟨fault, failed⟩)
      · obtain ⟨cause, same⟩ := fails _ failed
        cases same
      · obtain ⟨cause, same⟩ := fails _ failed
        cases same

/-! ### A peer that goes and comes back -/

/-- Mission control is heard and sent to, grows stale and is removed, is heard again and sent to. -/
def comeAndGone : List (Call (List Delivery)) :=
  [.poll 0, .send .missionControl (.announcement 5), .poll 1000,
    .send .missionControl (.announcement 5), .outside fun _ => [heartbeatOf 0], .poll 1000,
    .send .missionControl (.announcement 5)]

/-- The number to a peer goes on where it stopped; the send in between, to nobody, takes none. -/
theorem handed_numbered_come_and_gone :
    countersTo .missionControl (runNoting .queue comeAndGone listener [heartbeatOf 0]).2.2 = [0, 1] ∧
      countersTo .broadcast (runNoting .queue comeAndGone listener [heartbeatOf 0]).2.2 = [0, 1] ∧
      ∀ destination,
        countersTo destination (runNoting .queue comeAndGone listener [heartbeatOf 0]).2.2
          = (List.range (countersTo destination
              (runNoting .queue comeAndGone listener [heartbeatOf 0]).2.2).length).map
            fun k : Nat => Counter.wrap k := by
  obtain ⟨-, counted, -⟩ := handed_numbered Transport.queue_orderly.toHasBroadcast listener_made
    comeAndGone [heartbeatOf 0]
  exact ⟨by decide +kernel, by decide +kernel, counted⟩

end Node

end RollCall
