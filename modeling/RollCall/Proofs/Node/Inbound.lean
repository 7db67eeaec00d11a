import RollCall.Node.Inbound
import RollCall.Proofs.NetworkMap.Lookup

/-!
# The exits of inbound handling

A node leaves the handling of a datagram at one of seven exits.  `Judged` lists them, each with all
that was found out on the way to it and with what is left of the map; every later argument about
inbound traffic is a case split over it, and nothing else opens the handler.

* `Learned` — a datagram whose sender has just been entered into the map.
* `Judged`, `judged` — the exits, and that the handler takes one of them.
* `handle_config` and the lemmas after it — what handling leaves alone.
* `keeps_handle` — what holds of the map after a datagram, by what learning and hearing do; so
  `distinct_handle`, and `nextCounter_handle` for the numbers of datagrams to peers.
* `find?_of_find?_handle` — whatever a datagram says, it changes no peer but its sender.
-/

namespace RollCall

namespace Peer

/-- The session that was heard last is the one that is known. -/
lemma session_noteSession (session : Int) (peer : Peer) :
    (peer.noteSession session).session = some session := by
  unfold noteSession
  split
  · rfl
  · split
    · rename_i known same
      rw [known, same]
    · rfl

@[simp] lemma session_expect (broadcast : Bool) (counter : Option Int) (peer : Peer) :
    (peer.expect broadcast counter).session = peer.session := by
  cases broadcast <;> rfl

@[simp] lemma logical_expect (broadcast : Bool) (counter : Option Int) (peer : Peer) :
    (peer.expect broadcast counter).logical = peer.logical := by
  cases broadcast <;> rfl

@[simp] lemma toCounter_expect (broadcast : Bool) (counter : Option Int) (peer : Peer) :
    (peer.expect broadcast counter).toCounter = peer.toCounter := by
  cases broadcast <;> rfl

/-- The peer with the announced session noted, if there is one. -/
def noted (session : Option Int) (peer : Peer) : Peer :=
  match session with
  | some session => peer.noteSession session
  | none => peer

@[simp] lemma logical_noted (session : Option Int) (peer : Peer) :
    (peer.noted session).logical = peer.logical := by
  cases session <;> simp [noted]

lemma session_noted (session : Option Int) (peer : Peer) :
    (peer.noted session).session = session.or peer.session := by
  cases session with
  | none => rfl
  | some session => exact session_noteSession session peer

@[simp] lemma toCounter_noted (session : Option Int) (peer : Peer) :
    (peer.noted session).toCounter = peer.toCounter := by
  cases session <;> simp [noted]

/-- A counter that is checked is new and moves the expected one, or is old and moves nothing. -/
lemma hear_checked (broadcast : Bool) (counter : Int) (session : Option Int) (peer : Peer) :
    hear true broadcast counter session peer
      = match Counter.missed? ((peer.noted session).expected broadcast) counter with
        | some missed =>
          (some missed, (peer.noted session).expect broadcast (some (Counter.next counter)))
        | none => (none, peer.noted session) := by
  unfold hear accept? noted
  cases session with
  | none =>
    dsimp only
    cases Counter.missed? (peer.expected broadcast) counter <;> rfl
  | some session =>
    dsimp only
    cases Counter.missed? ((peer.noteSession session).expected broadcast) counter <;> rfl

lemma hear_unchecked (broadcast : Bool) (counter : Int) (session : Option Int) (peer : Peer) :
    hear false broadcast counter session peer = (some 0, peer.noted session) := by
  unfold hear noted
  cases session <;> rfl

@[simp] lemma logical_hear (dedupe broadcast : Bool) (counter : Int) (session : Option Int)
    (peer : Peer) : (hear dedupe broadcast counter session peer).2.logical = peer.logical := by
  cases dedupe with
  | false => simp [hear_unchecked]
  | true =>
    rw [hear_checked]
    split <;> simp

@[simp] lemma toCounter_hear (dedupe broadcast : Bool) (counter : Int) (session : Option Int)
    (peer : Peer) : (hear dedupe broadcast counter session peer).2.toCounter = peer.toCounter := by
  cases dedupe with
  | false => simp [hear_unchecked]
  | true =>
    rw [hear_checked]
    split <;> simp

end Peer

namespace Node

/-! ## The exits -/

/-- A datagram of another node than this one whose sender has been entered into the map. -/
structure Learned (node : Node) (data : Bytes) (source : PhysicalAddress) (envelope : Envelope)
    (peer : Peer) (map : NetworkMap) : Prop where
  decoded : Envelope.decode data = .ok envelope
  foreign : envelope.sender ≠ node.host
  unicast : envelope.sender.isBroadcast = false
  observed : node.map.observe envelope.sender source node.time = (.ok peer, map)

/-- What a node does with a datagram: the outcome and the map after it, exit by exit. -/
inductive Judged (node : Node) (data : Bytes) (source : PhysicalAddress) :
    Outcome × NetworkMap → Prop
  /-- The envelope cannot be read. -/
  | unreadable {fault : DatagramFault} : Envelope.decode data = .error fault →
      Judged node data source (.malformed, node.map)
  /-- The datagram is the node's own. -/
  | own {envelope : Envelope} : Envelope.decode data = .ok envelope →
      envelope.sender = node.host → Judged node data source (.own, node.map)
  /-- The sender claims to be the broadcast address. -/
  | pretended {envelope : Envelope} : Envelope.decode data = .ok envelope →
      envelope.sender ≠ node.host → envelope.sender.isBroadcast = true →
      Judged node data source (.malformed, node.map)
  /-- The map has no room for the sender. -/
  | unmapped {envelope : Envelope} {fault : MapFault} {map : NetworkMap} :
      Envelope.decode data = .ok envelope → envelope.sender ≠ node.host →
      envelope.sender.isBroadcast = false →
      node.map.observe envelope.sender source node.time = (.error fault, map) →
      Judged node data source (.unmapped, map)
  /-- The datagram is for another node. -/
  | misaddressed {envelope : Envelope} {peer : Peer} {map : NetworkMap} :
      Learned node data source envelope peer map →
      node.isAddressed envelope.destination = false →
      Judged node data source (.misaddressed, map)
  /-- The body cannot be decoded. -/
  | undecodable {envelope : Envelope} {peer : Peer} {map : NetworkMap} {fault : DatagramFault} :
      Learned node data source envelope peer map →
      node.isAddressed envelope.destination = true →
      Datagram.decodeBody node.codec envelope.kind data = .error fault →
      Judged node data source (.malformed, map)
  /-- The body is a packet; its session is noted and its counter is checked. -/
  | decoded {envelope : Envelope} {peer : Peer} {map : NetworkMap} {packet : Packet} :
      Learned node data source envelope peer map →
      node.isAddressed envelope.destination = true →
      Datagram.decodeBody node.codec envelope.kind data = .ok packet →
      Judged node data source
        (outcomeOf envelope.sender packet
            (Peer.hear node.config.dedupe envelope.destination.isBroadcast envelope.counter
              packet.session? peer).1,
          map.update envelope.sender fun peer =>
            (Peer.hear node.config.dedupe envelope.destination.isBroadcast envelope.counter
              packet.session? peer).2)

/-- The handler takes one of the exits. -/
lemma judged (node : Node) (data : Bytes) (source : PhysicalAddress) :
    Judged node data source (node.judge data source) := by
  unfold judge
  cases decoded : Envelope.decode data with
  | error fault => exact .unreadable decoded
  | ok envelope =>
    dsimp only
    split
    case isTrue own => exact .own decoded own
    case isFalse foreign =>
      split
      case isTrue pretended => exact .pretended decoded foreign pretended
      case isFalse unicast =>
        have unicast : envelope.sender.isBroadcast = false := by simpa using unicast
        rcases observed : node.map.observe envelope.sender source node.time with
          ⟨fault | peer, map⟩
        · exact .unmapped decoded foreign unicast observed
        · have learned : Learned node data source envelope peer map :=
            ⟨decoded, foreign, unicast, observed⟩
          cases addressed : node.isAddressed envelope.destination with
          | false => exact .misaddressed learned addressed
          | true =>
            dsimp only [judgeBody]
            rw [if_pos rfl]
            cases body : Datagram.decodeBody node.codec envelope.kind data with
            | error fault => exact .undecodable learned addressed body
            | ok packet => exact .decoded learned addressed body

/-! ## What handling leaves alone -/

variable {node : Node} {data : Bytes} {source : PhysicalAddress}

@[simp] lemma handle_config (node : Node) (data : Bytes) (source : PhysicalAddress) :
    (node.handle data source).2.config = node.config := rfl

@[simp] lemma handle_broadcastCounter (node : Node) (data : Bytes) (source : PhysicalAddress) :
    (node.handle data source).2.broadcastCounter = node.broadcastCounter := rfl

/-- What learning the sender's binding gives, and a change of the sender keeps, is so of the map after
a datagram is handled. -/
lemma keeps_handle (holds : NetworkMap → Prop) (start : holds node.map)
    (learn : ∀ envelope, Envelope.decode data = .ok envelope →
      holds (node.map.observe envelope.sender source node.time).2)
    (hear : ∀ envelope, Envelope.decode data = .ok envelope → ∀ map (change : Peer → Peer),
      (∀ peer, (change peer).logical = peer.logical) →
      (∀ peer, (change peer).toCounter = peer.toCounter) → holds map →
      holds (map.update envelope.sender change)) :
    holds (node.handle data source).2.map := by
  show holds (node.judge data source).2
  have exits := judged node data source
  generalize node.judge data source = result at exits ⊢
  have learned {envelope : Envelope} {answer : Except MapFault Peer} {map : NetworkMap}
      (decoded : Envelope.decode data = .ok envelope)
      (observed : node.map.observe envelope.sender source node.time = (answer, map)) :
      holds map := by
    have here := learn envelope decoded
    rw [observed] at here
    exact here
  cases exits with
  | unreadable | own | pretended => exact start
  | unmapped decoded _ _ observed => exact learned decoded observed
  | misaddressed seen | undecodable seen => exact learned seen.decoded seen.observed
  | decoded seen =>
    exact hear _ seen.decoded _ _ (fun peer => Peer.logical_hear _ _ _ _ peer)
      (fun peer => Peer.toCounter_hear _ _ _ _ peer) (learned seen.decoded seen.observed)

/-- Handling keeps the addresses of peers distinct. -/
lemma distinct_handle (distinct : node.map.Distinct) (data : Bytes) (source : PhysicalAddress) :
    (node.handle data source).2.map.Distinct := by
  refine keeps_handle NetworkMap.Distinct distinct (fun envelope _ => ?_) fun envelope _ map change keeps _ here => ?_
  · exact distinct.observe envelope.sender source node.time
  · exact here.update keeps envelope.sender

/-- Handling keeps the number of the next datagram to every peer. -/
lemma nextCounter_handle (distinct : node.map.Distinct) (data : Bytes) (source : PhysicalAddress)
    (logical : LogicalAddress) :
    (node.handle data source).2.map.nextCounter logical = node.map.nextCounter logical := by
  refine keeps_handle (fun map => map.nextCounter logical = node.map.nextCounter logical) rfl
    (fun envelope _ => ?_) fun envelope _ map change keeps counts same => ?_
  · exact distinct.nextCounter_observe envelope.sender source node.time logical
  · rw [NetworkMap.nextCounter_update keeps counts, same]

/-- **Whatever a datagram says, it changes no peer but its sender.**  It may remove one to make
room. -/
theorem find?_of_find?_handle (distinct : node.map.Distinct) {logical : LogicalAddress} {peer : Peer}
    (other : ∀ envelope, Envelope.decode data = .ok envelope → logical ≠ envelope.sender)
    (found : (node.handle data source).2.map.find? logical = some peer) :
    node.map.find? logical = some peer := by
  refine keeps_handle (fun map => map.find? logical = some peer →
    node.map.find? logical = some peer) id (fun envelope decoded held => ?_)
    (fun envelope decoded map change keeps _ before held => ?_) found
  · exact distinct.find?_of_find?_observe (other envelope decoded) held
  · rw [NetworkMap.find?_update keeps, if_neg (other envelope decoded)] at held
    exact before held

end Node

end RollCall
