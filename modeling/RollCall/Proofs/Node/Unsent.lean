import RollCall.Node.Recipient
import RollCall.Proofs.Node.Over
import RollCall.Proofs.Node.Sending
import RollCall.Sample.Flight
import RollCall.Sockets.Scripted

/-!
# Sends that come to nothing

A send can fail before it hands anything to the transport: the text is no address, there is no way to
the peer, the packet cannot be encoded, or nobody can say where to send to all.  Such a send should
leave no trace, and the ways to one peer keep to that: the number is taken when nothing can fail any
more.  A packet for all takes its number before the broadcast address is asked for, so where there is
none the number is lost, and the peers will count a datagram as missed that was never sent.

* `handed` — what a send hands to the transport.
* `Spared` — a node that has lost nothing but, at most, a stale peer.
* `Unaddressed` — a packet is encoded for all, and there is no address to send it to.
* `spared_unless_unaddressed` — **a send that hands nothing over spares the node, unless it is without
  an address.**
-/

namespace RollCall

namespace Node

variable {σ : Type} {t : Transport σ} {node : Node} {recipient : Recipient}
  {destination : LogicalAddress} {packet : Packet} {s : σ}

/-- The datagrams that a send hands to the transport. -/
def handed (t : Transport σ) (node : Node) (recipient : Recipient) (packet : Packet) (s : σ) :
    List Delivery :=
  (sendTo t.noting node recipient packet (s, [])).2.2.2

/-- What is left of a node after a send without effect. -/
structure Spared (before after : Node) (recipient : Recipient) : Prop where
  /-- Time, traffic, settings, the number of the next broadcast: nothing differs but the map. -/
  rest : after = { before with map := after.map }
  /-- The map lacks at most the recipient, and only if it was stale. -/
  map : after.map = before.map ∨ ∃ destination peer, recipient.address = .ok destination ∧
    before.map.find? destination = some peer ∧
    peer.isStale before.map.window before.time = true ∧
    after.map = before.map.evict fun p => p.logical == destination
  /-- A peer that is not stale is still there, as it was. -/
  live : ∀ logical peer, before.map.find? logical = some peer →
    peer.isStale before.map.window before.time = false → after.map.find? logical = some peer
  /-- The next datagram to each peer, held or not, has the same number. -/
  numbers : ∀ logical, after.map.nextCounter logical = before.map.nextCounter logical

/-- A packet for all is encoded, but the transport gives no address to send it to. -/
def Unaddressed (t : Transport σ) (node : Node) (recipient : Recipient) (packet : Packet) (s : σ) :
    Prop :=
  ∃ destination data, recipient.address = .ok destination ∧ destination.isBroadcast = true ∧
    Datagram.encode node.codec packet node.host destination node.broadcastCounter node.room
      = .ok data ∧
    ∀ octets endpoint, (t.broadcastOctets s).1 = .ok octets →
      PhysicalAddress.ofBytes octets udpPort ≠ .ok endpoint

/-! ## What spares a node -/

lemma Spared.refl (node : Node) (recipient : Recipient) : Spared node node recipient where
  rest := rfl
  map := .inl rfl
  live _ _ held _ := held
  numbers _ := rfl

/-- Looking for a peer that cannot be reached spares the node. -/
lemma Spared.of_lookup {map : NetworkMap} (address : recipient.address = .ok destination)
    (looked : node.map.lookup destination node.time = (none, map)) :
    Spared node { node with map := map } recipient := by
  rcases NetworkMap.of_lookup_eq_none looked with rfl | ⟨peer, found, stale, rfl⟩
  · exact .refl node recipient
  · refine ⟨rfl, .inr ⟨destination, peer, address, found, stale, rfl⟩, ?_, ?_⟩
    · intro logical other held live
      -- The destination itself is stale, so a peer that is not has another address.
      have different : logical ≠ destination := by
        rintro rfl
        rw [found] at held
        cases held
        rw [stale] at live
        cases live
      show (node.map.evict _).find? logical = some other
      rw [NetworkMap.find?_evict (fun p _ named => by simpa [named] using different), held]
    · exact node.map.nextCounter_evict_named destination

/-- A number that is taken is not spared. -/
lemma not_spared_countBroadcast : ¬ Spared node node.countBroadcast recipient := by
  intro spared
  have same : Counter.next node.broadcastCounter = node.broadcastCounter :=
    congrArg broadcastCounter spared.rest
  rw [Counter.next, Counter.wrap, counterRange] at same
  omega

/-- Without an address is only what is for all and has been encoded. -/
lemma Unaddressed.encoded (lost : node.Unaddressed t recipient packet s)
    (address : recipient.address = .ok destination) : destination.isBroadcast = true ∧ ∃ data,
      Datagram.encode node.codec packet node.host destination node.broadcastCounter node.room
        = .ok data := by
  obtain ⟨other, data, same, broadcast, encoded, -⟩ := lost
  cases address.symm.trans same
  exact ⟨broadcast, data, encoded⟩

/-! ## The send -/

/-- What is handed over is noted. -/
lemma transmit_noted (node : Node) (endpoint : PhysicalAddress) (data : Bytes)
    (w : σ × List Delivery) :
    (transmit t.noting node endpoint data w).2.2.2 = w.2 ++ [⟨endpoint, data⟩] := by
  rw [transmit_state]
  rfl

/-- Without a datagram that is handed over, a send spares the node or is without an address. -/
lemma send_unsent (address : recipient.address = .ok destination)
    (unsent : (send t.noting node destination packet (s, [])).2.2.2 = []) :
    (∃ fault, (send t.noting node destination packet (s, [])).1 = .error fault) ∧
    (((send t.noting node destination packet (s, [])).2.2.1 = s ∧
      ¬ node.Unaddressed t recipient packet s ∧
      Spared node (send t.noting node destination packet (s, [])).2.1 recipient) ∨
    ((send t.noting node destination packet (s, [])).2.2.1 = (t.broadcastOctets s).2 ∧
      node.Unaddressed t recipient packet s ∧
      (send t.noting node destination packet (s, [])).2.1 = node.countBroadcast)) := by
  have exits := sends t.noting node destination packet (s, [])
  generalize send t.noting node destination packet (s, []) = turn at exits unsent ⊢
  cases exits with
  | noRoute unicast looked =>
    refine ⟨⟨_, rfl⟩, .inl ⟨rfl, fun lost => ?_, .of_lookup address looked⟩⟩
    cases unicast.symm.trans (lost.encoded address).1
  | unencodable failed numbered =>
    refine ⟨⟨_, rfl⟩, .inl ⟨rfl, fun lost => ?_, .refl node recipient⟩⟩
    obtain ⟨broadcast, data, encoded⟩ := lost.encoded address
    rw [numbered broadcast, encoded] at failed
    cases failed
  | @unaddressed _ data _ named left unread encoded =>
    have lost : node.Unaddressed t recipient packet s :=
      ⟨destination, data, address, named, encoded, unread⟩
    exact ⟨⟨_, rfl⟩, .inr ⟨by rw [← left]; rfl, lost, rfl⟩⟩
  | @broadcast data octets endpoint rest named encoded known =>
    have noted : rest.2 = [] := congrArg (fun answer => answer.2.2) known.symm
    rw [transmit_noted, noted] at unsent
    cases unsent
  | unicast =>
    rw [transmit_noted] at unsent
    cases unsent

/-- **A send that hands nothing over spares the node, unless it is without an address.**  Take any
transport, any state of a node, any recipient, named or written, and any packet, and let no datagram be
handed over.  Then the send has failed, and the transport's state is what it was, but for what asking it
for its broadcast address does.  The node is spared exactly if the send is not without an address, and
otherwise it has lost the number of a broadcast, and nothing else. -/
theorem spared_unless_unaddressed (unsent : handed t node recipient packet s = []) :
    (∃ fault, (sendTo t node recipient packet s).1 = .error fault) ∧
    ((sendTo t node recipient packet s).2.2 = s ∨
      (sendTo t node recipient packet s).2.2 = (t.broadcastOctets s).2) ∧
    (Spared node (sendTo t node recipient packet s).2.1 recipient ↔
      ¬ node.Unaddressed t recipient packet s) ∧
    (node.Unaddressed t recipient packet s →
      (sendTo t node recipient packet s).2.1 = node.countBroadcast) := by
  rw [handed] at unsent
  unfold sendTo at unsent ⊢
  cases address : recipient.address with
  | error unreadable =>
    have readable : ¬ node.Unaddressed t recipient packet s := by
      rintro ⟨destination, -, read, -⟩
      rw [address] at read
      cases read
    exact ⟨⟨_, rfl⟩, .inl rfl, iff_of_true (.refl node recipient) readable,
      fun lost => absurd lost readable⟩
  | ok destination =>
    rw [address] at unsent
    dsimp only
    have unsent : (send t.noting node destination packet (s, [])).2.2.2 = [] := unsent
    rw [send_over t.noting_over node destination packet (s, [])]
    obtain ⟨⟨fault, failed⟩, left⟩ := send_unsent address unsent
    refine ⟨⟨_, by rw [failed]; rfl⟩, ?_⟩
    rcases left with ⟨same, addressed, spared⟩ | ⟨asked, lost, counted⟩
    · exact ⟨.inl same, iff_of_true spared addressed, fun lost => absurd lost addressed⟩
    · refine ⟨.inr asked, iff_of_false ?_ (not_not_intro lost), fun _ => counted⟩
      rw [counted]
      exact not_spared_countBroadcast

/-! ### A camera that has fallen silent -/

/-- A camera that was last heard at time 0. -/
def silentCamera : Peer where
  logical := .camera 1
  physical := ⟨"10.0.0.7", udpPort⟩
  lastSeen := 0
  toCounter := 7

/-- A node whose map still holds the camera. -/
def overdue : Node where
  config := { host := .flightController }
  codec := Flight.codec
  session := 5
  time := 501
  map := { window := 500, capacity := 32, peers := [silentCamera] }

/-- Nothing can be sent to the camera, and the node only forgets where it was. -/
theorem spared_unless_unaddressed_overdue :
    (sendTo .queue overdue (.written " Camera:1") ⟨Flight.ping, []⟩ []).1
        = .error (.node (.noRoute (.camera 1))) ∧
      Spared overdue (sendTo .queue overdue (.written " Camera:1") ⟨Flight.ping, []⟩ []).2.1
        (.written " Camera:1") := by
  have failed : (sendTo .queue overdue (.written " Camera:1") ⟨Flight.ping, []⟩ []).1
      = .error (.node (.noRoute (.camera 1))) := by decide +kernel
  have unsent : handed .queue overdue (.written " Camera:1") ⟨Flight.ping, []⟩ [] = [] := by
    decide +kernel
  obtain ⟨-, -, spared, -⟩ := spared_unless_unaddressed unsent
  refine ⟨failed, spared.2 ?_⟩
  -- The queue has a broadcast address, so no send over it is without one.
  rintro ⟨-, -, -, -, -, unread⟩
  obtain ⟨octets, endpoint, known, reached⟩ :=
    Transport.queue_orderly.address udpPort ([] : List Delivery)
  exact unread octets endpoint known reached

/-- A transport over a socket that was never opened. -/
def unopened : Hosted where
  bindHost := Hosted.anyHost
  firstPort := udpPort
  chainLength := 5
  prefixLength := 24
  broadcast := none

/-- A transport over a socket that is not open has no broadcast address, and a packet for all costs the
node a number all the same. -/
theorem not_every_unsent_spared :
    ¬ ∀ (t : Transport (Hosted × ScriptedOs)) (node : Node) (recipient : Recipient)
      (packet : Packet) (s : Hosted × ScriptedOs) (fault : SendFault),
      (sendTo t node recipient packet s).1 = .error fault →
      handed t node recipient packet s = [] →
      Spared node (sendTo t node recipient packet s).2.1 recipient := by
  intro spares
  have spared := spares (Hosted.transport ScriptedOs.layer) overdue (.named .broadcast)
    ⟨Flight.ping, []⟩ (unopened, {}) (.node (.transport .notOpen)) (by decide +kernel)
    (by decide +kernel)
  exact absurd (congrArg broadcastCounter spared.rest) (by decide +kernel)

end Node

end RollCall
