import RollCall.Node.Run
import RollCall.Proofs.NetworkMap.Lookup

/-!
# The exits of sending

A send hands at most one datagram to the transport, and before that it can fail at three places.
`Sends` lists the exits, each with the node that is left; arguments about what sending does to a node,
or to what carries its datagrams, are case splits over it.

* `Sends`, `sends` — the exits of a send, and that it takes one of them.
* `announceIfDue_of_due` — an announcement of a poll leaves what a send leaves.
-/

namespace RollCall.Node

variable {σ : Type} {t : Transport σ} {node : Node} {destination : LogicalAddress} {packet : Packet}
  {s : σ}

/-- The node after it has handed a broadcast over. -/
def countBroadcast (node : Node) : Node :=
  { node with broadcastCounter := Counter.next node.broadcastCounter }

/-- The node after it has handed a datagram to a peer over. -/
def countUnicast (node : Node) (destination : LogicalAddress) : Node :=
  { node with map := node.map.update destination fun peer =>
      { peer with toCounter := Counter.next peer.toCounter } }

/-- What a send gives, exit by exit. -/
inductive Sends (t : Transport σ) (node : Node) (destination : LogicalAddress) (packet : Packet)
    (s : σ) : Turn σ Unit → Prop
  /-- The peer is not known, or stale. -/
  | noRoute {map : NetworkMap} : destination.isBroadcast = false →
      node.map.lookup destination node.time = (none, map) →
      Sends t node destination packet s (.error (.noRoute destination), { node with map := map }, s)
  /-- The packet cannot be encoded. -/
  | unencodable {counter : Int} {fault : EncodeFault} :
      Datagram.encode node.codec packet node.host destination counter node.room = .error fault →
      (destination.isBroadcast = true → counter = node.broadcastCounter) →
      Sends t node destination packet s (.error (.encode fault), node, s)
  /-- There is no address to send a broadcast to. -/
  | unaddressed {fault : NodeFault} {data : Bytes} {rest : σ} : destination.isBroadcast = true →
      (t.broadcastOctets s).2 = rest →
      (∀ octets endpoint, (t.broadcastOctets s).1 = .ok octets →
        PhysicalAddress.ofBytes octets udpPort ≠ .ok endpoint) →
      Datagram.encode node.codec packet node.host destination node.broadcastCounter node.room
        = .ok data →
      Sends t node destination packet s (.error fault, node.countBroadcast, rest)
  /-- The datagram is handed over for all. -/
  | broadcast {data octets : Bytes} {endpoint : PhysicalAddress} {rest : σ} :
      destination.isBroadcast = true →
      Datagram.encode node.codec packet node.host destination node.broadcastCounter node.room
        = .ok data →
      t.broadcastOctets s = (.ok octets, rest) →
      PhysicalAddress.ofBytes octets udpPort = .ok endpoint →
      Sends t node destination packet s (transmit t node.countBroadcast endpoint data rest)
  /-- The datagram is handed over for one peer. -/
  | unicast {data : Bytes} {peer : Peer} : destination.isBroadcast = false →
      node.map.find? destination = some peer →
      Datagram.encode node.codec packet node.host destination peer.toCounter node.room
        = .ok data →
      Sends t node destination packet s
        (transmit t (node.countUnicast destination) peer.physical data s)

lemma sends (t : Transport σ) (node : Node) (destination : LogicalAddress) (packet : Packet)
    (s : σ) : Sends t node destination packet s (send t node destination packet s) := by
  rw [send]
  split
  case isTrue named =>
    rw [sendBroadcast]
    split
    · exact .unencodable ‹_› fun _ => rfl
    · rename_i data encoded
      rcases asked : t.broadcastOctets s with ⟨fault | octets, rest⟩
      · refine .unaddressed named (by rw [asked]) ?_ encoded
        intro octets endpoint known
        rw [asked] at known
        cases known
      · dsimp only
        split
        · rename_i fault unread
          refine .unaddressed named (by rw [asked]) ?_ encoded
          intro other endpoint known
          rw [asked] at known
          cases known
          simp [unread]
        · exact .broadcast named encoded asked ‹_›
  case isFalse unnamed =>
    have unicast : destination.isBroadcast = false := by simpa using unnamed
    rw [sendUnicast]
    rcases found : node.map.lookup destination node.time with ⟨_ | peer, map⟩
    · exact .noRoute unicast found
    · obtain ⟨held, rfl⟩ := NetworkMap.of_lookup_eq_some found
      dsimp only
      split
      · exact .unencodable ‹_› fun named => absurd named unnamed
      · exact .unicast unicast held ‹_›

/-- Handing a datagram over changes nothing of the node. -/
@[simp] lemma transmit_node (t : Transport σ) (node : Node) (endpoint : PhysicalAddress)
    (data : Bytes) (s : σ) : (transmit t node endpoint data s).2.1 = node := by
  rw [transmit]
  split <;> rfl

@[simp] lemma transmit_state (t : Transport σ) (node : Node) (endpoint : PhysicalAddress)
    (data : Bytes) (s : σ) :
    (transmit t node endpoint data s).2.2 = (t.send endpoint data s).2 := by
  rw [transmit]
  split <;> simp_all

/-- What a transport keeps while it is asked for its broadcast address and handed a datagram, a send
keeps of its state. -/
lemma send_keeps_state (holds : σ → Prop)
    (asked : ∀ s, holds s → holds (t.broadcastOctets s).2)
    (handed : ∀ endpoint data s, holds s → holds (t.send endpoint data s).2) (here : holds s) :
    holds (send t node destination packet s).2.2 := by
  have exits := sends t node destination packet s
  generalize send t node destination packet s = turn at exits ⊢
  cases exits with
  | noRoute | unencodable => exact here
  | unaddressed _ left =>
    rw [← left]
    exact asked s here
  | broadcast _ _ known =>
    have asked := asked s here
    rw [known] at asked
    rw [transmit_state]
    exact handed _ _ _ asked
  | unicast =>
    rw [transmit_state]
    exact handed _ _ _ here

/-- What no exit of a send changes. -/
lemma send_keeps {α : Type} (part : Node → α)
    (map : ∀ (n : Node) (map : NetworkMap), part { n with map := map } = part n)
    (counter : ∀ (n : Node) (counter : Int), part { n with broadcastCounter := counter } = part n)
    (t : Transport σ) (node : Node) (destination : LogicalAddress) (packet : Packet) (s : σ) :
    part (send t node destination packet s).2.1 = part node := by
  have exits := sends t node destination packet s
  generalize send t node destination packet s = turn at exits ⊢
  cases exits with
  | noRoute => exact map node _
  | unencodable => rfl
  | unaddressed => exact counter node _
  | broadcast =>
    rw [transmit_node]
    exact counter node _
  | unicast =>
    rw [transmit_node]
    exact map node _

/-- The announcement of a poll leaves what the announcement leaves, be it a fault of the link or
not. -/
lemma announceIfDue_of_due (due : node.isAnnouncementDue = true) :
    (announceIfDue t node s).2
      = (announce t { node with lastAnnounce := some node.time } s).2 := by
  rw [announceIfDue, if_pos due]
  split
  · rename_i turned
    rw [turned]
  · rfl

lemma announceIfDue_of_early (early : node.isAnnouncementDue = false) :
    announceIfDue t node s = (.ok (), node, s) := by
  rw [announceIfDue, if_neg (by simp [early])]

/-- Where it is not time for an announcement, there was one, and it is not too old. -/
lemma announced_of_early (early : node.isAnnouncementDue = false) :
    ∃ last, node.lastAnnounce = some last ∧ node.time - last < node.config.announceInterval := by
  rw [isAnnouncementDue] at early
  cases before : node.lastAnnounce with
  | none =>
    rw [before] at early
    cases early
  | some last =>
    rw [before] at early
    have young := of_decide_eq_false early
    exact ⟨last, rfl, by omega⟩

/-- What neither a send nor the note of an announcement changes, an announcement of a poll leaves
alone. -/
lemma announceIfDue_keeps {α : Type} (part : Node → α)
    (map : ∀ (n : Node) (map : NetworkMap), part { n with map := map } = part n)
    (counter : ∀ (n : Node) (counter : Int), part { n with broadcastCounter := counter } = part n)
    (noted : ∀ (n : Node) (time : Option Int), part { n with lastAnnounce := time } = part n)
    (t : Transport σ) (node : Node) (s : σ) :
    part (announceIfDue t node s).2.1 = part node := by
  cases due : node.isAnnouncementDue with
  | true =>
    rw [announceIfDue_of_due due, announce, send_keeps part map counter, noted]
  | false => rw [announceIfDue_of_early due]

lemma announceIfDue_keeps_state (holds : σ → Prop)
    (asked : ∀ s, holds s → holds (t.broadcastOctets s).2)
    (handed : ∀ endpoint data s, holds s → holds (t.send endpoint data s).2) (here : holds s) :
    holds (announceIfDue t node s).2.2 := by
  cases due : node.isAnnouncementDue with
  | true =>
    rw [announceIfDue_of_due due]
    exact send_keeps_state holds asked handed here
  | false =>
    rw [announceIfDue_of_early due]
    exact here

end RollCall.Node
