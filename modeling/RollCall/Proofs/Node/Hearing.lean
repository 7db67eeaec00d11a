import RollCall.Proofs.Node.Inbound
import RollCall.Transport.Basic

/-!
# One datagram and its sender

Where the map holds the sender of a datagram or has room for it, what becomes of the datagram depends
on nothing in the map but the sender's entry, and nothing else in the map changes.

* `Delivery.sender?`, `heardFrom?` — the sender that a datagram names, and the one that is held for it.
* `observe_of_room` — a peer that there is room for is entered, and no other is touched.
* `hearing` — what becomes of a datagram, and of what is known of its sender.
* `handle_heard`, `handle_unheard` — handling a datagram is hearing its sender, or changes no entry.
-/

namespace RollCall

/-- The sender that a datagram names, if its envelope can be read. -/
def Delivery.sender? (d : Delivery) : Option LogicalAddress :=
  (Envelope.decode d.data).toOption.map Envelope.sender

lemma Delivery.sender?_of_ok (d : Delivery) {envelope : Envelope}
    (decoded : Envelope.decode d.data = .ok envelope) : d.sender? = some envelope.sender := by
  rw [sender?, decoded]
  rfl

lemma Delivery.sender?_of_error (d : Delivery) {fault : DatagramFault}
    (undecoded : Envelope.decode d.data = .error fault) : d.sender? = none := by
  rw [sender?, undecoded]
  rfl

namespace NetworkMap

variable {map : NetworkMap} {logical : LogicalAddress}

/-- Where there is room, a peer is entered, and every other peer stays as it is. -/
lemma observe_of_room (unicast : logical.isBroadcast = false)
    (room : map.contains logical = false → map.peers.length < map.capacity)
    (physical : PhysicalAddress) (time : Int) :
    ∃ after, map.observe logical physical time = (.ok (map.entered logical physical time), after) ∧
      (∀ other, after.find? other
        = if other = logical then some (map.entered logical physical time) else map.find? other) ∧
      after.peers.length = map.peers.length + (if map.contains logical then 0 else 1) ∧
      after.capacity = map.capacity := by
  have seen := observed map logical physical time
  generalize map.observe logical physical time = result at seen ⊢
  cases seen with
  | broadcast pretended =>
    rw [unicast] at pretended
    cases pretended
  | @refreshed peer _ found =>
    have entered : map.entered logical physical time = peer.refresh physical time := by
      rw [NetworkMap.entered, found]
    rw [entered]
    refine ⟨_, rfl, fun other => ?_, ?_, rfl⟩
    · rw [find?_update (Peer.logical_refresh physical time)]
      split
      · rename_i same
        rw [same, found]
        rfl
      · rfl
    · simp [NetworkMap.update, contains, found]
  | added _ absent =>
    have new : map.contains logical = false := by
      rw [contains, absent]
      rfl
    have untouched : map.roomy time = map := if_pos (room new)
    have entered : map.entered logical physical time = (map.append logical physical time).1 := by
      rw [NetworkMap.entered, absent, untouched]
    rw [untouched, entered, new]
    exact ⟨_, rfl, find?_append absent physical time, by simp [append], rfl⟩
  | full _ absent crowded =>
    have new : map.contains logical = false := by
      rw [contains, absent]
      rfl
    rw [show map.roomy time = map from if_pos (room new)] at crowded
    have free := room new
    omega

end NetworkMap

namespace Node

variable {node : Node} {d : Delivery} {peer : LogicalAddress}

/-- The sender of a datagram that has to be held for it: neither the node itself nor everyone. -/
def heardFrom? (node : Node) (d : Delivery) : Option LogicalAddress :=
  d.sender?.filter fun sender => sender ≠ node.host ∧ sender.isBroadcast = false

/-- What becomes of a datagram, and what is known of its sender then, by what was known of the sender
when it was entered. -/
def hearing (node : Node) (data : Bytes) (envelope : Envelope) (known : Peer) : Outcome × Peer :=
  if node.isAddressed envelope.destination then
    match Datagram.decodeBody node.codec envelope.kind data with
    | .error _ => (.malformed, known)
    | .ok packet =>
      let hear := Peer.hear node.config.dedupe envelope.destination.isBroadcast envelope.counter
        packet.session? known
      (outcomeOf envelope.sender packet hear.1, hear.2)
  else (.misaddressed, known)

lemma heardFrom?_eq_some_iff : node.heardFrom? d = some peer ↔ d.sender? = some peer ∧
    peer ≠ node.host ∧ peer.isBroadcast = false := by
  simp [heardFrom?, Option.filter_eq_some_iff]

/-- A datagram of a peer that there is room for becomes what the peer's entry says, and changes that
entry alone. -/
lemma handle_heard (heard : node.heardFrom? d = some peer)
    (room : node.map.contains peer = false → node.map.peers.length < node.map.capacity) :
    ∃ envelope, Envelope.decode d.data = .ok envelope ∧ (node.handle d.data d.endpoint).1
        = (node.hearing d.data envelope (node.map.entered peer d.endpoint node.time)).1 ∧
      (∀ other, (node.handle d.data d.endpoint).2.map.find? other
        = if other = peer then
            some (node.hearing d.data envelope (node.map.entered peer d.endpoint node.time)).2
          else node.map.find? other) ∧
      (node.handle d.data d.endpoint).2.map.peers.length
        = node.map.peers.length + (if node.map.contains peer then 0 else 1) ∧
      (node.handle d.data d.endpoint).2.map.capacity = node.map.capacity := by
  obtain ⟨named, foreign, unicast⟩ := heardFrom?_eq_some_iff.1 heard
  cases decoded : Envelope.decode d.data with
  | error fault =>
    rw [d.sender?_of_error decoded] at named
    cases named
  | ok envelope =>
    rw [d.sender?_of_ok decoded] at named
    obtain rfl : envelope.sender = peer := Option.some.inj named
    obtain ⟨map, observed, found, length, capacity⟩ :=
      NetworkMap.observe_of_room unicast room d.endpoint node.time
    refine ⟨envelope, rfl, ?_⟩
    generalize node.map.entered envelope.sender d.endpoint node.time = known at observed found ⊢
    have judged : node.judge d.data d.endpoint
        = if node.isAddressed envelope.destination then node.judgeBody envelope d.data known map
          else (.misaddressed, map) := by
      rw [judge, decoded]
      dsimp only
      rw [if_neg foreign, if_neg (by simp [unicast]), observed]
    rw [handle, judged, hearing]
    cases node.isAddressed envelope.destination with
    | false => exact ⟨rfl, found, length, capacity⟩
    | true =>
      simp only [if_true, judgeBody]
      cases Datagram.decodeBody node.codec envelope.kind d.data with
      | error fault => exact ⟨rfl, found, length, capacity⟩
      | ok packet =>
        refine ⟨rfl, fun other => ?_, ?_, capacity⟩
        · show NetworkMap.find? (NetworkMap.update map _ _) other = _
          rw [NetworkMap.find?_update fun peer => Peer.logical_hear _ _ _ _ peer, found]
          split <;> rfl
        · rw [← length]
          exact List.length_map _

/-- Any other datagram changes nothing of the map, and what becomes of it is plain from its sender. -/
lemma handle_unheard (unheard : node.heardFrom? d = none) :
    (node.handle d.data d.endpoint).2.map = node.map ∧ (node.handle d.data d.endpoint).1
      = if d.sender? = some node.host then .own else .malformed := by
  rw [heardFrom?] at unheard
  rw [handle, judge]
  cases decoded : Envelope.decode d.data with
  | error fault =>
    rw [d.sender?_of_error decoded]
    exact ⟨rfl, rfl⟩
  | ok envelope =>
    rw [d.sender?_of_ok decoded] at unheard ⊢
    dsimp only
    by_cases own : envelope.sender = node.host
    · rw [if_pos own, if_pos (congrArg some own)]
      exact ⟨rfl, rfl⟩
    · have pretended : envelope.sender.isBroadcast = true := by
        simpa [own] using unheard
      rw [if_neg own, if_pos pretended, if_neg (by simpa using own)]
      exact ⟨rfl, rfl⟩

end Node

end RollCall
