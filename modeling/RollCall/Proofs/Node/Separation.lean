import Mathlib.Data.Finset.Card
import Mathlib.Data.List.Perm.Basic
import RollCall.Proofs.Node.Accounting
import RollCall.Proofs.Node.Hearing

/-!
# Peers do not interfere

All datagrams go through one map and one set of counters, but as long as the map has room for those
who send them, what becomes of a peer's datagrams and what is known of the peer afterwards depends on
the peer's own datagrams alone.

The argument compares two nodes that know the same of one peer (`Twins`).  A datagram of that peer
makes them both do the same (`Twins.hear`), and a datagram of another changes nothing of it
(`Twins.pass`); so a node that handles everything and one that handles the peer's datagrams alone stay
twins (`Twins.run`).  What becomes of a row of datagrams is therefore, up to order, what becomes of the
datagrams of each sender, and counting does not depend on order.

* `handleAll`, `verdicts` — a node after a row of datagrams, and what became of each of them.
* `newcomers`, `HasRoom` — the senders that have to be entered, and that there is room for them.
* `peers_apart` — nothing of a peer depends on the datagrams of others, and no count on their order.
-/

namespace RollCall

/-- Whether a datagram names a peer as its sender. -/
def Delivery.isFrom (peer : LogicalAddress) (d : Delivery) : Bool := d.sender? == some peer

namespace Node

/-! ## Rows of datagrams -/

/-- A node after a row of datagrams that it handles one after the other. -/
def handleAll (node : Node) (ds : List Delivery) : Node :=
  ds.foldl (fun node d => (node.handle d.data d.endpoint).2) node

/-- What becomes of each of a row of datagrams, with the sender that it names. -/
def verdicts (node : Node) : List Delivery → List (Option LogicalAddress × Outcome)
  | [] => []
  | d :: ds => (d.sender?, (node.handle d.data d.endpoint).1)
      :: (node.handle d.data d.endpoint).2.verdicts ds

/-- The packets that are handed on of a row of datagrams. -/
def surfaced (node : Node) (ds : List Delivery) : List Received :=
  (node.verdicts ds).filterMap fun verdict => verdict.2.received?

/-- The senders of a row of datagrams that have to be entered into the map. -/
def newcomers (node : Node) (ds : List Delivery) : Finset LogicalAddress :=
  (ds.filterMap node.heardFrom?).toFinset.filter fun sender => node.map.contains sender = false

/-- The map has room for all the senders of a row of datagrams. -/
def HasRoom (node : Node) (ds : List Delivery) : Prop :=
  node.map.peers.length + (node.newcomers ds).card ≤ node.map.capacity

end Node

namespace NetworkMap

variable {map : NetworkMap} {logical : LogicalAddress}

/-- What is entered of a peer depends on what was known of it alone. -/
lemma entered_congr {left right : NetworkMap} (found : left.find? logical = right.find? logical)
    (number : left.nextCounter logical = right.nextCounter logical)
    (roomLeft : left.contains logical = false → left.peers.length < left.capacity)
    (roomRight : right.contains logical = false → right.peers.length < right.capacity)
    (physical : PhysicalAddress) (time : Int) :
    left.entered logical physical time = right.entered logical physical time := by
  rw [entered, entered, ← found]
  cases here : left.find? logical with
  | some peer => rfl
  | none =>
    have number : left.retiredCounter logical = right.retiredCounter logical := by
      simpa only [nextCounter, ← found, here] using number
    rw [contains, here] at roomLeft
    rw [contains, ← found, here] at roomRight
    rw [roomy, roomy, if_pos (roomLeft rfl), if_pos (roomRight rfl)]
    show Peer.mk logical physical time (left.retiredCounter logical) none none none
      = Peer.mk logical physical time (right.retiredCounter logical) none none none
    rw [number]

end NetworkMap

namespace Node

variable {node : Node} {d : Delivery} {peer : LogicalAddress}

/-! ## Room -/

variable {ds : List Delivery}

lemma mem_newcomers : peer ∈ node.newcomers ds ↔
    (∃ d ∈ ds, node.heardFrom? d = some peer) ∧ node.map.contains peer = false := by
  simp [newcomers]

/-- Where there is room for a row of datagrams, there is room for some of them. -/
lemma HasRoom.subset {part : List Delivery} (room : node.HasRoom ds) (among : part ⊆ ds) :
    node.HasRoom part := by
  have fewer : node.newcomers part ⊆ node.newcomers ds := by
    intro peer new
    obtain ⟨⟨d, one, heard⟩, absent⟩ := mem_newcomers.1 new
    exact mem_newcomers.2 ⟨⟨d, among one, heard⟩, absent⟩
  exact Nat.le_trans (Nat.add_le_add_left (Finset.card_le_card fewer) _) room

/-- Where there is room for a row of datagrams, there is room for the first of them. -/
lemma HasRoom.head (room : node.HasRoom (d :: ds)) (heard : node.heardFrom? d = some peer)
    (absent : node.map.contains peer = false) : node.map.peers.length < node.map.capacity := by
  have new : peer ∈ node.newcomers (d :: ds) :=
    mem_newcomers.2 ⟨⟨d, List.mem_cons_self, heard⟩, absent⟩
  have one := Finset.card_pos.2 ⟨peer, new⟩
  rw [HasRoom] at room
  omega

/-- The sender of the first datagram takes up no more than the room that was meant for it. -/
lemma HasRoom.tail (room : node.HasRoom (d :: ds)) :
    (node.handle d.data d.endpoint).2.HasRoom ds := by
  have rest := room.subset (List.subset_cons_self d ds)
  cases heard : node.heardFrom? d with
  | none =>
    rw [HasRoom, newcomers, (handle_unheard heard).1]
    exact rest
  | some peer =>
    obtain ⟨_, -, -, found, length, capacity⟩ := handle_heard heard (room.head heard)
    have known (other : LogicalAddress) : (node.handle d.data d.endpoint).2.map.contains other
        = (decide (other = peer) || node.map.contains other) := by
      rw [NetworkMap.contains, found]
      by_cases same : other = peer <;> simp [same, NetworkMap.contains]
    have fewer : (node.handle d.data d.endpoint).2.newcomers ds
        ⊆ (node.newcomers (d :: ds)).erase peer := by
      intro other new
      obtain ⟨⟨e, later, from'⟩, absent⟩ := mem_newcomers.1 new
      rw [known, Bool.or_eq_false_iff, decide_eq_false_iff_not] at absent
      exact Finset.mem_erase.2 ⟨absent.1,
        mem_newcomers.2 ⟨⟨e, List.mem_cons_of_mem _ later, from'⟩, absent.2⟩⟩
    have bound := Finset.card_le_card fewer
    rw [HasRoom] at room ⊢
    rw [length, capacity]
    cases held : node.map.contains peer with
    | true =>
      have erased := Finset.card_erase_le (a := peer) (s := node.newcomers (d :: ds))
      simp only [if_true]
      omega
    | false =>
      have new : peer ∈ node.newcomers (d :: ds) :=
        mem_newcomers.2 ⟨⟨d, List.mem_cons_self, heard⟩, held⟩
      have one := Finset.card_pos.2 ⟨peer, new⟩
      rw [Finset.card_erase_of_mem new] at bound
      simp only [Bool.false_eq_true, if_false]
      omega

/-! ## Twins -/

/-- Two nodes that do the same with everything and know the same of one peer. -/
structure Twins (peer : LogicalAddress) (m n : Node) : Prop where
  config : m.config = n.config
  codec : m.codec = n.codec
  time : m.time = n.time
  found : m.map.find? peer = n.map.find? peer
  number : m.map.nextCounter peer = n.map.nextCounter peer

variable {m n : Node}

lemma Twins.refl (peer : LogicalAddress) (node : Node) : Twins peer node node :=
  ⟨rfl, rfl, rfl, rfl, rfl⟩

/-- A datagram of another peer changes nothing of the peer. -/
lemma Twins.pass (twins : Twins peer m n) (distinct : m.map.Distinct)
    (room : m.HasRoom (d :: ds)) (other : d.sender? ≠ some peer) :
    Twins peer (m.handle d.data d.endpoint).2 n := by
  refine ⟨twins.config, twins.codec, twins.time, ?_, ?_⟩
  · rw [← twins.found]
    cases heard : m.heardFrom? d with
    | none => rw [(handle_unheard heard).1]
    | some sender =>
      obtain ⟨_, -, -, found, -⟩ := handle_heard heard (room.head heard)
      have named := (heardFrom?_eq_some_iff.1 heard).1
      rw [found, if_neg]
      rintro rfl
      exact other named
  · rw [nextCounter_handle distinct, twins.number]

/-- A datagram of the peer becomes the same, and leaves the same behind. -/
lemma Twins.hear (twins : Twins peer m n) (distinctLeft : m.map.Distinct)
    (distinctRight : n.map.Distinct) {es : List Delivery} (roomLeft : m.HasRoom (d :: ds))
    (roomRight : n.HasRoom (d :: es)) (named : d.sender? = some peer) :
    (m.handle d.data d.endpoint).1 = (n.handle d.data d.endpoint).1 ∧
      Twins peer (m.handle d.data d.endpoint).2 (n.handle d.data d.endpoint).2 := by
  have host : m.host = n.host := congrArg NodeConfig.host twins.config
  have same : m.heardFrom? d = n.heardFrom? d := by rw [heardFrom?, heardFrom?, host]
  have numbers : (m.handle d.data d.endpoint).2.map.nextCounter peer
      = (n.handle d.data d.endpoint).2.map.nextCounter peer := by
    rw [nextCounter_handle distinctLeft, nextCounter_handle distinctRight, twins.number]
  cases heard : m.heardFrom? d with
  | none =>
    obtain ⟨left, first⟩ := handle_unheard heard
    obtain ⟨right, second⟩ := handle_unheard (same ▸ heard)
    rw [first, second, host]
    refine ⟨rfl, twins.config, twins.codec, twins.time, ?_, numbers⟩
    rw [left, right, twins.found]
  | some sender =>
    obtain rfl : sender = peer :=
      Option.some.inj ((heardFrom?_eq_some_iff.1 heard).1.symm.trans named)
    obtain ⟨envelope, decoded, first, left, -⟩ := handle_heard heard (roomLeft.head heard)
    obtain ⟨envelope', decoded', second, right, -⟩ :=
      handle_heard (same ▸ heard) (roomRight.head (same ▸ heard))
    obtain rfl : envelope = envelope' := by
      rw [decoded] at decoded'
      exact Except.ok.inj decoded'
    have entered := NetworkMap.entered_congr twins.found twins.number (roomLeft.head heard)
      (roomRight.head (same ▸ heard)) d.endpoint n.time
    have hearing : m.hearing d.data envelope = n.hearing d.data envelope := by
      funext known
      rw [Node.hearing, Node.hearing, isAddressed, isAddressed, host, twins.codec, twins.config]
    rw [twins.time, entered, hearing] at first left
    refine ⟨first.trans second.symm, twins.config, twins.codec, twins.time, ?_, numbers⟩
    rw [left, right, if_pos rfl, if_pos rfl]

/-- **A node that handles everything and one that handles the datagrams of the peer alone** stay
twins, and do the same with the datagrams of the peer. -/
theorem Twins.run (twins : Twins peer m n) (distinctLeft : m.map.Distinct)
    (distinctRight : n.map.Distinct) (roomLeft : m.HasRoom ds)
    (roomRight : n.HasRoom (ds.filter (Delivery.isFrom peer))) :
    (m.verdicts ds).filter (fun verdict => verdict.1 == some peer)
        = n.verdicts (ds.filter (Delivery.isFrom peer)) ∧
      Twins peer (m.handleAll ds) (n.handleAll (ds.filter (Delivery.isFrom peer))) := by
  induction ds generalizing m n with
  | nil => exact ⟨rfl, twins⟩
  | cons d ds ih =>
    have left := distinct_handle distinctLeft d.data d.endpoint
    cases named : d.isFrom peer with
    | true =>
      rw [List.filter_cons_of_pos named] at roomRight ⊢
      obtain ⟨outcome, twins⟩ := twins.hear distinctLeft distinctRight roomLeft roomRight
        (beq_iff_eq.1 named)
      obtain ⟨rest, twins⟩ := ih twins left (distinct_handle distinctRight d.data d.endpoint)
        roomLeft.tail roomRight.tail
      refine ⟨?_, twins⟩
      have here : (d.sender? == some peer) = true := named
      rw [verdicts, verdicts, List.filter_cons, if_pos here, rest, outcome]
    | false =>
      have other : ¬ d.isFrom peer = true := by simp [named]
      rw [List.filter_cons_of_neg other] at roomRight ⊢
      have twins := twins.pass distinctLeft roomLeft (by simpa [Delivery.isFrom] using other)
      obtain ⟨rest, twins⟩ := ih twins left distinctRight roomLeft.tail roomRight
      refine ⟨?_, twins⟩
      have elsewhere : ¬ (d.sender? == some peer) = true := other
      rw [verdicts, List.filter_cons, if_neg elsewhere, rest]

/-- What every datagram keeps holds after a row of them. -/
lemma keeps_handleAll (holds : Node → Prop)
    (step : ∀ node (d : Delivery), holds node → holds (node.handle d.data d.endpoint).2) (start : holds node) :
    holds (node.handleAll ds) := by
  induction ds generalizing node with
  | nil => exact start
  | cons d ds ih => exact ih (step node d start)

/-! ## Counts -/

/-- The order in which outcomes are counted does not matter. -/
lemma tally_comm (t : Traffic) (first second : Outcome) :
    (t.tally first).tally second = (t.tally second).tally first := by
  cases first <;> cases second <;> simp [Traffic.tally] <;> omega

lemma traffic_handleAll (node : Node) (ds : List Delivery) : (node.handleAll ds).traffic
    = (node.verdicts ds).foldl (fun traffic verdict => traffic.tally verdict.2) node.traffic := by
  induction ds generalizing node with
  | nil => rfl
  | cons d ds ih => exact ih (node.handle d.data d.endpoint).2

/-- Of a datagram that names no sender nothing is known but that it is malformed. -/
lemma verdicts_unnamed (node : Node) (ds : List Delivery) :
    (node.verdicts ds).filter (fun verdict => verdict.1 == none)
      = (ds.filter fun d => d.sender? == none).map fun _ => (none, .malformed) := by
  induction ds generalizing node with
  | nil => rfl
  | cons d ds ih =>
    rw [verdicts, List.filter_cons, List.filter_cons, ih]
    cases named : d.sender? with
    | some sender => rfl
    | none =>
      have unheard : node.heardFrom? d = none := by rw [heardFrom?, named]; rfl
      have malformed := (handle_unheard unheard).2
      rw [named, if_neg (by simp)] at malformed
      rw [malformed]
      rfl

/-- Lists that agree on each key, up to order, agree up to order. -/
lemma perm_of_keys {α κ : Type} [BEq κ] [LawfulBEq κ] (key : α → κ) {left right : List α}
    (same : ∀ k, (left.filter (key · == k)).Perm (right.filter (key · == k))) : left.Perm right := by
  classical
  refine List.perm_iff_count.2 fun a => ?_
  have here := (same (key a)).count_eq a
  rwa [List.count_filter (by simp), List.count_filter (by simp)] at here

/-- A packet that is handed on was sent by the sender that its datagram names. -/
lemma sender_of_mem_verdicts {verdict : Option LogicalAddress × Outcome} {received : Received}
    (among : verdict ∈ node.verdicts ds) (surfaced : received ∈ verdict.2.received?) :
    verdict.1 = some received.sender := by
  induction ds generalizing node with
  | nil => cases among
  | cons d ds ih =>
    rcases List.mem_cons.1 among with rfl | later
    · obtain ⟨envelope, decoded, same, -⟩ :=
        (accounted node d.data d.endpoint).addressed received surfaced
      rw [← same]
      exact d.sender?_of_ok decoded
    · exact ih later

/-- The packets that are handed on of one peer are those of the verdicts on its datagrams. -/
lemma surfaced_filter (node : Node) (ds : List Delivery) (peer : LogicalAddress) :
    (node.surfaced ds).filter (fun received => received.sender == peer)
      = ((node.verdicts ds).filter fun verdict => verdict.1 == some peer).filterMap
          fun verdict => verdict.2.received? := by
  rw [surfaced, List.filter_filterMap, List.filterMap_filter]
  refine List.filterMap_congr fun verdict among => ?_
  cases handed : verdict.2.received? with
  | none => split <;> rfl
  | some received =>
    rw [sender_of_mem_verdicts among handed]
    simp [Option.filter]

/-- **Peers do not interfere.**  A node handles a row of datagrams at one time, and its map has room
for those who send them.  Then

* what is known of a peer afterwards, and the packets that are handed on of it, are the same as if
  its datagrams alone were handled;
* what is known of a peer that sent nothing stays, and so do the number of the next datagram to every
  peer, that of the next broadcast, and the time of the last announcement;
* what is counted is the same in whatever order the datagrams come, as long as those of each peer
  come in order. -/
theorem peers_apart (distinct : node.map.Distinct) (room : node.HasRoom ds) :
    (∀ peer, (node.handleAll ds).map.find? peer
        = (node.handleAll (ds.filter (Delivery.isFrom peer))).map.find? peer ∧
      (node.surfaced ds).filter (fun received => received.sender == peer)
        = node.surfaced (ds.filter (Delivery.isFrom peer))) ∧
    (∀ peer, (∀ d ∈ ds, d.isFrom peer = false) →
      (node.handleAll ds).map.find? peer = node.map.find? peer) ∧
    (∀ peer, (node.handleAll ds).map.nextCounter peer = node.map.nextCounter peer) ∧
    (node.handleAll ds).broadcastCounter = node.broadcastCounter ∧
    (node.handleAll ds).lastAnnounce = node.lastAnnounce ∧
    ∀ es : List Delivery, es.Perm ds →
      (∀ peer, es.filter (Delivery.isFrom peer) = ds.filter (Delivery.isFrom peer)) →
      (node.handleAll es).traffic = (node.handleAll ds).traffic := by
  have alone {fs : List Delivery} (room : node.HasRoom fs) (peer : LogicalAddress) :=
    (Twins.refl peer node).run distinct distinct room (room.subset (List.filter_subset_self _))
  refine ⟨fun peer => ⟨(alone room peer).2.found, ?_⟩, fun peer silent => ?_, fun peer => ?_, ?_, ?_,
    fun es shuffled ordered => ?_⟩
  · rw [surfaced_filter, (alone room peer).1]
    rfl
  · have nothing : ds.filter (Delivery.isFrom peer) = [] :=
      List.filter_eq_nil_iff.2 fun d among => by simp [silent d among]
    rw [(alone room peer).2.found, nothing]
    rfl
  · refine (keeps_handleAll (fun n => n.map.Distinct ∧
      n.map.nextCounter peer = node.map.nextCounter peer) (fun n d here => ?_) ⟨distinct, rfl⟩).2
    exact ⟨distinct_handle here.1 _ _, (nextCounter_handle here.1 _ _ _).trans here.2⟩
  · exact keeps_handleAll (fun n => n.broadcastCounter = node.broadcastCounter)
      (fun _ _ here => here) rfl
  · exact keeps_handleAll (fun n => n.lastAnnounce = node.lastAnnounce) (fun _ _ here => here) rfl
  · have verdicts : (node.verdicts es).Perm (node.verdicts ds) := by
      refine perm_of_keys Prod.fst fun sender => ?_
      cases sender with
      | none =>
        rw [verdicts_unnamed, verdicts_unnamed]
        exact (shuffled.filter _).map _
      | some peer =>
        rw [(alone room peer).1, (alone (room.subset shuffled.subset) peer).1, ordered]
    rw [traffic_handleAll, traffic_handleAll]
    exact verdicts.foldl_eq' (fun _ _ _ _ traffic => tally_comm traffic _ _) _

/-! ### Two peers and a map for two -/

/-- A node with room for two peers. -/
def doorkeeper : Node := { listener with map := { window := 500, capacity := 2 } }

/-- An announcement of the first camera. -/
def cameraAnnouncement (counter : Int) (session : UInt8) : Delivery where
  endpoint := ⟨"10.0.0.3", udpPort⟩
  data := Envelope.encode ⟨.camera 0, .broadcast, counter, .shared⟩ ++ [0, 0, 0, 0, session]

/-- Mission control is heard twice and then once more, the camera restarts, and a datagram is empty. -/
def crowd : List Delivery :=
  [heartbeatOf 0, cameraAnnouncement 4 1, ⟨⟨"10.0.0.4", udpPort⟩, []⟩, heartbeatOf 1,
    cameraAnnouncement 0 2, heartbeatOf 1]

/-- The same datagrams, those of the camera first. -/
def crowdByPeer : List Delivery :=
  [cameraAnnouncement 4 1, cameraAnnouncement 0 2, heartbeatOf 0, heartbeatOf 1, heartbeatOf 1,
    ⟨⟨"10.0.0.4", udpPort⟩, []⟩]

lemma filter_crowdByPeer (peer : LogicalAddress) :
    crowdByPeer.filter (Delivery.isFrom peer) = crowd.filter (Delivery.isFrom peer) := by
  have control (counter : Int) : (heartbeatOf counter).isFrom peer
      = (some LogicalAddress.missionControl == some peer) := rfl
  have camera (counter : Int) (session : UInt8) : (cameraAnnouncement counter session).isFrom peer
      = (some (LogicalAddress.camera 0) == some peer) := rfl
  have nobody : Delivery.isFrom peer ⟨⟨"10.0.0.4", udpPort⟩, []⟩ = false := rfl
  simp only [crowd, crowdByPeer, List.filter_cons, control, camera, nobody, List.filter_nil]
  by_cases first : LogicalAddress.missionControl = peer
  · subst first
    rfl
  · simp [first]

theorem peers_apart_crowd :
    (doorkeeper.handleAll crowd).map.find? .missionControl
        = (doorkeeper.handleAll [heartbeatOf 0, heartbeatOf 1, heartbeatOf 1]).map.find?
            .missionControl ∧
      (doorkeeper.handleAll crowdByPeer).traffic = (doorkeeper.handleAll crowd).traffic ∧
      (doorkeeper.handleAll crowd).traffic
        = { announcements := 4, duplicates := 1, malformed := 1 } := by
  have room : doorkeeper.HasRoom crowd := by
    show _ ≤ _
    decide +kernel
  have distinct : doorkeeper.map.Distinct := List.nodup_nil
  obtain ⟨alone, -, -, -, -, shuffled⟩ := peers_apart distinct room
  refine ⟨(alone .missionControl).1, shuffled crowdByPeer (by decide +kernel) filter_crowdByPeer, ?_⟩
  decide +kernel

end Node

end RollCall
