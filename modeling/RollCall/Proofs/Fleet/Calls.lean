import RollCall.Proofs.Fleet.Harmony
import RollCall.Proofs.Node.Poll

/-!
# The calls of a node in a fleet

A fleet stays in harmony whatever its nodes are asked to do.  A packet that one of them sends waits
with those that it is for, unless the network loses it, and a poll hands on what no longer waits.

* `Carriable` — a packet that arrives as it was sent.
* `Harmony.send`, `Harmony.announceIfDue` — a packet is sent.
* `Harmony.drain`, `Harmony.poll` — what waits is taken.
-/

namespace RollCall.Fleet

open Node (Sent Unsent Quiet)

variable {n : Nat} {crew : Crew n} {lost : Nat} {fleet : Fleet n} {a b : Fin n} {k : Node} {lan : Lan}
  {packet other : Packet} {destination : LogicalAddress}

lemma Same.isAnnouncement (same : packet.Same other) :
    other.isAnnouncement = packet.isAnnouncement := by
  rw [Packet.isAnnouncement, Packet.isAnnouncement, same.1]

/-- A packet of a node that arrives as it was sent; if it is an announcement, it is one of the node's
session. -/
structure Carriable (crew : Crew n) (a : Fin n) (packet : Packet) : Prop where
  survives : (Datagram.codecOf crew.codec (Datagram.kindOf packet)).Survives packet
  session : ∀ other, packet.Same other → ∀ announced ∈ other.session?, announced = crew.session a

lemma survives_announcement (session : Int) : sharedCodec.Survives (.announcement session) := by
  refine Codec.sharedCodec_built.consistent.survives rfl rfl ?_ rfl rfl
  intro pair among
  rw [List.mem_singleton.1 among]
  rfl

/-- What is read back of an announcement announces the same session. -/
lemma Same.session_announcement {session : Int} (same : (Packet.announcement session).Same other) :
    ∀ announced ∈ other.session?, announced = session := by
  intro announced here
  have kind := Same.isAnnouncement same
  rw [Packet.session?, kind] at here
  obtain ⟨-, values⟩ := same
  change announced ∈ other.values.head?.bind FieldValue.integer? at here
  generalize other.values = read at values here
  cases values with
  | cons first _ =>
    rcases first with rfl | ⟨number, written, read⟩
    · exact (Option.some.inj here).symm
    · obtain rfl : session = number := Option.some.inj written
      exact Option.some.inj (here.symm.trans read)

lemma carriable_announcement (crew : Crew n) (a : Fin n) :
    Carriable crew a (.announcement (crew.session a)) where
  survives := by
    have shared : Datagram.kindOf (.announcement (crew.session a)) = .shared :=
      (Datagram.kindOf_eq_shared_iff _).2 rfl
    rw [shared]
    exact survives_announcement _
  session _ := Same.session_announcement

lemma carriable_of_survives (crew : Crew n) (a : Fin n) (application : packet.isAnnouncement = false)
    (survives : crew.codec.Survives packet) : Carriable crew a packet where
  survives := by
    rw [Datagram.kindOf_of_application application]
    exact survives
  session other same announced here := by
    rw [Packet.session?, Same.isAnnouncement same, application] at here
    cases here

/-- What arrives of a packet that `a` sends, for `y` to hand on of `x`. -/
structure Arrives (crew : Crew n) (x y : Fin n) (before after : Lan) (sent : List Packet) : Prop where
  exists_arrived : ∃ arrived, List.Forall₂ Packet.Same sent arrived ∧
    waiting crew.codec (crew.host x) ((crew.site y).inbox after)
      = waiting crew.codec (crew.host x) ((crew.site y).inbox before) ++ arrived

lemma Arrives.nothing {x y : Fin n} {before after : Lan}
    (same : waiting crew.codec (crew.host x) ((crew.site y).inbox after)
      = waiting crew.codec (crew.host x) ((crew.site y).inbox before)) :
    Arrives crew x y before after [] :=
  ⟨[], .nil, by rw [same, List.append_nil]⟩

/-- The letter in a datagram that was encoded. -/
lemma letter_of_encode (fit : Fit crew lost a (fleet.nodes a)) {data : Bytes} {counter : Int}
    (carriable : Carriable crew a packet)
    (encoded : Datagram.encode (fleet.nodes a).codec packet (fleet.nodes a).host destination counter
      (fleet.nodes a).room = .ok data) :
    ∃ other, packet.Same other ∧ ∀ endpoint i,
      destination.isBroadcast = true ∨ destination = crew.host i →
      Letter crew a i ⟨(crew.site a).address, endpoint, data⟩
        ⟨crew.host a, destination, Counter.wrap counter, Datagram.kindOf packet⟩ other := by
  have short := Datagram.length_le_of_encode encoded
  obtain ⟨body, encodedBody, whole⟩ := Datagram.of_encode encoded
  rw [fit.codec] at encodedBody
  obtain ⟨other, decoded, same⟩ := carriable.survives _ _ encodedBody
  refine ⟨other, same, fun endpoint i reached => ⟨rfl, ?_, rfl, reached, ?_, ?_, ?_⟩⟩
  · dsimp only
    rw [whole, Envelope.decode_append, fit.host]
  · dsimp only
    rw [whole, Datagram.decodeBody, List.drop_left' (Envelope.length_encode _), decoded]
    rfl
  · exact carriable.session other same
  · rw [← fit.room]
    exact short

/-- **A datagram that is handed over** waits with those that it is for, unless it is lost. -/
theorem Harmony.handed (harmony : Harmony crew lost fleet) (sound : crew.Sound) {data : Bytes}
    {counter : Int} (carriable : Carriable crew a packet)
    (encoded : Datagram.encode (fleet.nodes a).codec packet (fleet.nodes a).host destination counter
      (fleet.nodes a).room = .ok data)
    (unheard : Unheard (fleet.nodes a) k) (sent : Sent (fleet.nodes a) k destination data)
    {endpoint : PhysicalAddress} {after : Lan} {gone : Bool}
    (carriage : Carriage crew a destination ⟨(crew.site a).address, endpoint, data⟩ fleet.lan after
      gone) :
    Harmony crew (lost + gone.toNat) (fleet.put a k after) ∧ ∀ x y, x ≠ y →
      Arrives crew x y fleet.lan after
        (if x = a ∧ (destination = crew.host y ∨ destination.isBroadcast = true) ∧ gone = false ∧
          packet.isAnnouncement = false then [packet] else []) := by
  obtain ⟨other, same, letter⟩ := letter_of_encode (harmony.fit a) carriable encoded
  refine ⟨harmony.hand sound unheard sent carriage (letter endpoint), ?_⟩
  intro x y different
  by_cases sender : x = a
  · subst sender
    by_cases reached : gone = false ∧ (destination.isBroadcast = true ∨ destination = crew.host y)
    · have read := (letter endpoint y reached.2).packetIn? (crew.host x)
      rw [Same.isAnnouncement same] at read
      have inbox := carriage.others y different.symm
      rw [if_pos reached] at inbox
      cases kind : packet.isAnnouncement with
      | true =>
        rw [if_neg (by simp)]
        refine .nothing ?_
        rw [inbox, waiting, List.filterMap_append]
        simp [waiting, read, kind]
      | false =>
        rw [if_pos ⟨rfl, reached.2.symm, reached.1, rfl⟩]
        refine ⟨[other], .cons same .nil, ?_⟩
        rw [inbox, waiting, List.filterMap_append]
        simp [waiting, read, kind]
    · rw [if_neg fun arrives => reached ⟨arrives.2.2.1, arrives.2.1.symm⟩]
      refine .nothing ?_
      rw [carriage.others y different.symm, if_neg reached, List.append_nil]
  · rw [if_neg fun arrives => sender arrives.1]
    refine .nothing (carriage.filterMap_of_none y fun _ => ?_)
    obtain ⟨kind, decoded⟩ := sent.envelope
    rw [packetIn?, decoded]
    dsimp only
    rw [if_neg]
    intro host
    rw [(harmony.fit a).host] at host
    exact sender (sound.hosts host).symm

/-! ## The calls of a node -/

/-- What a send does to a fleet, where `gone` says whether the network has lost the datagram. -/
structure Sends (crew : Crew n) (lost : Nat) (fleet : Fleet n) (a : Fin n)
    (destination : LogicalAddress) (packet : Packet) (turn : Node.Turn Lan Unit) (gone : Bool) : Prop where
  loss : fleet.lan.loss = turn.2.2.loss + gone.toNat
  harmony : Harmony crew (lost + gone.toNat) (fleet.after a turn)
  arrives : ∀ x y, x ≠ y → Arrives crew x y fleet.lan turn.2.2
    (if x = a ∧ (destination = crew.host y ∨ destination.isBroadcast = true) ∧
      turn.1.toBool = true ∧ gone = false ∧ packet.isAnnouncement = false then [packet] else [])

lemma Sends.silent (harmony : Harmony crew lost fleet) (silent : Silent (fleet.nodes a) k)
    (fault : NodeFault) :
    Sends crew lost fleet a destination packet (.error fault, k, fleet.lan) false where
  loss := rfl
  harmony := harmony.silent a silent
  arrives x y _ := by
    rw [if_neg fun arrives => by cases arrives.2.2.1]
    exact .nothing rfl

lemma Sends.handed (harmony : Harmony crew lost fleet) (sound : crew.Sound) {data : Bytes}
    {counter : Int} (carriable : Carriable crew a packet)
    (encoded : Datagram.encode (fleet.nodes a).codec packet (fleet.nodes a).host destination counter
      (fleet.nodes a).room = .ok data)
    (unheard : Unheard (fleet.nodes a) k) (sent : Sent (fleet.nodes a) k destination data)
    {endpoint : PhysicalAddress} {after : Lan} {gone : Bool}
    (carriage : Carriage crew a destination ⟨(crew.site a).address, endpoint, data⟩ fleet.lan after
      gone) :
    Sends crew lost fleet a destination packet (.ok (), k, after) gone := by
  obtain ⟨kept, arrives⟩ := harmony.handed sound carriable encoded unheard sent carriage
  refine ⟨carriage.loss, kept, ?_⟩
  intro x y different
  simpa [Except.toBool] using arrives x y different

/-- **A send** keeps harmony, and fails only if there is no route or no encoding. -/
theorem Harmony.send (harmony : Harmony crew lost fleet) (sound : crew.Sound) (a : Fin n)
    (destination : LogicalAddress) (carriable : Carriable crew a packet) :
    ∃ gone, Sends crew lost fleet a destination packet
        (Node.send (crew.site a).link (fleet.nodes a) destination packet fleet.lan) gone ∧
      (destination.isBroadcast = true → (∀ counter fault, Datagram.encode (fleet.nodes a).codec packet
          (fleet.nodes a).host destination counter (fleet.nodes a).room ≠ .error fault) →
        (Node.send (crew.site a).link (fleet.nodes a) destination packet fleet.lan).1 = .ok ()) := by
  have fit := harmony.fit a
  have exits := Node.sends (crew.site a).link (fleet.nodes a) destination packet fleet.lan
  generalize Node.send (crew.site a).link (fleet.nodes a) destination packet fleet.lan = turn
    at exits ⊢
  cases exits with
  | noRoute unicast looked =>
    have removed := Silent.lookup (fleet.nodes a) destination
    rw [looked] at removed
    refine ⟨false, .silent harmony removed _, fun named => ?_⟩
    rw [unicast] at named
    cases named
  | unencodable failed =>
    exact ⟨false, .silent harmony (.refl _) _, fun _ encodes => absurd failed (encodes _ _)⟩
  | unaddressed _ _ unread =>
    exact absurd (fleet.lan.broadcast.ofBytes_bytes udpPort) (unread _ _ rfl)
  | @broadcast data _ _ _ named encoded asked reached =>
    cases asked
    rw [IPv4.ofBytes_bytes] at reached
    cases reached
    obtain ⟨after, gone, handed, carriage⟩ := harmony.posted.broadcast sound a data named
    have done : Node.transmit (crew.site a).link (fleet.nodes a).countBroadcast
        ⟨fleet.lan.broadcast.text, udpPort⟩ data fleet.lan
        = (.ok (), (fleet.nodes a).countBroadcast, after) := by
      rw [Node.transmit, handed]
    rw [done]
    exact ⟨gone, .handed harmony sound carriable encoded ⟨.countBroadcast _, rfl, rfl⟩
      (.countBroadcast named fit.distinct encoded) carriage, fun _ _ => rfl⟩
  | @unicast data _ unicast found encoded =>
    obtain ⟨b, different, rfl, physical⟩ := by
      have known := fit.known _ (NetworkMap.mem_of_find? found)
      rw [NetworkMap.logical_of_find? found] at known
      exact known
    obtain ⟨after, gone, handed, carriage⟩ := harmony.posted.unicast_to sound different data
    have done : Node.transmit (crew.site a).link ((fleet.nodes a).countUnicast (crew.host b))
        (crew.site b).address data fleet.lan
        = (.ok (), (fleet.nodes a).countUnicast (crew.host b), after) := by
      rw [Node.transmit, handed]
    rw [physical, done]
    exact ⟨gone, .handed harmony sound carriable encoded ⟨.countUnicast _ _, rfl, rfl⟩
      (.countUnicast unicast fit.distinct found encoded) carriage, fun _ _ => rfl⟩

/-- What a call of a node does to a fleet that makes it return, if it sends nothing of the application;
`gone` says whether the network has lost a datagram. -/
structure Announces (crew : Crew n) (lost : Nat) (fleet : Fleet n) (b : Fin n)
    (turn : Node.Turn Lan Unit) (gone : Bool) : Prop where
  returns : turn.1 = .ok ()
  loss : fleet.lan.loss = turn.2.2.loss + gone.toNat
  harmony : Harmony crew (lost + gone.toNat) (fleet.after b turn)
  arrives : ∀ x y, x ≠ y → Arrives crew x y fleet.lan turn.2.2 []

lemma Harmony.announce (harmony : Harmony crew lost fleet) (sound : crew.Sound) (b : Fin n) :
    ∃ gone, Announces crew lost fleet b
      (Node.announce (crew.site b).link (fleet.nodes b) fleet.lan) gone := by
  have fit := harmony.fit b
  have carriable := carriable_announcement crew b
  rw [← fit.session] at carriable
  obtain ⟨gone, ⟨loss, kept, arrives⟩, returns⟩ := harmony.send sound b .broadcast carriable
  refine ⟨gone, ?_, loss, kept, ?_⟩
  · refine returns rfl ?_
    intro counter fault
    rw [Datagram.encode_announcement]
    · nofun
    · rw [fit.session]
      exact sound.nonneg b
    · rw [fit.session]
      exact sound.small b
    · rw [fit.room]
      exact sound.heartbeat
  · intro x y different
    have nothing := arrives x y different
    rw [if_neg fun arrives => by cases arrives.2.2.2.2] at nothing
    exact nothing

lemma Harmony.announceIfDue (harmony : Harmony crew lost fleet) (sound : crew.Sound) (b : Fin n) :
    ∃ gone, Announces crew lost fleet b
      (Node.announceIfDue (crew.site b).link (fleet.nodes b) fleet.lan) gone := by
  cases due : (fleet.nodes b).isAnnouncementDue with
  | false =>
    rw [Node.announceIfDue_of_early due]
    exact ⟨false, rfl, rfl, by simpa [after] using harmony, fun _ _ _ => .nothing rfl⟩
  | true =>
    have noted : Silent (fleet.nodes b)
        { fleet.nodes b with lastAnnounce := some (fleet.nodes b).time } :=
      .of_map_eq rfl rfl rfl rfl rfl rfl
    obtain ⟨gone, returns, loss, kept, arrives⟩ := (harmony.silent b noted).announce sound b
    rw [nodes_put_self, lan_put] at returns loss kept arrives
    rw [Fleet.after, put_put] at kept
    refine ⟨gone, ?_⟩
    rw [Node.announceIfDue, if_pos due]
    generalize Node.announce (crew.site b).link
      { fleet.nodes b with lastAnnounce := some (fleet.nodes b).time } fleet.lan = turn
      at returns loss kept arrives ⊢
    obtain ⟨answer, later, lan⟩ := turn
    cases returns
    exact ⟨rfl, loss, kept, arrives⟩

/-! ## Taking what waits -/

lemma packetsOf_append (sender : LogicalAddress) (first second : List Received) :
    packetsOf sender (first ++ second) = packetsOf sender first ++ packetsOf sender second :=
  List.filterMap_append

lemma receive_of_nil (site : Site) (room : Nat) (empty : site.inbox lan = []) :
    site.link.receive room lan = (.ok none, lan) := by
  have nothing : lan.pop site.number site.address.port = (none, lan) := Lan.pop_of_nil empty
  simp only [Site.link, Lan.endpoint, nothing]

lemma receive_of_pop {site : Site} {room : Nat} {transit : Transit} {after : Lan}
    (popped : lan.pop site.number udpPort = (some transit, after))
    (fits : transit.data.length ≤ room) :
    site.link.receive room lan = (.ok (some ⟨transit.source, transit.data⟩), after) := by
  have taken : lan.pop site.number site.address.port = (some transit, after) := popped
  simp only [Site.link, Lan.endpoint, taken]
  exact if_neg (by omega)

lemma loss_receive (site : Site) (room : Nat) (lan : Lan) :
    (site.link.receive room lan).2.loss = lan.loss := by
  have popped : (lan.pop site.number site.address.port).2.loss = lan.loss := by
    rw [Lan.pop]
    split <;> rfl
  rw [← popped]
  simp only [Site.link, Lan.endpoint]
  split
  · rfl
  · split <;> rfl

/-- The link fails to hand a datagram over only as links do. -/
lemma link_of_receive (site : Site) (room : Nat) (lan : Lan) {fault : TransportFault}
    (failed : (site.link.receive room lan).1 = .error fault) : ∃ kind, fault = .link kind := by
  simp only [Site.link, Lan.endpoint] at failed
  split at failed
  · cases failed
  · split at failed <;> cases failed
    exact ⟨_, rfl⟩

/-- A drain loses nothing. -/
lemma loss_drain (site : Site) (limit : Nat) (m : Node) (lan : Lan) :
    (Node.drain site.link limit m lan).2.2.loss = lan.loss := by
  refine Node.drain_keeps (fun (_ : Node) (after : Lan) => after.loss = lan.loss) ?_ ?_ ?_ limit rfl
  · intro _ _ room same
    rw [loss_receive, same]
  · intro _ _ same
    exact same
  · intro _ _ _ same
    exact same

/-- What a drain does to a fleet, if it hands on the packets and leaves such a node and network. -/
structure Drains (crew : Crew n) (lost : Nat) (fleet : Fleet n) (b : Fin n) (received : List Received)
    (later : Node) (after : Lan) : Prop where
  harmony : Harmony crew lost (fleet.put b later after)
  others : ∀ i ≠ b, (crew.site i).inbox after = (crew.site i).inbox fleet.lan
  own : ∀ a ≠ b, waiting crew.codec (crew.host a) ((crew.site b).inbox fleet.lan)
    = packetsOf (crew.host a) received
      ++ waiting crew.codec (crew.host a) ((crew.site b).inbox after)

lemma Drains.nothing (harmony : Harmony crew lost fleet) (b : Fin n) :
    Drains crew lost fleet b [] (fleet.nodes b) fleet.lan where
  harmony := by
    rw [put_self]
    exact harmony
  others _ _ := rfl
  own _ _ := rfl

/-- **A drain** returns, keeps harmony, and hands on what is no longer there. -/
theorem Harmony.drain (harmony : Harmony crew lost fleet) (sound : crew.Sound)
    (few : lost < Counter.halfRange) (b : Fin n) (limit : Nat) : ∃ received later after,
      Node.drain (crew.site b).link limit (fleet.nodes b) fleet.lan = (.ok received, later, after) ∧
      Drains crew lost fleet b received later after := by
  induction limit generalizing fleet with
  | zero => exact ⟨[], fleet.nodes b, fleet.lan, rfl, .nothing harmony b⟩
  | succ limit ih =>
    rw [Node.drain]
    cases inbox : (crew.site b).inbox fleet.lan with
    | nil =>
      rw [receive_of_nil _ _ inbox]
      exact ⟨[], fleet.nodes b, fleet.lan, rfl, .nothing harmony b⟩
    | cons transit rest =>
      obtain ⟨lan, popped, taken⟩ := taken_of_pop sound inbox
      obtain ⟨x, envelope, packet, letter⟩ := harmony.posted.letters b transit (by simp [inbox])
      have room := letter.fits
      rw [← (harmony.fit b).room] at room
      rw [receive_of_pop popped room]
      dsimp only
      obtain ⟨kept, handed⟩ := harmony.take sound few taken
      generalize (fleet.nodes b).handle transit.data transit.source = handled at kept handed ⊢
      obtain ⟨received, later, after, drained, drains⟩ := ih kept
      rw [nodes_put_self, lan_put] at drained
      rw [drained]
      refine ⟨handled.1.received?.toList ++ received, later, after, rfl, ?_, ?_, ?_⟩
      · have whole := drains.harmony
        rw [put_put] at whole
        exact whole
      · intro i other
        rw [drains.others i other, lan_put, taken.others i other]
      · intro a other
        have own := drains.own a other
        rw [lan_put] at own
        rw [packetsOf_append, List.append_assoc, ← own, ← handed a other, taken.own, waiting,
          List.filterMap_cons]
        cases packetIn? crew.codec (crew.host a) transit.data <;> rfl

/-- What a poll does to a fleet, if it hands on the packets and leaves such a node and network. -/
structure Polls (crew : Crew n) (lost : Nat) (fleet : Fleet n) (b : Fin n) (received : List Received)
    (later : Node) (after : Lan) : Prop where
  harmony : Harmony crew (lost + (fleet.lan.loss - after.loss)) (fleet.put b later after)
  queues : ∀ x y, x ≠ y → waiting crew.codec (crew.host x) ((crew.site y).inbox fleet.lan)
    = (if y = b then packetsOf (crew.host x) received else [])
      ++ waiting crew.codec (crew.host x) ((crew.site y).inbox after)

/-- A poll announces the node, if it is time to, and then takes what waits. -/
lemma Harmony.poll_eq (harmony : Harmony crew lost fleet) (sound : crew.Sound) (b : Fin n)
    (time : Int) : ∃ gone limit ready lan,
      Node.poll (crew.site b).link (fleet.nodes b) time fleet.lan
        = Node.drain (crew.site b).link limit ready lan ∧
      Announces crew lost fleet b (.ok (), ready, lan) gone := by
  have advanced : Silent (fleet.nodes b) ((fleet.nodes b).advance time) :=
    .of_map_eq rfl rfl rfl rfl rfl rfl
  obtain ⟨gone, returns, loss, kept, arrives⟩ := (harmony.silent b advanced).announceIfDue sound b
  rw [nodes_put_self, lan_put] at returns loss kept arrives
  rw [Fleet.after, put_put] at kept
  have served (m : Node) : (crew.site b).link.poll m.time fleet.lan = (.ok (), fleet.lan) := rfl
  rw [Node.poll, served]
  dsimp only
  generalize Node.announceIfDue (crew.site b).link ((fleet.nodes b).advance time) fleet.lan = turn
    at returns loss kept arrives ⊢
  obtain ⟨answer, announced, lan⟩ := turn
  cases returns
  have purged := kept.silent b (.purge _)
  rw [nodes_put_self, lan_put, put_put] at purged
  exact ⟨gone, _, announced.purge, lan, rfl, rfl, loss, purged, arrives⟩

/-- Every poll returns. -/
lemma Harmony.poll_returns (harmony : Harmony crew lost fleet) (sound : crew.Sound) (b : Fin n)
    (time : Int) : ∃ received,
      (Node.poll (crew.site b).link (fleet.nodes b) time fleet.lan).1 = .ok received := by
  obtain ⟨gone, limit, ready, lan, same, -⟩ := harmony.poll_eq sound b time
  rw [same]
  exact Node.drain_returns (fun room lan fault => link_of_receive (crew.site b) room lan) _ _ _

/-- **A poll** keeps harmony, and hands on what is no longer there. -/
theorem Harmony.poll (harmony : Harmony crew lost fleet) (sound : crew.Sound) (b : Fin n) (time : Int)
    (few : lost + (fleet.lan.loss
      - (Node.poll (crew.site b).link (fleet.nodes b) time fleet.lan).2.2.loss) < Counter.halfRange) :
    ∃ received later after,
      Node.poll (crew.site b).link (fleet.nodes b) time fleet.lan = (.ok received, later, after) ∧
      Polls crew lost fleet b received later after := by
  obtain ⟨gone, limit, ready, lan, same, -, loss, kept, arrives⟩ := harmony.poll_eq sound b time
  dsimp only at loss arrives
  rw [same, loss_drain] at few
  obtain ⟨received, later, after, drained, drains⟩ := kept.drain sound (by omega) b limit
  rw [Fleet.after, nodes_put_self, lan_put] at drained
  have drops := loss_drain (crew.site b) limit ready lan
  rw [drained] at drops
  refine ⟨received, later, after, same.trans drained, ?_, ?_⟩
  · have whole := drains.harmony
    rw [Fleet.after, put_put] at whole
    have more : fleet.lan.loss - after.loss = gone.toNat := by
      dsimp only at drops
      omega
    rw [more]
    exact whole
  · intro x y different
    obtain ⟨arrived, nothing, inbox⟩ := arrives x y different
    cases nothing
    rw [List.append_nil] at inbox
    rw [← inbox]
    split
    · rename_i here
      subst here
      exact drains.own x different
    · rename_i other
      rw [drains.others y other]
      rfl

end RollCall.Fleet
