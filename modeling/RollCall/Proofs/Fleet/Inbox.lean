import RollCall.Proofs.Fleet.Calls
import RollCall.Proofs.Lan.Calls
import RollCall.Proofs.Node.Hearing

/-!
# What reaches an inbox

What a node does over a simulated network comes down to two things: it hands datagrams over in its own
name, and takes the first ones of its own inbox.  What these two keep of the network, a send or a poll
keeps; and every inbox is changed by them at its ends only.

* `mem_queueOf_perform`, `queueOf_perform_prefix` — what a call puts into a queue, and takes of it.
* `send_keeps_lan`, `drain_keeps_lan`, `poll_keeps_lan` — what handing over and taking keep.
* `Speaks.announceIfDue`, `Speaks.inbox` — an announcement returns, and reaches the inbox of every other
  host.
* `poll_eq_drain` — a poll announces the node, if it is time to, and then drains its inbox.
* `drain_inbox`, `Ready.takes` — what a drain, and so a poll, takes is the front of the inbox, except for
  what is too long.
-/

namespace RollCall

namespace Lan

variable {lan : Lan}

/-- Whatever becomes of a datagram, a queue stays as it is or has it at its end. -/
lemma queueOf_send_any (lan : Lan) (number : Nat) (transit : Transit) (n : Nat) (p : Int) : ∃ more,
    (lan.send number transit).2.queueOf n p = lan.queueOf n p ++ more ∧ ∀ t ∈ more, t = transit := by
  have same (after : Lan) (hosts : after.hosts = lan.hosts) : ∃ more,
      after.queueOf n p = lan.queueOf n p ++ more ∧ ∀ t ∈ more, t = transit :=
    ⟨[], by simp [queueOf, hosts], by simp⟩
  rw [send]
  split
  · exact same _ rfl
  · simp only [route, deliverBroadcast]
    split
    · exact same _ rfl
    · split
      · split
        · refine ⟨_, queueOf_map_deliver n p, ?_⟩
          intro t among
          split at among
          · exact List.mem_singleton.1 among
          · cases among
        · split <;> exact same _ rfl
      · split
        · exact same _ rfl
        · rename_i target _
          dsimp only
          rw [queueOf_updateHost]
          split
          · rename_i here
            subst here
            show ∃ more, ((lan.hosts[n]?.bind fun host => _).getD []) = lan.queueOf n p ++ more ∧ _
            rw [queueOf]
            cases lan.hosts[n]? with
            | none => exact ⟨[], by simp, by simp⟩
            | some host =>
              by_cases there : p = transit.destination.port
              · subst there
                cases queue : host.queue? transit.destination.port with
                | none => exact ⟨[], by simp [LanHost.deliver, queue], by simp⟩
                | some waiting => exact ⟨[transit], by simp [LanHost.deliver, queue], by simp⟩
              · exact ⟨[], by simp [LanHost.deliver, there], by simp⟩
          · exact same _ rfl

/-- What is in a queue after a call was there before, or the call has sent it. -/
lemma mem_queueOf_perform {call : Call} {n : Nat} {p : Int} {t : Transit}
    (among : t ∈ (lan.perform call).queueOf n p) :
    t ∈ lan.queueOf n p ∨ ∃ number, call = .send number t := by
  cases call with
  | attach text =>
    rw [(enlarges_attach lan text).queues] at among
    exact .inl among
  | bind number asked =>
    rw [(enlarges_bind lan number asked).queues] at among
    exact .inl among
  | send number transit =>
    obtain ⟨more, queue, last⟩ := queueOf_send_any lan number transit n p
    rw [perform, queue] at among
    rcases List.mem_append.1 among with before | new
    · exact .inl before
    · rw [last t new]
      exact .inr ⟨number, rfl⟩
  | receive number port =>
    refine .inl ?_
    rw [← queueOf_receive lan number port n p]
    exact List.mem_append_right _ among
  | injectLoss count =>
    rw [perform_injectLoss] at among
    exact .inl among
  | startLog => exact .inl among
  | takeLog =>
    rw [perform_takeLog] at among
    exact .inl among

/-- Only a call that takes from a queue takes from it. -/
lemma queueOf_perform_prefix {call : Call} {n : Nat} {p : Int} (other : call ≠ .receive n p) :
    lan.queueOf n p <+: (lan.perform call).queueOf n p := by
  cases call with
  | attach text => rw [(enlarges_attach lan text).queues]
  | bind number asked => rw [(enlarges_bind lan number asked).queues]
  | send number transit =>
    obtain ⟨more, queue, -⟩ := queueOf_send_any lan number transit n p
    rw [perform, queue]
    exact List.prefix_append _ _
  | receive number port =>
    have balance := queueOf_receive lan number port n p
    rw [Call.taken, if_neg fun same => other (by rw [same.1, same.2])] at balance
    rw [perform, ← balance]
    exact List.prefix_refl _
  | injectLoss count =>
    rw [perform_injectLoss]
    exact List.prefix_refl _
  | startLog => exact List.prefix_refl _
  | takeLog =>
    rw [perform_takeLog]
    exact List.prefix_refl _

end Lan

/-- What a node is shown of a datagram. -/
def Transit.delivery (transit : Transit) : Delivery := ⟨transit.source, transit.data⟩

/-- A datagram that a node has encoded names it as its sender. -/
lemma Delivery.sender?_of_encode {codec : Codec} {packet : Packet}
    {sender destination : LogicalAddress} {counter : Int} {room : Nat} {data : Bytes}
    (encoded : Datagram.encode codec packet sender destination counter room = .ok data)
    (endpoint : PhysicalAddress) : (Delivery.mk endpoint data).sender? = some sender := by
  obtain ⟨kind, decoded⟩ := Node.decode_of_encoded encoded
  exact Delivery.sender?_of_ok ⟨endpoint, data⟩ decoded

namespace Fleet

open Node (drainArrivals pollArrivals)

variable {site other : Site} {node : Node} {lan : Lan} {destination : LogicalAddress} {packet : Packet}

/-! ## What the calls of a node keep -/

lemma state_receive (site : Site) (room : Nat) (lan : Lan) :
    (site.link.receive room lan).2 = (lan.pop site.number udpPort).2 := by
  simp only [Site.link, Lan.endpoint, Site.address]
  split
  · rfl
  · split <;> rfl

/-- What handing over the encoded packet keeps of the network, a send keeps. -/
lemma send_keeps_lan (holds : Lan → Prop) (here : holds lan)
    (handed : ∀ endpoint counter data, Datagram.encode node.codec packet node.host destination counter
      node.room = .ok data → holds (lan.send site.number ⟨site.address, endpoint, data⟩).2) :
    holds (Node.send site.link node destination packet lan).2.2 := by
  have exits := Node.sends site.link node destination packet lan
  generalize Node.send site.link node destination packet lan = turn at exits ⊢
  cases exits with
  | noRoute | unencodable => exact here
  | unaddressed _ left =>
    rw [← left]
    exact here
  | broadcast _ encoded asked =>
    cases asked
    rw [Node.transmit_state]
    exact handed _ _ _ encoded
  | unicast _ _ encoded =>
    rw [Node.transmit_state]
    exact handed _ _ _ encoded

lemma announceIfDue_keeps_lan (holds : Lan → Prop) (here : holds lan)
    (handed : ∀ endpoint counter data, Datagram.encode node.codec (.announcement node.session) node.host
      .broadcast counter node.room = .ok data →
        holds (lan.send site.number ⟨site.address, endpoint, data⟩).2) :
    holds (Node.announceIfDue site.link node lan).2.2 := by
  cases due : node.isAnnouncementDue with
  | false =>
    rw [Node.announceIfDue_of_early due]
    exact here
  | true =>
    rw [Node.announceIfDue_of_due due]
    exact send_keeps_lan holds here handed

/-- What taking the first datagram of the inbox keeps of the network, a drain keeps. -/
lemma drain_keeps_lan (holds : Lan → Prop)
    (popped : ∀ lan, holds lan → holds (lan.pop site.number udpPort).2) (limit : Nat)
    (here : holds lan) : holds (Node.drain site.link limit node lan).2.2 := by
  refine Node.drain_keeps (fun _ after => holds after) ?_ id (fun _ => id) limit here
  intro _ _ room here
  rw [state_receive]
  exact popped _ here

/-- What announcing the node and taking from its inbox keep of the network, a poll keeps. -/
lemma poll_keeps_lan (holds : Lan → Prop) (here : holds lan)
    (handed : ∀ endpoint counter data, Datagram.encode node.codec (.announcement node.session) node.host
      .broadcast counter node.room = .ok data →
        holds (lan.send site.number ⟨site.address, endpoint, data⟩).2)
    (popped : ∀ lan, holds lan → holds (lan.pop site.number udpPort).2) (time : Int) :
    holds (Node.poll site.link node time lan).2.2 := by
  have announced : holds (Node.announceIfDue site.link (node.advance time) lan).2.2 :=
    announceIfDue_keeps_lan holds here handed
  have served : site.link.poll (node.advance time).time lan = (.ok (), lan) := rfl
  rw [Node.poll, served]
  dsimp only
  generalize Node.announceIfDue site.link (node.advance time) lan = turn at announced ⊢
  obtain ⟨_ | _, later, rest⟩ := turn
  · exact announced
  · exact drain_keeps_lan holds popped _ announced

/-! ## Announcements -/

/-- A network on which a node stands, with room for its announcement. -/
structure Speaks (site : Site) (node : Node) (lan : Lan) : Prop where
  distinct : lan.Distinct
  sited : lan.Sited site.number site.ip
  paid : lan.loss = 0
  nonneg : 0 ≤ node.session
  small : node.session < counterRange
  fits : Datagram.announcementLength ≤ node.room

/-- The bytes of the announcement of a node. -/
def announcementOf (node : Node) : Bytes :=
  Envelope.encode ⟨node.host, .broadcast, node.broadcastCounter, .shared⟩
    ++ 0 :: Bytes.bigEndian 4 node.session.toNat

/-- The announcement of a node on its way to all. -/
def heartbeatOf (site : Site) (node : Node) (lan : Lan) : Transit :=
  ⟨site.address, ⟨lan.broadcast.text, udpPort⟩, announcementOf node⟩

namespace Speaks

lemma encode (speaks : Speaks site node lan) :
    Datagram.encode node.codec (.announcement node.session) node.host .broadcast node.broadcastCounter
      node.room = .ok (announcementOf node) :=
  Datagram.encode_announcement speaks.nonneg speaks.small speaks.fits

lemma length_announcementOf (node : Node) :
    (announcementOf node).length = Datagram.announcementLength := by
  simp [announcementOf, Datagram.announcementLength]

/-- An announcement is handed over without a fault. -/
lemma announce (speaks : Speaks site node lan) :
    Node.announce site.link node lan
      = (.ok (), node.countBroadcast, (lan.send site.number (heartbeatOf site node lan)).2) := by
  have all : lan.isBroadcast lan.broadcast.bytes = true := by simp [Lan.isBroadcast]
  obtain ⟨after, sent, -⟩ := Lan.send_broadcast site.number (heartbeatOf site node lan) speaks.paid
    (lan.broadcast.octets_text udpPort) all (site.ip.octets_text udpPort)
  have asked : site.link.broadcastOctets lan = (.ok lan.broadcast.bytes, lan) := rfl
  have handed : site.link.send ⟨lan.broadcast.text, udpPort⟩ (announcementOf node) lan
      = lan.send site.number (heartbeatOf site node lan) := rfl
  rw [Node.announce, Node.send, if_pos (show LogicalAddress.broadcast.isBroadcast = true from rfl),
    Node.sendBroadcast, speaks.encode]
  dsimp only
  rw [asked]
  dsimp only
  rw [IPv4.ofBytes_bytes]
  dsimp only
  rw [Node.transmit, handed, sent]
  rfl

/-- If it is time to announce the node, the announcement is handed over and noted. -/
lemma announceIfDue (speaks : Speaks site node lan) :
    Node.announceIfDue site.link node lan
      = if node.isAnnouncementDue then
          (.ok (), { node with lastAnnounce := some node.time }.countBroadcast,
            (lan.send site.number (heartbeatOf site node lan)).2)
        else (.ok (), node, lan) := by
  have noted : Speaks site { node with lastAnnounce := some node.time } lan := { speaks with }
  rw [Node.announceIfDue]
  split
  · rw [noted.announce]
    rfl
  · rfl

/-- **An announcement reaches the inbox of every other host.** -/
theorem inbox (speaks : Speaks site node lan) (sited : lan.Sited other.number other.ip)
    (apart : other.number ≠ site.number) :
    other.inbox (lan.send site.number (heartbeatOf site node lan)).2
      = other.inbox lan ++ [heartbeatOf site node lan] := by
  have origin : (heartbeatOf site node lan).source.octets = .ok site.ip.bytes :=
    site.ip.octets_text udpPort
  have address : (heartbeatOf site node lan).destination.octets = .ok lan.broadcast.bytes :=
    lan.broadcast.octets_text udpPort
  have readable : (Lan.Call.send site.number (heartbeatOf site node lan)).isReadable = true := by
    rw [Lan.Call.isReadable, origin, address]
    rfl
  have elsewhere : site.ip.bytes ≠ other.ip.bytes := by
    intro same
    have plan : (lan.plan.map Prod.fst).Nodup := by
      rw [Lan.plan, List.map_map]
      exact speaks.distinct
    have here := speaks.sited.hostAt? plan
    rw [same, sited.hostAt? plan] at here
    exact apart (Option.some.inj here)
  have selected : lan.selects other.number other.ip udpPort (site.number, heartbeatOf site node lan)
      = true :=
    (Lan.selects_of_broadcast address (by simp [Lan.isBroadcast]) origin).2
      ⟨rfl, .inr fun own => elsewhere own.1⟩
  rw [Site.inbox, Lan.queueOf_send speaks.distinct readable sited.opened, Lan.Call.carried,
    if_pos speaks.paid, List.filter_singleton, selected]
  rfl

end Speaks

/-! ## Draining an inbox -/

/-- If the announcement returns, a poll drains the inbox after it. -/
lemma poll_eq_drain {time : Int} {ready : Node} {rest : Lan}
    (announced : Node.announceIfDue site.link (node.advance time) lan = (.ok (), ready, rest)) :
    Node.poll site.link node time lan
        = Node.drain site.link ready.config.drainLimit.toNat ready.purge rest ∧
      pollArrivals site.link node time lan
        = drainArrivals site.link ready.config.drainLimit.toNat ready.purge rest := by
  have served : site.link.poll (node.advance time).time lan = (.ok (), lan) := rfl
  constructor
  · rw [Node.poll, served]
    dsimp only
    rw [announced]
  · rw [pollArrivals, served]
    dsimp only
    rw [announced]

/-- A poll of a node with room for its announcement makes the node ready to drain its inbox: the
announcement has been handed over and noted, if it was time to. -/
structure Ready (site : Site) (node : Node) (lan : Lan) (time : Int) (ready : Node) (rest : Lan) :
    Prop where
  returns : Node.announceIfDue site.link (node.advance time) lan = (.ok (), ready, rest)
  map : ready.map = node.map
  clock : ready.time = max node.time time
  config : ready.config = node.config
  codec : ready.codec = node.codec
  said : (node.advance time).isAnnouncementDue = true →
    ready.lastAnnounce = some (max node.time time) ∧
      rest = (lan.send site.number (heartbeatOf site node lan)).2
  silent : (node.advance time).isAnnouncementDue = false →
    ready.lastAnnounce = node.lastAnnounce ∧ rest = lan

lemma Speaks.ready (speaks : Speaks site node lan) (time : Int) :
    ∃ ready rest, Ready site node lan time ready rest := by
  have later : Speaks site (node.advance time) lan := { speaks with }
  have answer := later.announceIfDue
  cases due : (node.advance time).isAnnouncementDue with
  | true =>
    rw [if_pos due] at answer
    exact ⟨_, _, answer, rfl, rfl, rfl, rfl, fun _ => ⟨rfl, rfl⟩, fun early => (by
      rw [due] at early
      cases early)⟩
  | false =>
    rw [if_neg (by simp [due])] at answer
    exact ⟨_, _, answer, rfl, rfl, rfl, rfl, fun late => (by
      rw [due] at late
      cases late), fun _ => ⟨rfl, rfl⟩⟩

/-- What handing over the announcement keeps of the network holds when the node drains its inbox. -/
lemma Ready.keeps_lan {time : Int} {ready : Node} {rest : Lan}
    (made : Ready site node lan time ready rest) (holds : Lan → Prop) (here : holds lan)
    (handed : ∀ endpoint counter data, Datagram.encode node.codec (.announcement node.session) node.host
      .broadcast counter node.room = .ok data →
        holds (lan.send site.number ⟨site.address, endpoint, data⟩).2) : holds rest := by
  have announced : holds (Node.announceIfDue site.link (node.advance time) lan).2.2 :=
    announceIfDue_keeps_lan holds here handed
  rw [made.returns] at announced
  exact announced

/-- What a poll leaves of a node besides what it hears. -/
lemma Ready.poll {time : Int} {ready : Node} {rest : Lan} (made : Ready site node lan time ready rest) :
    (Node.poll site.link node time lan).2.1.time = max node.time time ∧
      (Node.poll site.link node time lan).2.1.lastAnnounce = ready.lastAnnounce := by
  rw [(poll_eq_drain made.returns).1]
  exact Node.drain_keeps (fun (m : Node) (_ : Lan) => m.time = max node.time time ∧
    m.lastAnnounce = ready.lastAnnounce) (fun _ here => here) (fun here => here) (fun _ here => here) _
    ⟨made.clock, rfl⟩

lemma receive_of_long {room : Nat} {transit : Transit} {after : Lan}
    (popped : lan.pop site.number udpPort = (some transit, after))
    (long : room < transit.data.length) :
    ∃ link, site.link.receive room lan = (.error (.link link), after) := by
  have taken : lan.pop site.number site.address.port = (some transit, after) := popped
  simp only [Site.link, Lan.endpoint, taken]
  exact ⟨_, if_pos long⟩

/-- **A drain takes the front of the inbox**, in order and except for what is too long. -/
theorem drain_inbox (site : Site) (limit : Nat) (node : Node) (lan : Lan) : ∃ taken,
    site.inbox lan = taken ++ site.inbox (Node.drain site.link limit node lan).2.2 ∧
      (drainArrivals site.link limit node lan).map Node.Arrival.datagram
        = (taken.filter fun transit => transit.data.length ≤ node.room).map Transit.delivery := by
  induction limit generalizing node lan with
  | zero => exact ⟨[], rfl, rfl⟩
  | succ limit ih =>
    cases waiting : site.inbox lan with
    | nil =>
      refine ⟨[], ?_, ?_⟩
      · rw [Node.drain, receive_of_nil site node.room waiting]
        exact waiting.symm
      · rw [drainArrivals, receive_of_nil site node.room waiting]
        rfl
    | cons transit rest =>
      obtain ⟨after, popped, -, -, queues⟩ := Lan.pop_of_cons waiting
      have left : site.inbox after = rest := by
        rw [Site.inbox, queues, if_pos ⟨rfl, rfl⟩]
      rw [Node.drain, drainArrivals]
      by_cases fits : transit.data.length ≤ node.room
      · rw [receive_of_pop popped fits]
        obtain ⟨taken, split, arrived⟩ :=
          ih (node.handle transit.data transit.source).2 after
        rw [left] at split
        refine ⟨transit :: taken, congrArg (transit :: ·) split, ?_⟩
        rw [List.filter_cons_of_pos (by simpa using fits), List.map_cons, List.map_cons]
        exact congrArg (transit.delivery :: ·) arrived
      · obtain ⟨link, failed⟩ := receive_of_long popped (Nat.lt_of_not_le fits)
        rw [failed]
        obtain ⟨taken, split, arrived⟩ := ih node.countReceiveError after
        rw [left] at split
        refine ⟨transit :: taken, congrArg (transit :: ·) split, ?_⟩
        rw [List.filter_cons_of_neg (by simpa using fits)]
        exact arrived

section Polled

variable {time : Int} {ready : Node} {rest : Lan} (made : Ready site node lan time ready rest)

include made

/-- **A poll takes the front of the inbox**, in order and except for what is too long. -/
theorem Ready.takes : ∃ taken,
    site.inbox rest = taken ++ site.inbox (Node.poll site.link node time lan).2.2 ∧
      (pollArrivals site.link node time lan).map Node.Arrival.datagram
        = (taken.filter fun transit => transit.data.length ≤ node.room).map Transit.delivery := by
  have room : node.room = ready.purge.room := by
    rw [Node.room, ← made.config]
    rfl
  obtain ⟨polled, arrived⟩ := poll_eq_drain made.returns
  rw [polled, arrived, room]
  exact drain_inbox site _ ready.purge rest

/-- What arrives in a poll has waited in the inbox. -/
lemma Ready.waited {a : Node.Arrival} (among : a ∈ pollArrivals site.link node time lan) :
    ∃ transit ∈ site.inbox rest, transit.delivery = a.datagram := by
  obtain ⟨taken, split, datagrams⟩ := made.takes
  have shown := List.mem_map_of_mem (f := Node.Arrival.datagram) among
  rw [datagrams] at shown
  obtain ⟨transit, kept, same⟩ := List.mem_map.1 shown
  refine ⟨transit, ?_, same⟩
  rw [split]
  exact List.mem_append_left _ (List.mem_filter.1 kept).1

/-- If a poll empties the inbox, what has waited there arrives, if it is not too long. -/
lemma Ready.arrives (emptied : site.inbox (Node.poll site.link node time lan).2.2 = [])
    {transit : Transit} (among : transit ∈ site.inbox rest) (fits : transit.data.length ≤ node.room) :
    ∃ a ∈ pollArrivals site.link node time lan, a.datagram = transit.delivery := by
  obtain ⟨taken, split, datagrams⟩ := made.takes
  rw [split, emptied, List.append_nil] at among
  refine List.mem_map.1 ?_
  rw [datagrams]
  exact List.mem_map_of_mem (List.mem_filter.2 ⟨among, decide_eq_true fits⟩)

end Polled

end Fleet

end RollCall
