import RollCall.Proofs.NetworkMap.History
import RollCall.Proofs.Node.Over
import RollCall.Proofs.Node.Sending
import RollCall.Proofs.Transport

/-!
# What a node knows of its peers

Between polls a node knows of every peer in its map where and when it was heard last, and no peer in
the map is stale: a poll takes its time first and removes what has grown stale before it takes in
anything, and nothing else makes time pass.

* `Idle` — a change in which neither time passes nor anything is heard; so is sending.
* `Tracked`, `Fresh` — what is known of the peers, and that none of them is stale.
* `Tracked.handle`, `Tracked.drain`, `Tracked.poll` — every way of hearing keeps it.
* `run_tracked` — **so it is after every run in which no poll fails, and no look-up removes a peer.**
-/

namespace RollCall

namespace Peer

/-- A peer is where and when it was, whatever else has changed of it. -/
structure InPlace (before after : Peer) : Prop where
  logical : after.logical = before.logical
  physical : after.physical = before.physical
  lastSeen : after.lastSeen = before.lastSeen

lemma InPlace.refl (peer : Peer) : InPlace peer peer := ⟨rfl, rfl, rfl⟩

lemma InPlace.trans {first second third : Peer} (a : InPlace first second)
    (b : InPlace second third) : InPlace first third :=
  ⟨b.logical.trans a.logical, b.physical.trans a.physical, b.lastSeen.trans a.lastSeen⟩

lemma inPlace_expect (broadcast : Bool) (counter : Option Int) (peer : Peer) :
    InPlace peer (peer.expect broadcast counter) := by
  cases broadcast <;> exact ⟨rfl, rfl, rfl⟩

lemma inPlace_noted (session : Option Int) (peer : Peer) : InPlace peer (peer.noted session) := by
  cases session with
  | none => exact .refl peer
  | some session =>
    show InPlace peer (peer.noteSession session)
    rw [noteSession]
    split
    · exact ⟨rfl, rfl, rfl⟩
    · split
      · exact .refl peer
      · exact ⟨rfl, rfl, rfl⟩

/-- Hearing a packet of a peer leaves it where it was entered. -/
lemma inPlace_hear (dedupe broadcast : Bool) (counter : Int) (session : Option Int) (peer : Peer) :
    InPlace peer (hear dedupe broadcast counter session peer).2 := by
  cases dedupe with
  | false =>
    rw [hear_unchecked]
    exact inPlace_noted session peer
  | true =>
    rw [hear_checked]
    split
    · exact (inPlace_noted session peer).trans (inPlace_expect broadcast _ _)
    · exact inPlace_noted session peer

end Peer

namespace NetworkMap

variable {map : NetworkMap} {logical : LogicalAddress} {peer : Peer} {physical : PhysicalAddress}
  {time : Int}

lemma mem_of_mem_update {change : Peer → Peer} (keeps : ∀ peer : Peer, peer.InPlace (change peer))
    (held : peer ∈ (map.update logical change).peers) :
    ∃ before ∈ map.peers, before.InPlace peer := by
  obtain ⟨before, here, rfl⟩ := List.mem_map.1 held
  refine ⟨before, here, ?_⟩
  split
  · exact keeps before
  · exact .refl before

lemma length_update (map : NetworkMap) (logical : LogicalAddress) (change : Peer → Peer) :
    (map.update logical change).peers.length = map.peers.length := by
  simp [update]

lemma mem_of_mem_roomy (held : peer ∈ (map.roomy time).peers) : peer ∈ map.peers := by
  rw [roomy] at held
  split at held
  · exact held
  · exact (List.mem_filter.1 held).1

/-- A peer that is held after a binding was learned is the one that it was learned of, or another that
was held before. -/
lemma mem_of_mem_observe (unicast : logical.isBroadcast = false)
    (held : peer ∈ (map.observe logical physical time).2.peers) :
    peer ∈ map.peers ∧ peer.logical ≠ logical ∨
      peer.logical = logical ∧ peer.physical = physical ∧ peer.lastSeen = time := by
  have seen := observed map logical physical time
  generalize map.observe logical physical time = result at seen held
  cases seen with
  | broadcast named => rw [unicast] at named; cases named
  | refreshed =>
    obtain ⟨before, here, rfl⟩ := List.mem_map.1 held
    by_cases same : before.logical = logical
    · rw [if_pos same]
      exact .inr ⟨same, rfl, rfl⟩
    · rw [if_neg same]
      exact .inl ⟨here, same⟩
  | added _ absent =>
    rcases List.mem_append.1 held with kept | new
    · have here := mem_of_mem_roomy kept
      exact .inl ⟨here, find?_eq_none_iff.1 absent peer here⟩
    · rw [List.mem_singleton.1 new]
      exact .inr ⟨rfl, rfl, rfl⟩
  | full _ absent =>
    have here := mem_of_mem_roomy held
    exact .inl ⟨here, find?_eq_none_iff.1 absent peer here⟩

lemma length_roomy (map : NetworkMap) (time : Int) :
    (map.roomy time).peers.length ≤ map.peers.length := by
  rw [roomy]
  split
  · exact Nat.le_refl _
  · exact List.length_filter_le _ _

lemma length_observe (bounded : map.peers.length ≤ map.capacity) :
    (map.observe logical physical time).2.peers.length ≤ map.capacity := by
  have seen := observed map logical physical time
  generalize map.observe logical physical time = result at seen ⊢
  cases seen with
  | broadcast => exact bounded
  | refreshed => rw [length_update]; exact bounded
  | added _ _ room => simpa [append] using Nat.succ_le_of_lt room
  | full => exact (length_roomy map time).trans bounded

/-- Looking up a peer that is not stale changes nothing. -/
lemma lookup_of_fresh (fresh : ∀ peer ∈ map.peers, time - peer.lastSeen ≤ map.window)
    (logical : LogicalAddress) : (map.lookup logical time).2 = map := by
  rw [lookup]
  split
  · rfl
  · rename_i peer found
    have live := Peer.isStale_eq_false_iff.2 (fresh peer (mem_of_find? found))
    rw [live]
    rfl

end NetworkMap

namespace Node

open NetworkMap (Sighting latest?)

variable {σ : Type} {t : Transport σ} {node m n o : Node} {seen : List Sighting} {s : σ}

/-! ## Changes without hearing -/

/-- The node `n` comes from `m` while neither time passes nor anything is heard. -/
structure Idle (m n : Node) : Prop where
  config : n.config = m.config
  time : n.time = m.time
  window : n.map.window = m.map.window
  capacity : n.map.capacity = m.map.capacity
  distinct : m.map.Distinct → n.map.Distinct
  length : n.map.peers.length ≤ m.map.peers.length
  places : ∀ peer ∈ n.map.peers, ∃ before ∈ m.map.peers, before.InPlace peer

namespace Idle

lemma of_map_eq (config : n.config = m.config) (time : n.time = m.time) (same : n.map = m.map) :
    Idle m n where
  config := config
  time := time
  window := by rw [same]
  capacity := by rw [same]
  distinct := by rw [same]; exact id
  length := by rw [same]
  places peer held := ⟨peer, same ▸ held, .refl peer⟩

lemma refl (m : Node) : Idle m m := of_map_eq rfl rfl rfl

lemma trans (first : Idle m n) (second : Idle n o) : Idle m o where
  config := second.config.trans first.config
  time := second.time.trans first.time
  window := second.window.trans first.window
  capacity := second.capacity.trans first.capacity
  distinct distinct := second.distinct (first.distinct distinct)
  length := second.length.trans first.length
  places peer held := by
    obtain ⟨between, here, place⟩ := second.places peer held
    obtain ⟨before, there, place'⟩ := first.places between here
    exact ⟨before, there, place'.trans place⟩

lemma evict (node : Node) (gone : Peer → Bool) :
    Idle node { node with map := node.map.evict gone } where
  config := rfl
  time := rfl
  window := rfl
  capacity := rfl
  distinct distinct := distinct.evict gone
  length := List.length_filter_le _ _
  places peer held := ⟨peer, (List.mem_filter.1 held).1, .refl peer⟩

lemma lookup (node : Node) (logical : LogicalAddress) :
    Idle node { node with map := (node.map.lookup logical node.time).2 } := by
  rcases NetworkMap.lookup_eq node.map logical node.time with same | removed
  · rw [same]
    exact refl node
  · rw [removed]
    exact evict node _

lemma countUnicast (node : Node) (destination : LogicalAddress) :
    Idle node (node.countUnicast destination) where
  config := rfl
  time := rfl
  window := rfl
  capacity := rfl
  distinct distinct := distinct.update (fun peer => by rfl) destination
  length := (NetworkMap.length_update _ _ _).le
  places peer held := by
    have inPlace (p : Peer) : p.InPlace { p with toCounter := Counter.next p.toCounter } :=
      ⟨rfl, rfl, rfl⟩
    exact NetworkMap.mem_of_mem_update inPlace held

lemma send (t : Transport σ) (node : Node) (destination : LogicalAddress) (packet : Packet)
    (s : σ) : Idle node (send t node destination packet s).2.1 := by
  have exits := sends t node destination packet s
  generalize Node.send t node destination packet s = turn at exits ⊢
  cases exits with
  | noRoute _ looked =>
    have removed := lookup node destination
    rw [looked] at removed
    exact removed
  | unencodable => exact refl node
  | unaddressed => exact of_map_eq rfl rfl rfl
  | broadcast =>
    rw [transmit_node]
    exact of_map_eq rfl rfl rfl
  | unicast =>
    rw [transmit_node]
    exact countUnicast node destination

lemma announceIfDue (t : Transport σ) (node : Node) (s : σ) :
    Idle node (announceIfDue t node s).2.1 := by
  cases due : node.isAnnouncementDue with
  | false =>
    rw [announceIfDue_of_early due]
    exact refl node
  | true =>
    have noted : Idle node { node with lastAnnounce := some node.time } := of_map_eq rfl rfl rfl
    rw [announceIfDue_of_due due]
    exact noted.trans (send t _ _ _ s)

end Idle

/-! ## The invariant -/

/-- What is known of the peers of a node, by the datagrams that it has taken, the latest first. -/
structure Tracked (node : Node) (seen : List Sighting) : Prop where
  distinct : node.map.Distinct
  window : (node.map.window : Int) = node.config.stalenessWindow
  capacity : (node.map.capacity : Int) = node.config.mapCapacity
  bounded : node.map.peers.length ≤ node.map.capacity
  foreign : ∀ peer ∈ node.map.peers, peer.logical.isBroadcast = false ∧ peer.logical ≠ node.host
  recent : ∀ peer ∈ node.map.peers, peer.lastSeen ≤ node.time
  last : ∀ peer ∈ node.map.peers,
    latest? seen peer.logical = some ⟨peer.logical, peer.physical, peer.lastSeen⟩

/-- No peer is stale. -/
def Fresh (node : Node) : Prop :=
  ∀ peer ∈ node.map.peers, node.time - peer.lastSeen ≤ node.map.window

lemma Tracked.idle (tracked : Tracked m seen) (idle : Idle m n) : Tracked n seen where
  distinct := idle.distinct tracked.distinct
  window := by rw [idle.window, idle.config, tracked.window]
  capacity := by rw [idle.capacity, idle.config, tracked.capacity]
  bounded := by
    rw [idle.capacity]
    exact idle.length.trans tracked.bounded
  foreign peer held := by
    obtain ⟨before, here, place⟩ := idle.places peer held
    rw [place.logical, host, idle.config]
    exact tracked.foreign before here
  recent peer held := by
    obtain ⟨before, here, place⟩ := idle.places peer held
    rw [place.lastSeen, idle.time]
    exact tracked.recent before here
  last peer held := by
    obtain ⟨before, here, place⟩ := idle.places peer held
    rw [place.logical, place.physical, place.lastSeen]
    exact tracked.last before here

lemma Fresh.idle (fresh : Fresh m) (idle : Idle m n) : Fresh n := by
  intro peer held
  obtain ⟨before, here, place⟩ := idle.places peer held
  rw [place.lastSeen, idle.time, idle.window]
  exact fresh before here

/-- Time passes. -/
lemma Tracked.advance (tracked : Tracked node seen) (time : Int) :
    Tracked (node.advance time) seen :=
  { tracked with
    recent := fun peer held => (tracked.recent peer held).trans (le_max_left _ _) }

lemma fresh_purge (node : Node) : Fresh node.purge := by
  intro peer kept
  obtain ⟨-, live⟩ := List.mem_filter.1 kept
  have young : peer.isStale node.map.window node.time = false := by simpa using live
  exact Peer.isStale_eq_false_iff.1 young

/-! ## Hearing -/

/-- What an arrival tells of its sender, if its envelope can be read. -/
def Arrival.sighting? (a : Arrival) : Option Sighting :=
  a.envelope?.map fun envelope => ⟨envelope.sender, a.datagram.endpoint, a.node.time⟩

/-- What a row of arrivals tells of the senders, the latest first. -/
def sightingsOf : List Arrival → List Sighting
  | [] => []
  | a :: later => sightingsOf later ++ a.sighting?.toList

lemma sightingsOf_append (first second : List Arrival) :
    sightingsOf (first ++ second) = sightingsOf second ++ sightingsOf first := by
  induction first with
  | nil => simp [sightingsOf]
  | cons a first ih => simp [sightingsOf, ih]

lemma latest?_append_of_ne {first : Option Sighting} {logical : LogicalAddress}
    (other : ∀ s ∈ first, s.logical ≠ logical) :
    latest? (first.toList ++ seen) logical = latest? seen logical := by
  cases first with
  | none => rfl
  | some s => simpa [NetworkMap.latest?_cons] using fun same => absurd same (other s rfl)

/-- Where a peer in the map comes from after a datagram was handled: it was there before, and the
datagram tells of none or of another, or the datagram tells of it. -/
inductive Origin (node : Node) (d : Delivery) (peer : Peer) : Prop
  | stayed (before : Peer) (held : before ∈ node.map.peers) (place : before.InPlace peer)
      (others : ∀ s ∈ (Arrival.mk node d).sighting?, s.logical ≠ peer.logical)
  | told (sighting : (Arrival.mk node d).sighting?
      = some ⟨peer.logical, peer.physical, peer.lastSeen⟩) (now : peer.lastSeen = node.time)
      (unicast : peer.logical.isBroadcast = false) (foreign : peer.logical ≠ node.host)

lemma sighting?_of_decode {d : Delivery} {envelope : Envelope}
    (decoded : Envelope.decode d.data = .ok envelope) :
    (Arrival.mk node d).sighting? = some ⟨envelope.sender, d.endpoint, node.time⟩ := by
  rw [Arrival.sighting?, Arrival.envelope?, decoded]
  rfl

/-- A peer in the map in which the sender of a datagram was entered. -/
lemma Origin.of_observe {d : Delivery} {envelope : Envelope} {answer : Except MapFault Peer}
    {map : NetworkMap} {learned peer : Peer} (decoded : Envelope.decode d.data = .ok envelope)
    (other : envelope.sender ≠ node.host) (unicast : envelope.sender.isBroadcast = false)
    (observed : node.map.observe envelope.sender d.endpoint node.time = (answer, map))
    (here : learned ∈ map.peers) (place : learned.InPlace peer) : Origin node d peer := by
  have entered : learned ∈ (node.map.observe envelope.sender d.endpoint node.time).2.peers := by
    rw [observed]
    exact here
  rcases NetworkMap.mem_of_mem_observe unicast entered with
    ⟨before, different⟩ | ⟨same, physical, lastSeen⟩
  · refine .stayed learned before place ?_
    rw [sighting?_of_decode decoded]
    rintro s ⟨⟩
    rw [place.logical]
    exact different.symm
  · refine .told ?_ ?_ ?_ ?_
    · rw [sighting?_of_decode decoded, place.logical, place.physical, place.lastSeen, same, physical,
        lastSeen]
    · rw [place.lastSeen, lastSeen]
    · rw [place.logical, same, unicast]
    · rw [place.logical, same]
      exact other

lemma mem_handle (foreign : ∀ peer ∈ node.map.peers,
      peer.logical.isBroadcast = false ∧ peer.logical ≠ node.host) (d : Delivery) {peer : Peer}
    (held : peer ∈ (node.handle d.data d.endpoint).2.map.peers) : Origin node d peer := by
  change peer ∈ (node.judge d.data d.endpoint).2.peers at held
  have exits := judged node d.data d.endpoint
  generalize node.judge d.data d.endpoint = result at exits held
  cases exits with
  | unreadable undecoded =>
    refine .stayed peer held (.refl peer) ?_
    simp [Arrival.sighting?, Arrival.envelope?, undecoded, Except.toOption]
  | own decoded own =>
    refine .stayed peer held (.refl peer) ?_
    rw [sighting?_of_decode decoded]
    rintro s ⟨⟩
    rw [own]
    exact (foreign peer held).2.symm
  | pretended decoded _ pretended =>
    refine .stayed peer held (.refl peer) ?_
    rw [sighting?_of_decode decoded]
    rintro s ⟨⟩ same
    have unicast := (foreign peer held).1
    rw [← same, pretended] at unicast
    cases unicast
  | unmapped decoded other unicast refused =>
    exact .of_observe decoded other unicast refused held (.refl peer)
  | misaddressed learned | undecodable learned =>
    exact .of_observe learned.decoded learned.foreign learned.unicast learned.observed held (.refl peer)
  | decoded learned =>
    obtain ⟨before, here, place⟩ :=
      NetworkMap.mem_of_mem_update (fun p => Peer.inPlace_hear _ _ _ _ p) held
    exact .of_observe learned.decoded learned.foreign learned.unicast learned.observed here place

/-- Handling a datagram changes neither the window nor the capacity of the map. -/
lemma settings_handle (node : Node) (data : Bytes) (source : PhysicalAddress) :
    (node.handle data source).2.map.window = node.map.window ∧
      (node.handle data source).2.map.capacity = node.map.capacity :=
  keeps_handle (fun map => map.window = node.map.window ∧ map.capacity = node.map.capacity)
    ⟨rfl, rfl⟩ (fun envelope _ => NetworkMap.settings_observe node.map envelope.sender source _)
    (fun _ _ _ _ _ _ here => here)

/-- **One datagram.**  What is known of its sender is what it tells, and of all others what was known
before. -/
theorem Tracked.handle (tracked : Tracked node seen) (d : Delivery) :
    Tracked (node.handle d.data d.endpoint).2
      ((Arrival.mk node d).sighting?.toList ++ seen) := by
  obtain ⟨window, capacity⟩ := settings_handle node d.data d.endpoint
  have bounded : (node.handle d.data d.endpoint).2.map.peers.length ≤ node.map.capacity := by
    refine keeps_handle (fun map => map.peers.length ≤ node.map.capacity) tracked.bounded ?_ ?_
    · intro envelope _
      exact NetworkMap.length_observe tracked.bounded
    · intro envelope _ map change _ _ here
      rw [NetworkMap.length_update]
      exact here
  have peers {peer : Peer} (held : peer ∈ (node.handle d.data d.endpoint).2.map.peers) :=
    mem_handle tracked.foreign d held
  refine ⟨distinct_handle tracked.distinct _ _, ?_, ?_, ?_, ?_, ?_, ?_⟩
  · rw [window, handle_config, tracked.window]
  · rw [capacity, handle_config, tracked.capacity]
  · rw [capacity]
    exact bounded
  · intro peer held
    rcases peers held with ⟨before, here, place, -⟩ | ⟨-, -, unicast, other⟩
    · rw [place.logical]
      exact tracked.foreign before here
    · exact ⟨unicast, other⟩
  · intro peer held
    rcases peers held with ⟨before, here, place, -⟩ | ⟨-, now, -⟩
    · rw [place.lastSeen]
      exact tracked.recent before here
    · exact now.le
  · intro peer held
    rcases peers held with ⟨before, here, place, others⟩ | ⟨told, -⟩
    · rw [latest?_append_of_ne others, place.logical, place.physical, place.lastSeen]
      exact tracked.last before here
    · rw [told]
      simp [NetworkMap.latest?]

lemma Fresh.handle (fresh : Fresh node) (tracked : Tracked node seen) (d : Delivery) :
    Fresh (node.handle d.data d.endpoint).2 := by
  intro peer held
  rw [(settings_handle node d.data d.endpoint).1]
  show node.time - peer.lastSeen ≤ _
  rcases mem_handle tracked.foreign d held with ⟨before, here, place, -⟩ | ⟨-, now, -⟩
  · rw [place.lastSeen]
    exact fresh before here
  · omega

lemma drain_tracked (tracked : Tracked node seen) (fresh : Fresh node) (limit : Nat) (s : σ) :
    Tracked (drain t limit node s).2.1
        (sightingsOf (drainArrivals t limit node s) ++ seen) ∧
      Fresh (drain t limit node s).2.1 := by
  induction limit generalizing node seen s with
  | zero => exact ⟨tracked, fresh⟩
  | succ limit ih =>
    rw [drain, drainArrivals]
    rcases t.receive node.room s with ⟨fault | arrived, s⟩
    · cases fault with
      | link fault =>
        have counted : Idle node node.countReceiveError := .of_map_eq rfl rfl rfl
        exact ih (tracked.idle counted) (fresh.idle counted) s
      | _ => exact ⟨tracked, fresh⟩
    · cases arrived with
      | none => exact ⟨tracked, fresh⟩
      | some d =>
        have later := ih (tracked.handle d) (fresh.handle tracked d) s
        simpa only [sightingsOf, List.append_assoc] using later

/-- **One poll.**  If it returns, no peer is stale after it, since it has removed those that were before
it took anything in. -/
theorem poll_tracked (tracked : Tracked node seen) (time : Int) {received : List Received}
    (returned : (poll t node time s).1 = .ok received) :
    Tracked (poll t node time s).2.1 (sightingsOf (pollArrivals t node time s) ++ seen) ∧
      Fresh (poll t node time s).2.1 := by
  rw [poll] at returned ⊢
  rw [pollArrivals]
  generalize t.poll (node.advance time).time s = answer at returned ⊢
  rcases answer with ⟨fault | _, s⟩
  · cases returned
  · have idle := Idle.announceIfDue t (node.advance time) s
    dsimp only at returned ⊢
    generalize announceIfDue t (node.advance time) s = turn at returned idle ⊢
    rcases turn with ⟨fault | _, later, s⟩
    · cases returned
    · have here := ((tracked.advance time).idle idle).idle (Idle.evict later fun peer =>
        peer.isStale later.map.window later.time)
      exact drain_tracked here (fresh_purge later) _ s

/-! ## Runs -/

/-- Every poll of a run returns. -/
def Returned (t : Transport σ) : List (Call σ) → Node → σ → Prop
  | [], _, _ => True
  | call :: calls, node, s =>
    (∀ time, call = .poll time → ∃ received, (poll t node time s).1 = .ok received) ∧
      Returned t calls (call.perform t node s).1 (call.perform t node s).2

lemma perform_tracked (tracked : Tracked node seen) (fresh : Fresh node) (call : Call σ)
    (returned : ∀ time, call = .poll time → ∃ received, (poll t node time s).1 = .ok received) :
    Tracked (call.perform t node s).1 (sightingsOf (call.arrivals t node s) ++ seen) ∧
      Fresh (call.perform t node s).1 := by
  have idle (n : Node) (change : Idle node n) : Tracked n seen ∧ Fresh n :=
    ⟨tracked.idle change, fresh.idle change⟩
  cases call with
  | poll time =>
    obtain ⟨received, returned⟩ := returned time rfl
    exact poll_tracked tracked time returned
  | send destination packet => exact idle _ (.send t node destination packet s)
  | announce => exact idle _ (.send t node _ _ s)
  | resolve logical => exact idle _ (.lookup node logical)
  | outside change => exact idle _ (.refl node)

lemma Tracked.run (tracked : Tracked node seen) (fresh : Fresh node) (calls : List (Call σ))
    (returned : Returned t calls node s) :
    Tracked (run t calls node s).1 (sightingsOf (arrivals t calls node s) ++ seen) ∧
      Fresh (Node.run t calls node s).1 := by
  induction calls generalizing node seen s with
  | nil => exact ⟨tracked, fresh⟩
  | cons call calls ih =>
    obtain ⟨here, later⟩ := perform_tracked tracked fresh call returned.1
    have rest := ih here later returned.2
    rw [arrivals, sightingsOf_append, List.append_assoc]
    exact rest

/-- A new node knows nobody. -/
lemma Created.tracked {config : NodeConfig} {codec : Codec} {drawn : Int}
    (created : Created config codec drawn node) : Tracked node [] ∧ Fresh node := by
  have nobody := (NetworkMap.of_create created.map).1
  obtain ⟨window, capacity⟩ := NetworkMap.settings_of_create created.map
  have same : node.config = config := by rw [created.node]
  constructor
  · refine ⟨created.distinct, ?_, ?_, ?_, ?_, ?_, ?_⟩
    · rw [window, same]
    · rw [capacity, same]
    all_goals simp [nobody]
  · simp [Fresh, nobody]

/-! ## The clock -/

/-- The times that a row of calls polls with. -/
def pollTimes (calls : List (Call σ)) : List Int :=
  calls.filterMap fun call => match call with
    | .poll time => some time
    | _ => none

/-- A run with the times that its transport is polled with. -/
def runClocked (t : Transport σ) (calls : List (Call σ)) (node : Node) (s : σ) :
    Node × σ × List Int :=
  run t.clocked (calls.map .beside) node (s, [])

section Clock

variable (t : Transport σ) (node : Node) (s : σ × List Int)

/-- A poll shows its transport the time once, and does not change it afterwards. -/
lemma poll_clocked (time : Int) :
    (poll t.clocked node time s).2.1.time = max node.time time ∧
      (poll t.clocked node time s).2.2.2 = s.2 ++ [max node.time time] := by
  rw [poll]
  have shown : (t.clocked.poll (node.advance time).time s).2.2 = s.2 ++ [max node.time time] := rfl
  generalize t.clocked.poll (node.advance time).time s = answer at shown ⊢
  rcases answer with ⟨_ | _, rest⟩
  · exact ⟨rfl, shown⟩
  · have kept : (announceIfDue t.clocked (node.advance time) rest).2.1.time = max node.time time :=
      announceIfDue_keeps Node.time (fun _ _ => rfl) (fun _ _ => rfl) (fun _ _ => rfl) _ _ _
    have quiet : (announceIfDue t.clocked (node.advance time) rest).2.2.2
        = s.2 ++ [max node.time time] :=
      announceIfDue_keeps_state (fun s' : σ × List Int => s'.2 = s.2 ++ [max node.time time])
        (fun _ here => here) (fun _ _ _ here => here) shown
    dsimp only
    generalize announceIfDue t.clocked (node.advance time) rest = turn at kept quiet ⊢
    rcases turn with ⟨_ | _, later, rest⟩
    · exact ⟨kept, quiet⟩
    · exact drain_keeps (fun (n : Node) (s' : σ × List Int) => n.time = max node.time time ∧
          s'.2 = s.2 ++ [max node.time time])
        (fun _ here => here) (fun here => here) (fun _ here => here) _ ⟨kept, quiet⟩

lemma send_clocked (destination : LogicalAddress) (packet : Packet) :
    (send t.clocked node destination packet s).2.1.time = node.time ∧
      (send t.clocked node destination packet s).2.2.2 = s.2 :=
  ⟨send_keeps Node.time (fun _ _ => rfl) (fun _ _ => rfl) _ _ _ _ _,
    send_keeps_state (fun s' : σ × List Int => s'.2 = s.2) (fun _ here => here) (fun _ _ _ here => here) rfl⟩

/-- **The clock.**  The time is the greatest of the times polled with, and each poll shows the
transport the one after it. -/
theorem run_clocked (calls : List (Call σ)) :
    (run t.clocked (calls.map .beside) node s).1.time = (pollTimes calls).foldl max node.time ∧
      (run t.clocked (calls.map .beside) node s).2.2
        = s.2 ++ ((pollTimes calls).scanl max node.time).tail := by
  induction calls generalizing node s with
  | nil => simp [run, pollTimes]
  | cons call calls ih =>
    have later := ih (call.beside.perform t.clocked node s).1
      (call.beside.perform t.clocked node s).2
    rw [List.map_cons, run]
    cases call with
    | poll time =>
      obtain ⟨now, shown⟩ := poll_clocked t node s time
      simp only [Call.beside, Call.perform, now, shown] at later ⊢
      rw [later.1, later.2]
      have times : pollTimes (.poll time :: calls) = time :: pollTimes calls := rfl
      have first : (pollTimes calls).scanl max (max node.time time)
          = max node.time time :: ((pollTimes calls).scanl max (max node.time time)).tail := by
        cases pollTimes calls <;> simp
      rw [times, List.scanl_cons, List.tail_cons, List.append_assoc, List.singleton_append, ← first]
      exact ⟨rfl, rfl⟩
    | send destination packet =>
      obtain ⟨now, shown⟩ := send_clocked t node s destination packet
      rw [← now, ← shown]
      exact later
    | announce =>
      obtain ⟨now, shown⟩ := send_clocked t node s .broadcast (.announcement node.session)
      rw [← now, ← shown]
      exact later
    | resolve | outside => exact later

end Clock

/-- **What a node knows of its peers.**  A new node makes any run in which no poll fails, over any
transport and with any inbound traffic.  Then

* its time is the greatest of zero and the times that it was polled with, and with these maxima its
  transport was polled;
* its map holds no more peers than it may, and neither the broadcast address nor the node itself;
* every peer was heard within the staleness window, and stands where and when the latest of its
  datagrams that the run took says, whatever became of that datagram;
* so no look-up, of the node or of a send, changes the map. -/
theorem run_tracked {config : NodeConfig} {codec : Codec} {drawn : Int}
    (made : create config codec drawn = .ok node) (calls : List (Call σ)) (s : σ)
    (returned : Returned t calls node s) :
    ((run t calls node s).1 = (runClocked t calls node s).1 ∧
      (run t calls node s).1.time = (pollTimes calls).foldl max 0 ∧
      (runClocked t calls node s).2.2 = ((pollTimes calls).scanl max 0).tail) ∧
    ((run t calls node s).1.map.peers.length : Int) ≤ config.mapCapacity ∧
    (∀ peer ∈ (run t calls node s).1.map.peers,
      peer.logical.isBroadcast = false ∧ peer.logical ≠ config.host ∧
      0 ≤ (run t calls node s).1.time - peer.lastSeen ∧
      (run t calls node s).1.time - peer.lastSeen ≤ config.stalenessWindow ∧
      latest? (sightingsOf (arrivals t calls node s)) peer.logical
        = some ⟨peer.logical, peer.physical, peer.lastSeen⟩) ∧
    ∀ logical, ((run t calls node s).1.resolve logical).2 = (run t calls node s).1 ∧
      ((run t calls node s).1.map.lookup logical (run t calls node s).1.time).2
        = (run t calls node s).1.map := by
  have new := created made
  obtain ⟨tracked, fresh⟩ := new.tracked
  obtain ⟨clock, noted⟩ := run_clocked t node (s, []) calls
  obtain ⟨settings, -, -⟩ := (run_course t calls node s).settings
  have beside := run_over t.clocked_over calls node (s, [])
  obtain ⟨tracked, fresh⟩ := tracked.run fresh calls returned
  have start : node.time = 0 ∧ node.config = config := by
    rw [new.node]
    exact ⟨rfl, rfl⟩
  have same : (run t calls node s).1 = (runClocked t calls node s).1 := congrArg Prod.fst beside
  rw [List.append_nil] at tracked
  rw [start.1] at clock noted
  rw [start.2] at settings
  generalize run t calls node s = reached at *
  have window := tracked.window
  have capacity := tracked.capacity
  have bounded := tracked.bounded
  rw [settings] at window capacity
  have looked (logical : LogicalAddress) :
      (reached.1.map.lookup logical reached.1.time).2 = reached.1.map :=
    NetworkMap.lookup_of_fresh fresh logical
  refine ⟨⟨same, ?_, noted⟩, by omega, ?_, ?_⟩
  · rw [same]
    exact clock
  · intro peer held
    obtain ⟨unicast, other⟩ := tracked.foreign peer held
    have past := tracked.recent peer held
    have young := fresh peer held
    rw [host, settings] at other
    exact ⟨unicast, other, by omega, by omega, tracked.last peer held⟩
  · intro logical
    refine ⟨?_, looked logical⟩
    show ({ reached.1 with map := (reached.1.map.lookup logical reached.1.time).2 } : Node) = reached.1
    rw [looked]

/-! ### A clock that is set back -/

/-- Mission control is heard, and the clock is set back between two polls. -/
def setBack : List (Call (List Delivery)) :=
  [.poll 100, .send .missionControl (.announcement 5), .poll 40, .resolve .missionControl]

/-- The time stays what it was, and so the peer stays where and when it was heard. -/
theorem run_tracked_set_back :
    (run .queue setBack listener [heartbeatOf 0]).1.time = 100 ∧
      (runClocked .queue setBack listener [heartbeatOf 0]).2.2 = [100, 100] ∧
      ∀ peer ∈ (run .queue setBack listener [heartbeatOf 0]).1.map.peers,
        latest? [⟨.missionControl, ⟨"10.0.0.2", udpPort⟩, 100⟩] peer.logical
          = some ⟨peer.logical, peer.physical, peer.lastSeen⟩ := by
  have returned : Returned .queue setBack listener [heartbeatOf 0] := by
    refine ⟨?_, nofun, ?_, nofun, trivial⟩
    · rintro _ ⟨⟩
      exact ⟨_, rfl⟩
    · rintro _ ⟨⟩
      exact ⟨_, rfl⟩
  obtain ⟨⟨-, time, shown⟩, -, peers, -⟩ := run_tracked listener_made setBack _ returned
  have heard : sightingsOf (arrivals .queue setBack listener [heartbeatOf 0])
      = [⟨.missionControl, ⟨"10.0.0.2", udpPort⟩, 100⟩] := by rfl
  refine ⟨time, shown, ?_⟩
  intro peer held
  rw [← heard]
  exact (peers peer held).2.2.2.2

end Node

end RollCall
