import RollCall.Proofs.Node.Inbound
import RollCall.Proofs.Node.Sending

/-!
# Runs of a node

A run is a row of calls, each a poll, a send, an announcement or a look-up, between which the
outside may change the state of the transport as it likes.  Along a run the node takes datagrams
from its transport; each of these arrivals is recorded with the node as it was then, since what
becomes of a datagram depends on it.

* `Call`, `run` — a call and a run of calls.
* `Arrival`, `arrivals` — the datagrams that a run takes, in the order of their handling.
* `Quiet` — what a node may change without hearing anything.
* `Course`, `run_course` — every run is a row of arrivals with quiet changes between them.  Facts
  about whole runs are proved by induction on this course.
* `Course.keeps` — what every step keeps holds throughout; so `Course.settings`, `Course.distinct`.
* `Created`, `created` — what is known of a new node.
* `received_drain`, `drain_returns` — the packets that a poll hands on are those of its arrivals, and
  it hands them on unless its transport fails otherwise than links do.
* `drain_keeps` — what every step of a drain keeps holds after it.
-/

namespace RollCall.Node

variable {σ : Type}

/-! ## Calls and runs -/

/-- One step of a run. -/
inductive Call (σ : Type) where
  | poll (time : Int)
  | send (destination : LogicalAddress) (packet : Packet)
  | announce
  | resolve (logical : LogicalAddress)
  /-- The outside changes the state of the transport. -/
  | outside (change : σ → σ)

/-- The node and the transport's state after a call, whatever the call gives. -/
def Call.perform (t : Transport σ) (call : Call σ) (node : Node) (s : σ) : Node × σ :=
  match call with
  | poll time => (Node.poll t node time s).2
  | send destination packet => (Node.send t node destination packet s).2
  | announce => (Node.announce t node s).2
  | resolve logical => ((node.resolve logical).2, s)
  | outside change => (node, change s)

/-- The node and the transport's state after a row of calls. -/
def run (t : Transport σ) : List (Call σ) → Node → σ → Node × σ
  | [], node, s => (node, s)
  | call :: calls, node, s =>
    let next := call.perform t node s
    run t calls next.1 next.2

/-! ## Arrivals -/

/-- A datagram that a node takes from its transport, and the node as it is then. -/
structure Arrival where
  node : Node
  datagram : Delivery

namespace Arrival

/-- What becomes of the datagram. -/
def outcome (a : Arrival) : Outcome := (a.node.handle a.datagram.data a.datagram.endpoint).1

/-- The node after the datagram is handled. -/
def after (a : Arrival) : Node := (a.node.handle a.datagram.data a.datagram.endpoint).2

/-- The envelope of the datagram, if it can be read. -/
def envelope? (a : Arrival) : Option Envelope := (Envelope.decode a.datagram.data).toOption

/-- The packet in the datagram, if envelope and body can be decoded. -/
def packet? (a : Arrival) : Option Packet :=
  a.envelope?.bind fun envelope =>
    (Datagram.decodeBody a.node.codec envelope.kind a.datagram.data).toOption

/-- What an arrival shows has been decoded. -/
lemma decoded {a : Arrival} {envelope : Envelope} {packet : Packet}
    (read : a.envelope? = some envelope) (packed : a.packet? = some packet) :
    Envelope.decode a.datagram.data = .ok envelope ∧
      Datagram.decodeBody a.node.codec envelope.kind a.datagram.data = .ok packet := by
  have sound {ε α : Type} {answer : Except ε α} {value : α} (shown : answer.toOption = some value) :
      answer = .ok value := by
    cases answer <;> cases shown
    rfl
  rw [packet?, read] at packed
  exact ⟨sound read, sound packed⟩

end Arrival

/-- The arrivals while a node drains its transport. -/
def drainArrivals (t : Transport σ) : Nat → Node → σ → List Arrival
  | 0, _, _ => []
  | limit + 1, node, s =>
    match t.receive node.room s with
    | (.error (.link _), s) => drainArrivals t limit node.countReceiveError s
    | (.error _, _) => []
    | (.ok none, _) => []
    | (.ok (some d), s) =>
      ⟨node, d⟩ :: drainArrivals t limit (node.handle d.data d.endpoint).2 s

/-- The arrivals of a poll. -/
def pollArrivals (t : Transport σ) (node : Node) (time : Int) (s : σ) : List Arrival :=
  match t.poll (node.advance time).time s with
  | (.error _, _) => []
  | (.ok (), s) =>
    match announceIfDue t (node.advance time) s with
    | (.error _, _) => []
    | (.ok (), node, s) => drainArrivals t node.config.drainLimit.toNat node.purge s

/-- The arrivals of a call; only a poll has any. -/
def Call.arrivals (t : Transport σ) (call : Call σ) (node : Node) (s : σ) : List Arrival :=
  match call with
  | poll time => pollArrivals t node time s
  | _ => []

/-- The arrivals of a row of calls. -/
def arrivals (t : Transport σ) : List (Call σ) → Node → σ → List Arrival
  | [], _, _ => []
  | call :: calls, node, s =>
    let next := call.perform t node s
    call.arrivals t node s ++ arrivals t calls next.1 next.2

/-- The packets that a node hands on are those of its arrivals that are surfaced, in their order. -/
lemma received_drain {t : Transport σ} {limit : Nat} {node : Node} {s : σ}
    {received : List Received} (drained : (drain t limit node s).1 = .ok received) :
    received = (drainArrivals t limit node s).filterMap fun a => a.outcome.received? := by
  induction limit generalizing node s received with
  | zero => cases drained; rfl
  | succ limit ih =>
    rw [drain] at drained
    rw [drainArrivals]
    generalize t.receive node.room s = heard at drained ⊢
    rcases heard with ⟨fault | arrived, s⟩
    · cases fault with
      | link kind => exact ih drained
      | _ => cases drained
    · cases arrived with
      | none => cases drained; rfl
      | some d =>
        dsimp only at drained ⊢
        cases later : (drain t limit (node.handle d.data d.endpoint).2 s).1 with
        | error fault => rw [later] at drained; cases drained
        | ok rest =>
          rw [later] at drained
          cases drained
          rw [ih later, List.filterMap_cons]
          show Option.toList (Arrival.outcome ⟨node, d⟩).received? ++ _ = _
          cases (Arrival.outcome ⟨node, d⟩).received? <;> rfl

/-- What has arrived is taken without a fault: one of the link counts as a datagram. -/
lemma drain_returns {t : Transport σ} (faults : ∀ room s fault,
      (t.receive room s).1 = .error fault → ∃ link, fault = .link link)
    (limit : Nat) (node : Node) (s : σ) :
    ∃ received, (drain t limit node s).1 = .ok received := by
  induction limit generalizing node s with
  | zero => exact ⟨[], rfl⟩
  | succ limit ih =>
    have fails := faults node.room s
    rw [drain]
    generalize t.receive node.room s = answer at fails ⊢
    rcases answer with ⟨fault | arrived, s⟩
    · obtain ⟨link, rfl⟩ := fails fault rfl
      exact ih _ s
    · cases arrived with
      | none => exact ⟨[], rfl⟩
      | some d =>
        obtain ⟨received, later⟩ := ih (node.handle d.data d.endpoint).2 s
        dsimp only
        rw [later]
        exact ⟨_, rfl⟩

/-- What taking, failing to take and handling a datagram keep, a drain keeps. -/
lemma drain_keeps {t : Transport σ} (holds : Node → σ → Prop)
    (asked : ∀ {node s} room, holds node s → holds node (t.receive room s).2)
    (failed : ∀ {node s}, holds node s → holds node.countReceiveError s)
    (handled : ∀ {node s} (d : Delivery), holds node s →
      holds (node.handle d.data d.endpoint).2 s)
    (limit : Nat) {node : Node} {s : σ} (here : holds node s) :
    holds (drain t limit node s).2.1 (drain t limit node s).2.2 := by
  induction limit generalizing node s with
  | zero => exact here
  | succ limit ih =>
    have taken := asked node.room here
    rw [drain]
    generalize t.receive node.room s = answer at taken ⊢
    rcases answer with ⟨fault | arrived, s⟩
    · cases fault with
      | link fault => exact ih (failed taken)
      | _ => exact taken
    · cases arrived with
      | none => exact taken
      | some d => exact ih (handled d taken)

/-! ## Quiet changes -/

/-- The node `n` comes from `m` without hearing anything: of what is known of a peer only the number
of the next datagram to it may differ, and peers may be forgotten. -/
structure Quiet (m n : Node) : Prop where
  config : n.config = m.config
  codec : n.codec = m.codec
  session : n.session = m.session
  distinct : m.map.Distinct → n.map.Distinct
  found : m.map.Distinct → ∀ {logical : LogicalAddress} {peer : Peer},
    n.map.find? logical = some peer → ∃ known, m.map.find? logical = some known ∧
      peer = { known with toCounter := peer.toCounter }

namespace Quiet

variable {m n o : Node}

/-- A change of anything but the map. -/
lemma of_map_eq (config : n.config = m.config) (codec : n.codec = m.codec)
    (session : n.session = m.session) (same : n.map = m.map) : Quiet m n where
  config := config
  codec := codec
  session := session
  distinct distinct := same ▸ distinct
  found _ _ peer found := ⟨peer, same ▸ found, rfl⟩

lemma refl (m : Node) : Quiet m m := of_map_eq rfl rfl rfl rfl

lemma trans (first : Quiet m n) (second : Quiet n o) : Quiet m o where
  config := second.config.trans first.config
  codec := second.codec.trans first.codec
  session := second.session.trans first.session
  distinct distinct := second.distinct (first.distinct distinct)
  found distinct logical peer found := by
    obtain ⟨known, foundKnown, same⟩ := second.found (first.distinct distinct) found
    obtain ⟨oldest, foundOldest, same'⟩ := first.found distinct foundKnown
    refine ⟨oldest, foundOldest, ?_⟩
    rw [same, same']

/-- Peers are removed. -/
lemma evict (node : Node) (gone : Peer → Bool) :
    Quiet node { node with map := node.map.evict gone } where
  config := rfl
  codec := rfl
  session := rfl
  distinct distinct := distinct.evict gone
  found distinct _ peer found := ⟨peer, distinct.find?_of_find?_evict found, rfl⟩

lemma purge (node : Node) : Quiet node node.purge := evict node _

/-- A peer is looked up, and removed if it is stale. -/
lemma lookup (node : Node) (logical : LogicalAddress) :
    Quiet node { node with map := (node.map.lookup logical node.time).2 } where
  config := rfl
  codec := rfl
  session := rfl
  distinct distinct := distinct.lookup logical node.time
  found distinct _ peer found := ⟨peer, distinct.find?_of_find?_lookup found, rfl⟩

/-- A datagram to a peer is counted. -/
lemma countUnicast (node : Node) (destination : LogicalAddress) :
    Quiet node (node.countUnicast destination) where
  config := rfl
  codec := rfl
  session := rfl
  distinct distinct := distinct.update (fun peer => by rfl) destination
  found distinct other peer found := by
    rw [Node.countUnicast, NetworkMap.find?_update (by intro peer; rfl)] at found
    split at found
    · obtain ⟨known, foundKnown, rfl⟩ := Option.map_eq_some_iff.1 found
      exact ⟨known, foundKnown, rfl⟩
    · exact ⟨peer, found, rfl⟩

lemma countBroadcast (node : Node) : Quiet node node.countBroadcast := of_map_eq rfl rfl rfl rfl

lemma send (t : Transport σ) (node : Node) (destination : LogicalAddress) (packet : Packet)
    (s : σ) : Quiet node (send t node destination packet s).2.1 := by
  have exits := sends t node destination packet s
  generalize Node.send t node destination packet s = turn at exits ⊢
  cases exits with
  | noRoute _ looked =>
    have removed := lookup node destination
    rw [looked] at removed
    exact removed
  | unencodable => exact refl node
  | unaddressed => exact countBroadcast node
  | broadcast =>
    rw [transmit_node]
    exact countBroadcast node
  | unicast =>
    rw [transmit_node]
    exact countUnicast node destination

lemma announceIfDue (t : Transport σ) (node : Node) (s : σ) :
    Quiet node (announceIfDue t node s).2.1 := by
  cases due : node.isAnnouncementDue with
  | false =>
    rw [announceIfDue_of_early due]
    exact refl node
  | true =>
    have noted : Quiet node { node with lastAnnounce := some node.time } :=
      of_map_eq rfl rfl rfl rfl
    rw [announceIfDue_of_due due]
    exact noted.trans (send t _ _ _ s)

end Quiet

/-! ## The course of a run -/

/-- A node goes from `m` to `n` by handling the arrivals one after the other, with quiet changes
before, between and after them. -/
inductive Course : Node → List Arrival → Node → Prop
  | quiet {m n : Node} : Quiet m n → Course m [] n
  | heard {m n : Node} {a : Arrival} {later : List Arrival} :
      Quiet m a.node → Course a.after later n → Course m (a :: later) n

namespace Course

variable {m n o : Node} {first second : List Arrival}

lemma after_quiet (quiet : Quiet m n) (course : Course n first o) : Course m first o := by
  cases course with
  | quiet later => exact .quiet (quiet.trans later)
  | heard before later => exact .heard (quiet.trans before) later

lemma append (course : Course m first n) (later : Course n second o) :
    Course m (first ++ second) o := by
  induction course with
  | quiet quiet => exact later.after_quiet quiet
  | heard before _ ih => exact .heard before (ih later)

lemma split (course : Course m (first ++ second) o) :
    ∃ n, Course m first n ∧ Course n second o := by
  induction first generalizing m with
  | nil => exact ⟨m, .quiet (.refl m), course⟩
  | cons a first ih =>
    cases course with
    | heard before later =>
      obtain ⟨n, here, there⟩ := ih later
      exact ⟨n, .heard before here, there⟩

/-- What quiet changes and the handling of datagrams keep holds throughout a course: at every
arrival and at the end. -/
lemma keeps (holds : Node → Prop) (quiet : ∀ {m n}, Quiet m n → holds m → holds n)
    (handle : ∀ {m} (d : Delivery), holds m → holds (m.handle d.data d.endpoint).2)
    (course : Course m first n) (start : holds m) : holds n ∧ ∀ a ∈ first, holds a.node := by
  induction course with
  | quiet change => exact ⟨quiet change start, fun _ h => absurd h List.not_mem_nil⟩
  | @heard _ _ a _ before _ ih =>
    have here := quiet before start
    obtain ⟨atEnd, onTheWay⟩ := ih (handle a.datagram here)
    exact ⟨atEnd, List.forall_mem_cons.2 ⟨here, onTheWay⟩⟩

end Course

lemma drain_course (t : Transport σ) (limit : Nat) (node : Node) (s : σ) :
    Course node (drainArrivals t limit node s) (drain t limit node s).2.1 := by
  induction limit generalizing node s with
  | zero => exact .quiet (.refl _)
  | succ limit ih =>
    rw [drain, drainArrivals]
    rcases t.receive node.room s with ⟨fault | arrived, s⟩
    · cases fault with
      | link kind =>
        have counted : Quiet node node.countReceiveError := .of_map_eq rfl rfl rfl rfl
        exact (ih node.countReceiveError s).after_quiet counted
      | _ => exact .quiet (.refl _)
    · cases arrived with
      | none => exact .quiet (.refl _)
      | some d => exact .heard (.refl _) (ih _ s)

lemma poll_course (t : Transport σ) (node : Node) (time : Int) (s : σ) :
    Course node (pollArrivals t node time s) (poll t node time s).2.1 := by
  have advanced : Quiet node (node.advance time) := .of_map_eq rfl rfl rfl rfl
  unfold pollArrivals poll
  dsimp only
  rcases t.poll (node.advance time).time s with ⟨_ | _, s⟩
  · exact .quiet advanced
  · have announced := Quiet.announceIfDue t (node.advance time) s
    dsimp only
    generalize announceIfDue t (node.advance time) s = turn at announced ⊢
    rcases turn with ⟨_ | _, later, s⟩
    · exact .quiet (advanced.trans announced)
    · exact (drain_course t _ _ s).after_quiet ((advanced.trans announced).trans (.purge later))

lemma perform_course (t : Transport σ) (call : Call σ) (node : Node) (s : σ) :
    Course node (call.arrivals t node s) (call.perform t node s).1 := by
  cases call with
  | poll time => exact poll_course t node time s
  | send destination packet => exact .quiet (.send t node destination packet s)
  | announce => exact .quiet (.send t node _ _ s)
  | resolve logical => exact .quiet (.lookup node logical)
  | outside change => exact .quiet (.refl node)

/-- **Every run is a course.**  A run handles its arrivals in their order, and hears nothing in
between. -/
theorem run_course (t : Transport σ) (calls : List (Call σ)) (node : Node) (s : σ) :
    Course node (arrivals t calls node s) (run t calls node s).1 := by
  induction calls generalizing node s with
  | nil => exact .quiet (.refl node)
  | cons call calls ih => exact (perform_course t call node s).append (ih _ _)

/-- Settings, codec and session stay what they were made. -/
lemma Course.settings {m n : Node} {heard : List Arrival} (course : Course m heard n) :
    n.config = m.config ∧ n.codec = m.codec ∧ n.session = m.session :=
  (course.keeps (fun n => n.config = m.config ∧ n.codec = m.codec ∧ n.session = m.session)
    (fun quiet here => ⟨by rw [quiet.config, here.1], by rw [quiet.codec, here.2.1],
      by rw [quiet.session, here.2.2]⟩)
    (fun _ here => here) ⟨rfl, rfl, rfl⟩).1

/-- Along a course the addresses of peers stay distinct. -/
lemma Course.distinct {m n : Node} {heard : List Arrival} (course : Course m heard n)
    (distinct : m.map.Distinct) : n.map.Distinct ∧ ∀ a ∈ heard, a.node.map.Distinct :=
  course.keeps (fun n => n.map.Distinct) (fun quiet => quiet.distinct)
    (fun d distinct => distinct_handle distinct d.data d.endpoint) distinct

/-! ## New nodes -/

/-- What is known of a new node: its settings passed the checks, and it holds no peers. -/
structure Created (config : NodeConfig) (codec : Codec) (drawn : Int) (node : Node) : Prop where
  unicast : config.host.isBroadcast = false
  interval : 0 < config.announceInterval
  limit : 0 < config.drainLimit
  size : (envelopeLength + 1 : Nat) ≤ config.bufferSize
  map : NetworkMap.create config.stalenessWindow config.mapCapacity = .ok node.map
  node : node = { config, codec, session := sessionOf config drawn, map := node.map }

lemma created {config : NodeConfig} {codec : Codec} {drawn : Int} {node : Node}
    (made : create config codec drawn = .ok node) : Created config codec drawn node := by
  unfold create at made
  split at made
  · cases made
  · rename_i unicast
    split at made
    · cases made
    · rename_i positive
      split at made
      · cases made
      · rename_i size
        split at made
        · cases made
        · rename_i map mapped
          cases made
          exact ⟨by simpa using unicast, by omega, by omega, by omega, mapped, rfl⟩

lemma Created.distinct {config : NodeConfig} {codec : Codec} {drawn : Int} {node : Node}
    (created : Created config codec drawn node) : node.map.Distinct :=
  NetworkMap.distinct_of_create created.map

/-! ### A node to try things with -/

/-- A new node with the usual settings. -/
def listener : Node where
  config := { host := .flightController }
  codec := .empty
  session := 5
  map := { window := 500, capacity := 32 }

lemma listener_made : create { host := .flightController } .empty 5 = .ok listener := rfl

/-- A heartbeat of mission control. -/
def heartbeatOf (counter : Int) : Delivery where
  endpoint := ⟨"10.0.0.2", udpPort⟩
  data := Envelope.encode ⟨.missionControl, .broadcast, counter, .shared⟩ ++ [0, 0, 0, 0, 7]

end RollCall.Node
