import RollCall.Proofs.Fleet.Calls

/-!
# What arrives in a fleet

Whatever the nodes of a fleet do, and in whatever order, a node hands on of another one just what that
one has sent to it, in the order of sending, but for what the network was asked to lose.

* `Flow` — what a part of a run does to a fleet; `Flow.trans` puts two parts together.
* `Harmony.perform`, `Harmony.run` — a move, and a run of moves.
* `Founded.harmony` — a fleet is in harmony before its first move.
* `arrives_exactly` — **what was sent and not lost is what was handed on and what still waits.**
-/

namespace RollCall.Fleet

open Node (Created)

variable {n : Nat} {crew : Crew n} {lost : Nat} {fleet : Fleet n} {sites : Fin n → Site} {codec : Codec}
  {size : Int}

lemma Harmony.queued (harmony : Harmony crew lost fleet) (a b : Fin n) :
    queued crew.site a b fleet
      = waiting crew.codec (crew.host a) ((crew.site b).inbox fleet.lan) := by
  rw [Fleet.queued, (harmony.fit b).codec, (harmony.fit a).host]

/-! ## Runs -/

/-- A part of a run leads from one fleet to another, in which so many datagrams were lost, and so many
more in this part.  What is carried in it from `a` to `b` goes to the end of what waits there, and what
`b` hands on is taken off the front. -/
structure Flow (crew : Crew n) (lost : Nat) (before after : Fleet n) (dropped : Nat)
    (carried surfaced : Fin n → Fin n → List Packet) : Prop where
  harmony : Harmony crew (lost + dropped) after
  queues : ∀ a b, a ≠ b → ∃ arrived, List.Forall₂ Packet.Same (carried a b) arrived ∧
    queued crew.site a b before ++ arrived = surfaced a b ++ queued crew.site a b after

lemma Flow.refl (harmony : Harmony crew lost fleet) :
    Flow crew lost fleet fleet 0 (fun _ _ => []) fun _ _ => [] :=
  ⟨harmony, fun _ _ _ => ⟨[], .nil, List.append_nil _⟩⟩

lemma Flow.trans {first second third : Fleet n} {dropped more : Nat}
    {carried carriedOn surfaced surfacedOn : Fin n → Fin n → List Packet}
    (here : Flow crew lost first second dropped carried surfaced)
    (there : Flow crew (lost + dropped) second third more carriedOn surfacedOn) :
    Flow crew lost first third (dropped + more) (fun a b => carried a b ++ carriedOn a b)
      fun a b => surfaced a b ++ surfacedOn a b := by
  refine ⟨?_, ?_⟩
  · rw [← Nat.add_assoc]
    exact there.harmony
  · intro a b different
    obtain ⟨arrived, same, queue⟩ := here.queues a b different
    obtain ⟨arrivedOn, sameOn, queueOn⟩ := there.queues a b different
    refine ⟨arrived ++ arrivedOn, List.rel_append same sameOn, ?_⟩
    calc queued crew.site a b first ++ (arrived ++ arrivedOn)
        = surfaced a b ++ (queued crew.site a b second ++ arrivedOn) := by
          rw [← List.append_assoc, queue, List.append_assoc]
      _ = surfaced a b ++ surfacedOn a b ++ queued crew.site a b third := by
          rw [queueOn, List.append_assoc]

lemma Harmony.perform_poll (harmony : Harmony crew lost fleet) (sound : crew.Sound) (who : Fin n)
    (time : Int) (few : lost + fleet.dropped crew.site (.poll who time) < Counter.halfRange) :
    Flow crew lost fleet (fleet.perform crew.site (.poll who time))
      (fleet.dropped crew.site (.poll who time)) (fun _ _ => [])
      fun a b => fleet.surfaced crew.site a b (.poll who time) := by
  obtain ⟨received, later, after, polled, polls⟩ := harmony.poll sound who time few
  have turn : fleet.polled crew.site who time = (.ok received, later, after) := polled
  have done : fleet.perform crew.site (.poll who time) = fleet.put who later after := by
    rw [Fleet.perform, turn]
    rfl
  have kept := polls.harmony
  refine ⟨by rw [dropped, done]; exact kept, ?_⟩
  intro a b different
  refine ⟨[], .nil, ?_⟩
  rw [done, harmony.queued, kept.queued, List.append_nil, polls.queues a b different, surfaced, turn,
    (harmony.fit a).host]
  by_cases here : who = b
  · rw [if_pos here, if_pos here.symm]
    rfl
  · rw [if_neg here, if_neg (Ne.symm here)]
    rfl

lemma Harmony.perform_send (harmony : Harmony crew lost fleet) (sound : crew.Sound) (who : Fin n)
    (destination : LogicalAddress) {packet : Packet} (application : packet.isAnnouncement = false)
    (survives : crew.codec.Survives packet) :
    Flow crew lost fleet (fleet.perform crew.site (.send who destination packet))
      (fleet.dropped crew.site (.send who destination packet))
      (fun a b => fleet.carried crew.site a b (.send who destination packet)) fun _ _ => [] := by
  obtain ⟨gone, ⟨loss, kept, arrives⟩, -⟩ :=
    harmony.send sound who destination (carriable_of_survives crew who application survives)
  have lossy : fleet.dropped crew.site (.send who destination packet) = gone.toNat := by
    show fleet.lan.loss - (fleet.sent crew.site who destination packet).2.2.loss = _
    rw [sent]
    omega
  rw [← lossy] at kept
  refine ⟨kept, ?_⟩
  intro a b different
  obtain ⟨arrived, same, queue⟩ := arrives a b different
  have carries : fleet.carried crew.site a b (.send who destination packet)
      = if a = who ∧ (destination = crew.host b ∨ destination.isBroadcast = true) ∧
          (fleet.sent crew.site who destination packet).1.toBool = true ∧ gone = false ∧
            packet.isAnnouncement = false then [packet] else [] := by
    have told : gone.toNat = 0 ↔ gone = false := by cases gone <;> simp
    rw [carried, lossy, (harmony.fit b).host]
    simp only [told, application, and_true, eq_comm]
  refine ⟨arrived, by rw [carries]; exact same, ?_⟩
  rw [harmony.queued]
  exact queue.symm.trans (kept.queued a b).symm

/-- Asking for a loss changes nothing else. -/
lemma perform_lose (sites : Fin n → Site) (fleet : Fleet n) (count : Int) :
    ∃ more, fleet.perform sites (.lose count)
      = { fleet with lan := { fleet.lan with loss := fleet.lan.loss + more } } := by
  rw [Fleet.perform, Lan.injectLoss]
  split
  · rename_i lan granted
    split at granted <;> cases granted
    exact ⟨_, rfl⟩
  · exact ⟨0, rfl⟩

lemma Harmony.perform_lose (harmony : Harmony crew lost fleet) (count : Int) :
    Flow crew lost fleet (fleet.perform crew.site (.lose count))
      (fleet.dropped crew.site (.lose count)) (fun _ _ => []) fun _ _ => [] := by
  obtain ⟨more, done⟩ := fleet.perform_lose crew.site count
  have none : fleet.dropped crew.site (.lose count) = 0 := by
    rw [dropped, done]
    exact Nat.sub_eq_zero_of_le (Nat.le_add_right ..)
  have alike : Lan.Alike fleet.lan { fleet.lan with loss := fleet.lan.loss + more } :=
    ⟨rfl, rfl, rfl⟩
  rw [none, done]
  refine ⟨⟨harmony.fit, ?_, harmony.inStep⟩, fun _ _ _ => ⟨[], .nil, List.append_nil _⟩⟩
  exact harmony.posted.alike alike harmony.posted.letters

/-- **A move** keeps harmony. -/
theorem Harmony.perform (harmony : Harmony crew lost fleet) (sound : crew.Sound) {move : Move n}
    (fine : move.Sound crew.codec)
    (few : lost + fleet.dropped crew.site move < Counter.halfRange) :
    Flow crew lost fleet (fleet.perform crew.site move) (fleet.dropped crew.site move)
      (fun a b => fleet.carried crew.site a b move) fun a b => fleet.surfaced crew.site a b move := by
  cases move with
  | poll who time => exact harmony.perform_poll sound who time few
  | send who destination packet => exact harmony.perform_send sound who destination fine.1 fine.2
  | lose count => exact harmony.perform_lose count

/-- **A run** keeps harmony. -/
theorem Harmony.run (sound : crew.Sound) (moves : List (Move n))
    (fine : ∀ move ∈ moves, move.Sound crew.codec) (harmony : Harmony crew lost fleet)
    (few : lost + droppedBy crew.site moves fleet < Counter.halfRange) :
    Flow crew lost fleet (run crew.site moves fleet) (droppedBy crew.site moves fleet)
      (fun a b => carriedBy crew.site a b moves fleet)
      fun a b => surfacedBy crew.site a b moves fleet := by
  induction moves generalizing lost fleet with
  | nil => exact .refl harmony
  | cons move moves ih =>
    have drops : droppedBy crew.site (move :: moves) fleet
        = fleet.dropped crew.site move
          + droppedBy crew.site moves (fleet.perform crew.site move) := List.sum_cons
    rw [drops] at few ⊢
    have first := harmony.perform sound (fine move List.mem_cons_self) (by omega)
    exact first.trans (ih (fun later among => fine later (List.mem_cons_of_mem move among))
      first.harmony (by omega))

/-! ## From the start -/

/-- What does not change of a fleet, read off its nodes. -/
def crewOf (sites : Fin n → Site) (codec : Codec) (size : Int) (fleet : Fleet n) : Crew n where
  site := sites
  host i := (fleet.nodes i).host
  session i := (fleet.nodes i).session
  codec := codec
  size := size.toNat

lemma Founded.sound (founded : Founded sites codec size fleet)
    (reachable : Reachable sites fleet.lan) : (crewOf sites codec size fleet).Sound where
  apart := founded.apart
  hosts := founded.hosts
  unicast i := by
    obtain ⟨config, drawn, -, -, made, -⟩ := founded.made i
    have created := Node.created made
    show (fleet.nodes i).host.isBroadcast = false
    rw [created.node]
    exact created.unicast
  elsewhere i := (reachable i).1
  nonneg i := by
    obtain ⟨config, drawn, nonneg, small, made, -⟩ := founded.made i
    show 0 ≤ (fleet.nodes i).session
    rw [(Node.created made).node]
    exact (Node.sessionOf_range config nonneg small).1
  small i := by
    obtain ⟨config, drawn, nonneg, small, made, -⟩ := founded.made i
    show (fleet.nodes i).session < counterRange
    rw [(Node.created made).node]
    exact (Node.sessionOf_range config nonneg small).2
  heartbeat := by
    have heartbeat := founded.heartbeat
    show _ ≤ size.toNat
    omega

/-- A new node has not heard anything yet. -/
lemma Founded.fit (founded : Founded sites codec size fleet) (i : Fin n) :
    Fit (crewOf sites codec size fleet) 0 i (fleet.nodes i) := by
  obtain ⟨config, drawn, -, -, made, dedupe, buffer, capacity⟩ := founded.made i
  have created := Node.created made
  obtain ⟨nobody, -⟩ := NetworkMap.of_create created.map
  obtain ⟨-, room⟩ := NetworkMap.settings_of_create created.map
  have node := created.node
  constructor
  case dedupe => rw [node]; exact dedupe
  case room => rw [Node.room, node]; exact congrArg Int.toNat buffer
  case host => rfl
  case session => rfl
  case codec => rw [node]; rfl
  case distinct => exact created.distinct
  case roomy =>
    show n ≤ _ + 1
    omega
  case known =>
    rw [nobody]
    exact fun _ held => absurd held List.not_mem_nil
  case sessions =>
    intro j
    rw [NetworkMap.announced, NetworkMap.find?, nobody]
    exact .inl rfl
  case smooth =>
    rw [node]
    exact ⟨rfl, rfl, rfl, rfl, fun _ => rfl⟩

/-- **A fleet is in harmony before its first move.** -/
theorem Founded.harmony (founded : Founded sites codec size fleet)
    (reachable : Reachable sites fleet.lan) :
    Harmony (crewOf sites codec size fleet) 0 fleet := by
  have clean := founded.setUp.clean
  have empty (i : Fin n) : (sites i).inbox fleet.lan = [] := clean.queueOf _ _
  refine ⟨founded.fit, ⟨clean.plan, founded.sited, fun i => (reachable i).2, ?_⟩, ?_⟩
  · intro b transit among
    have nothing : transit ∈ (sites b).inbox fleet.lan := among
    rw [empty] at nothing
    cases nothing
  · intro a b _ channel
    have queue : ((crewOf sites codec size fleet).site b).inbox fleet.lan = [] := empty b
    obtain ⟨config, drawn, -, -, made, -⟩ := founded.made a
    rw [queue, (Node.created made).nextNumber]
    refine InStep.start.expecting (.inl ?_)
    obtain ⟨config, drawn, -, -, made, -⟩ := founded.made b
    rw [NetworkMap.expectation, NetworkMap.find?,
      (NetworkMap.of_create (Node.created made).map).1]
    rfl

/-- **What was sent and not lost arrives, once and in order.**  The nodes of a fleet poll and send in
any order, and less than half the range of counters is lost.  Then what one node has handed on of
another one, followed by what still waits there, is what the other has sent to it, alone or among all,
without the network losing it.  No datagram is refused, and none is missed where none was lost.  Every
poll returns. -/
theorem arrives_exactly (founded : Founded sites codec size fleet)
    (reachable : Reachable sites fleet.lan) (moves : List (Move n))
    (sound : ∀ move ∈ moves, move.Sound codec) (few : droppedBy sites moves fleet < 2 ^ 31 - 1) :
    (∀ a b, a ≠ b → List.Forall₂ Packet.Same (carriedBy sites a b moves fleet)
      (surfacedBy sites a b moves fleet ++ queued sites a b (run sites moves fleet))) ∧
    (∀ b, ((run sites moves fleet).nodes b).traffic.duplicates = 0 ∧
      ((run sites moves fleet).nodes b).traffic.malformed = 0 ∧
      ((run sites moves fleet).nodes b).traffic.misaddressed = 0 ∧
      ((run sites moves fleet).nodes b).traffic.unmapped = 0 ∧
      (droppedBy sites moves fleet = 0 → ((run sites moves fleet).nodes b).traffic.missed = 0)) ∧
    ∀ b time, ∃ received, ((run sites moves fleet).polled sites b time).1 = .ok received := by
  have crew := founded.sound reachable
  have harmony := founded.harmony reachable
  have half : Counter.halfRange = 2 ^ 31 - 1 := by decide
  have flow : Flow (crewOf sites codec size fleet) 0 fleet (run sites moves fleet)
      (droppedBy sites moves fleet) (fun a b => carriedBy sites a b moves fleet)
      fun a b => surfacedBy sites a b moves fleet :=
    harmony.run crew moves sound (by rw [half, Nat.zero_add]; exact few)
  refine ⟨?_, ?_, fun b time => flow.harmony.poll_returns crew b time⟩
  · intro a b different
    obtain ⟨arrived, same, queue⟩ := flow.queues a b different
    have empty : queued sites a b fleet = [] := by
      rw [queued, Site.inbox, founded.setUp.clean.queueOf]
      rfl
    have whole : queued sites a b fleet ++ arrived
        = surfacedBy sites a b moves fleet ++ queued sites a b (run sites moves fleet) := queue
    rw [← whole, empty]
    exact same
  · intro b
    have smooth := (flow.harmony.fit b).smooth
    exact ⟨smooth.duplicates, smooth.malformed, smooth.misaddressed, smooth.unmapped, fun none =>
      smooth.missed (by rw [none])⟩

/-! ### Three nodes -/

/-- A number between zero and 255. -/
def note : PacketType where
  name := "Note"
  fields := ["number"]

def noteCodec : Codec := Codec.empty.enter
  { tag := 1
    type := note
    layout := ⟨⟨.big, false⟩, [⟨1, .integer .byte false⟩]⟩
    byteFields := [] }

def noteOf (number : Int) : Packet := ⟨note, [.int number]⟩

@[simp] lemma isAnnouncement_noteOf (number : Int) : (noteOf number).isAnnouncement = false := rfl

lemma noteCodec_built : noteCodec.Built :=
  .register .empty (show Codec.empty.register 1 "B" note = .ok noteCodec from rfl)

lemma survives_noteOf (number : Int) : noteCodec.Survives (noteOf number) := by
  refine noteCodec_built.consistent.survives rfl rfl ?_ rfl rfl
  intro pair among
  rw [List.mem_singleton.1 among]
  rfl

/-- The address of a host that stands in a row from the first address of a block. -/
def trioIp (block : IPv4.Block) (i : Fin 3) : IPv4 := IPv4.ofNumber (block.first.number + 1 + i)

def trioSites (block : IPv4.Block) (i : Fin 3) : Site := ⟨i, trioIp block i⟩

/-- A network of three hosts, each with the common port bound. -/
def trioLan (block : IPv4.Block) (broadcast : IPv4) : Lan where
  block := block
  broadcast := broadcast
  loopback := true
  hosts := List.ofFn fun i => ⟨trioIp block i, [{ port := udpPort }]⟩

def trioHost : Fin 3 → LogicalAddress
  | 0 => .flightController
  | 1 => .missionControl
  | 2 => .camera 0

/-- A new node on each of the three hosts. -/
def trio (block : IPv4.Block) (broadcast : IPv4) : Fleet 3 where
  lan := trioLan block broadcast
  nodes i :=
    { config := { host := trioHost i }
      codec := noteCodec
      session := 5
      map := { window := 500, capacity := 32 } }

variable {block : IPv4.Block} {broadcast : IPv4}

/-- The hosts are attached one after the other, and then the ports are bound. -/
lemma setUp_trioLan (subnet : String) (prefixLength : Int) (written : Option String)
    (created : Lan.create subnet prefixLength written true
      = .ok { block := block, broadcast := broadcast, loopback := true })
    (chosen : ∀ i : Fin 3, Lan.addressFor
      { block := block, broadcast := broadcast, loopback := true
        hosts := (List.ofFn fun j => (⟨trioIp block j, []⟩ : LanHost)).take i }
      (some (trioIp block i).text) = .ok (trioIp block i)) :
    (trioLan block broadcast).SetUp := by
  have attached (i : Fin 3) : Lan.attach
      { block := block, broadcast := broadcast, loopback := true
        hosts := (List.ofFn fun j => (⟨trioIp block j, []⟩ : LanHost)).take i }
      (some (trioIp block i).text) = .ok (trioIp block i,
        { block := block, broadcast := broadcast, loopback := true
          hosts := (List.ofFn fun j => (⟨trioIp block j, []⟩ : LanHost)).take (i + 1) }) := by
    rw [Lan.attach, chosen i]
    obtain rfl | rfl | rfl : i = 0 ∨ i = 1 ∨ i = 2 := by omega
    all_goals rfl
  have hosts := Lan.SetUp.attach (.attach (.attach (.create created) (attached 0)) (attached 1))
    (attached 2)
  have bound (i : Fin 3) {lan : Lan} : Lan.bind lan i ⟨trioIp block i, []⟩ none
      = .ok (⟨(trioIp block i).text, udpPort⟩,
          lan.updateHost i fun _ => ⟨trioIp block i, [{ port := udpPort }]⟩) := rfl
  exact .bind (.bind (.bind hosts rfl (bound 0)) rfl (bound 1)) rfl (bound 2)

lemma trio_founded (setUp : (trioLan block broadcast).SetUp) :
    Founded (trioSites block) noteCodec 256 (trio block broadcast) where
  setUp := setUp
  sited i := ⟨[udpPort], by match i with | 0 | 1 | 2 => rfl, List.mem_singleton_self _⟩
  apart i j same := Fin.ext same
  hosts := by
    show Function.Injective trioHost
    decide
  heartbeat := by decide
  made i := ⟨{ host := trioHost i }, 5, by decide, by decide, by match i with | 0 | 1 | 2 => rfl, rfl, rfl,
    by show (2 : Int) ≤ 32; decide⟩

def plain : IPv4.Block := .around (.ofNumber 0x0A000000) 24 (by decide)

/-- The block in which the first host has the address that stands for every host itself. -/
def home : IPv4.Block := .around .localhost 8 (by decide)

lemma setUp_plain : (trioLan plain plain.last).SetUp :=
  setUp_trioLan "10.0.0.0" 24 none (by decide +kernel) (by decide +kernel)

/-- All nodes announce themselves to each other. -/
def meeting : List (Move 3) :=
  [.poll 0 0, .poll 1 0, .poll 2 0, .poll 0 10, .poll 1 10, .poll 2 10]

/-- After the meeting, mission control sends five notes, of which the third is lost. -/
def notes : List (Move 3) :=
  meeting ++ [.send 1 .flightController (noteOf 1), .send 1 .broadcast (noteOf 2), .lose 1,
    .send 1 .flightController (noteOf 3), .send 1 .flightController (noteOf 4), .poll 0 20,
    .send 1 .flightController (noteOf 5)]

/-- After the meeting, mission control sends a note. -/
def errand : List (Move 3) :=
  meeting ++ [.send 1 .flightController (noteOf 1), .poll 0 20, .poll 2 20]

lemma sound_notes : ∀ move ∈ notes, Move.Sound noteCodec move := by
  simp [notes, meeting, Move.Sound, survives_noteOf]

lemma sound_errand : ∀ move ∈ errand, Move.Sound noteCodec move := by
  simp [errand, meeting, Move.Sound, survives_noteOf]

/-- The note that was lost does not arrive, and the last one still waits. -/
theorem arrives_exactly_notes :
    (carriedBy (trioSites plain) 1 0 notes (trio plain plain.last)).map Packet.values
        = [[.int 1], [.int 2], [.int 4], [.int 5]] ∧
      (queued (trioSites plain) 1 0
        (run (trioSites plain) notes (trio plain plain.last))).map Packet.values = [[.int 5]] ∧
      List.Forall₂ Packet.Same (carriedBy (trioSites plain) 1 0 notes (trio plain plain.last))
        (surfacedBy (trioSites plain) 1 0 notes (trio plain plain.last)
          ++ queued (trioSites plain) 1 0
            (run (trioSites plain) notes (trio plain plain.last))) := by
  have few : droppedBy (trioSites plain) notes (trio plain plain.last) = 1 := by decide +kernel
  obtain ⟨same, -, -⟩ := arrives_exactly (trio_founded setUp_plain) (by decide +kernel) notes
    sound_notes (by rw [few]; decide)
  exact ⟨by decide +kernel, by decide +kernel, same 1 0 (by decide)⟩

/-- Both kinds of addresses have to be left out.  What is sent to a node at the address that stands for
the sending host does not arrive there, and what is sent to a node at the broadcast address arrives at
others too. -/
theorem not_every_fleet_delivers :
    (Founded (trioSites home) noteCodec 256 (trio home home.last) ∧
      (∀ move ∈ errand, Move.Sound noteCodec move) ∧
      droppedBy (trioSites home) errand (trio home home.last) = 0 ∧
      ¬ List.Forall₂ Packet.Same (carriedBy (trioSites home) 1 0 errand (trio home home.last))
        (surfacedBy (trioSites home) 1 0 errand (trio home home.last)
          ++ queued (trioSites home) 1 0
            (run (trioSites home) errand (trio home home.last)))) ∧
    (Founded (trioSites plain) noteCodec 256 (trio plain (trioIp plain 0)) ∧
      (∀ move ∈ errand, Move.Sound noteCodec move) ∧
      droppedBy (trioSites plain) errand (trio plain (trioIp plain 0)) = 0 ∧
      ((run (trioSites plain) errand
        (trio plain (trioIp plain 0))).nodes 2).traffic.misaddressed = 1) := by
  have setUpHome : (trioLan home home.last).SetUp :=
    setUp_trioLan "127.0.0.0" 8 none (by decide +kernel) (by decide +kernel)
  have setUpNamed : (trioLan plain (trioIp plain 0)).SetUp :=
    setUp_trioLan "10.0.0.0" 24 (some "10.0.0.1") (by decide +kernel) (by decide +kernel)
  refine ⟨⟨trio_founded setUpHome, sound_errand, by decide +kernel, ?_⟩,
    trio_founded setUpNamed, sound_errand, by decide +kernel, by decide +kernel⟩
  intro same
  have sent : (carriedBy (trioSites home) 1 0 errand (trio home home.last)).length = 1 := by
    decide +kernel
  have arrived : (surfacedBy (trioSites home) 1 0 errand (trio home home.last)
      ++ queued (trioSites home) 1 0 (run (trioSites home) errand (trio home home.last))).length
        = 0 := by
    decide +kernel
  have length := same.length_eq
  omega

end RollCall.Fleet
