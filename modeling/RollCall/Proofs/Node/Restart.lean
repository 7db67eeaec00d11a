import RollCall.Proofs.Node.Hearing
import RollCall.Proofs.Node.Numbering
import RollCall.Proofs.Node.Sequence
import RollCall.Proofs.Node.Tracking

/-!
# Peers that restart

A peer that restarts counts from the start again, and a node would take its datagrams for old ones.
The session that the peer announces tells them apart: with the first announcement of the new session
the node forgets what it expected of the old one, before it checks the counter of the announcement
itself, and from then on it expects what follows the datagrams of the new session.

* `Arrival.letter?` — a packet of a peer for the node, with its envelope.
* `Arrival.of_letter`, `Arrival.of_no_letter` — what a letter does to what is known of its sender, and
  that nothing else disturbs it.
* `Expects.restart`, `Expects.letter`, `Expects.run` — the first letter of the new session, a later
  one, and all of them.
* `restart_recovers` — **after a restart nothing of the new session is taken for old.**
-/

namespace RollCall

-- Powers are the core library's, also where Mathlib has its own.
attribute [local instance (high)] instPowNat

/-- With another session nothing is expected of the peer, until the counter that announces it is
taken, whichever that is. -/
lemma Peer.hear_restart {peer : Peer} {old new : Int} (known : peer.session = some old)
    (restarted : new ≠ old) (channel : Bool) (number : Int) :
    Peer.hear true channel (Counter.wrap number) (some new) peer
      = (some 0, { peer with
          session := some new, fromCounter := none, broadcastCounter := none }.expect channel
            (some (Counter.wrap (number + 1)))) := by
  have noted : peer.noted (some new)
      = { peer with session := some new, fromCounter := none, broadcastCounter := none } := by
    show peer.noteSession new = _
    rw [Peer.noteSession, known]
    exact if_neg restarted.symm
  rw [Peer.hear_checked, noted, Counter.next_wrap]
  cases channel <;> rfl

namespace Node

/-! ## Letters -/

/-- The packet of a datagram of the peer for the node or for all, with its envelope. -/
def Arrival.letter? (a : Arrival) (peer : LogicalAddress) : Option (Envelope × Packet) :=
  a.envelope?.bind fun envelope =>
    if envelope.sender = peer ∧ a.node.isAddressed envelope.destination = true then
      a.packet?.map fun packet => (envelope, packet)
    else none

/-- The counter of a letter on a channel, that of broadcasts or that of datagrams to the node alone. -/
def Arrival.counterOn? (peer : LogicalAddress) (channel : Bool) (a : Arrival) : Option Int :=
  (a.letter? peer).bind fun letter =>
    if letter.1.destination.isBroadcast = channel then some letter.1.counter else none

section Letters

variable {a : Arrival} {peer : LogicalAddress} {envelope : Envelope} {packet : Packet}

lemma Arrival.letter?_eq_some_iff : a.letter? peer = some (envelope, packet) ↔
    a.envelope? = some envelope ∧ a.packet? = some packet ∧ envelope.sender = peer ∧
      a.node.isAddressed envelope.destination = true := by
  rw [letter?]
  constructor
  · intro is
    obtain ⟨read, here, is⟩ := Option.bind_eq_some_iff.1 is
    split at is
    · rename_i meant
      obtain ⟨body, packed, same⟩ := Option.map_eq_some_iff.1 is
      cases same
      exact ⟨here, packed, meant⟩
    · cases is
  · rintro ⟨here, packed, meant⟩
    rw [here, packed]
    exact if_pos meant

/-- The peer as it is when its datagram has been noted to have come. -/
def Arrival.known (a : Arrival) (peer : LogicalAddress) : Peer :=
  a.node.map.entered peer a.datagram.endpoint a.node.time

/-- What a letter of a peer that is held does: the peer is heard. -/
lemma Arrival.of_letter (held : a.node.map.contains peer = true) (foreign : peer ≠ a.node.host)
    (unicast : peer.isBroadcast = false) (letter : a.letter? peer = some (envelope, packet)) :
    a.outcome = outcomeOf peer packet (Peer.hear a.node.config.dedupe
        envelope.destination.isBroadcast envelope.counter packet.session? (a.known peer)).1 ∧
      a.after.map.find? peer = some (Peer.hear a.node.config.dedupe
        envelope.destination.isBroadcast envelope.counter packet.session? (a.known peer)).2 := by
  obtain ⟨read, packed, rfl, addressed⟩ := letter?_eq_some_iff.1 letter
  obtain ⟨decoded, body⟩ := decoded read packed
  have heard : a.node.heardFrom? a.datagram = some envelope.sender :=
    heardFrom?_eq_some_iff.2 ⟨a.datagram.sender?_of_ok decoded, foreign, unicast⟩
  obtain ⟨_, decoded', outcome, found, -⟩ := handle_heard heard fun absent => by
    rw [held] at absent
    cases absent
  cases decoded.symm.trans decoded'
  have hearing (known : Peer) : a.node.hearing a.datagram.data envelope known
      = (outcomeOf envelope.sender packet (Peer.hear a.node.config.dedupe
          envelope.destination.isBroadcast envelope.counter packet.session? known).1,
        (Peer.hear a.node.config.dedupe envelope.destination.isBroadcast envelope.counter
          packet.session? known).2) := by
    rw [Node.hearing, if_pos addressed, body]
  rw [hearing] at outcome found
  exact ⟨outcome, (found envelope.sender).trans (if_pos rfl)⟩

/-- Whatever is no letter of the peer does not disturb it, as long as it is kept. -/
lemma Arrival.of_no_letter (distinct : a.node.map.Distinct)
    (kept : a.node.map.contains peer = true → a.after.map.contains peer = true)
    (none : a.letter? peer = none) : NetworkMap.Undisturbed peer a.node.map a.after.map := by
  cases a.effect distinct kept with
  | undisturbed _ _ same => exact same
  | @heard envelope packet _ read packed heard =>
    have letter : a.letter? peer = some (envelope, packet) := by
      rw [channel?, read] at heard
      refine letter?_eq_some_iff.2 ⟨read, packed, ?_⟩
      by_contra other
      rw [Option.bind_some, if_neg other] at heard
      cases heard
    rw [none] at letter
    cases letter

end Letters

/-! ## Numbers of letters -/

/-- On each channel the letters carry the counters of numbers that go on from the last one taken: they
rise, and fewer than `2 ^ 31 - 1` are left out between two of them. -/
def Continues (peer : LogicalAddress) (last : Bool → Option Int) (heard : List Arrival) : Prop :=
  ∀ channel, ∃ numbers : List Int,
    heard.filterMap (Arrival.counterOn? peer channel) = numbers.map Counter.wrap ∧
      ((last channel).toList ++ numbers).IsChain fun m n => m < n ∧ n - m - 1 < 2 ^ (31 : Nat) - 1

section Numbers

variable {a : Arrival} {peer : LogicalAddress} {envelope : Envelope} {packet : Packet}
  {last : Bool → Option Int} {later : List Arrival}

lemma Continues.of_no_letter (continues : Continues peer last (a :: later))
    (none : a.letter? peer = none) : Continues peer last later := by
  intro channel
  obtain ⟨numbers, counters, chain⟩ := continues channel
  have silent : a.counterOn? peer channel = Option.none := by rw [Arrival.counterOn?, none]; rfl
  rw [List.filterMap_cons_none silent] at counters
  exact ⟨numbers, counters, chain⟩

/-- The first letter carries the counter of a number close above the last one of its channel, and the
others go on from there. -/
lemma Continues.of_letter (continues : Continues peer last (a :: later))
    (letter : a.letter? peer = some (envelope, packet)) :
    ∃ number, envelope.counter = Counter.wrap number ∧
      (∀ n ∈ last envelope.destination.isBroadcast,
        n < number ∧ number - n ≤ Counter.halfRange) ∧
      Continues peer (Function.update last envelope.destination.isBroadcast (some number)) later := by
  have half : (Counter.halfRange : Int) = 2 ^ 31 - 1 := by decide
  have counter (channel : Bool) : a.counterOn? peer channel
      = if envelope.destination.isBroadcast = channel then some envelope.counter else none := by
    rw [Arrival.counterOn?, letter]
    rfl
  obtain ⟨numbers, counters, chain⟩ := continues envelope.destination.isBroadcast
  rw [List.filterMap_cons_some ((counter _).trans (if_pos rfl))] at counters
  cases numbers with
  | nil => cases counters
  | cons number numbers =>
    obtain ⟨first, rest⟩ := List.cons.inj counters
    refine ⟨number, first, fun n held => ?_, fun channel => ?_⟩
    · rw [held] at chain
      have near := (List.isChain_cons_cons.1 chain).1
      omega
    · by_cases same : channel = envelope.destination.isBroadcast
      · rw [same, Function.update_self]
        exact ⟨numbers, rest, chain.right_of_append⟩
      · obtain ⟨others, counters, chain⟩ := continues channel
        rw [List.filterMap_cons_none ((counter _).trans (if_neg (Ne.symm same)))] at counters
        rw [Function.update_of_ne same]
        exact ⟨others, counters, chain⟩

end Numbers

/-! ## The first letter of a session -/

variable {a : Arrival} {peer : LogicalAddress} {envelope : Envelope} {packet : Packet}
  {old new number : Int} {last : Bool → Option Int}

/-- **The first letter of the new session** is taken, and what follows it is expected. -/
theorem Expects.restart (dedupe : a.node.config.dedupe = true) (distinct : a.node.map.Distinct)
    (foreign : peer ≠ a.node.host) (unicast : peer.isBroadcast = false)
    (recorded : a.node.map.announced peer = some old) (restarted : new ≠ old)
    (letter : a.letter? peer = some (envelope, packet))
    (announces : packet.session? = some new) (counter : envelope.counter = Counter.wrap number) :
    a.outcome = outcomeOf peer packet (some 0) ∧
      Expects peer new (Function.update (fun _ => none) envelope.destination.isBroadcast
        (some number)) a.after := by
  have held : a.node.map.contains peer = true := by
    rw [NetworkMap.announced] at recorded
    obtain ⟨entry, found, -⟩ := Option.bind_eq_some_iff.1 recorded
    rw [NetworkMap.contains, found]
    rfl
  obtain ⟨outcome, found⟩ := Arrival.of_letter held foreign unicast letter
  have session : (a.known peer).session = some old := by
    rw [Arrival.known, NetworkMap.session_entered, recorded]
  rw [dedupe, announces, counter, Peer.hear_restart session restarted] at outcome found
  refine ⟨outcome, dedupe, distinct_handle distinct _ _, fun channel => ?_, ?_⟩
  · rw [NetworkMap.expectation, found]
    show (Peer.expect _ _ _).expected channel = _
    by_cases same : channel = envelope.destination.isBroadcast
    · rw [same, Function.update_self, Peer.expected_expect_self]
      rfl
    · obtain rfl : channel = !envelope.destination.isBroadcast := Bool.eq_not_of_ne same
      rw [Function.update_of_ne same, Peer.expected_expect_other]
      cases envelope.destination.isBroadcast <;> rfl
  · rw [NetworkMap.announced, found]
    show ∀ known ∈ (Peer.expect _ _ _).session, known = new
    rw [Peer.session_expect]
    rintro known ⟨⟩
    rfl

/-! ## Later letters -/

/-- **A later letter** of the session is taken, if its number is above the last one taken on its
channel by no more than half the range of counters. -/
theorem Expects.letter (expects : Expects peer new last a.node)
    (held : a.node.map.contains peer = true) (foreign : peer ≠ a.node.host)
    (unicast : peer.isBroadcast = false) (letter : a.letter? peer = some (envelope, packet))
    (sessions : ∀ announced ∈ packet.session?, announced = new)
    (counter : envelope.counter = Counter.wrap number)
    (later : ∀ n ∈ last envelope.destination.isBroadcast,
      n < number ∧ number - n ≤ Counter.halfRange) :
    (∃ missed, a.outcome = outcomeOf peer packet (some missed)) ∧
      Expects peer new (Function.update last envelope.destination.isBroadcast (some number))
        a.after := by
  obtain ⟨outcome, found⟩ := Arrival.of_letter held foreign unicast letter
  obtain ⟨missed, heard⟩ := Peer.hear_later (expects.expected_entered _)
    (expects.same_session sessions) later
  rw [expects.dedupe, counter, Arrival.known, heard] at outcome found
  have distinct : a.after.map.Distinct := distinct_handle expects.distinct _ _
  have config : a.after.config = a.node.config := rfl
  exact ⟨⟨missed, outcome⟩, expects.taken config distinct sessions found⟩

/-! ## Courses -/

/-- What is asked of the arrivals of a course, as far as the peer is concerned: it is held throughout,
and announces one session. -/
structure Steady (peer : LogicalAddress) (session : Int) (heard : List Arrival) : Prop where
  held : ∀ a ∈ heard, a.node.map.contains peer = true ∧ a.after.map.contains peer = true
  sessions : ∀ a ∈ heard, ∀ letter ∈ a.letter? peer, ∀ announced ∈ letter.2.session?,
    announced = session

lemma Steady.of_cons {later : List Arrival} (steady : Steady peer new (a :: later)) :
    Steady peer new later :=
  ⟨fun b among => steady.held b (List.mem_cons_of_mem a among),
    fun b among => steady.sessions b (List.mem_cons_of_mem a among)⟩

variable {m n : Node} {heard : List Arrival}

/-- **All letters of the session** are taken. -/
theorem Expects.run (course : Course m heard n) (expects : Expects peer new last m)
    (present : m.map.contains peer = true) (foreign : peer ≠ m.host)
    (unicast : peer.isBroadcast = false) (steady : Steady peer new heard)
    (continues : Continues peer last heard) :
    ∀ a ∈ heard, ∀ letter ∈ a.letter? peer,
      ∃ missed, a.outcome = outcomeOf peer letter.2 (some missed) := by
  induction course generalizing last with
  | quiet _ => simp
  | @heard m n a later quiet course ih =>
    obtain ⟨held, kept⟩ := steady.held a List.mem_cons_self
    have here : Expects peer new last a.node :=
      expects.undisturbed quiet.config (quiet.distinct expects.distinct)
        (quiet.undisturbed expects.distinct fun _ => held)
    have elsewhere : peer ≠ a.node.host := by rwa [host, quiet.config]
    cases letter : a.letter? peer with
    | none =>
      have after : Expects peer new last a.after :=
        here.undisturbed rfl (distinct_handle here.distinct _ _)
          (Arrival.of_no_letter here.distinct (fun _ => kept) letter)
      refine List.forall_mem_cons.2 ⟨by simp [letter], ?_⟩
      exact ih after kept elsewhere steady.of_cons (continues.of_no_letter letter)
    | some packed =>
      obtain ⟨envelope, packet⟩ := packed
      obtain ⟨number, counter, above, rest⟩ := continues.of_letter letter
      obtain ⟨outcome, after⟩ := here.letter held elsewhere unicast letter
        (steady.sessions a List.mem_cons_self _ letter) counter above
      refine List.forall_mem_cons.2 ⟨?_, ih after kept elsewhere steady.of_cons rest⟩
      rintro _ same
      cases letter.symm.trans same
      exact outcome

/-- **All letters after a restart** are taken, whatever was expected before. -/
theorem run_restart (course : Course m heard n) (dedupe : m.config.dedupe = true)
    (distinct : m.map.Distinct) (foreign : peer ≠ m.host) (unicast : peer.isBroadcast = false)
    (recorded : m.map.announced peer = some old) (restarted : new ≠ old)
    (steady : Steady peer new heard) (continues : Continues peer (fun _ => none) heard)
    (first : ∀ letter ∈ heard.findSome? (Arrival.letter? · peer), letter.2.session? = some new) :
    ∀ a ∈ heard, ∀ letter ∈ a.letter? peer,
      ∃ missed, a.outcome = outcomeOf peer letter.2 (some missed) := by
  induction course with
  | quiet _ => simp
  | @heard m n a later quiet course ih =>
    obtain ⟨held, kept⟩ := steady.held a List.mem_cons_self
    have same := quiet.undisturbed distinct fun _ => held
    have here : a.node.map.Distinct := quiet.distinct distinct
    have checks : a.node.config.dedupe = true := by rwa [quiet.config]
    have elsewhere : peer ≠ a.node.host := by rwa [host, quiet.config]
    have remembered : a.node.map.announced peer = some old := by rwa [same.announced]
    have after : a.after.map.Distinct := distinct_handle here _ _
    cases letter : a.letter? peer with
    | none =>
      have undisturbed := Arrival.of_no_letter here (fun _ => kept) letter
      rw [List.findSome?_cons_of_isNone (by rw [letter]; rfl)] at first
      refine List.forall_mem_cons.2 ⟨by simp [letter], ?_⟩
      exact ih checks after elsewhere (undisturbed.announced.trans remembered) steady.of_cons
        (continues.of_no_letter letter) first
    | some packed =>
      obtain ⟨envelope, packet⟩ := packed
      obtain ⟨number, counter, -, rest⟩ := continues.of_letter letter
      rw [List.findSome?_cons_of_isSome (by rw [letter]; rfl)] at first
      have announces := first _ letter
      obtain ⟨outcome, expects⟩ := Expects.restart checks here elsewhere unicast remembered
        restarted letter announces counter
      refine List.forall_mem_cons.2 ⟨?_, ?_⟩
      · rintro _ same
        cases letter.symm.trans same
        exact ⟨0, outcome⟩
      · exact expects.run course kept elsewhere unicast steady.of_cons rest

/-! ## Runs -/

/-- No peer that is held is the node itself or everyone. -/
lemma Course.foreign (course : Course m heard n) (distinct : m.map.Distinct)
    (start : ∀ entry ∈ m.map.peers, entry.logical.isBroadcast = false ∧ entry.logical ≠ m.host) :
    ∀ entry ∈ n.map.peers, entry.logical.isBroadcast = false ∧ entry.logical ≠ n.host := by
  refine (course.keeps (fun n => n.map.Distinct ∧
    ∀ entry ∈ n.map.peers, entry.logical.isBroadcast = false ∧ entry.logical ≠ n.host)
    (fun {m n} quiet here => ⟨quiet.distinct here.1, fun entry held => ?_⟩)
    (fun {m} d here => ⟨distinct_handle here.1 _ _, fun entry held => ?_⟩) ⟨distinct, start⟩).1.2
  · have found := (quiet.distinct here.1).find?_eq_some_iff.2 ⟨held, rfl⟩
    obtain ⟨known, before, -⟩ := quiet.found here.1 found
    obtain ⟨was, named⟩ := here.1.find?_eq_some_iff.1 before
    rw [← named, host, quiet.config]
    exact here.2 known was
  · rcases mem_handle here.2 d held with ⟨before, was, place, -⟩ | ⟨-, -, unicast, other⟩
    · rw [place.logical]
      exact here.2 before was
    · exact ⟨unicast, other⟩

variable {σ : Type} {t : Transport σ}

/-- **After a restart nothing is taken for old.**  A new node that checks counters makes any run, after
which it holds a peer that has announced a session.  The peer restarts with another session, and the
run goes on, with any traffic of others; the peer is not forgotten, its first letter announces the new
session, and on each channel its letters carry the counters of numbers that rise and leave out fewer
than `2 ^ 31 - 1` between two of them.  Then

* every letter of the peer is noted, if it is an announcement, and handed on otherwise;
* no datagram changes the number of the next datagram to the peer, and all datagrams that were handed
  over to it, before the restart and after it, are numbered from zero on without a gap. -/
theorem restart_recovers {config : NodeConfig} {codec : Codec} {drawn : Int} {node : Node}
    (made : create config codec drawn = .ok node) (dedupe : config.dedupe = true)
    (before calls : List (Call σ)) (s : σ) {reached : Node × σ} (so : run t before node s = reached)
    {heard : List Arrival} (arrived : arrivals t calls reached.1 reached.2 = heard)
    {peer : LogicalAddress} {old new : Int} (recorded : reached.1.map.announced peer = some old)
    (restarted : new ≠ old) (steady : Steady peer new heard)
    (first : ∀ letter ∈ heard.findSome? (Arrival.letter? · peer), letter.2.session? = some new)
    (continues : Continues peer (fun _ => none) heard) :
    (∀ a ∈ heard, ∀ letter ∈ a.letter? peer, ∃ missed,
      a.outcome = if letter.2.isAnnouncement then .announced missed
        else .surfaced ⟨peer, letter.2⟩ missed) ∧
    (∀ a ∈ heard, a.after.map.nextCounter peer = a.node.map.nextCounter peer) ∧
    (t.HasBroadcast → countersTo peer (runNoting t (before ++ calls) node s).2.2
      = (List.range (countersTo peer (runNoting t (before ++ calls) node s).2.2).length).map
          fun k : Nat => Counter.wrap k) := by
  have new' := created made
  have past := run_course t before node s
  have course := run_course t calls reached.1 reached.2
  rw [so] at past
  rw [arrived] at course
  obtain ⟨settings, -, -⟩ := past.settings
  have distinct := (past.distinct new'.distinct).1
  have nobody := (NetworkMap.of_create new'.map).1
  have others := past.foreign new'.distinct (by simp [nobody])
  obtain ⟨entry, found, -⟩ := Option.bind_eq_some_iff.1 recorded
  obtain ⟨unicast, foreign⟩ := others entry (NetworkMap.mem_of_find? found)
  rw [NetworkMap.logical_of_find? found] at unicast foreign
  have checks : reached.1.config.dedupe = true := by
    rw [settings, new'.node]
    exact dedupe
  refine ⟨fun a among letter is => ?_, fun a among => ?_, fun has => ?_⟩
  · exact run_restart course checks distinct foreign unicast recorded restarted steady continues
      first a among letter is
  · exact nextCounter_handle ((course.distinct distinct).2 a among) _ _ _
  · exact ((Numbered.of_created new').run has (before ++ calls)).counters peer

/-! ### Mission control restarts -/

/-- A datagram of mission control after its restart, with an announcement in it. -/
def reborn (destination : LogicalAddress) (counter : Int) : Delivery where
  endpoint := ⟨"10.0.0.2", udpPort⟩
  data := Envelope.encode ⟨.missionControl, destination, counter, .shared⟩ ++ [0, 0, 0, 0, 8]

/-- What the node has heard of mission control before: broadcasts, the last of them with number 41, and
a datagram for it alone with number 17. -/
def firstLife : List Delivery :=
  [heartbeatOf 40, heartbeatOf 41,
    { reborn .flightController 17 with
      data := Envelope.encode ⟨.missionControl, .flightController, 17, .shared⟩ ++ [0, 0, 0, 0, 7] }]

/-- What it hears afterwards: two broadcasts and a datagram for it alone, all with low numbers. -/
def secondLife : List (Call (List Delivery)) :=
  [.outside fun _ => [reborn .broadcast 0, reborn .flightController 0, reborn .broadcast 3], .poll 10]

/-- The node when mission control restarts. -/
def bereaved : Node × List Delivery := run .queue [.poll 0] listener firstLife

/-- The arrivals after the restart. -/
def heardAgain : List Arrival := arrivals .queue secondLife bereaved.1 bereaved.2

lemma continues_heardAgain : Continues .missionControl (fun _ => none) heardAgain := by
  intro channel
  cases channel with
  | true => exact ⟨[0, 3], by decide +kernel, by decide⟩
  | false => exact ⟨[0], by decide +kernel, by decide⟩

/-- All three are taken, though their numbers lie below those that were expected. -/
theorem restart_recovers_heardAgain :
    (bereaved.1.map.expectation .missionControl true = some 42 ∧
      bereaved.1.map.expectation .missionControl false = some 18) ∧
    (∀ a ∈ heardAgain, ∀ letter ∈ a.letter? .missionControl, ∃ missed,
      a.outcome = if letter.2.isAnnouncement then .announced missed
        else .surfaced ⟨.missionControl, letter.2⟩ missed) ∧
    heardAgain.map (fun a => (a.letter? .missionControl).isSome) = [true, true, true] := by
  have steady : Steady .missionControl 8 heardAgain := ⟨by decide +kernel, by decide +kernel⟩
  have first : ∀ letter ∈ heardAgain.findSome? (Arrival.letter? · .missionControl),
      letter.2.session? = some 8 := by
    decide +kernel
  obtain ⟨taken, -⟩ := restart_recovers listener_made rfl [.poll 0] secondLife firstLife rfl rfl
    (show bereaved.1.map.announced .missionControl = some 7 by decide +kernel) (by decide) steady
    first continues_heardAgain
  exact ⟨by decide +kernel, taken, by decide +kernel⟩

/-! ### A body that cannot be read -/

/-- After the restart, a body that the node cannot read comes between two broadcasts. -/
def garbled : List (Call (List Delivery)) :=
  [.outside fun _ => [reborn .broadcast 0,
    { reborn .broadcast 0 with
      data := Envelope.encode ⟨.missionControl, .broadcast, 2 ^ 31 - 1, .application⟩ ++ [238] },
    reborn .broadcast (2 ^ 31)], .poll 10]

/-- The arrivals then. -/
def heardGarbled : List Arrival := arrivals .queue garbled bereaved.1 bereaved.2

/-- Of a body that the node cannot read it does not take the number.  So where the datagrams that
arrive leave out fewer than `2 ^ 31 - 1` numbers, the letters may leave out more, and one of them is
taken for old. -/
theorem not_every_letter_recovers :
    bereaved.1.map.announced .missionControl = some 7 ∧ Steady .missionControl 8 heardGarbled ∧
    (∀ letter ∈ heardGarbled.findSome? (Arrival.letter? · .missionControl),
      letter.1.destination.isBroadcast = true ∧ letter.2.session? = some 8) ∧
    heardGarbled.map (fun a => a.envelope?.map fun envelope =>
        (envelope.sender, envelope.destination, envelope.counter))
      = [(0 : Int), 2 ^ 31 - 1, 2 ^ 31].map (fun n =>
          some (.missionControl, .broadcast, Counter.wrap n)) ∧
    [(0 : Int), 2 ^ 31 - 1, 2 ^ 31].IsChain (fun m n => m < n ∧ n - m - 1 < 2 ^ (31 : Nat) - 1) ∧
    ¬ ∀ a ∈ heardGarbled, ∀ letter ∈ a.letter? .missionControl, ∃ missed,
      a.outcome = if letter.2.isAnnouncement then .announced missed
        else .surfaced ⟨.missionControl, letter.2⟩ missed := by
  refine ⟨by decide +kernel, ⟨by decide +kernel, by decide +kernel⟩, by decide +kernel,
    by decide +kernel, by decide, fun all => ?_⟩
  obtain ⟨a, among, sent, old⟩ : ∃ a ∈ heardGarbled,
      (a.letter? .missionControl).isSome = true ∧ a.outcome.isDuplicate = true := by
    decide +kernel
  obtain ⟨letter, is⟩ := Option.isSome_iff_exists.1 sent
  obtain ⟨missed, outcome⟩ := all a among letter is
  rw [outcome] at old
  split at old <;> cases old

end Node

end RollCall
