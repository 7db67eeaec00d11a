import RollCall.Proofs.Fleet.Delivery
import RollCall.Proofs.Fleet.Vigil

/-!
# A beacon is kept alive

Each poll of the watcher removes what is stale before it takes in what waits, so what it heard of the
beacon last has to be young enough at every poll, even if the next announcement waits already.  With a
schedule tight enough it is.  Of the announcement that the watcher does not know of yet one of two
things holds: it is not older than what was heard last, or it waits in the inbox.  In the first case the
beacon's next announcement, and the poll that hears it, come before the window is over; in the second
the next poll hears it.

* `Tight` — the schedule.
* `Keeps` — the invariant: the beacon is held, and will be young enough at the next poll.
* `Keeps.listen`, `Keeps.poll`, `Keeps.send`, `Keeps.perform` — a step keeps it.
* `Keeps.run` — and so does a row of steps.
* `beacon_kept` — **once the watcher has heard an announcement of the beacon it holds on to it.**
* `beacon_lost_watching` — with a schedule looser by one moment it does not.
* `beacon_forgotten_alarm` — nor if it takes something else of the beacon for an announcement.
-/

namespace RollCall

/-- An arrival is an announcement of the peer. -/
def Node.Arrival.Announces (a : Node.Arrival) (peer : LogicalAddress) : Prop :=
  a.datagram.sender? = some peer ∧ a.packet?.map Packet.isAnnouncement = some true

instance (a : Node.Arrival) (peer : LogicalAddress) : Decidable (a.Announces peer) :=
  inferInstanceAs (Decidable (_ ∧ _))

namespace Fleet

open Node (Arrival Held Holds Retains Unmoved statesOf)

variable {n : Nat}

namespace Vigil

variable {vigil : Vigil n} {start fleet : Fleet n} {clock : Clock} {since time : Int} {lan : Lan}
  {step : Step n} {node : Node}

/-- A node that has heard the beacon at a time or later, within its window. -/
abbrev Holding (vigil : Vigil n) (start : Fleet n) (since : Int) (node : Node) : Prop :=
  Held (start.nodes vigil.beacon).host (vigil.sites vigil.beacon).address
    (start.nodes vigil.beacon).session since node

/-- States that follow one another after a node: each holds on to the beacon, and retains what the one
before it expected. -/
structure Retained (vigil : Vigil n) (start : Fleet n) (node : Node) (states : List Node) : Prop where
  held : ∀ state ∈ states, ∃ since, vigil.Holding start since state
  chain : (node :: states).IsChain (Retains (start.nodes vigil.beacon).host)

lemma Retained.single {after : Node} (held : vigil.Holding start since after)
    (unmoved : Unmoved (start.nodes vigil.beacon).host node after) :
    vigil.Retained start node [after] where
  held state among := by
    rw [List.mem_singleton.1 among]
    exact ⟨since, held⟩
  chain := List.isChain_pair.2 unmoved.retains

/-- A drain that holds on to the beacon, after a change of nothing that is expected of it. -/
lemma Retained.of_holds {m after : Node} {heard : List Arrival}
    (holds : Holds (start.nodes vigil.beacon).host (vigil.sites vigil.beacon).address
      (start.nodes vigil.beacon).session since m heard after)
    (unmoved : Unmoved (start.nodes vigil.beacon).host node m) :
    vigil.Retained start node (statesOf heard ++ [after]) where
  held state among := by
    rcases List.mem_append.1 among with between | final
    · exact ⟨since, holds.states state between⟩
    · rw [List.mem_singleton.1 final]
      exact ⟨since, holds.final⟩
  chain := holds.retained.imp_head fun retains => unmoved.retains_after retains

lemma Retained.append {first second : List Node} {last : Node}
    (before : vigil.Retained start node (first ++ [last]))
    (later : vigil.Retained start last second) :
    vigil.Retained start node (first ++ [last] ++ second) where
  held state among := (List.mem_append.1 among).elim (before.held state) (later.held state)
  chain := @List.IsChain.append_overlap _ _ (node :: first) [last] second before.chain later.chain
    (List.cons_ne_nil last [])

/-- The schedule: the beacon's announcements come, and the polls of the two follow, before the window of
the watcher is over. -/
def Tight (vigil : Vigil n) (start : Fleet n) : Prop :=
  (start.nodes vigil.beacon).config.announceInterval + vigil.beaconGap + vigil.watcherGap
    ≤ (start.nodes vigil.watcher).config.stalenessWindow + 1

instance : Decidable (vigil.Tight start) := inferInstanceAs (Decidable (_ ≤ _))

/-- The watcher holds on to the beacon, and will have heard it within its window at its next poll; and
what it has not heard of the beacon yet waits for it. -/
structure Keeps (vigil : Vigil n) (start : Fleet n) (clock : Clock) (since : Int) (fleet : Fleet n) :
    Prop where
  held : vigil.Holding start since (fleet.nodes vigil.watcher)
  polled : clock.watcher.isSome = true
  soon : (fleet.nodes vigil.watcher).time + vigil.watcherGap
    ≤ since + (start.nodes vigil.watcher).config.stalenessWindow
  up : clock.beacon.isSome = true
  announced : ∀ last ∈ (fleet.nodes vigil.beacon).lastAnnounce, last ≤ since ∨ vigil.Waits start fleet.lan

/-- What a step keeps: the invariant, with a later hearing if there was one, and the beacon in every
state of the watcher on the way. -/
def Carried (vigil : Vigil n) (start : Fleet n) (clock : Clock) (fleet : Fleet n) (step : Step n) :
    Prop :=
  (∃ since, vigil.Keeps start (vigil.tick clock step) since (vigil.perform fleet step)) ∧
    vigil.Retained start (fleet.nodes vigil.watcher) (vigil.states fleet step)

namespace Watches

variable (watches : vigil.Watches start clock fleet) (inTime : vigil.InTime clock time)

include watches inTime

/-- The beacon's last announcement is not in the future. -/
lemma last_le {last : Int} (noted : (fleet.nodes vigil.beacon).lastAnnounce = some last) :
    last ≤ time :=
  ((watches.beats.noted last noted).trans watches.beats.past).trans inTime.forward

/-- The watcher's next poll comes before the window since the beacon's last announcement is over. -/
lemma coming (tight : vigil.Tight start) (up : clock.beacon.isSome = true) :
    ∃ last, (fleet.nodes vigil.beacon).lastAnnounce = some last ∧
      time + vigil.watcherGap ≤ last + (start.nodes vigil.watcher).config.stalenessWindow := by
  obtain ⟨beat, polled⟩ := Option.isSome_iff_exists.1 up
  obtain ⟨-, last, noted, young⟩ := watches.beats.recent beat polled
  have due := inTime.beacon beat polled
  rw [(watches.same vigil.beacon).1] at young
  rw [Tight] at tight
  exact ⟨last, noted, by omega⟩

section Polled

variable {polled : Prop} {ready : Node} {rest : Lan}
  (intake : vigil.Intake start polled fleet time ready rest)

include intake

/-- The watcher takes in what waits at the time of the poll. -/
lemma time_purge : ready.purge.time = time :=
  intake.clock.trans (max_eq_right (watches.listens.past.trans inTime.forward))

/-- A watcher that holds on to the beacon after a poll, and knows of its last announcement, has heard it
within its window at its next poll. -/
lemma keeps (sound : vigil.Sound start) (tight : vigil.Tight start) (up : clock.beacon.isSome = true)
    (held : vigil.Holding start since
      ((vigil.perform fleet ⟨time, .poll vigil.watcher⟩).nodes vigil.watcher))
    (known : ∀ last, (fleet.nodes vigil.beacon).lastAnnounce = some last → last ≤ since) :
    vigil.Keeps start (vigil.tick clock ⟨time, .poll vigil.watcher⟩) since
      (vigil.perform fleet ⟨time, .poll vigil.watcher⟩) := by
  obtain ⟨last, noted, coming⟩ := watches.coming inTime tight up
  have heard := known last noted
  have ended := intake.handles.settings.time.trans (watches.time_purge inTime intake)
  have same : (vigil.perform fleet ⟨time, .poll vigil.watcher⟩).nodes vigil.beacon
      = fleet.nodes vigil.beacon := nodes_put_of_ne fleet sound.different _ _
  refine ⟨held, Option.isSome_of_eq_some (vigil.tick_watcher clock time), ?_, vigil.up_tick up _,
    fun other announced => .inl (known other ?_)⟩
  · rw [ended]
    omega
  · rw [← same]
    exact announced

end Polled

end Watches

namespace Keeps

/-- When the watcher polls, the beacon is young enough not to be removed. -/
lemma ready (keeps : vigil.Keeps start clock since fleet)
    (watches : vigil.Watches start clock fleet) (inTime : vigil.InTime clock time) {polled : Prop}
    {ready : Node} {rest : Lan} (intake : vigil.Intake start polled fleet time ready rest) :
    vigil.Holding start since ready.purge ∧
      Unmoved (start.nodes vigil.beacon).host (fleet.nodes vigil.watcher) ready.purge := by
  obtain ⟨last, polledThen⟩ := Option.isSome_iff_exists.1 keeps.polled
  have moment := watches.listens.recent last polledThen
  have due := inTime.watcher last polledThen
  have soon := keeps.soon
  have forward := watches.listens.past.trans inTime.forward
  have here : ready.time = time := watches.time_purge inTime intake
  have held : vigil.Holding start since ready := by
    refine keeps.held.later intake.map (here ▸ forward) ?_
    rw [here, watches.listens.window]
    omega
  obtain ⟨purged, unmoved⟩ := held.purge
  exact ⟨purged, Unmoved.trans (.of_map_eq intake.map) unmoved⟩

/-- **A poll of the watcher.**  Either it hears the beacon, or it has heard of the beacon's last
announcement before. -/
theorem listen (keeps : vigil.Keeps start clock since fleet) (sound : vigil.Sound start)
    (tight : vigil.Tight start) (watches : vigil.Watches start clock fleet)
    (inTime : vigil.InTime clock time)
    (emptied : (vigil.sites vigil.watcher).inbox
      (vigil.perform fleet ⟨time, .poll vigil.watcher⟩).lan = []) :
    vigil.Carried start clock fleet ⟨time, .poll vigil.watcher⟩ := by
  obtain ⟨ready, rest, intake⟩ := watches.intake sound time
  obtain ⟨purged, unmoved⟩ := keeps.ready watches inTime intake
  obtain ⟨holds, told⟩ := intake.handles.held purged intake.genuine intake.foreign sound.unicast
  refine ⟨?_, .of_holds holds unmoved⟩
  -- where nothing of the beacon arrives, nothing has waited, and so its last announcement is known
  by_cases heard : ∃ a ∈ vigil.arrivals fleet ⟨time, .poll vigil.watcher⟩,
      a.datagram.sender? = some (start.nodes vigil.beacon).host
  · have now := told heard
    rw [watches.time_purge inTime intake] at now
    exact ⟨time, watches.keeps inTime intake sound tight keeps.up now
      fun last noted => watches.last_le inTime noted⟩
  · exact ⟨since, watches.keeps inTime intake sound tight keeps.up holds.final fun last noted =>
      (keeps.announced last noted).resolve_right fun waits => heard (intake.taken waits emptied)⟩

/-- What the beacon has announced after a poll of it is what it had before, or waits for the watcher. -/
lemma announced_poll (keeps : vigil.Keeps start clock since fleet) (sound : vigil.Sound start)
    (watches : vigil.Watches start clock fleet) (time : Int) :
    ∀ last ∈ (Node.poll (vigil.sites vigil.beacon).link (fleet.nodes vigil.beacon) time
        fleet.lan).2.1.lastAnnounce,
      last ≤ since ∨ vigil.Waits start (Node.poll (vigil.sites vigil.beacon).link
        (fleet.nodes vigil.beacon) time fleet.lan).2.2 := by
  have speaks := watches.speaks sound (.inl rfl)
  have apart := sound.apart vigil.beacon sound.different
  obtain ⟨ready, rest, made⟩ := speaks.ready time
  rw [made.poll.2]
  intro last announced
  cases due : ((fleet.nodes vigil.beacon).advance time).isAnnouncementDue with
  | false =>
    rw [(made.silent due).1] at announced
    exact (keeps.announced last announced).imp_right fun waits => waits.poll apart _ _
  | true =>
    refine .inr ?_
    have waits : vigil.Waits start rest := by
      have inbox := speaks.inbox (watches.clear.sited vigil.watcher (.inr rfl)) apart.symm
      rw [(made.said due).2]
      refine ⟨heartbeatOf (vigil.sites vigil.beacon) (fleet.nodes vigil.beacon) fleet.lan, ?_, ?_, ?_⟩
      · rw [inbox]
        exact List.mem_append_right _ List.mem_cons_self
      · exact (Speaks.length_announcementOf _).trans_le (sound.speaks vigil.watcher (.inr rfl)).2.2
      · rw [← watches.same.host]
        exact Delivery.sender?_of_encode speaks.encode _
    rw [(poll_eq_drain made.returns).1]
    refine drain_keeps_lan _ (fun lan waits => ?_) _ waits
    exact waits.perform (fun (same : Lan.Call.receive _ _ = _) => apart (Lan.Call.receive.inj same).1)

/-- A poll of a node other than the watcher. -/
lemma poll (keeps : vigil.Keeps start clock since fleet) (sound : vigil.Sound start)
    (watches : vigil.Watches start clock fleet) {who : Fin n} (other : who ≠ vigil.watcher)
    (time : Int) :
    vigil.Carried start clock fleet ⟨time, .poll who⟩ := by
  have same : (vigil.perform fleet ⟨time, .poll who⟩).nodes vigil.watcher = fleet.nodes vigil.watcher :=
    nodes_put_of_ne fleet other.symm _ _
  have nothing : vigil.arrivals fleet ⟨time, .poll who⟩ = [] := if_neg other
  refine ⟨⟨since, ?_, ?_, ?_, vigil.up_tick keeps.up _, ?_⟩, ?_⟩
  · rw [same]
    exact keeps.held
  · show (if who = vigil.watcher then some time else clock.watcher).isSome = true
    rw [if_neg other]
    exact keeps.polled
  · rw [same]
    exact keeps.soon
  · show ∀ last ∈ ((fleet.put who _ _).nodes vigil.beacon).lastAnnounce, _
    by_cases here : who = vigil.beacon
    · subst here
      rw [nodes_put_self]
      exact keeps.announced_poll sound watches time
    · rw [nodes_put_of_ne fleet (Ne.symm here)]
      exact fun last announced => (keeps.announced last announced).imp_right fun waits =>
        waits.poll (sound.apart who other) _ _
  · rw [states, nothing, same]
    exact .single keeps.held fun _ => rfl

/-- A send of any node. -/
lemma send (keeps : vigil.Keeps start clock since fleet) (who : Fin n)
    (destination : LogicalAddress) (packet : Packet) (time : Int) :
    vigil.Carried start clock fleet ⟨time, .send who destination packet⟩ := by
  have idle := Node.Idle.send (vigil.sites who).link (fleet.nodes who) destination packet fleet.lan
  have noted := Node.send_keeps (fun node => node.lastAnnounce) (fun _ _ => rfl) (fun _ _ => rfl)
    (vigil.sites who).link (fleet.nodes who) destination packet fleet.lan
  have final : vigil.Holding start since
      ((vigil.perform fleet ⟨time, .send who destination packet⟩).nodes vigil.watcher) ∧
      Unmoved (start.nodes vigil.beacon).host (fleet.nodes vigil.watcher)
        ((vigil.perform fleet ⟨time, .send who destination packet⟩).nodes vigil.watcher) := by
    show vigil.Holding start since ((fleet.put who _ _).nodes vigil.watcher) ∧
      Unmoved (start.nodes vigil.beacon).host _ ((fleet.put who _ _).nodes vigil.watcher)
    by_cases here : who = vigil.watcher
    · subst here
      rw [nodes_put_self]
      exact keeps.held.send _ _ _ _
    · rw [nodes_put_of_ne fleet (Ne.symm here)]
      exact ⟨keeps.held, fun _ => rfl⟩
  refine ⟨⟨since, final.1, keeps.polled, ?_, keeps.up, ?_⟩, .single final.1 final.2⟩
  · have same := forall_nodes_put (fun i node => node.time = (fleet.nodes i).time) idle.time
      (fun _ _ => rfl) (Node.send (vigil.sites who).link (fleet.nodes who) destination packet
        fleet.lan).2.2 vigil.watcher
    exact (Int.add_le_add_right same.le _).trans keeps.soon
  · have same := forall_nodes_put (fun i node => node.lastAnnounce = (fleet.nodes i).lastAnnounce) noted
      (fun _ _ => rfl) (Node.send (vigil.sites who).link (fleet.nodes who) destination packet
        fleet.lan).2.2 vigil.beacon
    intro last announced
    refine (keeps.announced last (same ▸ announced)).imp_right fun waits => ?_
    refine send_keeps_lan _ waits fun endpoint counter data _ => ?_
    exact waits.perform (fun (same : Lan.Call.send _ _ = _) => by cases same)

/-- **An orderly step keeps the beacon alive.** -/
theorem perform (keeps : vigil.Keeps start clock since fleet) (sound : vigil.Sound start)
    (tight : vigil.Tight start) (watches : vigil.Watches start clock fleet)
    (inTime : vigil.InTime clock step.time) (allowed : vigil.Allows fleet step) :
    vigil.Carried start clock fleet step := by
  obtain ⟨time, act⟩ := step
  cases act with
  | poll who =>
    by_cases here : who = vigil.watcher
    · subst here
      exact keeps.listen sound tight watches inTime (allowed rfl)
    · exact keeps.poll sound watches here time
  | send who destination packet => exact keeps.send who destination packet time
  | call call =>
    refine ⟨⟨since, keeps.held, keeps.polled, keeps.soon, keeps.up, fun last announced => ?_⟩,
      .single keeps.held fun _ => rfl⟩
    exact (keeps.announced last announced).imp_right fun waits => waits.perform allowed.2.1

/-- **And so does an orderly row of steps.** -/
theorem run (keeps : vigil.Keeps start clock since fleet) (sound : vigil.Sound start)
    (tight : vigil.Tight start) (watches : vigil.Watches start clock fleet) {steps : List (Step n)}
    (orderly : vigil.Orderly clock fleet steps) (legible : ∀ step ∈ steps, vigil.Legible start step) :
    vigil.Retained start (fleet.nodes vigil.watcher) (vigil.trail fleet steps) := by
  induction steps generalizing clock fleet since with
  | nil => exact ⟨by simp [trail], by simp [trail]⟩
  | cons step steps ih =>
    obtain ⟨inTime, allowed, rest⟩ := orderly
    obtain ⟨read, legible⟩ := List.forall_mem_cons.1 legible
    obtain ⟨⟨later, keeps⟩, here⟩ := keeps.perform sound tight watches inTime allowed
    exact here.append (ih keeps (watches.perform sound inTime allowed read) rest legible)

end Keeps

/-! ## From the first announcement on -/

/-- The clock after a row of steps. -/
def clockAfter (vigil : Vigil n) (steps : List (Step n)) (clock : Clock) : Clock :=
  steps.foldl vigil.tick clock

/-- A row of steps is orderly if its parts are. -/
lemma orderly_append {first second : List (Step n)} :
    vigil.Orderly clock fleet (first ++ second) ↔ vigil.Orderly clock fleet first ∧
      vigil.Orderly (vigil.clockAfter first clock) (vigil.run fleet first) second := by
  induction first generalizing clock fleet with
  | nil => simp [Orderly, clockAfter, Vigil.run]
  | cons step first ih =>
    rw [List.cons_append, Orderly, Orderly, ih, and_assoc, and_assoc]
    rfl

/-- What holds of the two holds after an orderly row of steps. -/
lemma Watches.run (sound : vigil.Sound start) (watches : vigil.Watches start clock fleet)
    {steps : List (Step n)} (orderly : vigil.Orderly clock fleet steps)
    (legible : ∀ step ∈ steps, vigil.Legible start step) :
    vigil.Watches start (vigil.clockAfter steps clock) (vigil.run fleet steps) := by
  induction steps generalizing clock fleet with
  | nil => exact watches
  | cons step steps ih =>
    obtain ⟨inTime, allowed, rest⟩ := orderly
    obtain ⟨read, legible⟩ := List.forall_mem_cons.1 legible
    exact ih (watches.perform sound inTime allowed read) rest legible

/-- The states of the watcher after one of the datagrams that it takes in a step, and in the steps that
follow: `taken` are the other datagrams that it takes in that step. -/
def trailFrom (vigil : Vigil n) (fleet : Fleet n) (step : Step n) (taken : List Arrival)
    (later : List (Step n)) : List Node :=
  statesOf taken ++ [(vigil.perform fleet step).nodes vigil.watcher] ++
    vigil.trail (vigil.perform fleet step) later

/-- A step in which the watcher takes something is a poll of it. -/
lemma poll_of_arrivals {a : Arrival} (taken : a ∈ vigil.arrivals fleet step) :
    step.act = .poll vigil.watcher := by
  obtain ⟨time, act⟩ := step
  cases act with
  | poll who =>
    by_cases here : who = vigil.watcher
    · rw [here]
    · rw [show vigil.arrivals fleet ⟨time, .poll who⟩ = [] from if_neg here] at taken
      cases taken
  | _ => cases taken

/-- **The watcher holds on to the beacon from an announcement on** that it has room for. -/
theorem Watches.enter (watches : vigil.Watches start clock fleet) (sound : vigil.Sound start)
    (tight : vigil.Tight start) (inTime : vigil.InTime clock step.time) {before after : List Arrival}
    {a : Arrival} (taken : vigil.arrivals fleet step = before ++ a :: after)
    (announces : a.Announces (start.nodes vigil.beacon).host) (mapped : a.outcome ≠ .unmapped) :
    vigil.Holding start step.time a.after ∧
      vigil.Retained start a.after
        (statesOf after ++ [(vigil.perform fleet step).nodes vigil.watcher]) ∧
      vigil.Keeps start (vigil.tick clock step) step.time (vigil.perform fleet step) := by
  have among : a ∈ vigil.arrivals fleet step := by
    rw [taken]
    exact List.mem_append_right _ List.mem_cons_self
  have polled := poll_of_arrivals among
  obtain ⟨time, act⟩ := step
  obtain rfl : act = .poll vigil.watcher := polled
  obtain ⟨ready, rest, intake⟩ := watches.intake sound time
  obtain ⟨named, announcement⟩ := announces
  have handles := intake.handles
  have genuine := intake.genuine
  rw [taken] at handles genuine
  have up : clock.beacon.isSome = true := by
    obtain ⟨packet, packed, announcement⟩ := Option.map_eq_some_iff.1 announcement
    obtain ⟨envelope, read, -⟩ := Option.bind_eq_some_iff.1 packed
    obtain ⟨decoded, body⟩ := Arrival.decoded read packed
    have sender := (a.datagram.sender?_of_ok decoded).symm.trans named
    have codec : a.node.codec = (start.nodes vigil.watcher).codec := by
      obtain ⟨k, first, still, -⟩ := handles.split
      exact still.codec.trans (first.settings.codec.trans
        (intake.codec.trans (watches.same vigil.watcher).2.1))
    rw [codec] at body
    exact (intake.proper a among).announced decoded (Option.some.inj sender) body announcement
  obtain ⟨entered, holds⟩ :=
    handles.enters intake.known genuine intake.foreign sound.unicast named mapped
  rw [watches.time_purge inTime intake] at entered holds
  exact ⟨entered, .of_holds holds fun _ => rfl, watches.keeps inTime intake sound tight up holds.final
    fun last noted => watches.last_le inTime noted⟩

/-- **A beacon is kept alive.**  Once the watcher has taken an announcement of the beacon, and had room
for it, the beacon is never removed.  Every state of the watcher from then on resolves it to its
endpoint, also the ones between what a poll removes and what it takes in; and from each state to the next
the counter that is expected of it stays expected, unless a newer one has come.  Nothing that the beacon
sends in between is read as an announcement. -/
theorem beacon_kept (founded : vigil.Founded start) (tight : vigil.Tight start)
    {earlier later : List (Step n)} (orderly : vigil.Orderly {} start (earlier ++ step :: later))
    (legible : ∀ taken ∈ earlier ++ step :: later, vigil.Legible start taken)
    {before after : List Arrival} {a : Arrival}
    (taken : vigil.arrivals (vigil.run start earlier) step = before ++ a :: after)
    (announces : a.Announces (start.nodes vigil.beacon).host) (mapped : a.outcome ≠ .unmapped) :
    (∀ state ∈ a.after :: vigil.trailFrom (vigil.run start earlier) step after later,
      (state.resolve (start.nodes vigil.beacon).host).1 = some (vigil.sites vigil.beacon).address) ∧
    (a.after :: vigil.trailFrom (vigil.run start earlier) step after later).IsChain
      (Retains (start.nodes vigil.beacon).host) := by
  have sound := founded.sound
  obtain ⟨first, inTime, allowed, rest⟩ := orderly_append.1 orderly
  obtain ⟨readFirst, legible⟩ := List.forall_mem_append.1 legible
  obtain ⟨read, readRest⟩ := List.forall_mem_cons.1 legible
  have watches := founded.watches.run sound first readFirst
  obtain ⟨entered, drained, keeps⟩ := watches.enter sound tight inTime taken announces mapped
  have kept := drained.append
    (keeps.run sound tight (watches.perform sound inTime allowed read) rest readRest)
  refine ⟨fun state among => ?_, kept.chain⟩
  rcases List.mem_cons.1 among with rfl | later
  · exact entered.resolve
  · obtain ⟨since, held⟩ := kept.held state later
    exact held.resolve

end Vigil

/-! ### A short window -/

/-- Three nodes that announce themselves every other moment, and remove what they have not heard for
five. -/
def brisk (codecs : Fin 3 → Codec) : Fleet 3 where
  lan := trioLan plain plain.last
  nodes i :=
    { config := { host := trioHost i, stalenessWindow := 5, announceInterval := 2 }
      codec := codecs i
      session := 5
      map := { window := 5, capacity := 32 } }

/-- One codec for all. -/
def common : Fin 3 → Codec := fun _ => noteCodec

/-- Two of the three nodes, of which the watcher may go without a poll for the given time. -/
def watch (beacon watcher : Fin 3) (gap : Int) : Vigil 3 where
  sites := trioSites plain
  beacon := beacon
  watcher := watcher
  beaconGap := 2
  watcherGap := gap

/-- The beacon announces itself, and next time as late as it can; the watcher polls just before that, and
then as late as it can. -/
def watching (beacon watcher other : Fin 3) (gap : Int) : List (Step 3) :=
  [⟨1, .poll beacon⟩, ⟨2, .poll watcher⟩, ⟨2, .send other .broadcast (noteOf 7)⟩, ⟨3, .poll watcher⟩,
    ⟨3, .send beacon .broadcast (noteOf 1)⟩, ⟨3, .poll beacon⟩, ⟨5, .poll beacon⟩,
    ⟨3 + gap, .poll watcher⟩]

lemma brisk_founded (gap : Int) (codecs : Fin 3 → Codec) : (watch 0 1 gap).Founded (brisk codecs) where
  setUp := setUp_plain
  paid := rfl
  different := by
    show (0 : Fin 3) ≠ 1
    decide
  apart := by
    show ∀ i : Fin 3, i ≠ 1 → (i : Nat) ≠ 1
    decide
  hosts := by
    show ∀ i ≠ 0, trioHost i ≠ trioHost 0
    decide
  sited i among := ⟨[udpPort], by obtain rfl | rfl := among <;> rfl, List.mem_singleton_self _⟩
  made i among := ⟨{ host := trioHost i, stalenessWindow := 5, announceInterval := 2 },
    codecs i, 5, by decide, by decide, by obtain rfl | rfl := among <;> rfl⟩
  heartbeat _ _ := by
    show Datagram.announcementLength ≤ 256
    decide

lemma orderly_watching (gap : Int) (short : gap = 2 ∨ gap = 3) :
    (watch 0 1 gap).Orderly {} (brisk common) ([⟨0, .poll 0⟩] ++ ⟨0, .poll 1⟩ :: watching 0 1 2 gap) := by
  have silent {fleet : Fleet 3} {gap time : Int} : (watch 0 1 gap).Allows fleet ⟨time, .poll 0⟩ :=
    fun here => absurd (show (0 : Fin 3) = 1 from here) (by decide)
  have spoken {fleet : Fleet 3} {gap : Int} {packet : Packet} :
      (watch 0 1 gap).Allows fleet ⟨2, .send 2 .broadcast packet⟩ :=
    fun here => absurd (show (2 : Fin 3) = 0 from here) (by decide)
  rcases short with rfl | rfl
  all_goals
    exact ⟨by decide, silent, by decide, fun _ => by decide +kernel, by decide, silent, by decide,
      fun _ => by decide +kernel, by decide, spoken, by decide, fun _ => by decide +kernel, by decide,
      fun _ => isAnnouncement_noteOf 1, by decide, silent, by decide,
      silent, by decide, fun _ => by decide +kernel, trivial⟩

/-- In its first poll the watcher takes the beacon's announcement and its own. -/
lemma hears_brisk (codecs : Fin 3 → Codec)
    (heard : (((watch 0 1 2).arrivals ((watch 0 1 2).run (brisk codecs) [⟨0, .poll 0⟩]) ⟨0, .poll 1⟩).map
      fun a => (decide (a.Announces .flightController), a.outcome.isAccepted))
        = [(true, true), (false, false)]) :
    ∃ a own, (watch 0 1 2).arrivals ((watch 0 1 2).run (brisk codecs) [⟨0, .poll 0⟩]) ⟨0, .poll 1⟩
        = [a, own] ∧ a.Announces .flightController ∧ a.outcome ≠ .unmapped := by
  have two := congrArg List.length heard
  rw [List.length_map] at two
  obtain ⟨a, own, taken⟩ := List.length_eq_two.1 two
  rw [taken] at heard
  obtain ⟨announces, accepted⟩ := Prod.mk.inj (List.cons.inj heard).1
  refine ⟨a, own, taken, of_decide_eq_true announces, fun refused => ?_⟩
  rw [refused] at accepted
  cases accepted

/-- Mission control watches the flight controller.  The last poll comes when it has not heard it for its
whole window, and it is held still. -/
theorem beacon_kept_watching : ∃ a own,
    (watch 0 1 2).arrivals ((watch 0 1 2).run (brisk common) [⟨0, .poll 0⟩]) ⟨0, .poll 1⟩ = [a, own] ∧
    (∀ state ∈ a.after :: (watch 0 1 2).trailFrom ((watch 0 1 2).run (brisk common) [⟨0, .poll 0⟩])
      ⟨0, .poll 1⟩ [own] (watching 0 1 2 2),
        (state.resolve .flightController).1 = some ⟨"10.0.0.1", udpPort⟩) ∧
    (a.after :: (watch 0 1 2).trailFrom ((watch 0 1 2).run (brisk common) [⟨0, .poll 0⟩])
      ⟨0, .poll 1⟩ [own] (watching 0 1 2 2)).IsChain (Retains .flightController) := by
  obtain ⟨a, own, taken, announces, mapped⟩ := hears_brisk common (by decide +kernel)
  have orderly := orderly_watching 2 (.inl rfl)
  have ⟨resolved, retained⟩ := @Vigil.beacon_kept 3 (watch 0 1 2) (brisk common) ⟨0, .poll 1⟩
    (brisk_founded 2 common) (by decide) [⟨0, .poll 0⟩] (watching 0 1 2 2) orderly
    (orderly.legible rfl noteCodec_built.consistent) [] [own] a taken announces mapped
  have address : ((watch 0 1 2).sites (watch 0 1 2).beacon).address = ⟨"10.0.0.1", udpPort⟩ := by decide +kernel
  rw [address] at resolved
  exact ⟨a, own, taken, resolved, retained⟩

/-- The schedule cannot be looser.  If the watcher may poll one moment later, the beacon is removed
then, although its announcement waits. -/
lemma beacon_lost_watching :
    (watch 0 1 3).Orderly {} (brisk common) ([⟨0, .poll 0⟩] ++ ⟨0, .poll 1⟩ :: watching 0 1 2 3) ∧
    ((brisk common).nodes 0).config.announceInterval + (watch 0 1 3).beaconGap + (watch 0 1 3).watcherGap
      = ((brisk common).nodes 1).config.stalenessWindow + 2 ∧
    ((watch 0 1 3).trailFrom ((watch 0 1 3).run (brisk common) [⟨0, .poll 0⟩]) ⟨0, .poll 1⟩ []
      (watching 0 1 2 3)).any (fun state => (state.resolve .flightController).1.isNone) = true :=
  ⟨orderly_watching 3 (.inr rfl), rfl, by decide +kernel⟩

/-! ### A watcher that misreads -/

/-- A codec that reads as an announcement what `noteCodec` writes of a note. -/
def alarmCodec : Codec := Codec.empty.enter
  { tag := 1
    type := heartbeat
    layout := ⟨⟨.big, false⟩, [⟨1, .integer .byte false⟩]⟩
    byteFields := [] }

/-- Mission control reads so, and nobody else. -/
def misreading : Fin 3 → Codec
  | 1 => alarmCodec
  | _ => noteCodec

/-- The beacon hears of the watcher, and sends it a note. -/
def alarm (beacon watcher : Fin 3) : List (Step 3) :=
  [⟨1, .poll beacon⟩, ⟨1, .send beacon .missionControl (noteOf 7)⟩, ⟨1, .poll watcher⟩]

/-- Along states that retain it, a counter that is expected stays so. -/
lemma stays_expected {peer : LogicalAddress} {states : List Node} (chain : states.IsChain (Retains peer))
    (channel : Bool) :
    (states.map fun node => (node.map.expectation peer channel).isSome).IsChain
      fun before after => before = true → after = true := by
  refine (List.isChain_map _).2 (chain.imp fun before after retains known => ?_)
  obtain ⟨expected, known⟩ := Option.isSome_iff_exists.1 known
  obtain ⟨later, still, -⟩ := retains channel expected known
  exact Option.isSome_of_eq_some still

/-- A note that is read as an announcement names another session than the beacon's, and what was
expected of the beacon is forgotten. -/
theorem beacon_forgotten_alarm :
    (watch 0 1 2).Founded (brisk misreading) ∧ (watch 0 1 2).Tight (brisk misreading) ∧
    (watch 0 1 2).Orderly {} (brisk misreading) ([⟨0, .poll 0⟩] ++ ⟨0, .poll 1⟩ :: alarm 0 1) ∧
    ∃ a own, (watch 0 1 2).arrivals ((watch 0 1 2).run (brisk misreading) [⟨0, .poll 0⟩]) ⟨0, .poll 1⟩
        = [a, own] ∧
      a.Announces .flightController ∧ a.outcome ≠ .unmapped ∧
      ¬ (a.after :: (watch 0 1 2).trailFrom ((watch 0 1 2).run (brisk misreading) [⟨0, .poll 0⟩])
        ⟨0, .poll 1⟩ [own] (alarm 0 1)).IsChain (Retains .flightController) := by
  have orderly : (watch 0 1 2).Orderly {} (brisk misreading) ([⟨0, .poll 0⟩] ++ ⟨0, .poll 1⟩ :: alarm 0 1) := by
    refine ⟨by decide, fun here => ?_, by decide, fun _ => by decide +kernel, by decide, fun here => ?_,
      by decide, fun _ => isAnnouncement_noteOf 7, by decide, fun _ => by decide +kernel, trivial⟩
    all_goals exact absurd (show (0 : Fin 3) = 1 from here) (by decide)
  obtain ⟨a, own, taken, announces, mapped⟩ := hears_brisk misreading (by decide +kernel)
  refine ⟨brisk_founded 2 misreading, by decide, orderly, a, own, taken, announces, mapped,
    fun chain => ?_⟩
  -- the states after the first poll of the watcher are the end of the chain
  have split : a.after :: (watch 0 1 2).trailFrom ((watch 0 1 2).run (brisk misreading) [⟨0, .poll 0⟩])
      ⟨0, .poll 1⟩ [own] (alarm 0 1)
        = (a.after :: statesOf [own]) ++ ((watch 0 1 2).trailFrom
          ((watch 0 1 2).run (brisk misreading) [⟨0, .poll 0⟩]) ⟨0, .poll 1⟩ [] (alarm 0 1)) := by
    simp [Vigil.trailFrom, statesOf]
  rw [split] at chain
  have kept := stays_expected chain.right_of_append true
  rw [show ((watch 0 1 2).trailFrom ((watch 0 1 2).run (brisk misreading) [⟨0, .poll 0⟩]) ⟨0, .poll 1⟩ []
    (alarm 0 1)).map (fun node => (node.map.expectation .flightController true).isSome)
      = [true, true, true, true, false, false] by decide +kernel] at kept
  exact absurd kept (by decide)

end Fleet

end RollCall
