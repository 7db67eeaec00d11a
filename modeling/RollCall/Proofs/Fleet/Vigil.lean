import RollCall.Proofs.Fleet.Inbox
import RollCall.Proofs.Node.Holding

/-!
# A beacon and its watcher

Of the nodes of a fleet two are looked at: the beacon, which announces itself, and the watcher, which
hears it.  One clock runs, and neither of the two goes without a poll for longer than it may.  All the
others do what they like, and so does whoever else is on the network, as long as nobody speaks in the
beacon's name, nobody takes from the watcher's inbox and nothing is lost.

* `Act`, `Step` — what happens, and when.
* `Vigil`, `perform`, `run` — the two nodes, and the fleet after a step and after a row of steps.
* `Clock`, `InTime` — when the two were polled last, and that neither waits too long.
* `Allows`, `Orderly` — what may happen at a step, and rows of steps in time of which each may happen.
* `Legible` — what the beacon sends in a step is not read as an announcement; with one codec on both
  sides it never is (`Orderly.legible`).
* `Founded` — how a vigil begins.
* `Proper`, `Clear`, `Waits` — what waits for the watcher in the beacon's name is the beacon's own.
* `Intake` — what a poll of the watcher takes in.
* `Beats`, `Listens`, `Watches` — what is known of the two; `Watches.perform` — **an orderly step keeps
  it.**
-/

namespace RollCall

/-- What one side writes of a packet the other does not read as an announcement. -/
def Codec.Plain (codec reader : Codec) (packet : Packet) : Prop :=
  ∀ {room bytes other}, codec.encode packet room = .ok bytes → reader.decode bytes = .ok other →
    other.isAnnouncement = false

/-- Where both sides have one codec, no packet of the application is read as an announcement. -/
lemma Codec.Consistent.plain {codec : Codec} (consistent : codec.Consistent) {packet : Packet}
    (application : packet.isAnnouncement = false) : Codec.Plain codec codec packet := by
  intro room bytes other encoded decoded
  obtain ⟨shape, record, written, rfl⟩ := Codec.of_encode encoded
  obtain ⟨type, values, read, made⟩ := Codec.decode_eq_ok_iff.1 decoded
  cases read.symm.trans (Codec.read_tagged consistent written)
  obtain ⟨-, -, rfl⟩ := PacketType.construct_eq_ok.1 made
  rw [Packet.isAnnouncement, consistent.named written.found]
  exact application

namespace Fleet

open Node (Arrival Genuine Handles Truthful drain_handles pollArrivals statesOf)

variable {n : Nat}

/-- What happens at a step. -/
inductive Act (n : Nat) where
  | poll (who : Fin n)
  | send (who : Fin n) (destination : LogicalAddress) (packet : Packet)
  /-- Something else happens on the network. -/
  | call (call : Lan.Call)

/-- What happens, and the time at which it does. -/
structure Step (n : Nat) where
  time : Int
  act : Act n

/-- Two nodes of a fleet, and how long each of them may go without a poll. -/
structure Vigil (n : Nat) where
  sites : Fin n → Site
  beacon : Fin n
  watcher : Fin n
  beaconGap : Int
  watcherGap : Int

/-- The time of the last step, and the times at which the two nodes were polled last. -/
structure Clock where
  now : Int := 0
  beacon : Option Int := none
  watcher : Option Int := none
deriving DecidableEq, Repr

namespace Vigil

section Steps

variable (vigil : Vigil n) (clock : Clock) (fleet : Fleet n)

/-- The fleet after a step. -/
def perform (step : Step n) : Fleet n :=
  match step.act with
  | .poll who => fleet.after who (fleet.polled vigil.sites who step.time)
  | .send who destination packet =>
    fleet.after who (fleet.sent vigil.sites who destination packet)
  | .call call => { fleet with lan := fleet.lan.perform call }

/-- The fleet after a row of steps. -/
def run (steps : List (Step n)) : Fleet n := steps.foldl vigil.perform fleet

def tick (step : Step n) : Clock :=
  match step.act with
  | .poll who =>
    { now := step.time
      beacon := if who = vigil.beacon then some step.time else clock.beacon
      watcher := if who = vigil.watcher then some step.time else clock.watcher }
  | _ => { clock with now := step.time }

/-- Time does not go back, and neither of the two nodes has waited for its next poll for too long. -/
structure InTime (time : Int) : Prop where
  forward : clock.now ≤ time
  beacon : ∀ polled ∈ clock.beacon, time ≤ polled + vigil.beaconGap
  watcher : ∀ polled ∈ clock.watcher, time ≤ polled + vigil.watcherGap

instance (time : Int) : Decidable (vigil.InTime clock time) :=
  decidable_of_iff (clock.now ≤ time ∧ (∀ polled ∈ clock.beacon, time ≤ polled + vigil.beaconGap) ∧
      ∀ polled ∈ clock.watcher, time ≤ polled + vigil.watcherGap)
    ⟨fun ⟨forward, beacon, watcher⟩ => ⟨forward, beacon, watcher⟩,
      fun ⟨forward, beacon, watcher⟩ => ⟨forward, beacon, watcher⟩⟩

/-- What may happen.  A poll of the watcher empties its inbox; the beacon is given packets of the
application alone to send; and what else happens on the network asks for no loss, does not take from
the watcher's inbox and does not speak in the beacon's name. -/
def Allows (step : Step n) : Prop :=
  match step.act with
  | .poll who => who = vigil.watcher →
    (vigil.sites vigil.watcher).inbox (vigil.perform fleet step).lan = []
  | .send who _ packet => who = vigil.beacon → packet.isAnnouncement = false
  | .call call => call.losses = 0 ∧ call ≠ .receive (vigil.sites vigil.watcher).number udpPort ∧
    ∀ number transit, call = .send number transit →
      transit.delivery.sender? ≠ some (fleet.nodes vigil.beacon).host

/-- What the beacon sends in a step the watcher does not read as an announcement. -/
def Legible (step : Step n) : Prop :=
  match step.act with
  | .send who _ packet => who = vigil.beacon →
    Codec.Plain (fleet.nodes vigil.beacon).codec (fleet.nodes vigil.watcher).codec packet
  | _ => True

/-- Every step of a row is in time, and may happen. -/
def Orderly : Clock → Fleet n → List (Step n) → Prop
  | _, _, [] => True
  | clock, fleet, step :: steps => vigil.InTime clock step.time ∧ vigil.Allows fleet step ∧
    Orderly (vigil.tick clock step) (vigil.perform fleet step) steps

/-- The datagrams that the watcher takes in a step. -/
def arrivals (step : Step n) : List Arrival :=
  match step.act with
  | .poll who =>
    if who = vigil.watcher then
      pollArrivals (vigil.sites who).link (fleet.nodes who) step.time fleet.lan
    else []
  | _ => []

/-- The states of the watcher in a step: before and after each datagram that it takes, and at the
end. -/
def states (step : Step n) : List Node :=
  statesOf (vigil.arrivals fleet step) ++ [(vigil.perform fleet step).nodes vigil.watcher]

/-- The states of the watcher in a row of steps. -/
def trail : Fleet n → List (Step n) → List Node
  | _, [] => []
  | fleet, step :: steps => vigil.states fleet step ++ trail (vigil.perform fleet step) steps

end Steps

/-- A vigil before its first step.  The network is set up, and owes no loss.  Beacon and watcher have
just been made, stand at the common ports of two hosts and have room for a heartbeat.  No other node
stands where the watcher does, or has the address of the beacon. -/
structure Founded (vigil : Vigil n) (start : Fleet n) : Prop where
  setUp : start.lan.SetUp
  paid : start.lan.loss = 0
  different : vigil.beacon ≠ vigil.watcher
  apart : ∀ i ≠ vigil.watcher, (vigil.sites i).number ≠ (vigil.sites vigil.watcher).number
  hosts : ∀ i ≠ vigil.beacon, (start.nodes i).host ≠ (start.nodes vigil.beacon).host
  sited : ∀ i, i = vigil.beacon ∨ i = vigil.watcher →
    start.lan.Sited (vigil.sites i).number (vigil.sites i).ip
  made : ∀ i, i = vigil.beacon ∨ i = vigil.watcher → ∃ (config : NodeConfig) (codec : Codec)
    (drawn : Int), 0 ≤ drawn ∧ drawn < counterRange ∧
      Node.create config codec drawn = .ok (start.nodes i)
  heartbeat : ∀ i, i = vigil.beacon ∨ i = vigil.watcher →
    Datagram.announcementLength ≤ (start.nodes i).room

end Vigil

namespace Vigil

variable {vigil : Vigil n} {start fleet : Fleet n} {clock : Clock} {polled : Prop} {lan : Lan}
  {d : Delivery} {step : Step n}

lemma tick_watcher (vigil : Vigil n) (clock : Clock) (time : Int) :
    (vigil.tick clock ⟨time, .poll vigil.watcher⟩).watcher = some time := if_pos rfl

lemma tick_beacon (vigil : Vigil n) (clock : Clock) (time : Int) :
    (vigil.tick clock ⟨time, .poll vigil.beacon⟩).beacon = some time := if_pos rfl

/-- A beacon that was polled stays so. -/
lemma up_tick (vigil : Vigil n) (up : clock.beacon.isSome = true) (step : Step n) :
    (vigil.tick clock step).beacon.isSome = true := by
  obtain ⟨time, act⟩ := step
  cases act with
  | poll who =>
    rw [tick]
    dsimp only
    split
    · rfl
    · exact up
  | _ => exact up

/-- With one codec on both sides, nothing that the beacon sends is read as an announcement. -/
lemma Orderly.legible (same : (start.nodes vigil.beacon).codec = (start.nodes vigil.watcher).codec)
    (consistent : (start.nodes vigil.watcher).codec.Consistent) {steps : List (Step n)}
    (orderly : vigil.Orderly clock fleet steps) : ∀ step ∈ steps, vigil.Legible start step := by
  induction steps generalizing clock fleet with
  | nil => exact fun _ among => by cases among
  | cons step steps ih =>
    obtain ⟨-, allowed, rest⟩ := orderly
    refine List.forall_mem_cons.2 ⟨?_, ih rest⟩
    obtain ⟨time, act⟩ := step
    cases act with
    | send who destination packet =>
      intro here
      rw [same]
      exact consistent.plain (allowed here)
    | _ => trivial

/-! ## What does not change -/

/-- What is known of the nodes at the start and does not change. -/
structure Sound (vigil : Vigil n) (start : Fleet n) : Prop where
  different : vigil.beacon ≠ vigil.watcher
  apart : ∀ i ≠ vigil.watcher, (vigil.sites i).number ≠ (vigil.sites vigil.watcher).number
  hosts : ∀ i ≠ vigil.beacon, (start.nodes i).host ≠ (start.nodes vigil.beacon).host
  unicast : (start.nodes vigil.beacon).host.isBroadcast = false
  interval : 0 < (start.nodes vigil.beacon).config.announceInterval
  speaks : ∀ i, i = vigil.beacon ∨ i = vigil.watcher → 0 ≤ (start.nodes i).session ∧
    (start.nodes i).session < counterRange ∧ Datagram.announcementLength ≤ (start.nodes i).room

lemma Founded.sound (founded : vigil.Founded start) : vigil.Sound start where
  different := founded.different
  apart := founded.apart
  hosts := founded.hosts
  unicast := by
    obtain ⟨config, codec, drawn, -, -, made⟩ := founded.made vigil.beacon (.inl rfl)
    have created := Node.created made
    rw [created.node]
    exact created.unicast
  interval := by
    obtain ⟨config, codec, drawn, -, -, made⟩ := founded.made vigil.beacon (.inl rfl)
    have created := Node.created made
    rw [created.node]
    exact created.interval
  speaks i among := by
    obtain ⟨config, codec, drawn, nonneg, small, made⟩ := founded.made i among
    obtain ⟨low, high⟩ := Node.sessionOf_range config nonneg small
    refine ⟨?_, ?_, founded.heartbeat i among⟩
    · rw [(Node.created made).node]
      exact low
    · rw [(Node.created made).node]
      exact high

/-- The nodes have the settings, codecs and sessions that they had at the start. -/
def Same (start fleet : Fleet n) : Prop :=
  ∀ i, (fleet.nodes i).config = (start.nodes i).config ∧ (fleet.nodes i).codec = (start.nodes i).codec ∧
    (fleet.nodes i).session = (start.nodes i).session

lemma Same.host (same : Same start fleet) (i : Fin n) :
    (fleet.nodes i).host = (start.nodes i).host := by
  rw [Node.host, (same i).1, Node.host]

lemma Same.room (same : Same start fleet) (i : Fin n) :
    (fleet.nodes i).room = (start.nodes i).room := by
  rw [Node.room, (same i).1, Node.room]

/-- A step changes no settings, codec or session. -/
lemma Same.perform (same : Same start fleet) (step : Step n) :
    Same start (vigil.perform fleet step) := by
  have put {who : Fin n} {node : Node} {lan : Lan} (kept : node.config = (fleet.nodes who).config ∧
      node.codec = (fleet.nodes who).codec ∧ node.session = (fleet.nodes who).session) :
      Same start (fleet.put who node lan) := by
    refine forall_nodes_put (fun i node => node.config = (start.nodes i).config ∧
      node.codec = (start.nodes i).codec ∧ node.session = (start.nodes i).session) ?_
      (fun i _ => same i) lan
    rw [kept.1, kept.2.1, kept.2.2]
    exact same who
  obtain ⟨time, act⟩ := step
  cases act with
  | poll who => exact put (Node.poll_course _ _ _ _).settings
  | send who destination packet =>
    have quiet := Node.Quiet.send (vigil.sites who).link (fleet.nodes who) destination packet fleet.lan
    exact put ⟨quiet.config, quiet.codec, quiet.session⟩
  | call call => exact same

/-! ## What waits for the watcher -/

/-- What a datagram tells the watcher of the beacon is true, and it announces the beacon only if the
beacon has been polled. -/
structure Proper (vigil : Vigil n) (start : Fleet n) (polled : Prop) (d : Delivery) : Prop extends
    Genuine (start.nodes vigil.watcher).codec (start.nodes vigil.beacon).host
      (vigil.sites vigil.beacon).address (start.nodes vigil.beacon).session d where
  announced : ∀ {envelope packet}, Envelope.decode d.data = .ok envelope →
    envelope.sender = (start.nodes vigil.beacon).host →
    Datagram.decodeBody (start.nodes vigil.watcher).codec envelope.kind d.data = .ok packet →
    packet.isAnnouncement = true → polled

lemma Proper.mono {more : Prop} (proper : vigil.Proper start polled d) (le : polled → more) :
    vigil.Proper start more d :=
  { proper with announced := fun decoded sender body kind => le (proper.announced decoded sender body kind) }

/-- A datagram that does not name the beacon tells nothing of it. -/
lemma Proper.of_other (other : d.sender? ≠ some (start.nodes vigil.beacon).host) :
    vigil.Proper start polled d where
  source named := absurd named other
  announces decoded sender := absurd (sender ▸ d.sender?_of_ok decoded) other
  announced decoded sender := absurd (sender ▸ d.sender?_of_ok decoded) other

section Encoded

variable {packet : Packet} {destination : LogicalAddress} {counter : Int} {room : Nat} {data : Bytes}

/-- What the beacon has encoded tells of it what the packet tells that the watcher reads. -/
lemma Proper.of_encode (encoded : Datagram.encode (start.nodes vigil.beacon).codec packet
      (start.nodes vigil.beacon).host destination counter room = .ok data)
    (read : ∀ {body other}, (Datagram.codecOf (start.nodes vigil.beacon).codec
        (Datagram.kindOf packet)).encode packet (room - envelopeLength) = .ok body →
      (Datagram.codecOf (start.nodes vigil.watcher).codec (Datagram.kindOf packet)).decode body
        = .ok other →
      (∀ announced ∈ other.session?, announced = (start.nodes vigil.beacon).session) ∧
        (other.isAnnouncement = true → polled)) :
    vigil.Proper start polled ⟨(vigil.sites vigil.beacon).address, data⟩ := by
  obtain ⟨body, encodedBody, whole⟩ := Datagram.of_encode encoded
  have inside {envelope : Envelope} {other : Packet} (decoded : Envelope.decode data = .ok envelope)
      (parsed : Datagram.decodeBody (start.nodes vigil.watcher).codec envelope.kind data = .ok other) :
      (∀ announced ∈ other.session?, announced = (start.nodes vigil.beacon).session) ∧
        (other.isAnnouncement = true → polled) := by
    rw [whole, Envelope.decode_append] at decoded
    cases decoded
    rw [whole, Datagram.decodeBody, List.drop_left' (Envelope.length_encode _)] at parsed
    dsimp only at parsed
    cases known : (Datagram.codecOf (start.nodes vigil.watcher).codec
        (Datagram.kindOf packet)).decode body with
    | error fault => rw [known] at parsed; cases parsed
    | ok found =>
      rw [known] at parsed
      cases parsed
      exact read encodedBody known
  exact ⟨⟨fun _ => rfl, fun decoded _ parsed => (inside decoded parsed).1⟩,
    fun decoded _ parsed => (inside decoded parsed).2⟩

/-- A packet of the application announces nothing, unless the watcher reads it so. -/
lemma Proper.of_plain (application : packet.isAnnouncement = false) (encoded : Datagram.encode (start.nodes vigil.beacon).codec packet
      (start.nodes vigil.beacon).host destination counter room = .ok data)
    (plain : Codec.Plain (start.nodes vigil.beacon).codec (start.nodes vigil.watcher).codec packet) :
    vigil.Proper start polled ⟨(vigil.sites vigil.beacon).address, data⟩ := by
  refine .of_encode encoded ?_
  rw [Datagram.kindOf_of_application application]
  intro body other encodedBody decoded
  have kind := plain encodedBody decoded
  rw [Packet.session?, kind]
  exact ⟨fun announced here => (by cases here), fun named => (by cases named)⟩

/-- An announcement announces the beacon's session. -/
lemma Proper.of_announcement (encoded : Datagram.encode (start.nodes vigil.beacon).codec
      (.announcement (start.nodes vigil.beacon).session) (start.nodes vigil.beacon).host destination
      counter room = .ok data) (up : polled) :
    vigil.Proper start polled ⟨(vigil.sites vigil.beacon).address, data⟩ := by
  refine .of_encode encoded ?_
  rw [(Datagram.kindOf_eq_shared_iff _).2 rfl]
  intro body other encodedBody decoded
  obtain ⟨read, parsed, same⟩ := survives_announcement _ _ _ encodedBody
  obtain rfl : read = other := Except.ok.inj (parsed.symm.trans decoded)
  exact ⟨Same.session_announcement same, fun _ => up⟩

end Encoded

/-- A network on which the two nodes stand, which owes no loss, and on which nothing waits for the
watcher that is not proper. -/
structure Clear (vigil : Vigil n) (start : Fleet n) (polled : Prop) (lan : Lan) : Prop where
  distinct : lan.Distinct
  sited : ∀ i, i = vigil.beacon ∨ i = vigil.watcher →
    lan.Sited (vigil.sites i).number (vigil.sites i).ip
  paid : lan.loss = 0
  proper : ∀ transit ∈ (vigil.sites vigil.watcher).inbox lan,
    vigil.Proper start polled transit.delivery

/-- Something of the beacon waits for the watcher, and is not too long. -/
def Waits (vigil : Vigil n) (start : Fleet n) (lan : Lan) : Prop :=
  ∃ transit ∈ (vigil.sites vigil.watcher).inbox lan,
    transit.data.length ≤ (start.nodes vigil.watcher).room ∧
      transit.delivery.sender? = some (start.nodes vigil.beacon).host

lemma Clear.mono {more : Prop} (clear : vigil.Clear start polled lan) (le : polled → more) :
    vigil.Clear start more lan :=
  { clear with proper := fun transit among => (clear.proper transit among).mono le }

/-- Nothing but what is improper spoils a network. -/
lemma Clear.perform (clear : vigil.Clear start polled lan) (call : Lan.Call)
    (lossless : call.losses = 0)
    (proper : ∀ number transit, call = .send number transit →
      vigil.Proper start polled transit.delivery) :
    vigil.Clear start polled (lan.perform call) where
  distinct := clear.distinct.perform call
  sited i among := (Lan.Extends.perform lan call).kept (clear.sited i among).opened
  paid := by
    rw [Lan.loss_perform, Lan.Call.owing, clear.paid, lossless, Nat.zero_add, Nat.zero_sub]
  proper transit among := by
    rcases Lan.mem_queueOf_perform among with before | ⟨number, sent⟩
    · exact clear.proper transit before
    · exact proper number transit sent

/-- What waits is taken by nobody but the watcher. -/
lemma Waits.perform (waits : vigil.Waits start lan) {call : Lan.Call}
    (other : call ≠ .receive (vigil.sites vigil.watcher).number udpPort) :
    vigil.Waits start (lan.perform call) := by
  obtain ⟨transit, among, fits⟩ := waits
  exact ⟨transit, (Lan.queueOf_perform_prefix other).subset among, fits⟩

/-! ## The beacon and the watcher -/

/-- The beacon's time is that of its last poll, and its last announcement was not too old then. -/
structure Beats (now : Int) (last : Option Int) (node : Node) : Prop where
  past : node.time ≤ now
  noted : ∀ announced ∈ node.lastAnnounce, announced ≤ node.time
  recent : ∀ time ∈ last, node.time = time ∧ ∃ announced, node.lastAnnounce = some announced ∧
    time - announced < node.config.announceInterval

/-- The watcher's time is that of its last poll, its window is the one that it was made with, and what
it knows of the beacon is true. -/
structure Listens (vigil : Vigil n) (start : Fleet n) (now : Int) (last : Option Int) (node : Node) :
    Prop extends
    Truthful (start.nodes vigil.beacon).host (vigil.sites vigil.beacon).address
      (start.nodes vigil.beacon).session node where
  window : node.map.window = (start.nodes vigil.watcher).config.stalenessWindow
  past : node.time ≤ now
  recent : ∀ time ∈ last, node.time = time

section Times

variable {now time : Int} {last : Option Int} {node : Node}

lemma Beats.mono (beats : Beats now last node) (le : now ≤ time) : Beats time last node :=
  { beats with past := beats.past.trans le }

lemma Beats.of_eq {after : Node} (beats : Beats now last node) (time : after.time = node.time)
    (announced : after.lastAnnounce = node.lastAnnounce) (config : after.config = node.config) :
    Beats now last after where
  past := time ▸ beats.past
  noted := by rw [announced, time]; exact beats.noted
  recent := by rw [announced, time, config]; exact beats.recent

/-- A poll of the beacon announces it if it is time to. -/
lemma Beats.poll {site : Site} {ready : Node} {rest : Lan} (beats : Beats now last node)
    (forward : now ≤ time) (interval : 0 < node.config.announceInterval)
    (made : Ready site node lan time ready rest) :
    Beats time (some time) (Node.poll site.link node time lan).2.1 := by
  obtain ⟨clock, noted⟩ := made.poll
  have config := (Node.poll_course site.link node time lan).settings.1
  have here : max node.time time = time := max_eq_right (beats.past.trans forward)
  rw [here] at clock
  have spoken : ∃ announced, ready.lastAnnounce = some announced ∧ announced ≤ time ∧
      time - announced < node.config.announceInterval := by
    cases due : (node.advance time).isAnnouncementDue with
    | true => exact ⟨time, here ▸ (made.said due).1, le_refl time, by omega⟩
    | false =>
      obtain ⟨announced, before, young⟩ := Node.announced_of_early due
      have young : max node.time time - announced < node.config.announceInterval := young
      rw [here] at young
      exact ⟨announced, (made.silent due).1.trans before,
        (beats.noted announced before).trans (beats.past.trans forward), young⟩
  obtain ⟨announced, said, past, young⟩ := spoken
  refine ⟨clock.le, fun other same => ?_, fun other same => ?_⟩
  · rw [noted, said] at same
    cases same
    rw [clock]
    exact past
  · cases same
    rw [config]
    exact ⟨clock, announced, noted.trans said, young⟩

lemma Listens.mono (listens : vigil.Listens start now last node) (le : now ≤ time) :
    vigil.Listens start time last node :=
  { listens with past := listens.past.trans le }

end Times

/-- **What holds of the two throughout an orderly row of steps.** -/
structure Watches (vigil : Vigil n) (start : Fleet n) (clock : Clock) (fleet : Fleet n) : Prop where
  same : Same start fleet
  clear : vigil.Clear start (clock.beacon.isSome = true) fleet.lan
  beats : Beats clock.now clock.beacon (fleet.nodes vigil.beacon)
  listens : vigil.Listens start clock.now clock.watcher (fleet.nodes vigil.watcher)

/-- A vigil begins like that. -/
lemma Founded.watches (founded : vigil.Founded start) : vigil.Watches start {} start where
  same _ := ⟨rfl, rfl, rfl⟩
  clear := {
    distinct := founded.setUp.clean.distinct
    sited := founded.sited
    paid := founded.paid
    proper := fun transit among => by
      rw [Site.inbox, founded.setUp.clean.queueOf] at among
      cases among }
  beats := by
    obtain ⟨config, codec, drawn, -, -, made⟩ := founded.made vigil.beacon (.inl rfl)
    rw [(Node.created made).node]
    exact ⟨le_rfl, fun announced noted => (by cases noted), fun time polled => (by cases polled)⟩
  listens := by
    obtain ⟨config, codec, drawn, -, -, made⟩ := founded.made vigil.watcher (.inr rfl)
    have created := Node.created made
    have nobody (logical : LogicalAddress) :
        (start.nodes vigil.watcher).map.find? logical = none := by
      rw [NetworkMap.find?, (NetworkMap.of_create created.map).1]
      rfl
    refine ⟨⟨created.distinct, fun found => ?_, fun announced noted => ?_⟩, ?_, ?_,
      fun time polled => (by cases polled)⟩
    · rw [nobody] at found
      cases found
    · rw [NetworkMap.announced, nobody] at noted
      cases noted
    · rw [(NetworkMap.settings_of_create created.map).1, created.node]
    · rw [created.node]

namespace Watches

variable (sound : vigil.Sound start) (watches : vigil.Watches start clock fleet)

include sound watches

lemma speaks {i : Fin n} (among : i = vigil.beacon ∨ i = vigil.watcher) :
    Speaks (vigil.sites i) (fleet.nodes i) fleet.lan := by
  obtain ⟨nonneg, small, fits⟩ := sound.speaks i among
  have session := (watches.same i).2.2
  refine ⟨watches.clear.distinct, watches.clear.sited i among, watches.clear.paid, ?_, ?_, ?_⟩
  · rw [session]
    exact nonneg
  · rw [session]
    exact small
  · rw [watches.same.room]
    exact fits

/-- What a node other than the beacon has encoded tells nothing of the beacon. -/
lemma proper_other {who : Fin n} (other : who ≠ vigil.beacon) {packet : Packet}
    {destination : LogicalAddress} {counter : Int} {room : Nat} {data : Bytes}
    (encoded : Datagram.encode (fleet.nodes who).codec packet (fleet.nodes who).host destination counter
      room = .ok data) (endpoint : PhysicalAddress) : vigil.Proper start polled ⟨endpoint, data⟩ := by
  refine .of_other ?_
  rw [Delivery.sender?_of_encode encoded, watches.same.host]
  exact fun same => sound.hosts who other (Option.some.inj same)

/-- An announcement tells nothing improper. -/
lemma proper_announcement {who : Fin n} {counter : Int} {room : Nat} {data : Bytes}
    (encoded : Datagram.encode (fleet.nodes who).codec (.announcement (fleet.nodes who).session)
      (fleet.nodes who).host .broadcast counter room = .ok data) (up : who = vigil.beacon → polled) :
    vigil.Proper start polled ⟨(vigil.sites who).address, data⟩ := by
  by_cases here : who = vigil.beacon
  · subst here
    rw [(watches.same vigil.beacon).2.1, (watches.same vigil.beacon).2.2, watches.same.host] at encoded
    exact .of_announcement encoded (up rfl)
  · exact watches.proper_other sound here encoded _

/-- Nor does a packet that a node may send. -/
lemma proper_packet {who : Fin n} {packet : Packet} {destination : LogicalAddress} {counter : Int}
    {room : Nat} {data : Bytes} (application : who = vigil.beacon → packet.isAnnouncement = false)
    (plain : who = vigil.beacon →
      Codec.Plain (start.nodes vigil.beacon).codec (start.nodes vigil.watcher).codec packet)
    (encoded : Datagram.encode (fleet.nodes who).codec packet (fleet.nodes who).host destination counter
      room = .ok data) : vigil.Proper start polled ⟨(vigil.sites who).address, data⟩ := by
  by_cases here : who = vigil.beacon
  · subst here
    rw [(watches.same vigil.beacon).2.1, watches.same.host] at encoded
    exact .of_plain (application rfl) encoded (plain rfl)
  · exact watches.proper_other sound here encoded _

end Watches

/-- A poll of one node leaves the network clear, as long as what it sends is proper. -/
lemma Clear.poll (clear : vigil.Clear start polled lan) {who : Fin n} {node : Node} (time : Int)
    (proper : ∀ {counter data}, Datagram.encode node.codec (.announcement node.session) node.host
      .broadcast counter node.room = .ok data →
        vigil.Proper start polled ⟨(vigil.sites who).address, data⟩) :
    vigil.Clear start polled (Node.poll (vigil.sites who).link node time lan).2.2 := by
  refine poll_keeps_lan _ clear (fun endpoint counter data encoded => ?_) (fun lan clear => ?_) time
  · refine clear.perform (.send _ _) rfl fun number transit same => ?_
    cases same
    exact proper encoded
  · exact clear.perform (.receive _ _) rfl fun number transit same => by cases same

/-- Nobody but the watcher takes what waits for the watcher. -/
lemma Waits.poll (waits : vigil.Waits start lan) {who : Fin n}
    (apart : (vigil.sites who).number ≠ (vigil.sites vigil.watcher).number) (node : Node) (time : Int) :
    vigil.Waits start (Node.poll (vigil.sites who).link node time lan).2.2 := by
  refine poll_keeps_lan _ waits (fun endpoint counter data _ => ?_) (fun lan waits => ?_) time
  · exact waits.perform (fun (same : Lan.Call.send _ _ = _) => by cases same)
  · exact waits.perform (fun (same : Lan.Call.receive _ _ = _) => apart (Lan.Call.receive.inj same).1)

/-- What a poll of the watcher takes in. -/
structure Intake (vigil : Vigil n) (start : Fleet n) (polled : Prop) (fleet : Fleet n) (time : Int)
    (ready : Node) (rest : Lan) : Prop extends
    Ready (vigil.sites vigil.watcher) (fleet.nodes vigil.watcher) fleet.lan time ready rest where
  handles : Handles ready.purge (vigil.arrivals fleet ⟨time, .poll vigil.watcher⟩)
    ((vigil.perform fleet ⟨time, .poll vigil.watcher⟩).nodes vigil.watcher)
  proper : ∀ a ∈ vigil.arrivals fleet ⟨time, .poll vigil.watcher⟩,
    vigil.Proper start polled a.datagram
  genuine : ∀ a ∈ vigil.arrivals fleet ⟨time, .poll vigil.watcher⟩,
    Genuine ready.purge.codec (start.nodes vigil.beacon).host (vigil.sites vigil.beacon).address
      (start.nodes vigil.beacon).session a.datagram
  foreign : (start.nodes vigil.beacon).host ≠ ready.purge.host
  known : Truthful (start.nodes vigil.beacon).host (vigil.sites vigil.beacon).address
    (start.nodes vigil.beacon).session ready.purge
  /-- If the poll empties the inbox, it takes what waited of the beacon. -/
  taken : vigil.Waits start fleet.lan →
    (vigil.sites vigil.watcher).inbox (vigil.perform fleet ⟨time, .poll vigil.watcher⟩).lan = [] →
    ∃ a ∈ vigil.arrivals fleet ⟨time, .poll vigil.watcher⟩,
      a.datagram.sender? = some (start.nodes vigil.beacon).host

namespace Watches

variable (sound : vigil.Sound start) (watches : vigil.Watches start clock fleet)

include sound watches

/-- What a poll of the watcher takes in was waiting for it, and so is proper. -/
lemma intake (time : Int) :
    ∃ ready rest, vigil.Intake start (clock.beacon.isSome = true) fleet time ready rest := by
  obtain ⟨ready, rest, made⟩ := (watches.speaks sound (.inr rfl)).ready time
  have arrivals : vigil.arrivals fleet ⟨time, .poll vigil.watcher⟩ = pollArrivals
      (vigil.sites vigil.watcher).link (fleet.nodes vigil.watcher) time fleet.lan := if_pos rfl
  have codec : ready.purge.codec = (start.nodes vigil.watcher).codec :=
    made.codec.trans (watches.same vigil.watcher).2.1
  have host : ready.purge.host = (start.nodes vigil.watcher).host := by
    rw [← watches.same.host, Node.host, Node.host, ← made.config]
    rfl
  have clear : vigil.Clear start (clock.beacon.isSome = true) rest := by
    refine made.keeps_lan _ watches.clear fun endpoint counter data encoded => ?_
    refine watches.clear.perform (.send _ _) rfl fun number transit same => ?_
    cases same
    exact watches.proper_other sound sound.different.symm encoded _
  have proper : ∀ a ∈ vigil.arrivals fleet ⟨time, .poll vigil.watcher⟩,
      vigil.Proper start (clock.beacon.isSome = true) a.datagram := by
    intro a among
    rw [arrivals] at among
    obtain ⟨transit, waited, same⟩ := made.waited among
    exact same ▸ clear.proper transit waited
  refine ⟨ready, rest, made, ?_, proper, fun a among => ?_, ?_,
    (watches.listens.toTruthful.of_map_eq made.map).quiet (.purge ready), fun waits emptied => ?_⟩
  · obtain ⟨polled, arrived⟩ := poll_eq_drain made.returns
    have final : (vigil.perform fleet ⟨time, .poll vigil.watcher⟩).nodes vigil.watcher = _ :=
      (nodes_put_self fleet vigil.watcher _ _).trans (congrArg (fun turn => turn.2.1) polled)
    rw [arrivals, arrived, final]
    exact drain_handles _ _ _ _
  · rw [codec]
    exact (proper a among).toGenuine
  · rw [host]
    exact (sound.hosts vigil.watcher sound.different.symm).symm
  · obtain ⟨transit, among, fits, named⟩ : vigil.Waits start rest :=
      made.keeps_lan _ waits fun endpoint counter data _ =>
        waits.perform (fun (same : Lan.Call.send _ _ = _) => by cases same)
    rw [← watches.same.room] at fits
    obtain ⟨a, arrived, same⟩ := made.arrives emptied among fits
    rw [arrivals]
    exact ⟨a, arrived, same ▸ named⟩

/-- What the watcher knows after a poll. -/
lemma listens_poll {time : Int} (forward : clock.now ≤ time) :
    vigil.Listens start time (some time)
      ((vigil.perform fleet ⟨time, .poll vigil.watcher⟩).nodes vigil.watcher) := by
  obtain ⟨ready, rest, intake⟩ := watches.intake sound time
  have settings := intake.handles.settings
  have here : ready.purge.time = time :=
    intake.clock.trans (max_eq_right (watches.listens.past.trans forward))
  refine ⟨intake.handles.truthful intake.known intake.genuine intake.foreign sound.unicast, ?_,
    (settings.time.trans here).le, fun other same => ?_⟩
  · have window : ready.purge.map.window = ready.map.window := rfl
    rw [settings.window, window, intake.map]
    exact watches.listens.window
  · cases same
    exact settings.time.trans here

/-- A poll of any node. -/
lemma poll {time : Int} (forward : clock.now ≤ time) (who : Fin n) :
    vigil.Watches start (vigil.tick clock ⟨time, .poll who⟩)
      (vigil.perform fleet ⟨time, .poll who⟩) where
  same := watches.same.perform _
  clear := by
    refine (watches.clear.mono fun up => vigil.up_tick up _).poll time fun encoded => ?_
    refine watches.proper_announcement sound encoded fun here => ?_
    subst here
    exact Option.isSome_of_eq_some (vigil.tick_beacon clock time)
  beats := by
    show Beats time (if who = vigil.beacon then some time else clock.beacon)
      ((fleet.put who _ _).nodes vigil.beacon)
    by_cases here : who = vigil.beacon
    · subst here
      obtain ⟨ready, rest, made⟩ := (watches.speaks sound (.inl rfl)).ready time
      have interval := sound.interval
      rw [← (watches.same vigil.beacon).1] at interval
      rw [if_pos rfl, nodes_put_self]
      exact watches.beats.poll forward interval made
    · rw [if_neg here, nodes_put_of_ne fleet (Ne.symm here)]
      exact watches.beats.mono forward
  listens := by
    by_cases here : who = vigil.watcher
    · subst here
      rw [tick_watcher]
      exact watches.listens_poll sound forward
    · show vigil.Listens start time (if who = vigil.watcher then some time else clock.watcher)
        ((fleet.put who _ _).nodes vigil.watcher)
      rw [if_neg here, nodes_put_of_ne fleet (Ne.symm here)]
      exact watches.listens.mono forward

/-- A send of any node. -/
lemma send {time : Int} (forward : clock.now ≤ time) (who : Fin n) (destination : LogicalAddress)
    {packet : Packet} (application : who = vigil.beacon → packet.isAnnouncement = false)
    (plain : who = vigil.beacon →
      Codec.Plain (start.nodes vigil.beacon).codec (start.nodes vigil.watcher).codec packet) :
    vigil.Watches start (vigil.tick clock ⟨time, .send who destination packet⟩)
      (vigil.perform fleet ⟨time, .send who destination packet⟩) where
  same := watches.same.perform _
  clear := by
    refine send_keeps_lan _ watches.clear fun endpoint counter data encoded => ?_
    refine watches.clear.perform (.send _ _) rfl fun number transit same => ?_
    cases same
    exact watches.proper_packet sound application plain encoded
  beats := by
    have idle := Node.Idle.send (vigil.sites who).link (fleet.nodes who) destination packet fleet.lan
    have noted := Node.send_keeps (fun node => node.lastAnnounce) (fun _ _ => rfl) (fun _ _ => rfl)
      (vigil.sites who).link (fleet.nodes who) destination packet fleet.lan
    show Beats time clock.beacon ((fleet.put who _ _).nodes vigil.beacon)
    by_cases here : who = vigil.beacon
    · subst here
      rw [nodes_put_self]
      exact (watches.beats.mono forward).of_eq idle.time noted idle.config
    · rw [nodes_put_of_ne fleet (Ne.symm here)]
      exact watches.beats.mono forward
  listens := by
    have idle := Node.Idle.send (vigil.sites who).link (fleet.nodes who) destination packet fleet.lan
    have quiet := Node.Quiet.send (vigil.sites who).link (fleet.nodes who) destination packet fleet.lan
    show vigil.Listens start time clock.watcher ((fleet.put who _ _).nodes vigil.watcher)
    by_cases here : who = vigil.watcher
    · subst here
      have listens := watches.listens.mono forward
      rw [nodes_put_self]
      exact ⟨listens.toTruthful.quiet quiet, idle.window ▸ listens.window,
        idle.time.le.trans listens.past, fun other polled => idle.time.trans (listens.recent other polled)⟩
    · rw [nodes_put_of_ne fleet (Ne.symm here)]
      exact watches.listens.mono forward

/-- **An orderly step keeps what holds of the two.** -/
theorem perform (inTime : vigil.InTime clock step.time) (allowed : vigil.Allows fleet step)
    (legible : vigil.Legible start step) :
    vigil.Watches start (vigil.tick clock step) (vigil.perform fleet step) := by
  have forward := inTime.forward
  obtain ⟨time, act⟩ := step
  cases act with
  | poll who => exact watches.poll sound forward who
  | send who destination packet => exact watches.send sound forward who destination allowed legible
  | call call =>
    obtain ⟨lossless, -, others⟩ := allowed
    refine ⟨watches.same, watches.clear.perform call lossless fun number transit sent => ?_,
      watches.beats.mono forward, watches.listens.mono forward⟩
    have named := others number transit sent
    rw [watches.same.host] at named
    exact .of_other named

end Watches

end Vigil

end Fleet

end RollCall
