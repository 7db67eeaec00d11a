import RollCall.Proofs.Node.Over
import RollCall.Proofs.Node.Poll
import RollCall.Proofs.Node.Tracking

/-!
# When a node announces itself

A node announces itself at its polls, and at no others than those that lie far enough behind the
last one at which it tried.  It notes that it tries before it does, so an announcement that the link
does not carry is neither repeated early nor in the way of the next one.  The times may be set back
at will: what counts is the greatest that the node was ever polled with.

* `Transport.Errand`, `errands` — what each poll of a run asks the transport to do.
* `IsHeartbeat`, `OneAttempt` — a datagram that announces a node, and one attempt to hand it over.
* `clockAt`, `Attempted`, `LastBefore` — when a poll is, and which one tried last before it.
* `OnSchedule` — the polls that announce the node, among a row of polls.
* `Scheduled` — the node stands where the polls so far have left it; one more call keeps it so.
* `announces_on_schedule` — **every run announces its node once at each poll that is due, and never
  at another.**
-/

namespace RollCall

namespace Datagram

/-- Whoever takes an encoded announcement reads the session in it, whatever codec he has. -/
lemma decodeBody_announcement {session : Int} (nonneg : 0 ≤ session)
    (small : session < counterRange) (envelope : Envelope) (reader : Codec) :
    decodeBody reader .shared (envelope.encode ++ 0 :: Bytes.bigEndian 4 session.toNat)
      = .ok (.announcement session) := by
  have body := encoded_announcement nonneg small (Nat.le_refl announcementLength)
  have read := Codec.decode_of_encode Codec.sharedCodec_built.consistent body (by
    rintro pair paired
    obtain rfl := List.mem_singleton.1 paired
    rfl) rfl
  rw [decodeBody, List.drop_left' envelope.length_encode]
  show (sharedCodec.decode (announcementShape.tag :: _)).mapError _ = _
  rw [read]
  rfl

end Datagram

namespace Node

open Transport (Errand)

variable {σ : Type} {t : Transport σ} {node : Node} {s : σ}

/-! ## Attempts -/

/-- The datagram announces a node to all: whoever reads it reads the node's address and session. -/
structure IsHeartbeat (host : LogicalAddress) (session : Int) (data : Bytes) : Prop where
  envelope : ∃ counter, Envelope.decode data = .ok ⟨host, .broadcast, counter, .shared⟩
  body : ∀ codec : Codec, Datagram.decodeBody codec .shared data = .ok (.announcement session)

/-- The errands of one attempt to announce a node: the transport is asked for its broadcast address,
and if it has one, it is handed one heartbeat for that address, which it carries or not. -/
inductive OneAttempt (host : LogicalAddress) (session : Int) : List Errand → Prop
  | unaddressed {answer : Except TransportFault Bytes} :
      (∀ octets endpoint, answer = .ok octets →
        PhysicalAddress.ofBytes octets udpPort ≠ .ok endpoint) →
      OneAttempt host session [.asked answer]
  | handed {octets data : Bytes} {endpoint : PhysicalAddress}
      {answer : Except TransportFault Unit} :
      PhysicalAddress.ofBytes octets udpPort = .ok endpoint → IsHeartbeat host session data →
      OneAttempt host session [.asked (.ok octets), .handed ⟨endpoint, data⟩ answer]

lemma OneAttempt.ne_nil {host : LogicalAddress} {session : Int} {log : List Errand}
    (attempt : OneAttempt host session log) : log ≠ [] := by
  cases attempt <;> exact List.cons_ne_nil _ _

/-- The errands of each poll of a row of calls.  The transport that logs them does what the other
one does. -/
def errands (t : Transport σ) : List (Call σ) → Node → σ → List (List Errand)
  | [], _, _ => []
  | call :: calls, node, s =>
    let next := call.perform t node s
    match call with
    | .poll time => (poll t.logging node time (s, [])).2.2.2 :: errands t calls next.1 next.2
    | _ => errands t calls next.1 next.2

/-! ## The schedule -/

/-- The time of a poll, by the times that were polled with: a time before that of an earlier poll,
or before zero, is taken for it. -/
def clockAt (times : List Int) (i : Nat) : Int := (times.take (i + 1)).foldl max 0

variable {rows : List (List Errand)} {times : List Int} {i last : Nat}

/-- The poll has errands. -/
def Attempted (rows : List (List Errand)) (i : Nat) : Prop := ∃ row, rows[i]? = some row ∧ row ≠ []

/-- Of the polls before one, that is the last that has errands. -/
structure LastBefore (rows : List (List Errand)) (i last : Nat) : Prop where
  earlier : last < i
  attempted : Attempted rows last
  none_since : ∀ j, last < j → j < i → ¬ Attempted rows j

/-- The polls that have errands are the first and each that lies the interval behind the one that
had errands last. -/
def OnSchedule (interval : Int) (times : List Int) (rows : List (List Errand)) : Prop :=
  ∀ i < times.length, Attempted rows i ↔
    i = 0 ∨ ∃ last, LastBefore rows i last ∧ interval ≤ clockAt times i - clockAt times last

lemma clockAt_append {more : List Int} (within : i < times.length) :
    clockAt (times ++ more) i = clockAt times i := by
  rw [clockAt, List.take_append_of_le_length within, ← clockAt]

/-- The poll after a row of polls is at the greatest of zero and all times. -/
lemma clockAt_length (times : List Int) (time : Int) :
    clockAt (times ++ [time]) times.length = (times ++ [time]).foldl max 0 := by
  rw [clockAt, List.take_of_length_le (by simp)]

lemma attempted_append {more : List (List Errand)} (within : i < rows.length) :
    Attempted (rows ++ more) i ↔ Attempted rows i := by
  rw [Attempted, List.getElem?_append_left within, ← Attempted]

lemma attempted_snoc {row : List Errand} : Attempted (rows ++ [row]) rows.length ↔ row ≠ [] := by
  simp [Attempted]

/-- What polls come later does not matter. -/
lemma lastBefore_append {more : List (List Errand)} (within : i ≤ rows.length) :
    LastBefore (rows ++ more) i last ↔ LastBefore rows i last := by
  constructor
  · rintro ⟨earlier, attempted, none_since⟩
    refine ⟨earlier, (attempted_append (earlier.trans_le within)).1 attempted, ?_⟩
    intro j after before again
    exact none_since j after before ((attempted_append (before.trans_le within)).2 again)
  · rintro ⟨earlier, attempted, none_since⟩
    refine ⟨earlier, (attempted_append (earlier.trans_le within)).2 attempted, ?_⟩
    intro j after before again
    exact none_since j after before ((attempted_append (before.trans_le within)).1 again)

lemma LastBefore.unique {other : Nat} (first : LastBefore rows i last)
    (second : LastBefore rows i other) : last = other := by
  rcases Nat.lt_trichotomy last other with before | same | after
  · exact absurd second.attempted (first.none_since other before second.earlier)
  · exact same
  · exact absurd first.attempted (second.none_since last after first.earlier)

/-- If the last poll has errands, it is the last that has. -/
lemma LastBefore.of_attempt {row : List Errand} (attempted : row ≠ []) :
    LastBefore (rows ++ [row]) (rows ++ [row]).length rows.length where
  earlier := by simp
  attempted := attempted_snoc.2 attempted
  none_since j after before := by
    rw [List.length_append, List.length_singleton] at before
    omega

/-- If it has none, it does not matter either. -/
lemma LastBefore.snoc_nil (before : LastBefore rows rows.length last) :
    LastBefore (rows ++ [[]]) (rows ++ [[]]).length last := by
  have kept : LastBefore (rows ++ [[]]) rows.length last :=
    (lastBefore_append (Nat.le_refl _)).2 before
  refine ⟨?_, kept.attempted, ?_⟩
  · rw [List.length_append]
    exact before.earlier.trans_le (Nat.le_add_right _ _)
  · intro j after within
    rw [List.length_append, List.length_singleton] at within
    rcases (Nat.lt_succ_iff.1 within).lt_or_eq with early | rfl
    · exact kept.none_since j after early
    · exact fun attempted => attempted_snoc.1 attempted rfl

/-- One more poll keeps to the schedule if it has errands just when it is due. -/
lemma OnSchedule.snoc {interval time : Int} {row : List Errand}
    (same : rows.length = times.length) (schedule : OnSchedule interval times rows)
    (due : row ≠ [] ↔ times = [] ∨ ∃ last, LastBefore rows rows.length last ∧
      interval ≤ (times ++ [time]).foldl max 0 - clockAt times last) :
    OnSchedule interval (times ++ [time]) (rows ++ [row]) := by
  intro i within
  rw [List.length_append, List.length_singleton] at within
  rcases (Nat.lt_succ_iff.1 within).lt_or_eq with early | rfl
  · rw [attempted_append (by omega), schedule i early]
    refine or_congr_right (exists_congr fun last => ?_)
    rw [lastBefore_append (by omega)]
    refine and_congr_right fun before => ?_
    rw [clockAt_append early, clockAt_append (before.earlier.trans early)]
  · rw [← same, attempted_snoc, due, same, List.length_eq_zero_iff]
    refine or_congr_right (exists_congr fun last => ?_)
    rw [lastBefore_append same.ge]
    refine and_congr_right fun before => ?_
    rw [clockAt_length, clockAt_append before.earlier]

/-! ## One poll -/

/-- The errands of an announcement are one attempt. -/
lemma attempt_announce (t : Transport σ) (node : Node) (s : σ) (nonneg : 0 ≤ node.session)
    (small : node.session < counterRange) (fits : Datagram.announcementLength ≤ node.room) :
    OneAttempt node.host node.session (announce t.logging node (s, [])).2.2.2 := by
  have written : Datagram.encode node.codec (.announcement node.session) node.host .broadcast
      node.broadcastCounter node.room
        = .ok (Envelope.encode ⟨node.host, .broadcast, node.broadcastCounter, .shared⟩
            ++ 0 :: Bytes.bigEndian 4 node.session.toNat) :=
    Datagram.encode_announcement nonneg small fits
  have exits := sends t.logging node .broadcast (.announcement node.session) (s, [])
  rw [announce]
  generalize send t.logging node .broadcast (.announcement node.session) (s, []) = turn
    at exits ⊢
  cases exits with
  | noRoute unicast => cases unicast
  | unicast unicast => cases unicast
  | unencodable failed numbered =>
    rw [numbered rfl, written] at failed
    cases failed
  | unaddressed _ left unread =>
    rw [← left]
    exact .unaddressed unread
  | @broadcast data octets endpoint rest _ encoded known reached =>
    obtain rfl := Except.ok.inj (written.symm.trans encoded)
    have asked : rest.2 = [.asked (.ok octets)] := by
      obtain ⟨answer, rfl⟩ := Prod.mk.inj known
      show [Errand.asked (t.broadcastOctets s).1] = _
      rw [show (t.broadcastOctets s).1 = .ok octets from answer]
    have heartbeat : IsHeartbeat node.host node.session
        (Envelope.encode ⟨node.host, .broadcast, node.broadcastCounter, .shared⟩
          ++ 0 :: Bytes.bigEndian 4 node.session.toNat) :=
      ⟨⟨_, Envelope.decode_append _ _⟩, fun codec =>
        Datagram.decodeBody_announcement nonneg small _ codec⟩
    rw [transmit_state]
    show OneAttempt _ _ (rest.2 ++ [Errand.handed _ _])
    rw [asked]
    exact .handed reached heartbeat

/-- What a poll leaves of its node, and its errands: if it is time to, it notes that it tries to
announce the node, and tries. -/
structure Ticks (node : Node) (time : Int) (after : Node) (log : List Errand) : Prop where
  clock : after.time = max node.time time
  due : (node.advance time).isAnnouncementDue = true →
    OneAttempt node.host node.session log ∧ after.lastAnnounce = some (max node.time time)
  early : (node.advance time).isAnnouncementDue = false →
    log = [] ∧ after.lastAnnounce = node.lastAnnounce

/-- The announcement of a poll. -/
lemma ticks_announceIfDue (nonneg : 0 ≤ node.session) (small : node.session < counterRange)
    (fits : Datagram.announcementLength ≤ node.room) (time : Int) (s : σ) :
    Ticks node time (announceIfDue t.logging (node.advance time) (s, [])).2.1
      (announceIfDue t.logging (node.advance time) (s, [])).2.2.2 where
  clock := announceIfDue_keeps Node.time (fun _ _ => rfl) (fun _ _ => rfl) (fun _ _ => rfl) _ _ _
  due due := by
    let noted : Node := { node.advance time with lastAnnounce := some (node.advance time).time }
    have attempt : OneAttempt noted.host noted.session (announce t.logging noted (s, [])).2.2.2 :=
      attempt_announce t noted s nonneg small fits
    rw [announceIfDue_of_due due]
    exact ⟨attempt, send_keeps Node.lastAnnounce (fun _ _ => rfl) (fun _ _ => rfl) _ _ _ _ _⟩
  early early := by
    rw [announceIfDue_of_early early]
    exact ⟨rfl, rfl⟩

/-- **One poll.** -/
theorem ticks_poll (served : ∀ time s, (t.poll time s).1 = .ok ()) (nonneg : 0 ≤ node.session)
    (small : node.session < counterRange) (fits : Datagram.announcementLength ≤ node.room)
    (time : Int) (s : σ) :
    Ticks node time (poll t node time s).2.1 (poll t.logging node time (s, [])).2.2.2 := by
  have answered := served (node.advance time).time s
  have logged : t.logging.poll (node.advance time).time (s, [])
      = ((t.poll (node.advance time).time s).1, (t.poll (node.advance time).time s).2, []) := rfl
  rw [poll_over t.logging_over node time (s, []), poll, logged, answered]
  dsimp only
  have ticks := ticks_announceIfDue (t := t) nonneg small fits time
    (t.poll (node.advance time).time s).2
  generalize announceIfDue t.logging (node.advance time) _ = turn at ticks ⊢
  rcases turn with ⟨fault | _, ready, rest⟩
  · exact ticks
  · -- What has arrived is taken without an errand, and leaves clock and note alone.
    exact drain_keeps (fun (n : Node) (w : σ × List Errand) => Ticks node time n w.2)
      (fun _ ticks => ticks) (fun ticks => ⟨ticks.clock, ticks.due, ticks.early⟩)
      (fun _ ticks => ⟨ticks.clock, ticks.due, ticks.early⟩) _
      (show Ticks node time ready.purge rest.2 from ⟨ticks.clock, ticks.due, ticks.early⟩)

/-! ## Runs -/

/-- A node of the given settings and session stands where a row of polls has left it: they kept to
the schedule, its time is that of the last of them, and it has noted when the last attempt was. -/
structure Scheduled (config : NodeConfig) (session : Int) (times : List Int)
    (rows : List (List Errand)) (node : Node) : Prop where
  settings : node.config = config
  announces : node.session = session
  counted : rows.length = times.length
  clock : node.time = times.foldl max 0
  noted : times = [] ∧ node.lastAnnounce = none ∨ ∃ last, LastBefore rows rows.length last ∧
    node.lastAnnounce = some (clockAt times last)
  schedule : OnSchedule config.announceInterval times rows
  attempts : ∀ row ∈ rows, row = [] ∨ OneAttempt config.host session row

namespace Scheduled

variable {config : NodeConfig} {session : Int} {after : Node}

/-- A call that leaves the clock and the note of the last attempt alone is no poll. -/
lemma idle (scheduled : Scheduled config session times rows node)
    (same : after.time = node.time ∧ after.lastAnnounce = node.lastAnnounce ∧
      after.config = node.config ∧ after.session = node.session) :
    Scheduled config session times rows after := by
  obtain ⟨time, noted, settings, announces⟩ := same
  refine ⟨settings.trans scheduled.settings, announces.trans scheduled.announces,
    scheduled.counted, time.trans scheduled.clock, ?_, scheduled.schedule, scheduled.attempts⟩
  rw [noted]
  exact scheduled.noted

lemma send (scheduled : Scheduled config session times rows node) (t : Transport σ)
    (destination : LogicalAddress) (packet : Packet) (s : σ) :
    Scheduled config session times rows (Node.send t node destination packet s).2.1 := by
  have same := send_keeps (fun n => (n.time, n.lastAnnounce, n.config, n.session)) (fun _ _ => rfl)
    (fun _ _ => rfl) t node destination packet s
  simp only [Prod.mk.injEq] at same
  exact scheduled.idle same

/-- Whether the next poll is due can be told from the polls so far. -/
lemma isAnnouncementDue_iff (scheduled : Scheduled config session times rows node) (time : Int) :
    (node.advance time).isAnnouncementDue = true ↔
      times = [] ∨ ∃ last, LastBefore rows rows.length last ∧
        config.announceInterval ≤ (times ++ [time]).foldl max 0 - clockAt times last := by
  have now : (node.advance time).time = (times ++ [time]).foldl max 0 := by
    rw [List.foldl_append, ← scheduled.clock]
    rfl
  rw [isAnnouncementDue, now, show (node.advance time).lastAnnounce = node.lastAnnounce from rfl,
    show (node.advance time).config = config from scheduled.settings]
  rcases scheduled.noted with ⟨first, nothing⟩ | ⟨last, before, noted⟩
  · rw [nothing]
    exact iff_of_true rfl (.inl first)
  · have some_poll : times ≠ [] := by
      rintro rfl
      have none : rows.length = 0 := scheduled.counted
      have earlier := before.earlier
      omega
    rw [noted]
    constructor
    · exact fun due => .inr ⟨last, before, of_decide_eq_true due⟩
    · rintro (first | ⟨other, again, late⟩)
      · exact absurd first some_poll
      · rw [again.unique before] at late
        exact decide_eq_true late

/-- **One more poll.** -/
theorem poll (scheduled : Scheduled config session times rows node)
    (served : ∀ time s, (t.poll time s).1 = .ok ()) (nonneg : 0 ≤ session)
    (small : session < counterRange)
    (fits : Datagram.announcementLength ≤ config.bufferSize.toNat) (time : Int) (s : σ) :
    Scheduled config session (times ++ [time])
      (rows ++ [(Node.poll t.logging node time (s, [])).2.2.2]) (Node.poll t node time s).2.1 := by
  obtain ⟨settings, -, announces⟩ := (poll_course t node time s).settings
  have room : node.room = config.bufferSize.toNat := by rw [Node.room, scheduled.settings]
  have ticks : Ticks node time (Node.poll t node time s).2.1
      (Node.poll t.logging node time (s, [])).2.2.2 :=
    ticks_poll served (scheduled.announces ▸ nonneg) (scheduled.announces ▸ small) (room ▸ fits)
      time s
  have clock : (Node.poll t node time s).2.1.time = (times ++ [time]).foldl max 0 := by
    rw [ticks.clock, scheduled.clock, List.foldl_append]
    rfl
  generalize (Node.poll t.logging node time (s, [])).2.2.2 = log at ticks ⊢
  generalize (Node.poll t node time s).2.1 = after at ticks clock settings announces ⊢
  have due_iff := scheduled.isAnnouncementDue_iff time
  have attempt (due : (node.advance time).isAnnouncementDue = true) :
      OneAttempt config.host session log := by
    rw [← scheduled.settings, ← scheduled.announces]
    exact (ticks.due due).1
  have attempted : log ≠ [] ↔ (node.advance time).isAnnouncementDue = true := by
    constructor
    · intro some_errand
      by_contra early
      exact some_errand (ticks.early (by simpa using early)).1
    · exact fun due => (attempt due).ne_nil
  refine ⟨settings.trans scheduled.settings, announces.trans scheduled.announces, ?_, clock, ?_,
    scheduled.schedule.snoc scheduled.counted (attempted.trans due_iff), ?_⟩
  · simp [scheduled.counted]
  · refine .inr ?_
    cases due : (node.advance time).isAnnouncementDue with
    | true =>
      refine ⟨rows.length, .of_attempt (attempted.2 due), ?_⟩
      rw [(ticks.due due).2, ← ticks.clock, clock, scheduled.counted, clockAt_length]
    | false =>
      obtain ⟨rfl, same⟩ := ticks.early due
      rw [due] at due_iff
      rcases scheduled.noted with ⟨first, -⟩ | ⟨last, before, noted⟩
      · -- The first poll is due.
        cases due_iff.2 (.inl first)
      · refine ⟨last, before.snoc_nil, ?_⟩
        rw [same, noted, clockAt_append (scheduled.counted ▸ before.earlier)]
  · intro row among
    rcases List.mem_append.1 among with before | here
    · exact scheduled.attempts row before
    · rw [List.mem_singleton.1 here]
      cases due : (node.advance time).isAnnouncementDue with
      | true => exact .inr (attempt due)
      | false => exact .inl (ticks.early due).1

/-- **Whole runs.** -/
theorem run (scheduled : Scheduled config session times rows node)
    (served : ∀ time s, (t.poll time s).1 = .ok ()) (nonneg : 0 ≤ session)
    (small : session < counterRange)
    (fits : Datagram.announcementLength ≤ config.bufferSize.toNat) (calls : List (Call σ)) (s : σ) :
    Scheduled config session (times ++ pollTimes calls) (rows ++ errands t calls node s)
      (Node.run t calls node s).1 := by
  induction calls generalizing times rows node s with
  | nil => simpa [pollTimes, errands, Node.run] using scheduled
  | cons call calls ih =>
    cases call with
    | poll time =>
      have polled := scheduled.poll served nonneg small fits time s
      have later := ih polled (Node.poll t node time s).2.2
      simpa [pollTimes, errands, Node.run, Call.perform] using later
    | send destination packet => exact ih (scheduled.send t destination packet s) _
    | announce => exact ih (scheduled.send t .broadcast (.announcement node.session) s) _
    | resolve logical =>
      have looked : Scheduled config session times rows (node.resolve logical).2 :=
        scheduled.idle ⟨rfl, rfl, rfl, rfl⟩
      exact ih looked s
    | outside change => exact ih scheduled _

end Scheduled

lemma Created.scheduled {config : NodeConfig} {codec : Codec} {drawn : Int}
    (created : Created config codec drawn node) :
    Scheduled config (sessionOf config drawn) [] [] node := by
  rw [created.node]
  exact ⟨rfl, rfl, rfl, rfl, .inl ⟨rfl, rfl⟩, fun _ within => absurd within (Nat.not_lt_zero _),
    fun _ among => absurd among List.not_mem_nil⟩

/-- **Announcements keep to a schedule.**  Take any new node whose buffers hold a heartbeat, over
any transport that can be polled, whatever becomes of what it is asked to send or to receive, and
any run: polls with any times, sends, announcements and look-ups between them, and any outside.
Then

* a poll has no errands, or those of one attempt to announce the node: the transport is asked for
  its broadcast address and handed one datagram, for the network's port there, which everybody reads
  as a heartbeat with the node's address and session;
* the polls with an attempt are the first one and then just those that lie the interval or more
  behind the poll of the attempt before, whether that was carried or not; a time that is set back is
  taken for the greatest before it. -/
theorem announces_on_schedule {config : NodeConfig} {codec : Codec} {drawn : Int}
    (served : ∀ time s, (t.poll time s).1 = .ok ()) (nonneg : 0 ≤ drawn)
    (small : drawn < counterRange) (made : create config codec drawn = .ok node)
    (fits : (Datagram.announcementLength : Int) ≤ config.bufferSize) (calls : List (Call σ))
    (s : σ) :
    (errands t calls node s).length = (pollTimes calls).length ∧
    (∀ row ∈ errands t calls node s,
      row = [] ∨ OneAttempt config.host (sessionOf config drawn) row) ∧
    OnSchedule config.announceInterval (pollTimes calls) (errands t calls node s) := by
  obtain ⟨low, high⟩ := sessionOf_range config nonneg small
  have scheduled := (created made).scheduled.run served low high (by omega) calls s
  simp only [List.nil_append] at scheduled
  exact ⟨scheduled.counted, scheduled.attempts, scheduled.schedule⟩

/-! ### A cable that is out -/

/-- The plainest transport, while it carries nothing. -/
def unplugged : Transport (List Delivery) :=
  { Transport.queue with
    send := fun endpoint _ s => (.error (.link (.sendRefused endpoint "Network is down")), s) }

/-- A clock that begins below zero and is set back once, with sends of the application between. -/
def unsteady : List (Call (List Delivery)) :=
  [.poll (-5), .send .missionControl (.announcement 5), .poll 60, .announce, .poll 150, .poll 40,
    .poll 250]

/-- The node tries at times 0, 150 and 250, and does not repeat what was not carried in between. -/
theorem announces_on_schedule_unplugged :
    (errands unplugged unsteady listener []).map List.isEmpty = [false, true, false, true, false] ∧
      (∀ row ∈ errands unplugged unsteady listener [],
        row = [] ∨ OneAttempt .flightController 5 row) ∧
      OnSchedule 100 [-5, 60, 150, 40, 250] (errands unplugged unsteady listener []) := by
  obtain ⟨-, attempts, schedule⟩ := announces_on_schedule (t := unplugged) (fun _ _ => rfl)
    (by decide) (by decide) listener_made (by decide) unsteady []
  exact ⟨by rfl, attempts, schedule⟩

end Node

end RollCall
