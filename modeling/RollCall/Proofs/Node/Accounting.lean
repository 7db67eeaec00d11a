import RollCall.Proofs.Node.Calls
import RollCall.Proofs.Node.Sending
import RollCall.Proofs.Transport

/-!
# Every inbound datagram is accounted for

A node counts what becomes of the datagrams that it takes, in counters of its traffic.  Each datagram
is counted in exactly one of them, except that the node's own datagrams are passed over; and each
failed attempt to receive is counted too.  So the counters tell how often the node has asked its
transport for a datagram and was given one, or a fault.

* `Tally`, `Traffic.count` — the counters, and what they show.
* `Attempt`, `attempts` — what a run is given when it asks its transport for a datagram.
* `Accounted`, `accounted` — what handling owes to every datagram.
* `Gauge`, `Gauge.amount_run` — what attempts add to an amount of the traffic, and what a run does; so
  `count_run`, every counter shows the number of its attempts.
* `drainThrough` — the drain with the one buffer that all datagrams are received into.
* `attempts_accounted` — **the attempts of every run are the node's own datagrams and what the
  counters show.**
-/

namespace RollCall

/-- The counters that an attempt to receive may raise. -/
inductive Tally where
  | malformed | unmapped | misaddressed | duplicates | announcements | received | receiveErrors
deriving DecidableEq, Repr

def Traffic.count (t : Traffic) : Tally → Int
  | .malformed => t.malformed
  | .unmapped => t.unmapped
  | .misaddressed => t.misaddressed
  | .duplicates => t.duplicates
  | .announcements => t.announcements
  | .received => t.received
  | .receiveErrors => t.receiveErrors

/-- The counter that an outcome raises; the node's own datagrams raise none. -/
def Outcome.tally? : Outcome → Option Tally
  | own => none
  | malformed => some .malformed
  | unmapped => some .unmapped
  | misaddressed => some .misaddressed
  | duplicate => some .duplicates
  | announced _ => some .announcements
  | surfaced _ _ => some .received

lemma Traffic.count_tally (t : Traffic) (outcome : Outcome) (kind : Tally) :
    (t.tally outcome).count kind
      = t.count kind + if outcome.tally? = some kind then 1 else 0 := by
  cases outcome <;> cases kind <;> simp [tally, count, Outcome.tally?]

lemma Outcome.tally?_ne_receiveErrors (outcome : Outcome) :
    outcome.tally? ≠ some .receiveErrors := by
  cases outcome <;> simp [tally?]

lemma Outcome.isSome_received? (outcome : Outcome) :
    outcome.received?.isSome = true ↔ outcome.tally? = some .received := by
  cases outcome <;> simp [received?, tally?]

@[simp] lemma Bytes.take_overwrite (buffer data : Bytes) :
    (overwrite buffer 0 data).take data.length = data := by
  simp [overwrite]

namespace Node

variable {σ : Type} {t : Transport σ} {node : Node} {data : Bytes} {source : PhysicalAddress} {s : σ}

/-! ## One datagram -/

/-- Whether a datagram names the node itself as its sender. -/
def isOwn (node : Node) (data : Bytes) : Bool :=
  match Envelope.decode data with
  | .ok envelope => envelope.sender == node.host
  | .error _ => false

/-- What handling owes to a datagram. -/
structure Accounted (node : Node) (data : Bytes) (source : PhysicalAddress) : Prop where
  /-- The node's own datagram changes nothing. -/
  own : node.isOwn data = true → (node.handle data source).2 = node
  /-- Any other raises exactly one counter, and by one. -/
  counted : node.isOwn data = false → ∃ kind ≠ .receiveErrors, ∀ other,
    (node.handle data source).2.traffic.count other
      = node.traffic.count other + if other = kind then 1 else 0
  /-- A packet is handed on exactly if that is the counter of received packets. -/
  surfaced : (node.handle data source).1.received?.isSome = true ↔
    (node.handle data source).2.traffic.received = node.traffic.received + 1
  /-- A packet that is handed on is of another node, and for this node or for all. -/
  addressed : ∀ received ∈ (node.handle data source).1.received?, ∃ envelope,
    Envelope.decode data = .ok envelope ∧ envelope.sender = received.sender ∧
      received.sender ≠ node.host ∧ received.sender.isBroadcast = false ∧
      (envelope.destination = node.host ∨ envelope.destination.isBroadcast = true)
  /-- Where the sender is not entered into the map, it is because there is no room. -/
  refused : ∀ envelope fault, Envelope.decode data = .ok envelope →
    envelope.sender.isBroadcast = false →
    (node.map.observe envelope.sender source node.time).1 = .error fault →
      fault = .full node.map.capacity envelope.sender

lemma tally?_outcomeOf (sender : LogicalAddress) (packet : Packet) (missed : Option Nat) :
    (outcomeOf sender packet missed).tally? ≠ none := by
  cases missed with
  | none => simp [outcomeOf, Outcome.tally?]
  | some missed => cases kind : packet.isAnnouncement <;> simp [outcomeOf, kind, Outcome.tally?]

lemma sender_of_outcomeOf {sender : LogicalAddress} {packet : Packet} {missed : Option Nat}
    {received : Received} (surfaced : received ∈ (outcomeOf sender packet missed).received?) :
    received.sender = sender := by
  cases missed with
  | none => simp [outcomeOf, Outcome.received?] at surfaced
  | some missed =>
    cases kind : packet.isAnnouncement <;> simp [outcomeOf, kind, Outcome.received?] at surfaced
    rw [← surfaced]

/-- The one outcome that is not counted is that of the node's own datagrams. -/
lemma tally?_eq_none_iff :
    (node.handle data source).1.tally? = none ↔ node.isOwn data = true := by
  show (node.judge data source).1.tally? = none ↔ _
  have exits := judged node data source
  generalize node.judge data source = result at exits ⊢
  cases exits with
  | unreadable undecoded => simp [Outcome.tally?, isOwn, undecoded]
  | own decoded own => simp [Outcome.tally?, isOwn, decoded, own]
  | pretended decoded other | unmapped decoded other =>
    simp [Outcome.tally?, isOwn, decoded, other]
  | misaddressed learned | undecodable learned =>
    simp [Outcome.tally?, isOwn, learned.decoded, learned.foreign]
  | decoded learned =>
    simp [tally?_outcomeOf, isOwn, learned.decoded, learned.foreign]

lemma count_handle (node : Node) (data : Bytes) (source : PhysicalAddress) (kind : Tally) :
    (node.handle data source).2.traffic.count kind = node.traffic.count kind
      + if (node.handle data source).1.tally? = some kind then 1 else 0 :=
  Traffic.count_tally node.traffic (node.judge data source).1 kind

lemma handle_own (own : node.isOwn data = true) : (node.handle data source).2 = node := by
  rw [isOwn] at own
  split at own
  · rename_i envelope decoded
    have judged : node.judge data source = (.own, node.map) := by
      rw [judge, decoded]
      exact if_pos (by simpa using own)
    rw [handle, judged]
    rfl
  · cases own

/-- **Every datagram is accounted for**, in every state of the node and from wherever it comes. -/
theorem accounted (node : Node) (data : Bytes) (source : PhysicalAddress) :
    Accounted node data source where
  own := handle_own
  counted foreign := by
    obtain ⟨kind, tallied⟩ : ∃ kind, (node.handle data source).1.tally? = some kind :=
      Option.ne_none_iff_exists'.1 (by rw [ne_eq, tally?_eq_none_iff, foreign]; decide)
    refine ⟨kind, ?_, ?_⟩
    · rintro rfl
      exact Outcome.tally?_ne_receiveErrors _ tallied
    · intro other
      rw [count_handle, tallied]
      simp [eq_comm]
  surfaced := by
    have count := count_handle node data source .received
    simp only [Traffic.count] at count
    rw [Outcome.isSome_received?, count]
    by_cases surfaced : (node.handle data source).1.tally? = some .received
    · simp [surfaced]
    · simp only [surfaced, if_false, false_iff]
      omega
  addressed := by
    show ∀ received ∈ (node.judge data source).1.received?, _
    have exits := judged node data source
    generalize node.judge data source = result at exits ⊢
    intro received surfaced
    cases exits with
    | decoded learned addressed =>
      rw [sender_of_outcomeOf surfaced]
      refine ⟨_, learned.decoded, rfl, learned.foreign, learned.unicast, ?_⟩
      simpa [isAddressed] using addressed
    | _ => simp [Outcome.received?] at surfaced
  refused := by
    intro envelope fault _ unicast refused
    have seen := NetworkMap.observed node.map envelope.sender source node.time
    generalize node.map.observe envelope.sender source node.time = result at seen refused
    cases seen with
    | broadcast named => rw [unicast] at named; cases named
    | refreshed | added => cases refused
    | full => cases refused; rfl

/-! ## Attempts to receive -/

/-- What a node is given when it asks its transport for a datagram that has arrived. -/
inductive Attempt where
  | heard (arrival : Arrival)
  | failed (fault : LinkFault)

namespace Attempt

def arrival? : Attempt → Option Arrival
  | heard arrival => some arrival
  | failed _ => none

/-- The counter that an attempt raises. -/
def tally? : Attempt → Option Tally
  | heard arrival => arrival.outcome.tally?
  | failed _ => some .receiveErrors

/-- Whether an attempt gives a datagram of the node itself. -/
def isOwn : Attempt → Bool
  | heard arrival => arrival.node.isOwn arrival.datagram.data
  | failed _ => false

/-- The packet that an attempt gives to the application. -/
def received? (attempt : Attempt) : Option Received :=
  attempt.arrival?.bind fun arrival => arrival.outcome.received?

end Attempt

/-- The attempts while a node drains its transport. -/
def drainAttempts (t : Transport σ) : Nat → Node → σ → List Attempt
  | 0, _, _ => []
  | limit + 1, node, s =>
    match t.receive node.room s with
    | (.error (.link fault), s) => .failed fault :: drainAttempts t limit node.countReceiveError s
    | (.error _, _) => []
    | (.ok none, _) => []
    | (.ok (some d), s) =>
      .heard ⟨node, d⟩ :: drainAttempts t limit (node.handle d.data d.endpoint).2 s

/-- The attempts of a poll. -/
def pollAttempts (t : Transport σ) (node : Node) (time : Int) (s : σ) : List Attempt :=
  match t.poll (node.advance time).time s with
  | (.error _, _) => []
  | (.ok (), s) =>
    match announceIfDue t (node.advance time) s with
    | (.error _, _) => []
    | (.ok (), node, s) => drainAttempts t node.config.drainLimit.toNat node.purge s

/-- The attempts of a call; only a poll makes any. -/
def Call.attempts (t : Transport σ) (call : Call σ) (node : Node) (s : σ) : List Attempt :=
  match call with
  | poll time => pollAttempts t node time s
  | _ => []

/-- The attempts of a row of calls. -/
def attempts (t : Transport σ) : List (Call σ) → Node → σ → List Attempt
  | [], _, _ => []
  | call :: calls, node, s =>
    let next := call.perform t node s
    call.attempts t node s ++ attempts t calls next.1 next.2

/-- How often a counter is raised. -/
def raised (kind : Tally) (attempts : List Attempt) : Nat :=
  attempts.countP fun attempt => attempt.tally? = some kind

@[simp] lemma raised_nil (kind : Tally) : raised kind [] = 0 := rfl

lemma raised_cons (kind : Tally) (attempt : Attempt) (attempts : List Attempt) :
    (raised kind (attempt :: attempts) : Int)
      = (if attempt.tally? = some kind then 1 else 0) + raised kind attempts := by
  by_cases here : attempt.tally? = some kind
  · simp [raised, here, Int.add_comm]
  · simp [raised, here]

lemma Attempt.isOwn_eq (attempt : Attempt) :
    attempt.isOwn = decide (attempt.tally? = none) := by
  cases attempt with
  | heard arrival =>
    rw [Bool.eq_iff_iff, decide_eq_true_eq]
    exact tally?_eq_none_iff.symm
  | failed => rfl

/-- Every attempt raises one counter, but for those that give the node its own datagrams. -/
lemma length_eq_raised (attempts : List Attempt) :
    (attempts.length : Int) = attempts.countP Attempt.isOwn
      + raised .malformed attempts + raised .unmapped attempts + raised .misaddressed attempts
      + raised .duplicates attempts + raised .announcements attempts + raised .received attempts
      + raised .receiveErrors attempts := by
  induction attempts with
  | nil => simp
  | cons attempt attempts ih =>
    simp only [List.length_cons, List.countP_cons, raised_cons, Int.natCast_add, ih,
      Attempt.isOwn_eq]
    rcases attempt.tally? with _ | kind
    · simp
      omega
    · cases kind <;> simp <;> omega

lemma length_drainAttempts (t : Transport σ) (limit : Nat) (node : Node) (s : σ) :
    (drainAttempts t limit node s).length ≤ limit := by
  induction limit generalizing node s with
  | zero => exact Nat.le_refl 0
  | succ limit ih =>
    rw [drainAttempts]
    split
    · exact Nat.succ_le_succ (ih _ _)
    · exact Nat.zero_le _
    · exact Nat.zero_le _
    · exact Nat.succ_le_succ (ih _ _)

/-! ## What is added up along a run -/

/-- An amount of a node's traffic that every attempt raises by a weight of its own. -/
structure Gauge where
  amount : Traffic → Int
  weight : Attempt → Int
  heard : ∀ node (d : Delivery), amount (node.handle d.data d.endpoint).2.traffic
    = amount node.traffic + weight (.heard ⟨node, d⟩)
  failed : ∀ (node : Node) fault,
    amount node.countReceiveError.traffic = amount node.traffic + weight (.failed fault)

namespace Gauge

variable (gauge : Gauge)

/-- What a row of attempts adds. -/
def total : List Attempt → Int
  | [] => 0
  | attempt :: attempts => gauge.weight attempt + total attempts

@[simp] lemma total_nil : gauge.total [] = 0 := rfl

lemma total_cons (attempt : Attempt) (attempts : List Attempt) :
    gauge.total (attempt :: attempts) = gauge.weight attempt + gauge.total attempts := rfl

lemma total_append (first second : List Attempt) :
    gauge.total (first ++ second) = gauge.total first + gauge.total second := by
  induction first with
  | nil => simp
  | cons attempt first ih => rw [List.cons_append, total_cons, total_cons, ih, Int.add_assoc]

lemma amount_drain (t : Transport σ) (limit : Nat) (node : Node) (s : σ) :
    gauge.amount (drain t limit node s).2.1.traffic
      = gauge.amount node.traffic + gauge.total (drainAttempts t limit node s) := by
  induction limit generalizing node s with
  | zero => simp [drain, drainAttempts]
  | succ limit ih =>
    rw [drain, drainAttempts]
    rcases t.receive node.room s with ⟨fault | arrived, s⟩
    · cases fault with
      | link fault =>
        dsimp only
        rw [ih, gauge.failed node fault, total_cons]
        omega
      | _ => simp
    · cases arrived with
      | none => simp
      | some d =>
        dsimp only
        rw [ih, gauge.heard, total_cons]
        omega

lemma amount_poll (t : Transport σ) (node : Node) (time : Int) (s : σ) :
    gauge.amount (poll t node time s).2.1.traffic
      = gauge.amount node.traffic + gauge.total (pollAttempts t node time s) := by
  rw [poll, pollAttempts]
  rcases t.poll (node.advance time).time s with ⟨_ | _, s⟩
  · simp [advance]
  · have silent : (announceIfDue t (node.advance time) s).2.1.traffic = node.traffic :=
      announceIfDue_keeps Node.traffic (fun _ _ => rfl) (fun _ _ => rfl) (fun _ _ => rfl) t _ s
    dsimp only
    generalize announceIfDue t (node.advance time) s = turn at silent ⊢
    rcases turn with ⟨_ | _, later, s⟩
    · simp only at silent
      simp [silent]
    · simp only at silent
      dsimp only
      rw [amount_drain, ← silent]
      rfl

lemma amount_perform (t : Transport σ) (call : Call σ) (node : Node) (s : σ) :
    gauge.amount (call.perform t node s).1.traffic
      = gauge.amount node.traffic + gauge.total (call.attempts t node s) := by
  have silent (destination : LogicalAddress) (packet : Packet) :
      (send t node destination packet s).2.1.traffic = node.traffic :=
    send_keeps Node.traffic (fun _ _ => rfl) (fun _ _ => rfl) t node destination packet s
  cases call with
  | poll time => exact gauge.amount_poll t node time s
  | send destination packet => simp [Call.perform, Call.attempts, silent]
  | announce => simp [Call.perform, Call.attempts, announce, silent]
  | resolve | outside => simp [Call.perform, Call.attempts, resolve]

/-- **A run adds what its attempts add.** -/
theorem amount_run (t : Transport σ) (calls : List (Call σ)) (node : Node) (s : σ) :
    gauge.amount (run t calls node s).1.traffic
      = gauge.amount node.traffic + gauge.total (attempts t calls node s) := by
  induction calls generalizing node s with
  | nil => simp [run, attempts]
  | cons call calls ih =>
    rw [run, attempts, ih, total_append, amount_perform]
    omega

end Gauge

/-- A counter as a gauge: an attempt adds one or nothing. -/
def counterGauge (kind : Tally) : Gauge where
  amount traffic := traffic.count kind
  weight attempt := if attempt.tally? = some kind then 1 else 0
  heard node d := count_handle node d.data d.endpoint kind
  failed node fault := by cases kind <;> simp [countReceiveError, Traffic.count, Attempt.tally?]

lemma total_counterGauge (kind : Tally) (attempts : List Attempt) :
    (counterGauge kind).total attempts = raised kind attempts := by
  induction attempts with
  | nil => rfl
  | cons attempt attempts ih => rw [Gauge.total_cons, raised_cons, ih]; rfl

/-- **Every counter shows the number of its attempts**, over every run. -/
theorem count_run (t : Transport σ) (calls : List (Call σ)) (node : Node) (s : σ) (kind : Tally) :
    (run t calls node s).1.traffic.count kind
      = node.traffic.count kind + raised kind (attempts t calls node s) := by
  rw [← total_counterGauge]
  exact (counterGauge kind).amount_run t calls node s

/-! ## What a poll returns -/

/-- The arrivals among the attempts of a drain are the arrivals of the drain. -/
lemma arrivals_drainAttempts (t : Transport σ) (limit : Nat) (node : Node) (s : σ) :
    (drainAttempts t limit node s).filterMap Attempt.arrival? = drainArrivals t limit node s := by
  induction limit generalizing node s with
  | zero => rfl
  | succ limit ih =>
    rw [drainAttempts, drainArrivals]
    rcases t.receive node.room s with ⟨fault | arrived, s⟩
    · cases fault with
      | link fault => exact (List.filterMap_cons_none rfl).trans (ih _ s)
      | _ => rfl
    · cases arrived with
      | none => rfl
      | some d =>
        dsimp only
        rw [← ih]
        exact List.filterMap_cons_some rfl

lemma arrivals_pollAttempts (t : Transport σ) (node : Node) (time : Int) (s : σ) :
    (pollAttempts t node time s).filterMap Attempt.arrival? = pollArrivals t node time s := by
  rw [pollAttempts, pollArrivals]
  rcases t.poll (node.advance time).time s with ⟨_ | _, s⟩
  · rfl
  · dsimp only
    rcases announceIfDue t (node.advance time) s with ⟨_ | _, later, s⟩
    · rfl
    · exact arrivals_drainAttempts t _ _ s

/-- The arrivals among the attempts of a run are the arrivals of the run. -/
lemma arrivals_attempts (t : Transport σ) (calls : List (Call σ)) (node : Node) (s : σ) :
    (attempts t calls node s).filterMap Attempt.arrival? = arrivals t calls node s := by
  induction calls generalizing node s with
  | nil => rfl
  | cons call calls ih =>
    rw [attempts, arrivals, List.filterMap_append, ih]
    cases call with
    | poll time => exact congrArg (· ++ _) (arrivals_pollAttempts t node time s)
    | _ => rfl

/-- A drain over a transport that fails as links do hands on the packets of its attempts, in the
order of their arrival. -/
lemma drain_eq (faults : ∀ room s fault, (t.receive room s).1 = .error fault →
      ∃ link, fault = .link link) (limit : Nat) (node : Node) (s : σ) :
    (drain t limit node s).1 = .ok ((drainAttempts t limit node s).filterMap Attempt.received?) := by
  obtain ⟨received, returned⟩ := drain_returns faults limit node s
  rw [returned, received_drain returned, ← arrivals_drainAttempts, List.filterMap_filterMap]
  rfl

/-- A poll over such a transport fails before it takes anything, or hands on the packets of its
attempts. -/
lemma poll_eq (faults : ∀ room s fault, (t.receive room s).1 = .error fault →
      ∃ link, fault = .link link) (node : Node) (time : Int) (s : σ) :
    ((∃ fault, (poll t node time s).1 = .error fault) ∧ pollAttempts t node time s = []) ∨
      (poll t node time s).1 = .ok ((pollAttempts t node time s).filterMap Attempt.received?) := by
  rw [poll, pollAttempts]
  rcases t.poll (node.advance time).time s with ⟨fault | _, s⟩
  · exact .inl ⟨⟨_, rfl⟩, rfl⟩
  · dsimp only
    rcases announceIfDue t (node.advance time) s with ⟨fault | _, later, s⟩
    · exact .inl ⟨⟨_, rfl⟩, rfl⟩
    · exact .inr (drain_eq faults _ _ _)

lemma length_pollAttempts (t : Transport σ) (node : Node) (time : Int) (s : σ) :
    (pollAttempts t node time s).length ≤ node.config.drainLimit.toNat := by
  rw [pollAttempts]
  rcases t.poll (node.advance time).time s with ⟨fault | _, s⟩
  · exact Nat.zero_le _
  · have config : (announceIfDue t (node.advance time) s).2.1.config = node.config :=
      announceIfDue_keeps Node.config (fun _ _ => rfl) (fun _ _ => rfl) (fun _ _ => rfl) t _ s
    dsimp only
    generalize announceIfDue t (node.advance time) s = turn at config ⊢
    rcases turn with ⟨fault | _, later, s⟩
    · exact Nat.zero_le _
    · rw [← config]
      exact length_drainAttempts t _ _ s

/-! ## One buffer for all datagrams -/

/-- The drain with the buffer that datagrams are received into: a datagram is written over the front of
what the buffer held, and only as many bytes as it has are looked at. -/
def drainThrough (t : Transport σ) : Nat → Node → Bytes → σ → Turn σ (List Received)
  | 0, node, _, s => (.ok [], node, s)
  | limit + 1, node, buffer, s =>
    match t.receive node.room s with
    | (.error (.link _), s) => drainThrough t limit node.countReceiveError buffer s
    | (.error fault, s) => (.error (.transport fault), node, s)
    | (.ok none, s) => (.ok [], node, s)
    | (.ok (some d), s) =>
      let written := Bytes.overwrite buffer 0 d.data
      let handled := node.handle (written.take d.data.length) d.endpoint
      let rest := drainThrough t limit handled.2 written s
      (rest.1.map (handled.1.received?.toList ++ ·), rest.2)

/-- What earlier datagrams have left in the buffer does not matter. -/
lemma drainThrough_eq (t : Transport σ) (limit : Nat) (node : Node) (buffer : Bytes) (s : σ) :
    drainThrough t limit node buffer s = drain t limit node s := by
  induction limit generalizing node buffer s with
  | zero => rfl
  | succ limit ih =>
    rw [drainThrough, drain]
    rcases t.receive node.room s with ⟨fault | arrived, s⟩
    · cases fault with
      | link fault => exact ih _ _ s
      | _ => rfl
    · cases arrived with
      | none => rfl
      | some d => simp [ih]

/-! ## The whole of it -/

/-- **Every attempt to receive is accounted for.**  Take any transport that fails to receive as links
do, and any state of a node.  Whatever bytes arrive, from wherever, they are accounted for, and what
earlier datagrams left in the receive buffer does not matter.  Over every run the attempts that give a
datagram or a fault are as many as the node's own datagrams together with what its counters have gone
up by.  Every poll makes at most as many as its limit, and hands on the surfaced packets in the order
of their arrival, unless it fails before it has received anything. -/
theorem attempts_accounted (faults : ∀ room s fault, (t.receive room s).1 = .error fault →
      ∃ link, fault = .link link) (node : Node) (s : σ) :
    (∀ data source, node.Accounted data source) ∧
    (∀ limit buffer, drainThrough t limit node buffer s = drain t limit node s) ∧
    (∀ calls, ((attempts t calls node s).length : Int)
      = (attempts t calls node s).countP Attempt.isOwn
        + (((run t calls node s).1.traffic.malformed - node.traffic.malformed)
        + ((run t calls node s).1.traffic.unmapped - node.traffic.unmapped)
        + ((run t calls node s).1.traffic.misaddressed - node.traffic.misaddressed)
        + ((run t calls node s).1.traffic.duplicates - node.traffic.duplicates)
        + ((run t calls node s).1.traffic.announcements - node.traffic.announcements)
        + ((run t calls node s).1.traffic.received - node.traffic.received)
        + ((run t calls node s).1.traffic.receiveErrors - node.traffic.receiveErrors))) ∧
    ∀ time, (pollAttempts t node time s).length ≤ node.config.drainLimit.toNat ∧
      (((∃ fault, (poll t node time s).1 = .error fault) ∧ pollAttempts t node time s = []) ∨
        (poll t node time s).1
          = .ok ((pollAttempts t node time s).filterMap Attempt.received?)) := by
  refine ⟨accounted node, fun limit buffer => drainThrough_eq t limit node buffer s, ?_, ?_⟩
  · intro calls
    have total := length_eq_raised (attempts t calls node s)
    have counts := count_run t calls node s
    have malformed := counts .malformed
    have unmapped := counts .unmapped
    have misaddressed := counts .misaddressed
    have duplicates := counts .duplicates
    have announcements := counts .announcements
    have received := counts .received
    have errors := counts .receiveErrors
    simp only [Traffic.count] at *
    omega
  · intro time
    exact ⟨length_pollAttempts t node time s, poll_eq faults node time s⟩

/-! ### A mixed post -/

/-- A heartbeat, the same once more, a datagram of the node itself, and one without bytes. -/
def mixedPost : List Delivery :=
  [heartbeatOf 0, heartbeatOf 0,
    ⟨⟨"10.0.0.1", udpPort⟩, Envelope.encode ⟨.flightController, .broadcast, 0, .shared⟩⟩,
    ⟨⟨"10.0.0.3", udpPort⟩, []⟩]

/-- Of the four datagrams one is passed over, and three are counted. -/
theorem attempts_accounted_mixed :
    (run .queue [.poll 0] listener mixedPost).1.traffic
        = { announcements := 1, duplicates := 1, malformed := 1 } ∧
      (attempts .queue [.poll 0] listener mixedPost).countP Attempt.isOwn = 1 ∧
      ((attempts .queue [.poll 0] listener mixedPost).length : Int) = 4 := by
  have traffic : (run .queue [.poll 0] listener mixedPost).1.traffic
      = { announcements := 1, duplicates := 1, malformed := 1 } := by decide +kernel
  have own : (attempts .queue [.poll 0] listener mixedPost).countP Attempt.isOwn = 1 := by
    decide +kernel
  obtain ⟨-, -, balance, -⟩ :=
    attempts_accounted Transport.queue_orderly.receive listener mixedPost
  refine ⟨traffic, own, ?_⟩
  rw [balance [.poll 0], own, traffic]
  rfl

end Node

end RollCall
