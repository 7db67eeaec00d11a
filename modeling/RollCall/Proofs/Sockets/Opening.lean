import Mathlib.Tactic.Lemma
import RollCall.Sockets.Hosted

/-!
# Opening a transport over sockets

Opening a transport binds a socket, asks where it is bound, and works out the broadcast address.  It
should do all of it or nothing.  The search for a port keeps to that: what it does not bind it closes.
After the search it is different.  The socket is held already when the system is asked for its address
and when the broadcast address is derived, and if one of these fails the transport stays open, with the
socket and without the rest; the next call to open it finds it open and returns.

What a transport holds is told by a ledger that is kept beside the operating system.

* `Ledger`, `SocketLayer.tracked` — the sockets that are not closed, and how often one was asked for.
* `SocketLayer.openAt_tracked_cases`, `search_tracked` — one port, and the search.
* `Exit`, `openSocket_exit` — the exits of opening; `Opened`, `opened` — with the ledger after each, where
  no request is senseless.
* `Whole` — opening does all of it or nothing.
* `strands` — a socket is bound, and its address or the broadcast address cannot be found out.
* `Settled.whole_iff` — one call, on a transport that holds what it says it does.
* `opens_whole_iff` — **along every history, opening is all or nothing just if it never strands.**
-/

namespace RollCall

variable {ω : Type}

/-! ## The ledger -/

/-- What is known of the sockets that were asked for. -/
structure Ledger where
  /-- Those that are not closed. -/
  held : List Socket := []
  /-- How often one was asked for. -/
  tries : Nat := 0
deriving DecidableEq, Repr

namespace SocketLayer

/-- A call that does not touch the ledger. -/
def beside {α : Type} (call : ω → α × ω) (w : ω × Ledger) : α × ω × Ledger :=
  ((call w.1).1, (call w.1).2, w.2)

/-- The operating system with a ledger beside it. -/
def tracked (os : SocketLayer ω) : SocketLayer (ω × Ledger) where
  create w :=
    match os.create w.1 with
    | (.ok socket, after) => (.ok socket, after, ⟨socket :: w.2.held, w.2.tries + 1⟩)
    | (.error fault, after) => (.error fault, after, ⟨w.2.held, w.2.tries + 1⟩)
  allowBroadcast socket := beside (os.allowBroadcast socket)
  bind socket address := beside (os.bind socket address)
  stopBlocking socket := beside (os.stopBlocking socket)
  localAddress socket := beside (os.localAddress socket)
  close socket w := (os.close socket w.1, { w.2 with held := w.2.held.erase socket })
  send socket d := beside (os.send socket d)
  receive socket room := beside (os.receive socket room)
  routeHost := beside os.routeHost

/-- An operating system that makes a socket, prepares it and binds it to an address, or refuses to: it finds
no request without sense. -/
structure SensibleAt (os : SocketLayer ω) (address : PhysicalAddress) : Prop where
  create : ∀ {w fault}, (os.create w).1 = .error fault → ∃ reason, fault = .refused reason
  allowBroadcast : ∀ {socket w fault}, (os.allowBroadcast socket w).1 = .error fault →
    ∃ reason, fault = .refused reason
  bind : ∀ {socket w fault}, (os.bind socket address w).1 = .error fault →
    ∃ reason, fault = .refused reason
  stopBlocking : ∀ {socket w fault}, (os.stopBlocking socket w).1 = .error fault →
    ∃ reason, fault = .refused reason

/-- One that finds sense in every address. -/
def Sensible (os : SocketLayer ω) : Prop := ∀ address, os.SensibleAt address

variable {os : SocketLayer ω} {address : PhysicalAddress}

lemma SensibleAt.prepare (sensible : os.SensibleAt address) {socket : Socket} {w : ω} {fault : OsFault}
    (failed : (os.prepare socket address w).1 = .error fault) : ∃ reason, fault = .refused reason := by
  rw [SocketLayer.prepare] at failed
  cases allowed : os.allowBroadcast socket w with
  | mk answer after =>
    rw [allowed] at failed
    cases answer with
    | error fault =>
      cases failed
      exact sensible.allowBroadcast (congrArg Prod.fst allowed)
    | ok =>
      cases bound : os.bind socket address after with
      | mk answer after =>
        dsimp only at failed
        rw [bound] at failed
        cases answer with
        | error fault =>
          cases failed
          exact sensible.bind (congrArg Prod.fst bound)
        | ok => exact sensible.stopBlocking failed

lemma prepare_tracked (os : SocketLayer ω) (socket : Socket) (address : PhysicalAddress)
    (w : ω × Ledger) :
    os.tracked.prepare socket address w = beside (os.prepare socket address) w := by
  simp only [prepare, tracked, beside]
  rcases os.allowBroadcast socket w.1 with ⟨_ | _, after⟩
  · rfl
  · dsimp only
    rcases os.bind socket address after with ⟨_ | _, after⟩ <;> rfl

lemma SensibleAt.openAt (sensible : os.SensibleAt address) {w : ω} {fault : OsFault}
    (failed : (os.openAt address w).1 = .error fault) : ∃ reason, fault = .refused reason := by
  unfold SocketLayer.openAt at failed
  split at failed
  · rename_i created
    cases failed
    exact sensible.create (congrArg Prod.fst created)
  · split at failed
    · cases failed
    · cases failed
      exact ⟨_, rfl⟩
    · rename_i prepared
      cases failed
      exact sensible.prepare (congrArg Prod.fst prepared)

/-- **One port.**  A socket that is bound is held, and one that is refused is not.  One that was asked for
something senseless may be held or not. -/
theorem openAt_tracked_cases (os : SocketLayer ω) (address : PhysicalAddress) (w : ω × Ledger) :
    (∃ socket after, os.openAt address w.1 = (.ok socket, after) ∧ os.tracked.openAt address w
        = (.ok socket, after, ⟨socket :: w.2.held, w.2.tries + 1⟩)) ∨
      (∃ reason after, os.openAt address w.1 = (.error (.refused reason), after) ∧
        os.tracked.openAt address w = (.error (.refused reason), after, ⟨w.2.held, w.2.tries + 1⟩)) ∨
      ∃ reason after ledger, os.openAt address w.1 = (.error (.senseless reason), after) ∧
        os.tracked.openAt address w = (.error (.senseless reason), after, ledger) := by
  rw [openAt, openAt]
  dsimp only [tracked]
  cases created : os.create w.1 with
  | mk answer after =>
    cases answer with
    | error fault =>
      cases fault with
      | refused reason => exact .inr (.inl ⟨reason, after, rfl, rfl⟩)
      | senseless reason => exact .inr (.inr ⟨reason, after, _, rfl, rfl⟩)
    | ok socket =>
      have prepared := prepare_tracked os socket address (after, ⟨socket :: w.2.held, w.2.tries + 1⟩)
      rw [tracked] at prepared
      dsimp only
      rw [prepared, beside]
      cases os.prepare socket address after with
      | mk answer after =>
        cases answer with
        | ok => exact .inl ⟨socket, after, rfl, rfl⟩
        | error fault =>
          cases fault with
          | refused reason =>
            refine .inr (.inl ⟨reason, os.close socket after, rfl, ?_⟩)
            dsimp only
            rw [List.erase_cons_head]
          | senseless reason => exact .inr (.inr ⟨reason, after, _, rfl, rfl⟩)

/-- A system that finds nothing senseless binds a socket or refuses it. -/
lemma openAt_tracked (sensible : os.Sensible) (address : PhysicalAddress) (w : ω × Ledger) :
    (∃ socket after, os.openAt address w.1 = (.ok socket, after) ∧ os.tracked.openAt address w
        = (.ok socket, after, ⟨socket :: w.2.held, w.2.tries + 1⟩)) ∨
      ∃ reason after, os.openAt address w.1 = (.error (.refused reason), after) ∧
        os.tracked.openAt address w = (.error (.refused reason), after, ⟨w.2.held, w.2.tries + 1⟩) := by
  rcases openAt_tracked_cases os address w with bound | refused | ⟨reason, after, ledger, failed, -⟩
  · exact .inl bound
  · exact .inr refused
  · obtain ⟨other, absurd⟩ := (sensible address).openAt (congrArg Prod.fst failed)
    cases absurd

end SocketLayer

namespace Hosted

variable {os : SocketLayer ω} {h : Hosted} {w : ω × Ledger}

/-- **The search.**  It holds the socket that it has bound, if it has bound one, and no other.  Unless
there is no port to try, a socket was asked for. -/
theorem search_tracked (sensible : os.Sensible) (host : String) (attempts : Nat) (port : Int)
    (chained : Bool) (w : ω × Ledger) :
    ((∃ socket later after ledger, search os host attempts port chained w.1
          = (.bound socket later, after) ∧
        search os.tracked host attempts port chained w = (.bound socket later, after, ledger) ∧
        ledger.held = socket :: w.2.held) ∨
      ∃ after ledger, search os host attempts port chained w.1 = (.exhausted, after) ∧
        search os.tracked host attempts port chained w = (.exhausted, after, ledger) ∧
        ledger.held = w.2.held) ∧
    (0 < attempts → w.2.tries < (search os.tracked host attempts port chained w).2.2.tries) := by
  induction attempts generalizing port chained w with
  | zero => exact ⟨.inr ⟨w.1, w.2, rfl, rfl, rfl⟩, fun some => absurd some (Nat.lt_irrefl 0)⟩
  | succ attempts ih =>
    rw [search, search]
    rcases SocketLayer.openAt_tracked sensible ⟨host, port⟩ w with
      ⟨socket, after, bound, noted⟩ | ⟨reason, after, refused, noted⟩
    · rw [bound, noted]
      exact ⟨.inl ⟨socket, chained, after, _, rfl, rfl, rfl⟩, fun _ => Nat.lt_succ_self _⟩
    · rw [refused, noted]
      obtain ⟨ends, tried⟩ := ih (port + 1) true (after, ⟨w.2.held, w.2.tries + 1⟩)
      refine ⟨ends, fun _ => ?_⟩
      dsimp only
      cases attempts with
      | zero => exact Nat.lt_succ_self _
      | succ attempts => exact Nat.lt_of_succ_lt (tried (Nat.succ_pos _))

lemma locate_tracked (os : SocketLayer ω) (socket : Socket) (w : ω × Ledger) :
    locate os.tracked socket w = SocketLayer.beside (locate os socket) w := by
  simp only [locate, SocketLayer.tracked, SocketLayer.beside]
  rcases os.localAddress socket w.1 with ⟨_ | address, after⟩
  · rfl
  · dsimp only
    split <;> rfl

/-! ## Opening -/

/-- The transport with a socket that has just been bound. -/
def binding (h : Hosted) (socket : Socket) (chained : Bool) : Hosted :=
  { h with socket := some socket, chained := chained }

/-- What opening gives, exit by exit. -/
inductive Exit (os : SocketLayer ω) (h : Hosted) (w : ω) : Except TransportFault Unit × Hosted × ω → Prop
  | already : h.isOpen = true → Exit os h w (.ok (), h, w)
  | exhausted {after : ω} : h.isOpen = false →
      search os h.bindHost h.attempts h.firstPort false w = (.exhausted, after) →
      Exit os h w (.error (.link (.noPort h.bindHost h.firstPort h.lastPort)), h, after)
  | senseless {reason : String} {after : ω} : h.isOpen = false →
      search os h.bindHost h.attempts h.firstPort false w = (.senseless reason, after) →
      Exit os h w (.error (.system (.senseless reason)), h, after)
  | unlocated {socket : Socket} {chained : Bool} {bound after : ω} {fault : OsFault} :
      h.isOpen = false →
      search os h.bindHost h.attempts h.firstPort false w = (.bound socket chained, bound) →
      locate os socket bound = (.error fault, after) →
      Exit os h w (.error (.system fault), h.binding socket chained, after)
  | located {socket : Socket} {chained : Bool} {bound after : ω} {address : PhysicalAddress} :
      h.isOpen = false →
      search os h.bindHost h.attempts h.firstPort false w = (.bound socket chained, bound) →
      locate os socket bound = (.ok address, after) →
      Exit os h w (((h.binding socket chained).settle address).1,
        ((h.binding socket chained).settle address).2, after)

lemma openSocket_exit (os : SocketLayer ω) (h : Hosted) (w : ω) : Exit os h w (h.openSocket os w) := by
  rw [openSocket]
  cases already : h.isOpen with
  | true => exact .already already
  | false =>
    rw [if_neg Bool.false_ne_true]
    cases found : search os h.bindHost h.attempts h.firstPort false w with
    | mk answer bound =>
      cases answer with
      | exhausted => exact .exhausted already found
      | senseless reason => exact .senseless already found
      | bound socket chained =>
        dsimp only
        cases there : locate os socket bound with
        | mk answer after =>
          cases answer with
          | error fault => exact .unlocated already found there
          | ok address => exact .located already found there

/-- What opening gives where no request is senseless, exit by exit, with what is held after it. -/
inductive Opened (os : SocketLayer ω) (h : Hosted) (w : ω × Ledger) :
    Except TransportFault Unit × Hosted × ω × Ledger → Prop
  | already : h.isOpen = true → Opened os h w (.ok (), h, w)
  | exhausted {after : ω} {ledger : Ledger} : h.isOpen = false →
      search os h.bindHost h.attempts h.firstPort false w.1 = (.exhausted, after) →
      ledger.held = w.2.held →
      Opened os h w (.error (.link (.noPort h.bindHost h.firstPort h.lastPort)), h, after, ledger)
  | unlocated {socket : Socket} {chained : Bool} {bound after : ω} {fault : OsFault} {ledger : Ledger} :
      h.isOpen = false →
      search os h.bindHost h.attempts h.firstPort false w.1 = (.bound socket chained, bound) →
      locate os socket bound = (.error fault, after) →
      Opened os h w (.error (.system fault), h.binding socket chained, after, ledger)
  | located {socket : Socket} {chained : Bool} {bound after : ω} {address : PhysicalAddress}
      {ledger : Ledger} : h.isOpen = false →
      search os h.bindHost h.attempts h.firstPort false w.1 = (.bound socket chained, bound) →
      locate os socket bound = (.ok address, after) → ledger.held = socket :: w.2.held →
      Opened os h w (((h.binding socket chained).settle address).1,
        ((h.binding socket chained).settle address).2, after, ledger)

/-- Opening takes one of the exits, and a socket is asked for unless one was bound before. -/
lemma opened (sensible : os.Sensible) (h : Hosted) (w : ω × Ledger) :
    Opened os h w (h.openSocket os.tracked w) ∧
      (h.isOpen = false → 0 < h.attempts → w.2.tries < (h.openSocket os.tracked w).2.2.2.tries) := by
  obtain ⟨ends, tried⟩ := search_tracked sensible h.bindHost h.attempts h.firstPort false w
  have exit := openSocket_exit os.tracked h w
  generalize h.openSocket os.tracked w = result at exit ⊢
  cases exit with
  | already standing => exact ⟨.already standing, fun closed => by rw [standing] at closed; cases closed⟩
  | exhausted closed found =>
    rw [found] at ends tried
    rcases ends with ⟨_, _, _, _, -, noted, -⟩ | ⟨_, _, none, noted, held⟩ <;> cases noted
    exact ⟨.exhausted closed none held, fun _ => tried⟩
  | senseless closed found =>
    rw [found] at ends
    rcases ends with ⟨_, _, _, _, -, noted, -⟩ | ⟨_, _, -, noted, -⟩ <;> cases noted
  | @unlocated socket _ _ _ _ closed found lost =>
    rw [found] at ends tried
    rcases ends with ⟨_, _, bound, ledger, first, noted, held⟩ | ⟨_, _, -, noted, -⟩ <;> cases noted
    rw [locate_tracked, SocketLayer.beside] at lost
    cases answered : locate os socket bound with
    | mk answer later =>
      rw [answered] at lost
      cases lost
      exact ⟨.unlocated closed first answered, fun _ => tried⟩
  | @located socket _ _ _ _ closed found there =>
    rw [found] at ends tried
    rcases ends with ⟨_, _, bound, ledger, first, noted, held⟩ | ⟨_, _, -, noted, -⟩ <;> cases noted
    rw [locate_tracked, SocketLayer.beside] at there
    cases answered : locate os socket bound with
    | mk answer later =>
      rw [answered] at there
      cases there
      exact ⟨.located closed first answered held, fun _ => tried⟩

/-- A transport that is closed for good: it holds no socket, refuses to send and to receive, and the
next call to open it asks for a socket again. -/
structure Shut (os : SocketLayer ω) (h : Hosted) (w : ω × Ledger) : Prop where
  closed : h.isOpen = false
  released : w.2.held = []
  send : ∀ destination data later,
    ((Hosted.transport os).send destination data (h, later)).1 = .error .notOpen
  receive : ∀ room later, ((Hosted.transport os).receive room (h, later)).1 = .error .notOpen
  again : ∀ later : ω × Ledger, later.2.tries < (h.openSocket os.tracked later).2.2.2.tries

/-- A transport that can be used: its socket is bound, and both addresses can be asked for. -/
structure Usable (os : SocketLayer ω) (h : Hosted) : Prop where
  bound : h.isOpen = true
  address : ∃ address, h.address = .ok address
  broadcast : ∃ octets, ∀ later, ((Hosted.transport os).broadcastOctets (h, later)).1 = .ok octets

/-- Opening does all of it or nothing. -/
structure Whole (os : SocketLayer ω) (h : Hosted) (w : ω × Ledger) : Prop where
  failed : ∀ fault, (h.openSocket os.tracked w).1 = .error fault →
    Shut os (h.openSocket os.tracked w).2.1 (h.openSocket os.tracked w).2.2
  returned : (h.openSocket os.tracked w).1 = .ok () → Usable os (h.openSocket os.tracked w).2.1

/-- Whether opening binds a socket and does not get to the end after that. -/
def strands (os : SocketLayer ω) (h : Hosted) (w : ω) : Bool :=
  !h.isOpen &&
  match search os h.bindHost h.attempts h.firstPort false w with
  | (.bound socket _, bound) =>
    match locate os socket bound with
    | (.error _, _) => true
    | (.ok address, _) => h.broadcast.isNone && !(derivedBroadcast address.host h.prefixLength).isOk
  | _ => false

lemma settle_binding (h : Hosted) (socket : Socket) (chained : Bool) (address : PhysicalAddress) :
    (h.binding socket chained).settle address = match h.broadcast with
      | some _ => (.ok (), { h.binding socket chained with localAddress := some address })
      | none =>
        match derivedBroadcast address.host h.prefixLength with
        | .ok octets => (.ok (), { h.binding socket chained with
            localAddress := some address, broadcast := some octets })
        | .error fault => (.error (.setup fault),
            { h.binding socket chained with localAddress := some address }) := rfl

/-- A transport that holds its socket and no other, and knows both addresses while it does. -/
structure Settled (h : Hosted) (ledger : Ledger) : Prop where
  held : ledger.held = h.socket.toList
  some : 0 < h.attempts
  known : h.isOpen = true → h.localAddress.isSome = true ∧ h.broadcast.isSome = true

namespace Settled

/-- A transport that is closed and settled is shut. -/
lemma shut (sensible : os.Sensible) (settled : Settled h w.2) (closed : h.isOpen = false) :
    Shut os h w := by
  have none : h.socket = none := by simpa [isOpen] using closed
  refine ⟨closed, ?_, fun _ _ _ => ?_, fun _ _ => ?_, fun later =>
    (opened sensible h later).2 closed settled.some⟩
  · rw [settled.held, none]
    rfl
  · rw [transport]
    dsimp only
    rw [none]
    rfl
  · rw [transport]
    dsimp only
    rw [none]
    rfl

lemma usable (os : SocketLayer ω) (settled : Settled h w.2) (standing : h.isOpen = true) :
    Usable os h := by
  obtain ⟨address, broadcast⟩ := settled.known standing
  obtain ⟨address, known⟩ := Option.isSome_iff_exists.1 address
  obtain ⟨octets, derived⟩ := Option.isSome_iff_exists.1 broadcast
  refine ⟨standing, ⟨address, ?_⟩, octets, fun later => ?_⟩
  · rw [Hosted.address, known]
  · simp only [transport, derived]

/-- **One call to open** a settled transport strands it, or leaves it settled: closed if the call fails,
and open if it returns. -/
theorem openSocket (sensible : os.Sensible) (settled : Settled h w.2) :
    (strands os h w.1 = true ∧ (∃ fault, (h.openSocket os.tracked w).1 = .error fault) ∧
        (h.openSocket os.tracked w).2.1.isOpen = true) ∨
      strands os h w.1 = false ∧
        Settled (h.openSocket os.tracked w).2.1 (h.openSocket os.tracked w).2.2.2 ∧
        ((h.openSocket os.tracked w).1 = .ok () ↔ (h.openSocket os.tracked w).2.1.isOpen = true) := by
  have exits := (opened sensible h w).1
  generalize h.openSocket os.tracked w = result at exits ⊢
  cases exits with
  | already standing => exact .inr ⟨by rw [strands, standing]; rfl, settled, iff_of_true rfl standing⟩
  | exhausted closed none held =>
    have free : strands os h w.1 = false := by
      rw [strands, none, closed]
      rfl
    refine .inr ⟨free, ⟨held.trans settled.held, settled.some, settled.known⟩, iff_of_false nofun ?_⟩
    rw [closed]
    nofun
  | unlocated closed found lost =>
    exact .inl ⟨by rw [strands, closed, found]; dsimp only; rw [lost]; rfl, ⟨_, rfl⟩, rfl⟩
  | @located socket chained bound after address ledger closed found there held =>
    have bare : h.socket = none := by simpa [isOpen] using closed
    have alone : ledger.held = [socket] := by
      rw [held, settled.held, bare]
      rfl
    have judged : strands os h w.1
        = (h.broadcast.isNone && !(derivedBroadcast address.host h.prefixLength).isOk) := by
      rw [strands, closed, found]
      dsimp only
      rw [there]
      rfl
    rw [judged, settle_binding]
    cases known : h.broadcast with
    | some octets =>
      refine .inr ⟨rfl, ⟨alone, settled.some, fun _ => ⟨rfl, ?_⟩⟩, iff_of_true rfl rfl⟩
      show h.broadcast.isSome = true
      rw [known]
      rfl
    | none =>
      cases derivedBroadcast address.host h.prefixLength with
      | ok octets => exact .inr ⟨rfl, ⟨alone, settled.some, fun _ => ⟨rfl, rfl⟩⟩, iff_of_true rfl rfl⟩
      | error fault => exact .inl ⟨rfl, ⟨_, rfl⟩, rfl⟩

/-- **One call is all or nothing** just if it does not strand the transport. -/
theorem whole_iff (sensible : os.Sensible) (settled : Settled h w.2) :
    Whole os h w ↔ strands os h w.1 = false := by
  rcases settled.openSocket sensible with ⟨stranded, ⟨fault, failed⟩, standing⟩ | ⟨free, after, returns⟩
  · rw [stranded]
    refine iff_of_false (fun whole => ?_) nofun
    rw [(whole.failed fault failed).closed] at standing
    cases standing
  · refine iff_of_true
      ⟨fun fault failed => ?_, fun returned => after.usable os (returns.1 returned)⟩ free
    refine after.shut sensible (Bool.eq_false_iff.2 fun standing => ?_)
    rw [returns.2 standing] at failed
    cases failed

lemma close (settled : Settled h w.2) :
    Settled (h.close os.tracked w).1 (h.close os.tracked w).2.2 := by
  rw [Hosted.close]
  cases bound : h.socket with
  | none => exact settled
  | some socket =>
    refine ⟨?_, settled.some, nofun⟩
    show w.2.held.erase socket = []
    rw [settled.held, bound]
    exact List.erase_cons_head ..

end Settled

/-! ## Histories -/

/-- What may happen to a transport: it is opened or closed, or the outside changes, by what is sent and
received too. -/
inductive Call (ω : Type) where
  | open
  | close
  | outside (change : ω → ω)

/-- A transport with the operating system and the ledger after a call. -/
def Call.perform (os : SocketLayer ω) : Call ω → Hosted × ω × Ledger → Hosted × ω × Ledger
  | .open, s => (s.1.openSocket os.tracked s.2).2
  | .close, s => s.1.close os.tracked s.2
  | .outside change, s => (s.1, change s.2.1, s.2.2)

/-- The states of a history in which the transport is asked to open. -/
def openings (os : SocketLayer ω) : List (Call ω) → Hosted × ω × Ledger → List (Hosted × ω × Ledger)
  | [], _ => []
  | .open :: calls, s => s :: openings os calls (Call.open.perform os s)
  | call :: calls, s => openings os calls (call.perform os s)

lemma Settled.openings_whole_iff (sensible : os.Sensible) (calls : List (Call ω))
    {s : Hosted × ω × Ledger} (settled : Settled s.1 s.2.2) :
    (∀ state ∈ openings os calls s, Whole os state.1 state.2) ↔
      ∀ state ∈ openings os calls s, strands os state.1 state.2.1 = false := by
  induction calls generalizing s with
  | nil => simp [openings]
  | cons call calls ih =>
    cases call with
    | «open» =>
      rw [openings, List.forall_mem_cons, List.forall_mem_cons, settled.whole_iff sensible]
      refine and_congr_right fun free => ih ?_
      rcases settled.openSocket sensible with ⟨stranded, -⟩ | ⟨-, after, -⟩
      · rw [free] at stranded
        cases stranded
      · exact after
    | close => exact ih settled.close
    | outside change => exact ih settled

/-- A new transport has no socket, and tries at least one port. -/
lemma settled_of_create {bindHost : String} {firstPort : Int} {broadcast : Option String}
    {prefixLength chainLength : Int}
    (made : create bindHost firstPort broadcast prefixLength chainLength = .ok h) : Settled h {} := by
  have new : h.socket = none ∧ 0 < h.chainLength := by
    unfold create at made
    split at made
    · cases made
    · rename_i some
      split at made
      · cases made
        exact ⟨rfl, by show 0 < chainLength.toNat; omega⟩
      · split at made <;> cases made
        exact ⟨rfl, by show 0 < chainLength.toNat; omega⟩
  refine ⟨by rw [new.1]; rfl, ?_, fun standing => ?_⟩
  · rw [attempts]
    split
    · exact Nat.one_pos
    · exact new.2
  · rw [isOpen, new.1] at standing
    cases standing

/-- **Opening is all or nothing just if it never strands.**  Take a new transport, whatever its settings,
over an operating system that may refuse any call, and any history of opening and closing it.  Every call
to open binds a socket and finds out both addresses, or fails and leaves the transport closed, without a
socket, and ready to be opened, just if no call binds a socket whose address, or the broadcast address
derived from that, cannot be found out. -/
theorem opens_whole_iff {bindHost : String} {firstPort : Int} {broadcast : Option String}
    {prefixLength chainLength : Int}
    (made : create bindHost firstPort broadcast prefixLength chainLength = .ok h)
    (sensible : os.Sensible) (calls : List (Call ω)) (w : ω) :
    (∀ state ∈ openings os calls (h, w, {}), Whole os state.1 state.2) ↔
      ∀ state ∈ openings os calls (h, w, {}), strands os state.1 state.2.1 = false :=
  (settled_of_create made).openings_whole_iff sensible calls

end Hosted

/-! ## A reluctant operating system -/

/-- An operating system that is told which of its calls to refuse, and for what reason. -/
structure ReluctantOs where
  /-- For each of the next calls the reason to refuse it, if it is to be refused; later ones are not. -/
  refusals : List (Option String) := []
  next : Socket := 0
deriving DecidableEq, Repr

namespace ReluctantOs

/-- The answer to a call. -/
def answer {α : Type} (value : α) (os : ReluctantOs) : Except OsFault α × ReluctantOs :=
  match os.refusals with
  | [] => (.ok value, os)
  | none :: rest => (.ok value, { os with refusals := rest })
  | some reason :: rest => (.error (.refused reason), { os with refusals := rest })

/-- Its socket calls. -/
def layer : SocketLayer ReluctantOs where
  create os := answer os.next { os with next := os.next + 1 }
  allowBroadcast _ := answer ()
  bind _ _ := answer ()
  stopBlocking _ := answer ()
  localAddress _ := answer ⟨"10.1.2.3", udpPort⟩
  close _ os := os
  send _ _ := answer ()
  receive _ _ := answer none
  routeHost os := (none, os)

lemma of_answer_error {α : Type} {value : α} {os : ReluctantOs} {fault : OsFault}
    (failed : (answer value os).1 = .error fault) : ∃ reason, fault = .refused reason := by
  unfold answer at failed
  split at failed <;> cases failed
  exact ⟨_, rfl⟩

lemma layer_sensible : layer.Sensible := fun _ =>
  ⟨of_answer_error, of_answer_error, of_answer_error, of_answer_error⟩

end ReluctantOs

namespace Hosted

/-- A transport with settings as they are where none are asked for, but for the prefix length. -/
def plain (prefixLength : Int) : Hosted where
  bindHost := anyHost
  firstPort := udpPort
  chainLength := 5
  prefixLength := prefixLength
  broadcast := none

/-- The second port is bound after the first was refused; after that five ports are refused. -/
def refusals : List (Option String) :=
  [none, none, some "in use", none, none, none, none, none] ++ List.replicate 5 (some "no more sockets")

/-- A transport is opened when one port is taken, closed, opened in vain, and opened again. -/
def persistent : List (Call ReluctantOs) := [.open, .close, .open, .open]

theorem opens_whole_iff_refusals :
    (openings ReluctantOs.layer persistent (plain 24, { refusals := refusals }, {})).map
        (fun state => (state.1.openSocket ReluctantOs.layer.tracked state.2).1.isOk)
      = [true, false, true] ∧
    ∀ state ∈ openings ReluctantOs.layer persistent (plain 24, { refusals := refusals }, {}),
      Whole ReluctantOs.layer state.1 state.2 := by
  have made : create anyHost udpPort none 24 5 = .ok (plain 24) := rfl
  exact ⟨by decide +kernel, (opens_whole_iff made ReluctantOs.layer_sensible persistent
    { refusals := refusals }).2 (by decide +kernel)⟩

/-- The transport and what is outside after so many calls to open it, over an operating system that
refuses nothing. -/
def reopened (h : Hosted) : Nat → Hosted × ReluctantOs × Ledger
  | 0 => (h, {}, {})
  | calls + 1 => Call.open.perform ReluctantOs.layer (reopened h calls)

/-- With a prefix length that no network has, the socket is bound and stays so when the call to open
fails, and the next call returns, without a broadcast address and without asking for a socket. -/
theorem not_every_opening_whole :
    create anyHost udpPort none 33 5 = .ok (plain 33) ∧
    ((plain 33).openSocket ReluctantOs.layer.tracked ({}, {})).1.isOk = false ∧
    (reopened (plain 33) 1).1.isOpen = true ∧ (reopened (plain 33) 1).2.2 = ⟨[0], 1⟩ ∧
    ((reopened (plain 33) 1).1.openSocket ReluctantOs.layer.tracked (reopened (plain 33) 1).2).1.isOk
      = true ∧
    (reopened (plain 33) 2).1.broadcast = none ∧ (reopened (plain 33) 2).2.2 = ⟨[0], 1⟩ ∧
    ¬ Whole ReluctantOs.layer (plain 33) ({}, {}) := by
  have made : create anyHost udpPort none 33 5 = .ok (plain 33) := rfl
  refine ⟨made, by decide +kernel, by decide +kernel, by decide +kernel, by decide +kernel,
    by decide +kernel, by decide +kernel, fun whole => ?_⟩
  have free := ((settled_of_create made).whole_iff ReluctantOs.layer_sensible).1 whole
  exact absurd free (by decide +kernel)

end Hosted

end RollCall
