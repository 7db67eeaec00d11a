import Mathlib.Data.List.Basic
import RollCall.Proofs.Sockets.Broadcast

/-!
# The chain of ports

A transport binds the first port of a chain that can be bound, and holds that socket and no other until
it is closed.  Each port is an attempt of its own, and an attempt that is refused leaves nothing behind.
But a chain may run past the last port that there is, and to bind such a port is not refused but senseless:
the call to open ends there, not with the fault of a chain that cannot be bound, and the socket that was
made for the port is left as it is.

* `Hosted.attempt` — one port of the chain, after those before it.
* `Hosted.search_ends` — the three ends of the search.
* `Hosted.Chains` — a call to open binds the first port that it can, and fails if there is none.
* `Hosted.Proper` — any call does what it should and leaves no socket behind.
* `Hosted.overreaches` — an attempt makes no sense.
* `Hosted.Steady.step` — one call; `overreaches_eq_false` — ports that there are.
* `Hosted.chains_unless_overreaches` — **along every history, each call is proper just if none
  overreaches.**
-/

namespace RollCall.Hosted

variable {ω : Type} {os : SocketLayer ω} {h : Hosted} {host : String} {port : Int}

/-! ## Attempts -/

/-- What is outside after so many ports were tried, one after the other. -/
def afterAttempts (os : SocketLayer ω) (host : String) : Nat → Int → ω → ω
  | 0, _, w => w
  | k + 1, port, w => afterAttempts os host k (port + 1) (os.openAt ⟨host, port⟩ w).2

/-- The attempt to bind a port of a chain, by its place, after those before it. -/
def attempt (os : SocketLayer ω) (host : String) (port : Int) (k : Nat) (w : ω) : Except OsFault Socket :=
  (os.openAt ⟨host, port + k⟩ (afterAttempts os host k port w)).1

/-- An attempt that is refused. -/
def isRefused : Except OsFault Socket → Bool
  | .error (.refused _) => true
  | _ => false

/-- An attempt that makes no sense. -/
def isSenseless : Except OsFault Socket → Bool
  | .error (.senseless _) => true
  | _ => false

lemma attempt_zero (os : SocketLayer ω) (host : String) (port : Int) (w : ω) :
    attempt os host port 0 w = (os.openAt ⟨host, port⟩ w).1 := by
  have start : port + ((0 : Nat) : Int) = port := by omega
  rw [attempt, start, afterAttempts]

lemma attempt_succ (os : SocketLayer ω) (host : String) (port : Int) (k : Nat) (w : ω) :
    attempt os host port (k + 1) w = attempt os host (port + 1) k (os.openAt ⟨host, port⟩ w).2 := by
  have next : port + ((k + 1 : Nat) : Int) = port + 1 + k := by omega
  rw [attempt, attempt, next, afterAttempts]

/-- How the search ends: with the first attempt that is not refused, or after all of them. -/
inductive Ends (os : SocketLayer ω) (host : String) (attempts : Nat) (port : Int) (chained : Bool)
    (w : ω × Ledger) : Search × ω × Ledger → Prop
  | bound {k : Nat} {socket : Socket} {chain : Bool} {after : ω} {ledger : Ledger} : k < attempts →
      (∀ j < k, isRefused (attempt os host port j w.1) = true) →
      attempt os host port k w.1 = .ok socket → chain = (chained || decide (0 < k)) →
      ledger.held = socket :: w.2.held →
      Ends os host attempts port chained w (.bound socket chain, after, ledger)
  | exhausted {after : ω} {ledger : Ledger} :
      (∀ j < attempts, isRefused (attempt os host port j w.1) = true) → ledger.held = w.2.held →
      Ends os host attempts port chained w (.exhausted, after, ledger)
  | senseless {k : Nat} {reason : String} {after : ω × Ledger} : k < attempts →
      (∀ j < k, isRefused (attempt os host port j w.1) = true) →
      attempt os host port k w.1 = .error (.senseless reason) →
      Ends os host attempts port chained w (.senseless reason, after)

/-- After a refusal, the attempts at the rest of the chain are the later attempts at the whole. -/
lemma Ends.later {attempts : Nat} {chained : Bool} {w : ω × Ledger} {after : ω} {tries : Nat}
    {reason : String} {result : Search × ω × Ledger}
    (refused : os.openAt ⟨host, port⟩ w.1 = (.error (.refused reason), after))
    (ends : Ends os host attempts (port + 1) true (after, ⟨w.2.held, tries⟩) result) :
    Ends os host (attempts + 1) port chained w result := by
  have shifted (k : Nat) :
      attempt os host port (k + 1) w.1 = attempt os host (port + 1) k after := by
    rw [attempt_succ, refused]
  have before {k : Nat} (rest : ∀ j < k, isRefused (attempt os host (port + 1) j after) = true) :
      ∀ j < k + 1, isRefused (attempt os host port j w.1) = true := by
    intro j few
    cases j with
    | zero => rw [attempt_zero, refused, isRefused]
    | succ j =>
      rw [shifted]
      exact rest j (by omega)
  cases ends with
  | bound few rest found chain held =>
    refine .bound (Nat.succ_lt_succ few) (before rest) ((shifted _).trans found) ?_ held
    rw [chain, decide_eq_true (Nat.succ_pos _), Bool.or_true, Bool.true_or]
  | exhausted rest held => exact .exhausted (before rest) held
  | senseless few rest wild =>
    exact .senseless (Nat.succ_lt_succ few) (before rest) ((shifted _).trans wild)

/-- **The search** holds the socket of the first attempt that is not refused, if that was bound. -/
theorem search_ends (os : SocketLayer ω) (host : String) (attempts : Nat) (port : Int) (chained : Bool)
    (w : ω × Ledger) :
    Ends os host attempts port chained w (search os.tracked host attempts port chained w) := by
  induction attempts generalizing port chained w with
  | zero => exact .exhausted nofun rfl
  | succ attempts ih =>
    have first := attempt_zero os host port w.1
    rw [search]
    rcases os.openAt_tracked_cases ⟨host, port⟩ w with ⟨socket, after, bound, noted⟩ |
      ⟨reason, after, refused, noted⟩ | ⟨reason, after, ledger, wild, noted⟩
    · rw [noted]
      refine .bound (Nat.succ_pos _) nofun (by rw [first, bound]) ?_ rfl
      rw [decide_eq_false (Nat.lt_irrefl 0), Bool.or_false]
    · rw [noted]
      exact .later refused (ih (port + 1) true _)
    · rw [noted]
      exact .senseless (Nat.succ_pos _) nofun (by rw [first, wild])

/-! ## Uses of a transport -/

/-- What a transport is used for: it is opened and closed, and it sends and receives. -/
inductive Use (ω : Type) where
  | call (call : Call ω)
  | send (destination : PhysicalAddress) (data : Bytes)
  | receive (room : Nat)

/-- A transport with the operating system and the ledger after it is used. -/
def Use.perform (os : SocketLayer ω) : Use ω → Hosted × ω × Ledger → Hosted × ω × Ledger
  | .call asked, s => asked.perform os s
  | .send destination data, s => ((transport os.tracked).send destination data s).2
  | .receive room, s => ((transport os.tracked).receive room s).2

/-- The uses of a history, each with the state in which it is made. -/
def moments (os : SocketLayer ω) : List (Use ω) → Hosted × ω × Ledger →
    List (Use ω × Hosted × ω × Ledger)
  | [], _ => []
  | use :: uses, s => (use, s) :: moments os uses (use.perform os s)

section

variable (os : SocketLayer ω) (host : String) (port : Int) (attempts : Nat)

/-- A call to open a closed transport binds the first port of the chain that can be bound.  It fails with a
fault of the link just if there is none, and a call that fails leaves the transport as it was. -/
structure Chains (s : Hosted × ω × Ledger) : Prop where
  bound : ∀ k < attempts, ∀ socket, (∀ j < k, (attempt os host port j s.2.1).isOk = false) →
    attempt os host port k s.2.1 = .ok socket →
    (s.1.openSocket os.tracked s.2).1 = .ok () ∧
      (s.1.openSocket os.tracked s.2).2.1.socket = some socket ∧
      (s.1.openSocket os.tracked s.2).2.1.chained = decide (0 < k)
  failed : (∃ fault, (s.1.openSocket os.tracked s.2).1 = .error (.link fault)) ↔
    ∀ k < attempts, (attempt os host port k s.2.1).isOk = false
  unchanged : ∀ fault, (s.1.openSocket os.tracked s.2).1 = .error fault →
    (s.1.openSocket os.tracked s.2).2.1 = s.1

/-- A use does what it should.  The transport holds its socket and no other after it. -/
structure Proper (moment : Use ω × Hosted × ω × Ledger) : Prop where
  owned : (moment.1.perform os moment.2).2.2.held = (moment.1.perform os moment.2).1.socket.toList
  chains : moment.1 = .call .open → moment.2.1.isOpen = false → Chains os host port attempts moment.2
  /-- Opening an open transport changes nothing. -/
  standing : moment.1 = .call .open → moment.2.1.isOpen = true →
    moment.2.1.openSocket os.tracked moment.2.2 = (.ok (), moment.2)
  /-- Closing a closed transport changes nothing. -/
  resting : moment.1 = .call .close → moment.2.1.isOpen = false →
    moment.2.1.close os.tracked moment.2.2 = moment.2

/-- Whether an attempt makes no sense, after others that failed. -/
def reachesPast (w : ω) : Bool :=
  decide (∃ k < attempts, (∀ j < k, (attempt os host port j w).isOk = false) ∧
    isSenseless (attempt os host port k w) = true)

/-- Whether a use is a call to open a closed transport with an attempt that makes no sense. -/
def overreaches : Use ω × Hosted × ω × Ledger → Bool
  | (.call .open, s) => !s.1.isOpen && reachesPast os host port attempts s.2.1
  | _ => false

end

/-! ## The ends of a call to open -/

lemma isOk_of_isRefused {answer : Except OsFault Socket} (refused : isRefused answer = true) :
    answer.isOk = false := by
  cases answer with
  | ok => cases refused
  | error => rfl

lemma isSenseless_of_isRefused {answer : Except OsFault Socket} (refused : isRefused answer = true) :
    isSenseless answer = false := by
  cases answer with
  | ok => rfl
  | error fault =>
    cases fault with
    | refused => rfl
    | senseless => cases refused

section

variable {attempts k : Nat} {w : ω}

lemma reachesPast_of_senseless {reason : String} (few : k < attempts)
    (before : ∀ j < k, isRefused (attempt os host port j w) = true)
    (wild : attempt os host port k w = .error (.senseless reason)) :
    reachesPast os host port attempts w = true :=
  decide_eq_true ⟨k, few, fun j less => isOk_of_isRefused (before j less), by rw [wild, isSenseless]⟩

lemma le_of_bound {i : Nat} {socket : Socket} (bound : attempt os host port k w = .ok socket)
    (earlier : ∀ j < i, (attempt os host port j w).isOk = false) : i ≤ k := by
  refine Nat.le_of_not_lt fun more => ?_
  have failed := earlier k more
  rw [bound] at failed
  cases failed

/-- There is only one attempt that succeeds after others that failed. -/
lemma first_unique {i : Nat} {socket other : Socket}
    (before : ∀ j < k, isRefused (attempt os host port j w) = true)
    (bound : attempt os host port k w = .ok socket)
    (earlier : ∀ j < i, (attempt os host port j w).isOk = false)
    (answer : attempt os host port i w = .ok other) : i = k ∧ other = socket := by
  rcases Nat.lt_or_eq_of_le (le_of_bound bound earlier) with less | rfl
  · have failed := isOk_of_isRefused (before i less)
    rw [answer] at failed
    cases failed
  · exact ⟨rfl, Except.ok.inj (answer.symm.trans bound)⟩

/-- The chain does not reach past an attempt that is bound after others that were refused. -/
lemma reachesPast_of_bound {socket : Socket}
    (before : ∀ j < k, isRefused (attempt os host port j w) = true)
    (bound : attempt os host port k w = .ok socket) : reachesPast os host port attempts w = false := by
  refine decide_eq_false ?_
  rintro ⟨i, -, earlier, wild⟩
  rcases Nat.lt_or_eq_of_le (le_of_bound bound earlier) with less | rfl
  · rw [isSenseless_of_isRefused (before i less)] at wild
    cases wild
  · rw [bound] at wild
    cases wild

lemma reachesPast_of_refused (refused : ∀ j < attempts, isRefused (attempt os host port j w) = true) :
    reachesPast os host port attempts w = false := by
  refine decide_eq_false ?_
  rintro ⟨i, few, -, wild⟩
  rw [isSenseless_of_isRefused (refused i few)] at wild
  cases wild

end

/-- **Ports that there are.**  A chain does not reach past ports that it makes sense to bind. -/
theorem overreaches_eq_false {attempts : Nat}
    (sensible : ∀ k < attempts, os.SensibleAt ⟨host, port + k⟩)
    (moment : Use ω × Hosted × ω × Ledger) : overreaches os host port attempts moment = false := by
  have short (w : ω) : reachesPast os host port attempts w = false := by
    refine decide_eq_false ?_
    rintro ⟨k, few, -, wild⟩
    cases found : attempt os host port k w with
    | ok socket =>
      rw [found] at wild
      cases wild
    | error fault =>
      obtain ⟨reason, rfl⟩ := (sensible k few).openAt found
      rw [found] at wild
      cases wild
  unfold overreaches
  split
  · rw [short, Bool.and_false]
  · rfl

lemma overreaches_of_ne {attempts : Nat} {use : Use ω} {s : Hosted × ω × Ledger}
    (other : use ≠ .call .open) : overreaches os host port attempts (use, s) = false := by
  cases use with
  | call asked =>
    cases asked with
    | «open» => exact absurd rfl other
    | close => rfl
    | outside change => rfl
  | send destination data => rfl
  | receive room => rfl

/-- A call to open that does what it should fails with a fault of the link, if it fails. -/
lemma Chains.link {attempts : Nat} {s : Hosted × ω × Ledger} (chains : Chains os host port attempts s)
    {fault : TransportFault} (raised : (s.1.openSocket os.tracked s.2).1 = .error fault) :
    ∃ cause, fault = .link cause := by
  -- An attempt that succeeds after others that failed would have been bound.
  have failed (k : Nat) : k < attempts → (attempt os host port k s.2.1).isOk = false := by
    induction k using Nat.strongRecOn with
    | ind k ih =>
      intro few
      cases found : attempt os host port k s.2.1 with
      | error => rfl
      | ok socket =>
        have returned := (chains.bound k few socket (fun j less => ih j less (by omega)) found).1
        rw [raised] at returned
        cases returned
  obtain ⟨cause, link⟩ := chains.failed.2 failed
  exact ⟨cause, Except.error.inj (raised.symm.trans link)⟩

/-- Where a bound socket can be reached is told, and the ledger is not touched. -/
lemma located_text (inet : os.Inet)
    (located : ∀ socket w, ∃ address, (os.localAddress socket w).1 = .ok address) (socket : Socket)
    (w : ω × Ledger) : ∃ address ip later, locate os.tracked socket w = (.ok address, later, w.2) ∧
      address.host = IPv4.text ip := by
  obtain ⟨address, there⟩ : ∃ address, (locate os socket w.1).1 = .ok address := by
    obtain ⟨address, answer⟩ := located socket w.1
    unfold locate
    split
    · rename_i lost
      rw [lost] at answer
      cases answer
    · split <;> exact ⟨_, rfl⟩
  obtain ⟨ip, named⟩ := locate_text inet there
  refine ⟨address, ip, (locate os socket w.1).2, ?_, named⟩
  rw [locate_tracked, SocketLayer.beside, there]

/-- A call that fails since every attempt was refused is what it should be. -/
lemma Chains.of_exhausted {attempts : Nat} {s : Hosted × ω × Ledger} {cause : LinkFault}
    {after : ω × Ledger}
    (opened : s.1.openSocket os.tracked s.2 = (.error (.link cause), s.1, after))
    (refused : ∀ k < attempts, isRefused (attempt os host port k s.2.1) = true) :
    Chains os host port attempts s where
  bound := by
    intro k few socket before found
    have failed := isOk_of_isRefused (refused k few)
    rw [found] at failed
    cases failed
  failed := by
    rw [opened]
    exact iff_of_true ⟨cause, rfl⟩ fun k few => isOk_of_isRefused (refused k few)
  unchanged := by
    rw [opened]
    exact fun _ _ => rfl

/-- A call that binds the first port that can be bound is what it should be. -/
lemma Chains.of_bound {attempts k : Nat} {s : Hosted × ω × Ledger} {socket : Socket}
    {later : Hosted} {after : ω × Ledger}
    (opened : s.1.openSocket os.tracked s.2 = (.ok (), later, after)) (few : k < attempts)
    (before : ∀ j < k, isRefused (attempt os host port j s.2.1) = true)
    (found : attempt os host port k s.2.1 = .ok socket) (holds : later.socket = some socket)
    (chained : later.chained = decide (0 < k)) : Chains os host port attempts s where
  bound := by
    intro i _ other earlier answer
    obtain ⟨rfl, rfl⟩ := first_unique before found earlier answer
    rw [opened]
    exact ⟨rfl, holds, chained⟩
  failed := by
    refine iff_of_false ?_ fun failed => ?_
    · rw [opened]
      rintro ⟨fault, raised⟩
      cases raised
    · have answer := failed k few
      rw [found] at answer
      cases answer
  unchanged := by
    rw [opened]
    intro fault raised
    cases raised

lemma openSocket_standing {w : ω} (standing : h.isOpen = true) :
    h.openSocket os w = (.ok (), h, w) := by
  rw [openSocket, if_pos standing]

lemma close_closed {w : ω} (closed : h.isOpen = false) : h.close os w = (h, w) := by
  have bare : h.socket = none := by simpa [isOpen] using closed
  rw [close, bare]

/-- A use is proper if the transport holds its socket after it and, if that is what it is, opening a closed
transport does what it should. -/
lemma Proper.of_held {attempts : Nat} {use : Use ω} {s : Hosted × ω × Ledger}
    (held : (use.perform os s).2.2.held = (use.perform os s).1.socket.toList)
    (chains : use = .call .open → s.1.isOpen = false → Chains os host port attempts s) :
    Proper os host port attempts (use, s) where
  owned := held
  chains := chains
  standing _ standing := openSocket_standing standing
  resting _ closed := close_closed closed

/-! ## Along a history -/

/-- What stays the same of a transport, and what it holds. -/
structure Steady (host : String) (port : Int) (attempts : Nat) (s : Hosted × ω × Ledger) : Prop where
  bindHost : s.1.bindHost = host
  firstPort : s.1.firstPort = port
  attempts_eq : s.1.attempts = attempts
  prefixLength : ∃ length : Nat, length ≤ 32 ∧ s.1.prefixLength = length
  held : s.2.2.held = s.1.socket.toList

lemma sendFrom_tracked (os : SocketLayer ω) (socket : Option Socket) (d : Delivery) (w : ω × Ledger) :
    (os.tracked.sendFrom socket d w).2.2 = w.2 := by
  unfold SocketLayer.sendFrom
  split
  · rfl
  · split <;> rename_i sent <;> exact congrArg (fun answer => answer.2.2) sent.symm

lemma receiveAt_tracked (os : SocketLayer ω) (socket : Option Socket) (room : Nat) (w : ω × Ledger) :
    (os.tracked.receiveAt socket room w).2.2 = w.2 := by
  unfold SocketLayer.receiveAt
  split
  · rfl
  · split <;> rename_i received <;> exact congrArg (fun answer => answer.2.2) received.symm

namespace Steady

variable {attempts : Nat} {s : Hosted × ω × Ledger}

/-- A bound socket whose address is known settles. -/
lemma settle (steady : Steady host port attempts s) {address : PhysicalAddress} {ip : IPv4}
    (named : address.host = ip.text) :
    ∃ octets, s.1.settle address
      = (.ok (), { s.1 with localAddress := some address, broadcast := some octets }) := by
  obtain ⟨length, le, short⟩ := steady.prefixLength
  cases known : s.1.broadcast with
  | some octets =>
    refine ⟨octets, ?_⟩
    rw [settle_of_some known]
    simp only [known]
  | none =>
    have derived := derivedBroadcast_text ip le
    rw [← named, ← short] at derived
    exact ⟨_, settle_of_none known derived⟩

/-- **One call to open** a closed transport reaches past the ports that there are and fails with that, or
it does what it should. -/
theorem openSocket (steady : Steady host port attempts s) (inet : os.Inet)
    (located : ∀ socket w, ∃ address, (os.localAddress socket w).1 = .ok address)
    (closed : s.1.isOpen = false) :
    (reachesPast os host port attempts s.2.1 = true ∧
        ∃ fault, (s.1.openSocket os.tracked s.2).1 = .error (.system fault)) ∨
      reachesPast os host port attempts s.2.1 = false ∧ Chains os host port attempts s ∧
        Steady host port attempts (s.1.openSocket os.tracked s.2).2 := by
  have bare : s.1.socket = none := by simpa [isOpen] using closed
  obtain rfl := steady.bindHost
  obtain rfl := steady.firstPort
  obtain rfl := steady.attempts_eq
  have ends := search_ends os s.1.bindHost s.1.attempts s.1.firstPort false s.2
  have exit := openSocket_exit os.tracked s.1 s.2
  obtain ⟨result, opened⟩ : ∃ result, s.1.openSocket os.tracked s.2 = result := ⟨_, rfl⟩
  rw [opened] at exit ⊢
  cases exit with
  | already standing =>
    rw [closed] at standing
    cases standing
  | exhausted _ found =>
    rw [found] at ends
    cases ends with
    | exhausted refused held =>
      refine .inr ⟨reachesPast_of_refused refused, .of_exhausted opened refused, ?_⟩
      exact { steady with held := held.trans steady.held }
  | senseless _ found =>
    rw [found] at ends
    cases ends with
    | senseless few before wild => exact .inl ⟨reachesPast_of_senseless few before wild, _, rfl⟩
  | @unlocated socket _ bound _ _ _ found lost =>
    obtain ⟨address, ip, later, told, -⟩ := located_text inet located socket bound
    rw [lost] at told
    cases told
  | @located socket chain bound _ address _ found there =>
    rw [found] at ends
    cases ends with
    | @bound _ _ _ later ledger few before answer chained held =>
      obtain ⟨same, ip, after, told, named⟩ := located_text inet located socket (later, ledger)
      rw [there] at told
      cases told
      -- Nothing was held before, so the new socket is the only one.
      have fresh : Steady s.1.bindHost s.1.firstPort s.1.attempts
          (s.1.binding socket chain, after, ledger) :=
        { steady with held := by rw [held, steady.held, bare]; rfl }
      obtain ⟨octets, settled⟩ := fresh.settle named
      rw [settled] at opened ⊢
      refine .inr ⟨reachesPast_of_bound before answer,
        .of_bound opened few before answer rfl chained, ?_⟩
      exact { fresh with }

lemma close (steady : Steady host port attempts s) :
    Steady host port attempts (s.1.close os.tracked s.2) := by
  rw [Hosted.close]
  cases bound : s.1.socket with
  | none => exact steady
  | some socket =>
    refine { steady with held := ?_ }
    show s.2.2.held.erase socket = []
    rw [steady.held, bound]
    exact List.erase_cons_head ..

lemma perform (steady : Steady host port attempts s) {use : Use ω} (other : use ≠ .call .open) :
    Steady host port attempts (use.perform os s) := by
  cases use with
  | call asked =>
    cases asked with
    | «open» => exact absurd rfl other
    | close => exact steady.close
    | outside change => exact { steady with }
  | send destination data =>
    refine { steady with held := ?_ }
    show (os.tracked.sendFrom s.1.socket ⟨destination, data⟩ s.2).2.2.held = _
    rw [sendFrom_tracked]
    exact steady.held
  | receive room =>
    refine { steady with held := ?_ }
    show (os.tracked.receiveAt s.1.socket room s.2).2.2.held = _
    rw [receiveAt_tracked]
    exact steady.held

/-- **One use** overreaches and is not proper, or it is proper and leaves the transport steady. -/
theorem step (steady : Steady host port attempts s) (inet : os.Inet)
    (located : ∀ socket w, ∃ address, (os.localAddress socket w).1 = .ok address) (use : Use ω) :
    (overreaches os host port attempts (use, s) = true ∧ ¬ Proper os host port attempts (use, s)) ∨
      overreaches os host port attempts (use, s) = false ∧ Proper os host port attempts (use, s) ∧
        Steady host port attempts (use.perform os s) := by
  by_cases opening : use = .call .open
  · subst opening
    cases closed : s.1.isOpen with
    | true =>
      have later : Steady host port attempts ((Use.call .open).perform os s) := by
        rw [Use.perform, Call.perform, openSocket_standing closed]
        exact steady
      refine .inr ⟨by rw [overreaches, closed]; rfl, .of_held later.held fun _ shut => ?_, later⟩
      rw [closed] at shut
      cases shut
    | false =>
      have judged : overreaches os host port attempts (.call .open, s)
          = reachesPast os host port attempts s.2.1 := by
        rw [overreaches, closed]
        rfl
      rw [judged]
      rcases steady.openSocket inet located closed with ⟨past, fault, raised⟩ | ⟨short, chains, later⟩
      · refine .inl ⟨past, fun fine => ?_⟩
        obtain ⟨cause, link⟩ := (fine.chains rfl closed).link raised
        cases link
      · exact .inr ⟨short, .of_held later.held fun _ _ => chains, later⟩
  · have later : Steady host port attempts (use.perform os s) := steady.perform opening
    exact .inr ⟨overreaches_of_ne opening, .of_held later.held fun asked => absurd asked opening, later⟩

lemma moments_iff (steady : Steady host port attempts s) (inet : os.Inet)
    (located : ∀ socket w, ∃ address, (os.localAddress socket w).1 = .ok address) (uses : List (Use ω)) :
    (∀ moment ∈ moments os uses s, Proper os host port attempts moment) ↔
      ∀ moment ∈ moments os uses s, overreaches os host port attempts moment = false := by
  induction uses generalizing s with
  | nil => simp [moments]
  | cons use uses ih =>
    rw [moments, List.forall_mem_cons, List.forall_mem_cons]
    rcases steady.step inet located use with ⟨past, improper⟩ | ⟨short, proper, later⟩
    · refine iff_of_false (fun all => improper all.1) fun all => ?_
      rw [past] at all
      cases all.1
    · exact and_congr (iff_of_true proper short) (ih later)

end Steady

/-- A new transport is steady. -/
lemma steady_of_create {bindHost : String} {firstPort prefixLength chainLength : Int}
    {broadcast : Option String} (made : create bindHost firstPort broadcast prefixLength chainLength = .ok h)
    (low : 0 ≤ prefixLength) (high : prefixLength ≤ 32) (w : ω) :
    Steady bindHost firstPort (if firstPort = 0 then 1 else chainLength.toNat) (h, w, {}) := by
  obtain ⟨length, rfl⟩ := Int.eq_ofNat_of_zero_le low
  have le : length ≤ 32 := by omega
  unfold create at made
  split at made
  · cases made
  · split at made
    · cases made
      exact ⟨rfl, rfl, rfl, ⟨length, le, rfl⟩, rfl⟩
    · split at made <;> cases made
      exact ⟨rfl, rfl, rfl, ⟨length, le, rfl⟩, rfl⟩

/-- **Each call is proper just if none overreaches.**  Take a new transport with any first port and any
chain of ports, over an operating system that may refuse any call but that for the address of a socket,
and any history of opening, closing, sending and receiving.  Each call to open binds the first port of the
chain that can be bound, or fails with the fault of a chain that cannot be bound; each call leaves the
transport with its socket and no other; and there is nothing to open twice or to close twice.  This is so
just if no call to open comes to a port that it makes no sense to bind. -/
theorem chains_unless_overreaches {bindHost : String} {firstPort prefixLength chainLength : Int}
    {broadcast : Option String} (made : create bindHost firstPort broadcast prefixLength chainLength = .ok h)
    (low : 0 ≤ prefixLength) (high : prefixLength ≤ 32) (inet : os.Inet)
    (located : ∀ socket w, ∃ address, (os.localAddress socket w).1 = .ok address) (uses : List (Use ω))
    (w : ω) :
    (∀ moment ∈ moments os uses (h, w, {}),
        Proper os bindHost firstPort (if firstPort = 0 then 1 else chainLength.toNat) moment) ↔
      ∀ moment ∈ moments os uses (h, w, {}),
        overreaches os bindHost firstPort (if firstPort = 0 then 1 else chainLength.toNat) moment = false :=
  (steady_of_create made low high w).moments_iff inet located uses

end RollCall.Hosted

namespace RollCall

/-- The host at 10.1.2.3, where some ports are taken. -/
def SmallOs.taking (ports : List Int) : SmallOs := { ip := .ofNumber 0x0a010203, taken := ports }

lemma SmallOs.layer_located (socket : Socket) (os : SmallOs) :
    ∃ address, (layer.localAddress socket os).1 = .ok address := ⟨_, rfl⟩

/-- Only a port that there is not makes no sense. -/
lemma SmallOs.layer_sensibleAt {address : PhysicalAddress} (low : 0 ≤ address.port)
    (high : address.port ≤ 65535) : layer.SensibleAt address where
  create := nofun
  allowBroadcast := nofun
  bind := by
    intro socket os fault failed
    have range : ¬ (address.port < 0 ∨ 65535 < address.port) := by omega
    simp only [layer, bind, if_neg range] at failed
    split at failed <;> cases failed
    exact ⟨_, rfl⟩
  stopBlocking := nofun

namespace Hosted

/-- A transport with a first port, and else as it is where nothing is asked for. -/
def chainFrom (port : Int) : Hosted := { plain 24 with firstPort := port }

/-- A transport is opened when two ports are taken, sends and receives, is opened and closed twice, opened
in vain, and opened again when the first port is free. -/
def errand : List (Use SmallOs) :=
  [.call .open, .send ⟨"10.1.2.9", 25560⟩ [1, 2], .receive 8, .call .open, .call .close, .call .close,
    .call (.outside fun os => { os with taken := [65531, 65532, 65533, 65534, 65535] }), .call .open,
    .call (.outside fun os => { os with taken := [] }), .call .open]

/-- How the calls to open go: whether they return, and what the transport has and holds after them. -/
def openingsOf (moments : List (Use SmallOs × Hosted × SmallOs × Ledger)) :
    List (Bool × Option Socket × Bool × List Socket) :=
  moments.filterMap fun
    | (.call .open, s) =>
      let answer := s.1.openSocket SmallOs.layer.tracked s.2
      some (answer.1.isOk, answer.2.1.socket, answer.2.1.chained, answer.2.2.2.held)
    | _ => none

/-- With the last five ports that there are, each use is proper. -/
theorem chains_unless_overreaches_errand :
    create anyHost 65531 none 24 5 = .ok (chainFrom 65531) ∧
    openingsOf (moments SmallOs.layer errand (chainFrom 65531, SmallOs.taking [65531, 65532], {}))
      = [(true, some 2, true, [2]), (true, some 2, true, [2]), (false, none, true, []),
        (true, some 8, false, [8])] ∧
    ∀ moment ∈ moments SmallOs.layer errand (chainFrom 65531, SmallOs.taking [65531, 65532], {}),
      Proper SmallOs.layer anyHost 65531 5 moment := by
  have made : create anyHost 65531 none 24 5 = .ok (chainFrom 65531) := rfl
  refine ⟨made, by decide +kernel, ?_⟩
  refine (chains_unless_overreaches made (by decide) (by decide) SmallOs.layer_inet
    SmallOs.layer_located errand _).2 fun moment _ => ?_
  refine overreaches_eq_false (fun k few => SmallOs.layer_sensibleAt ?_ ?_) moment
  · show 0 ≤ 65531 + (k : Int)
    omega
  · change k < 5 at few
    show 65531 + (k : Int) ≤ 65535
    omega

/-- A chain from the last port, which is taken: no port of the chain can be bound, but the call to open
fails with what binding the next one fails with, and the closed transport holds the socket for that. -/
theorem not_every_chain_ends :
    create anyHost 65535 none 24 5 = .ok (chainFrom 65535) ∧
    ((chainFrom 65535).openSocket SmallOs.layer.tracked (SmallOs.taking [65535], {})).1
      = .error (.system (.senseless "no such port")) ∧
    openingsOf (moments SmallOs.layer [.call .open] (chainFrom 65535, SmallOs.taking [65535], {}))
      = [(false, none, false, [1])] ∧
    (∀ k < 5, (attempt SmallOs.layer anyHost 65535 k (SmallOs.taking [65535])).isOk = false) ∧
    ¬ ∀ moment ∈ moments SmallOs.layer [.call .open] (chainFrom 65535, SmallOs.taking [65535], {}),
      Proper SmallOs.layer anyHost 65535 5 moment := by
  have made : create anyHost 65535 none 24 5 = .ok (chainFrom 65535) := rfl
  refine ⟨made, by decide +kernel, by decide +kernel, by decide +kernel, fun proper => ?_⟩
  have steady := steady_of_create made (by decide) (by decide) (SmallOs.taking [65535])
  have short := (steady.moments_iff SmallOs.layer_inet SmallOs.layer_located _).1 proper
  exact absurd (short _ List.mem_cons_self) (by decide +kernel)

end Hosted

end RollCall
