import Mathlib.Algebra.GroupWithZero.Nat
import RollCall.Proofs.Lan.Calls

/-!
# Histories of simulated networks

A network is known by the calls that were made of it.  What was taken of a queue over a series of
calls, followed by what is still in it, is what was sent to the endpoint since it was opened and was
not lost; losses swallow as many datagrams as were asked for; and the log holds all that was sent.

* `run` — a network after a series of calls.
* `owing`, `carried`, `taken`, `logged` — what a series of calls leaves owed, carries and takes.
* `balance_run` — what is taken and what waits at an endpoint, over any series of calls.
* `History`, `run_history` — queues, losses, refusals and the log along every run of a new network.
-/

namespace RollCall.Lan

/-- The network after a series of calls. -/
def run (lan : Lan) (calls : List Call) : Lan := calls.foldl perform lan

/-- What is sent by a series of calls, in order. -/
def sent (calls : List Call) : List Transit := calls.flatMap Call.sent

/-- How many losses are owed after a series of calls. -/
def owing (due : Nat) (calls : List Call) : Nat := calls.foldl Call.owing due

/-- What is sent by a series of calls and not lost, in order, each with the number of its sender. -/
def carried (due : Nat) : List Call → List (Nat × Transit)
  | [] => []
  | call :: calls => call.carried due ++ carried (call.owing due) calls

/-- What a series of calls takes of the queue of a port, in order. -/
def taken (lan : Lan) (number : Nat) (port : Int) : List Call → List Transit
  | [] => []
  | call :: calls => call.taken lan number port ++ (lan.perform call).taken number port calls

/-- What a series of calls takes of the log, in order. -/
def logged (lan : Lan) : List Call → List Transit
  | [] => []
  | call :: calls => call.logged lan ++ (lan.perform call).logged calls

variable {lan : Lan} {number : Nat} {ip : IPv4} {port : Int}

/-! ## Series of calls -/

lemma run_append (lan : Lan) (first second : List Call) :
    lan.run (first ++ second) = (lan.run first).run second :=
  List.foldl_append ..

lemma owing_append (due : Nat) (first second : List Call) :
    owing due (first ++ second) = owing (owing due first) second :=
  List.foldl_append ..

lemma Extends.run (lan : Lan) (calls : List Call) : Extends lan (lan.run calls) := by
  induction calls generalizing lan with
  | nil => exact .refl lan
  | cons call calls ih => exact (Extends.perform lan call).trans (ih (lan.perform call))

lemma Distinct.run (distinct : lan.Distinct) (calls : List Call) : (lan.run calls).Distinct := by
  induction calls generalizing lan with
  | nil => exact distinct
  | cons call calls ih => exact ih (distinct.perform call)

lemma loss_run (lan : Lan) (calls : List Call) : (lan.run calls).loss = owing lan.loss calls := by
  induction calls generalizing lan with
  | nil => rfl
  | cons call calls ih =>
    show ((lan.perform call).run calls).loss = owing (call.owing lan.loss) calls
    rw [ih, loss_perform]

/-- **What was taken of an open endpoint and what waits there**, over a series of calls. -/
theorem balance_run {calls : List Call} (distinct : lan.Distinct)
    (readable : ∀ call ∈ calls, call.isReadable = true) (opened : lan.Open number ip port) :
    lan.taken number port calls ++ (lan.run calls).queueOf number port
      = lan.queueOf number port
        ++ ((carried lan.loss calls).filter (lan.selects number ip port)).map Prod.snd := by
  induction calls generalizing lan with
  | nil => simp [taken, carried, run]
  | cons call calls ih =>
    have more := Extends.perform lan call
    have first := balance_perform distinct (readable call List.mem_cons_self) opened
    have rest := ih (distinct.perform call) (fun c among => readable c (List.mem_cons_of_mem _ among))
      (more.kept opened)
    rw [more.selects, loss_perform] at rest
    show call.taken lan number port ++ (lan.perform call).taken number port calls
        ++ ((lan.perform call).run calls).queueOf number port = _
    rw [List.append_assoc, rest, ← List.append_assoc, first, carried, List.filter_append,
      List.map_append, List.append_assoc]

/-- What was taken of the log and what it holds, over a series of calls. -/
lemma log_run {entries : List Transit} (calls : List Call) (started : lan.log = some entries) :
    lan.logged calls ++ (lan.run calls).log.getD [] = entries ++ sent calls := by
  induction calls generalizing lan entries with
  | nil => simp [logged, run, sent, started]
  | cons call calls ih =>
    obtain ⟨rest, held, balance⟩ := log_perform call started
    show call.logged lan ++ (lan.perform call).logged calls
        ++ ((lan.perform call).run calls).log.getD [] = entries ++ (call.sent ++ sent calls)
    rw [List.append_assoc, ih held, ← List.append_assoc, balance, List.append_assoc]

lemma no_log_run {calls : List Call} (others : ∀ call ∈ calls, call ≠ .startLog)
    (unstarted : lan.log = none) : (lan.run calls).log = none ∧ lan.logged calls = [] := by
  induction calls generalizing lan with
  | nil => exact ⟨unstarted, rfl⟩
  | cons call calls ih =>
    obtain ⟨still, nothing⟩ := no_log_perform (others call List.mem_cons_self) unstarted
    obtain ⟨last, rest⟩ := ih (fun c among => others c (List.mem_cons_of_mem _ among)) still
    exact ⟨last, by rw [logged, nothing, rest]; rfl⟩

lemma logged_append (lan : Lan) (first second : List Call) :
    lan.logged (first ++ second) = lan.logged first ++ (lan.run first).logged second := by
  induction first generalizing lan with
  | nil => rfl
  | cons call calls ih =>
    rw [List.cons_append, logged, logged, ih, List.append_assoc]
    rfl

lemma taken_append (lan : Lan) (first second : List Call) : lan.taken number port (first ++ second)
    = lan.taken number port first ++ (lan.run first).taken number port second := by
  induction first generalizing lan with
  | nil => rfl
  | cons call calls ih =>
    rw [List.cons_append, taken, taken, ih, List.append_assoc]
    rfl

/-- As long as no more losses are asked for, those that are owed swallow the next datagrams, as many
as they are, and no others. -/
lemma carried_eq_drop {calls : List Call} (due : Nat) (none : ∀ call ∈ calls, call.losses = 0) :
    (carried due calls).map Prod.snd = (sent calls).drop due := by
  induction calls generalizing due with
  | nil => simp [carried, sent]
  | cons call calls ih =>
    have rest := ih (call.owing due) fun c among => none c (List.mem_cons_of_mem _ among)
    have free := none call List.mem_cons_self
    rw [carried, List.map_append, rest, Call.owing, free]
    cases call with
    | send number transit => cases due <;> simp [sent]
    | _ => simp [sent]

/-- Whatever else is called, losses that are owed swallow what is sent next. -/
lemma carried_eq_nil {calls : List Call} {due : Nat} (enough : (sent calls).length ≤ due) :
    carried due calls = [] := by
  induction calls generalizing due with
  | nil => rfl
  | cons call calls ih =>
    have both : call.sent.length + (sent calls).length ≤ due := by
      simpa [sent] using enough
    rw [carried, ih (by rw [Call.owing]; omega), List.append_nil]
    cases call with
    | send number transit =>
      rw [Call.sent, List.length_singleton] at both
      exact if_neg (by omega)
    | _ => rfl

/-- Every loss that is asked for swallows one datagram, or is still owed. -/
lemma length_carried (due : Nat) (calls : List Call) :
    (carried due calls).length + (calls.map Call.losses).sum + due
      = (sent calls).length + owing due calls := by
  induction calls generalizing due with
  | nil => simp [carried, sent, owing]
  | cons call calls ih =>
    have rest := ih (call.owing due)
    have here : (call.carried due).length + call.losses + due = call.sent.length + call.owing due := by
      cases call with
      | send number transit =>
        show _ + 0 + due = 1 + (due + 0 - 1)
        rw [Call.carried]
        split <;> simp only [List.length_nil, List.length_singleton] <;> omega
      | _ => simp [Call.owing, Nat.add_comm]
    show (call.carried due ++ carried (call.owing due) calls).length
        + (call.losses + (calls.map Call.losses).sum) + due
      = (call.sent ++ sent calls).length + owing (call.owing due) calls
    rw [List.length_append, List.length_append]
    omega

/-! ## Endpoints from their opening on -/

lemma open_of_attach {after : Lan} {text : Option String} {new : IPv4}
    (attached : lan.attach text = .ok (new, after)) (opened : after.Open number ip port) :
    lan.Open number ip port := by
  obtain ⟨-, rfl⟩ := attach_ok attached
  obtain ⟨host, there, own, listens⟩ := open_iff.1 opened
  rw [List.getElem?_append] at there
  split at there
  · exact open_iff.2 ⟨host, there, own, listens⟩
  · -- The new host listens nowhere.
    obtain rfl := List.mem_singleton.1 (List.mem_of_getElem? there)
    rw [LanHost.isBound_iff] at listens
    cases listens

/-- An endpoint that is open after a port is bound was open before, or is the one of that port. -/
lemma open_of_bind {after : Lan} {n : Nat} {host : LanHost} {asked : Option Int}
    {address : PhysicalAddress} (there : lan.hosts[n]? = some host)
    (bound : lan.bind n host asked = .ok (address, after)) (opened : after.Open number ip port) :
    lan.Open number ip port ∨ n = number ∧ lan.Opens number asked ip port := by
  obtain ⟨other, here, own, listens⟩ := open_iff.1 opened
  obtain ⟨text, -, set⟩ := bind_ok bound
  rw [set] at here
  by_cases same : n = number
  · subst same
    obtain rfl : { host with ports := host.ports ++ [{ port := address.port }] } = other := by
      simpa [updateHost, there] using here
    rw [LanHost.isBound_iff, List.map_append] at listens
    rcases List.mem_append.1 listens with old | new
    · exact .inl (open_iff.2 ⟨host, there, own, (host.isBound_iff port).2 old⟩)
    · refine .inr ⟨rfl, host, after, there, own, ?_⟩
      obtain rfl : port = address.port := List.mem_singleton.1 new
      rw [bound, ← own]
      show Except.ok (address, after) = .ok (⟨host.text, address.port⟩, after)
      rw [← text]
  · exact .inl (open_iff.2 ⟨other, by simpa [updateHost, same] using here, own, listens⟩)

lemma Alike.symm {before after : Lan} (alike : Alike before after) : Alike after before :=
  ⟨alike.plan.symm, alike.broadcast.symm, alike.loopback.symm⟩

lemma open_of_perform {call : Call} (opened : (lan.perform call).Open number ip port) :
    lan.Open number ip port ∨
      ∃ asked, call = .bind number asked ∧ lan.Opens number asked ip port := by
  cases call with
  | attach text =>
    rw [perform] at opened
    split at opened
    · rename_i attached
      exact .inl (open_of_attach attached opened)
    · exact .inl opened
  | bind n asked =>
    rw [perform] at opened
    split at opened
    · rename_i there
      split at opened
      · rename_i bound
        rcases open_of_bind there bound opened with old | ⟨rfl, new⟩
        · exact .inl old
        · exact .inr ⟨asked, rfl, new⟩
      · exact .inl opened
    · exact .inl opened
  | send n transit => exact .inl (opened.alike (after_send lan n transit).1.symm)
  | receive n p => exact .inl (opened.alike (after_pop lan n p).1.symm)
  | injectLoss count =>
    rw [perform_injectLoss] at opened
    exact .inl opened
  | startLog => exact .inl opened
  | takeLog =>
    rw [perform_takeLog] at opened
    exact .inl opened

/-- Every endpoint that is open was opened by a call. -/
lemma opens_of_run {calls : List Call} (opened : (lan.run calls).Open number ip port) :
    lan.Open number ip port ∨ ∃ before asked after, calls = before ++ .bind number asked :: after ∧
      (lan.run before).Opens number asked ip port := by
  induction calls generalizing lan with
  | nil => exact .inl opened
  | cons call calls ih =>
    rcases ih opened with early | ⟨before, asked, after, rfl, opens⟩
    · rcases open_of_perform early with old | ⟨asked, rfl, opens⟩
      · exact .inl old
      · exact .inr ⟨[], asked, calls, rfl, opens⟩
    · exact .inr ⟨call :: before, asked, after, rfl, opens⟩

lemma Opens.opened {asked : Option Int} (opens : lan.Opens number asked ip port) :
    (lan.perform (.bind number asked)).Open number ip port := by
  obtain ⟨host, after, there, own, bound⟩ := opens
  obtain ⟨-, -, set⟩ := bind_ok bound
  have done : lan.perform (.bind number asked) = after := by
    simp only [perform, there, bound]
  rw [done, set, open_iff]
  refine ⟨{ host with ports := host.ports ++ [{ port := port }] }, by simp [updateHost, there], own, ?_⟩
  rw [LanHost.isBound_iff]
  simp

/-- A port is bound but once. -/
lemma Opens.closed {asked : Option Int} (opens : lan.Opens number asked ip port) (address : IPv4) :
    ¬ lan.Open number address port := by
  obtain ⟨host, after, there, own, bound⟩ := opens
  obtain ⟨-, free, -⟩ := bind_ok bound
  intro opened
  obtain ⟨other, here, -, listens⟩ := open_iff.1 opened
  obtain rfl : host = other := by simpa [there] using here
  rw [free] at listens
  cases listens

lemma queueOf_of_closed (closed : ∀ ip, ¬ lan.Open number ip port) : lan.queueOf number port = [] := by
  rw [queueOf]
  cases there : lan.hosts[number]? with
  | none => rfl
  | some host =>
    cases queue : host.queue? port with
    | none => rw [Option.bind_some, queue]; rfl
    | some _ => exact absurd (open_iff.2 ⟨host, there, rfl, by rw [LanHost.isBound, queue]; rfl⟩) (closed _)

/-- Nothing is taken of an endpoint before it is opened. -/
lemma taken_of_closed {calls : List Call} (closed : ∀ ip, ¬ (lan.run calls).Open number ip port) :
    lan.taken number port calls = [] := by
  induction calls generalizing lan with
  | nil => rfl
  | cons call calls ih =>
    have before : ∀ ip, ¬ lan.Open number ip port := fun ip opened =>
      closed ip ((Extends.run lan (call :: calls)).kept opened)
    have empty := queueOf_of_closed before
    rw [taken, ih closed, List.append_nil]
    cases call with
    | receive n p =>
      rw [Call.taken]
      split
      · rename_i here
        obtain ⟨rfl, rfl⟩ := here
        rw [pop_of_nil empty]
        rfl
      · rfl
    | _ => rfl

/-- What is taken of an endpoint, and what waits there, from its opening on. -/
lemma balance_from_opening {before after : List Call} {asked : Option Int} (distinct : lan.Distinct)
    (readable : ∀ call ∈ after, call.isReadable = true)
    (opens : (lan.run before).Opens number asked ip port) :
    lan.taken number port (before ++ .bind number asked :: after)
        ++ (lan.run (before ++ .bind number asked :: after)).queueOf number port
      = ((carried (owing lan.loss before) after).filter (lan.selects number ip port)).map Prod.snd := by
  have enlarges := enlarges_bind (lan.run before) number asked
  have settings := (Extends.run lan before).trans enlarges.more
  have empty : ((lan.run before).perform (.bind number asked)).queueOf number port = [] := by
    rw [enlarges.queues, queueOf_of_closed opens.closed]
  have balance := balance_run ((distinct.run before).perform (.bind number asked)) readable opens.opened
  rw [empty, List.nil_append, settings.selects, enlarges.loss, loss_run] at balance
  rw [taken_append, taken_of_closed opens.closed, run_append]
  exact balance

/-! ## Refusals -/

/-- Octets that name no host: they are no broadcast, not the local address, and no host has them. -/
def Nowhere (lan : Lan) (octets : Bytes) : Prop :=
  lan.isBroadcast octets = false ∧ octets ≠ IPv4.localhost.bytes ∧
    ∀ host ∈ lan.hosts, host.ip.bytes ≠ octets

lemma nowhere_iff {octets : Bytes} (sender : Nat) : lan.Nowhere octets ↔
    lan.isBroadcast octets = false ∧ lan.target? sender octets = none := by
  refine and_congr_right fun _ => ?_
  rw [target?, hostAt?]
  split <;> simp [*]

/-- A datagram whose destination is somewhere is not refused. -/
lemma send_somewhere {sender : Nat} {transit : Transit} {octets : Bytes}
    (readable : (Call.send sender transit).isReadable = true) (paid : lan.loss = 0)
    (address : transit.destination.octets = .ok octets) (somewhere : ¬ lan.Nowhere octets) :
    (lan.send sender transit).1 = .ok () := by
  rw [nowhere_iff sender, not_and_or] at somewhere
  cases named : lan.isBroadcast octets with
  | true =>
    simp only [Call.isReadable, Bool.and_eq_true] at readable
    cases origin : transit.source.octets with
    | error _ => simp [origin, Except.isOk, Except.toBool] at readable
    | ok source =>
      obtain ⟨after, sent, -⟩ := send_broadcast sender transit paid address named origin
      rw [sent]
  | false =>
    cases known : lan.target? sender octets with
    | none => simp [named, known] at somewhere
    | some target =>
      obtain ⟨after, sent, -⟩ := send_host sender transit paid address named known
      rw [sent]

/-! ## Runs of a new network -/

/-- What the calls of a run say of the network after it. -/
structure History (lan : Lan) (calls : List Call) : Prop where
  /-- Every open endpoint was opened by a call. -/
  opened : ∀ {number ip port}, (lan.run calls).Open number ip port →
    ∃ before asked after, calls = before ++ .bind number asked :: after ∧
      (lan.run before).Opens number asked ip port
  /-- What was taken of an endpoint, and then what waits there, is what was sent to it since it was
  opened and not lost, in the order in which it was sent. -/
  queues : ∀ {before number asked after ip port}, calls = before ++ .bind number asked :: after →
    (lan.run before).Opens number asked ip port →
    lan.taken number port calls ++ (lan.run calls).queueOf number port
      = ((carried (owing 0 before) after).filter (lan.selects number ip port)).map Prod.snd
  /-- While losses are owed, whatever is sent is lost, and no sender is told. -/
  swallowed : ∀ {before number transit after}, calls = before ++ .send number transit :: after →
    owing 0 before ≠ 0 → ((lan.run before).send number transit).1 = .ok () ∧
      ∀ n p, ((lan.run before).send number transit).2.queueOf n p = (lan.run before).queueOf n p
  /-- Losses that are asked for, together with those that are owed, swallow the next datagrams, as
  many as they are, whatever is called meanwhile. -/
  lost : ∀ {before count next after}, calls = before ++ .injectLoss count :: (next ++ after) →
    (sent next).length ≤ owing 0 before + count.toNat →
    carried (owing 0 (before ++ [.injectLoss count])) next = []
  /-- They swallow no others, unless more are asked for. -/
  spared : ∀ {before count after}, calls = before ++ .injectLoss count :: after →
    (∀ call ∈ after, call.losses = 0) →
    (carried (owing 0 (before ++ [.injectLoss count])) after).map Prod.snd
      = (sent after).drop (owing 0 before + count.toNat)
  /-- Every loss that is asked for swallows one datagram, or is still owed. -/
  account : (carried 0 calls).length + (calls.map Call.losses).sum
    = (sent calls).length + owing 0 calls
  /-- What is not lost and goes nowhere is refused, and no queue changes. -/
  refused : ∀ {before number transit after octets}, calls = before ++ .send number transit :: after →
    owing 0 before = 0 → transit.destination.octets = .ok octets → (lan.run before).Nowhere octets →
    ((lan.run before).send number transit).1
        = .error (.link (.unreachable transit.destination lan.block)) ∧
      ∀ n p, ((lan.run before).send number transit).2.queueOf n p = (lan.run before).queueOf n p
  /-- What goes somewhere is not refused. -/
  accepted : ∀ {before number transit after octets}, calls = before ++ .send number transit :: after →
    owing 0 before = 0 → transit.destination.octets = .ok octets →
    ¬ (lan.run before).Nowhere octets → ((lan.run before).send number transit).1 = .ok ()
  /-- What was taken of the log, and then what it holds, is what was sent since it was started. -/
  log : ∀ {before after}, calls = before ++ .startLog :: after → (∀ call ∈ before, call ≠ .startLog) →
    lan.logged calls ++ (lan.run calls).log.getD [] = sent after

/-- A new network has no hosts, owes no losses and keeps no log. -/
lemma of_create {subnet : String} {prefixLength : Int} {broadcast : Option String}
    {loopback : Bool} (made : Lan.create subnet prefixLength broadcast loopback = .ok lan) :
    lan.hosts = [] ∧ lan.loss = 0 ∧ lan.log = none := by
  rw [Lan.create] at made
  split at made
  · cases made
  · split at made
    · cases made
      exact ⟨rfl, rfl, rfl⟩
    · split at made <;> cases made
      exact ⟨rfl, rfl, rfl⟩

/-- **A network delivers what it is given.**  Along every run of a new network, each endpoint gives
out what was sent to it and not lost, in order; losses swallow as many datagrams as were asked for;
what has nowhere to go is refused; and the log holds all that was sent. -/
theorem run_history {subnet : String} {prefixLength : Int} {broadcast : Option String}
    {loopback : Bool} {calls : List Call}
    (made : Lan.create subnet prefixLength broadcast loopback = .ok lan)
    (readable : ∀ call ∈ calls, call.isReadable = true) : History lan calls := by
  obtain ⟨hosts, paid, unstarted⟩ := of_create made
  have distinct : lan.Distinct := by simp [Distinct, hosts]
  have owed (before : List Call) : (lan.run before).loss = owing 0 before := by
    rw [loss_run, paid]
  constructor
  case opened =>
    intro number ip port opened
    rcases opens_of_run opened with old | new
    · obtain ⟨host, there, -⟩ := open_iff.1 old
      rw [hosts] at there
      cases there
    · exact new
  case queues =>
    rintro before number asked after ip port rfl opens
    rw [balance_from_opening distinct (fun call among => readable call (by simp [among])) opens, paid]
  case swallowed =>
    rintro before number transit after rfl due
    rw [← owed] at due
    obtain ⟨next, sent, -, -, queues⟩ := send_of_loss (Nat.pos_of_ne_zero due) number transit
    rw [sent]
    exact ⟨rfl, queues⟩
  case lost =>
    rintro before count next after rfl few
    refine carried_eq_nil ?_
    rw [owing_append]
    exact few
  case spared =>
    rintro before count after rfl none
    rw [carried_eq_drop _ none, owing_append]
    rfl
  case account => exact length_carried 0 calls
  case refused =>
    rintro before number transit after octets rfl due address nowhere
    rw [← owed] at due
    obtain ⟨named, unknown⟩ := (nowhere_iff number).1 nowhere
    rw [send_nowhere number transit due address named unknown, (Extends.run lan before).block]
    exact ⟨rfl, fun _ _ => rfl⟩
  case accepted =>
    rintro before number transit after octets rfl due address somewhere
    rw [← owed] at due
    exact send_somewhere (readable _ (by simp)) due address somewhere
  case log =>
    rintro before after rfl others
    obtain ⟨none, nothing⟩ := no_log_run others unstarted
    have started : ((lan.run before).perform .startLog).log = some [] := by
      rw [perform_startLog, none]
      rfl
    rw [logged_append, nothing, run_append]
    exact log_run after started

/-- A new network on which broadcasts do not come back. -/
def quiet : Lan where
  block := .around (.ofNumber 0x0A000000) 24 (Nat.le_add_right 24 8)
  broadcast := .ofNumber 0x0A0000FF
  loopback := false

/-- A datagram from one of the first hosts of the network to an address, from port to port. -/
def parcelTo (destination : String) (number : Nat) : Call :=
  .send number ⟨⟨s!"10.0.0.{number + 1}", udpPort⟩, ⟨destination, udpPort⟩, []⟩

/-- The first host sends a broadcast; the second host sends to an unknown address while a loss is
owed, and to itself; it takes one datagram; then the first host sends to an unknown address. -/
def exchange : List Call :=
  [.startLog, .attach none, .attach none, .bind 0 none, .bind 1 none, parcelTo "10.0.0.255" 0,
    .injectLoss 1, parcelTo "10.0.0.9" 1, parcelTo "127.0.0.1" 1, .receive 1 udpPort,
    parcelTo "10.0.0.9" 0, .takeLog]

lemma create_quiet : Lan.create "10.0.0.0" 24 none false = .ok quiet := by
  decide +kernel

theorem run_history_exchange :
    History quiet exchange ∧
    (quiet.taken 1 udpPort exchange).map Transit.destination = [⟨"10.0.0.255", udpPort⟩] ∧
    ((quiet.run exchange).queueOf 1 udpPort).map Transit.destination = [⟨"127.0.0.1", udpPort⟩] ∧
    (quiet.run exchange).queueOf 0 udpPort = [] ∧ (quiet.logged exchange).length = 4 :=
  ⟨run_history create_quiet (by decide +kernel), by decide +kernel, by decide +kernel,
    by decide +kernel, by decide +kernel⟩

end RollCall.Lan
