import RollCall.Proofs.Lan

/-!
# Calls of simulated networks

Each call of a network is put beside what it hands over and what it takes, and the two sides balance
at every endpoint: what a call takes of a queue, followed by what is then in it, is what was in it
before, followed by what the call sends to the endpoint and is not lost.  The losses that are owed
are an account of their own, and so is the log.

* `Call`, `perform` — the calls, and a network after one.
* `Call.owing`, `Call.carried` — the losses owed after a call, and what it sends and is not lost.
* `selects` — whether a datagram is for an endpoint.
* `Extends` — what every call leaves alone; `Enlarges` — what a call that adds hosts or ports does.
* `loss_perform`, `balance_perform`, `log_perform` — losses, queues and the log after a call.
-/

namespace RollCall.Lan

/-- A call of a network, or of the host with a number. -/
inductive Call where
  | attach (text : Option String)
  | bind (number : Nat) (port : Option Int)
  | send (number : Nat) (transit : Transit)
  | receive (number : Nat) (port : Int)
  | injectLoss (count : Int)
  | startLog
  | takeLog
deriving DecidableEq, Repr

/-- The network after a call.  What a failed call has changed before it failed stays changed. -/
def perform (lan : Lan) : Call → Lan
  | .attach text =>
    match lan.attach text with
    | .ok (_, after) => after
    | .error _ => lan
  | .bind number asked =>
    match lan.hosts[number]? with
    | some host =>
      match lan.bind number host asked with
      | .ok (_, after) => after
      | .error _ => lan
    | none => lan
  | .send number transit => (lan.send number transit).2
  | .receive number port => (lan.pop number port).2
  | .injectLoss count =>
    match lan.injectLoss count with
    | .ok after => after
    | .error _ => lan
  | .startLog => lan.startLog
  | .takeLog => lan.takeLog.2

/-- A call to bind a port of a host opens an endpoint: the host's address and the port. -/
def Opens (lan : Lan) (number : Nat) (asked : Option Int) (ip : IPv4) (port : Int) : Prop :=
  ∃ host after, lan.hosts[number]? = some host ∧ host.ip = ip ∧
    lan.bind number host asked = .ok (⟨ip.text, port⟩, after)

/-! ## What the calls hand over and take -/

namespace Call

/-- Whether the hosts of what is sent are written as numbers with dots between them. -/
def isReadable : Call → Bool
  | send _ transit => transit.source.octets.isOk && transit.destination.octets.isOk
  | _ => true

/-- What a call sends. -/
@[simp] def sent : Call → List Transit
  | send _ transit => [transit]
  | _ => []

/-- How many losses a call asks for. -/
def losses : Call → Nat
  | injectLoss count => count.toNat
  | _ => 0

/-- How many losses are owed after a call: what is sent pays one. -/
def owing (due : Nat) (call : Call) : Nat := due + call.losses - call.sent.length

/-- What a call sends and is not lost, with the number of the host that sends it. -/
@[simp] def carried (due : Nat) : Call → List (Nat × Transit)
  | send number transit => if due = 0 then [(number, transit)] else []
  | _ => []

/-- What a call takes of the queue of a port. -/
@[simp] def taken (lan : Lan) (number : Nat) (port : Int) : Call → List Transit
  | receive n p => if n = number ∧ p = port then (lan.pop n p).1.toList else []
  | _ => []

/-- What a call takes of the log. -/
@[simp] def logged (lan : Lan) : Call → List Transit
  | takeLog => lan.takeLog.1
  | _ => []

end Call

/-- Whether a datagram of a host is for an endpoint: the ports are the same, and it is a broadcast,
which does not come back to the endpoint that it names as its source unless broadcasts come back; or
it goes to the local address of the sender's host, or to the address of the endpoint. -/
def selects (lan : Lan) (number : Nat) (ip : IPv4) (port : Int) (parcel : Nat × Transit) : Bool :=
  parcel.2.destination.port == port &&
  match parcel.2.destination.octets with
  | .error _ => false
  | .ok octets =>
    if lan.isBroadcast octets then
      lan.loopback ||
        !(parcel.2.source.octets.toOption == some ip.bytes && parcel.2.source.port == port)
    else if octets = IPv4.localhost.bytes then parcel.1 == number
    else octets == ip.bytes

/-! ## What calls leave alone -/

variable {lan : Lan} {number : Nat} {ip : IPv4} {port : Int}

/-- The settings of a network stay, and so does every endpoint that is open. -/
structure Extends (before after : Lan) : Prop where
  block : after.block = before.block
  broadcast : after.broadcast = before.broadcast
  loopback : after.loopback = before.loopback
  kept : ∀ {number ip port}, before.Open number ip port → after.Open number ip port

lemma Extends.refl (lan : Lan) : Extends lan lan := ⟨rfl, rfl, rfl, id⟩

lemma Extends.trans {first second third : Lan} (a : Extends first second)
    (b : Extends second third) : Extends first third :=
  ⟨b.block.trans a.block, b.broadcast.trans a.broadcast, b.loopback.trans a.loopback,
    fun opened => b.kept (a.kept opened)⟩

lemma Extends.selects {before after : Lan} (more : Extends before after) :
    after.selects = before.selects := by
  funext number ip port parcel
  rw [Lan.selects, Lan.selects, more.loopback]
  cases parcel.2.destination.octets with
  | error fault => rfl
  | ok octets =>
    have same : after.isBroadcast octets = before.isBroadcast octets := by
      rw [isBroadcast, isBroadcast, more.broadcast]
    dsimp only
    rw [same]

lemma Extends.of_alike {before after : Lan} (alike : Alike before after)
    (block : after.block = before.block) : Extends before after :=
  ⟨block, alike.broadcast, alike.loopback, fun opened => opened.alike alike⟩

/-! ## Every queue after a call -/

/-- No two hosts have the same address. -/
def Distinct (lan : Lan) : Prop := (lan.hosts.map LanHost.ip).Nodup

lemma queueOf_attach {after : Lan} {text : Option String} (attached : lan.attach text = .ok (ip, after))
    (n : Nat) (p : Int) : after.queueOf n p = lan.queueOf n p := by
  obtain ⟨-, rfl⟩ := attach_ok attached
  rw [queueOf, queueOf]
  rcases Nat.lt_trichotomy n lan.hosts.length with old | new | none
  · rw [List.getElem?_append_left old]
  · subst new
    simp [LanHost.queue?]
  · rw [List.getElem?_eq_none (by simp; omega), List.getElem?_eq_none (by omega)]

lemma queueOf_bind {after : Lan} {host : LanHost} {asked : Option Int} {address : PhysicalAddress}
    (there : lan.hosts[number]? = some host)
    (bound : lan.bind number host asked = .ok (address, after)) (n : Nat) (p : Int) :
    after.queueOf n p = lan.queueOf n p := by
  obtain ⟨-, -, rfl⟩ := bind_ok bound
  rw [queueOf_updateHost]
  by_cases here : n = number
  · subst here
    rw [if_pos rfl, queueOf, there, Option.bind_some, Option.bind_some]
    simp only [LanHost.queue?, List.find?_append]
    cases host.ports.find? fun port => port.port == p with
    | some _ => rfl
    | none => by_cases same : address.port = p <;> simp [same]
  · rw [if_neg here]

/-- The host that a datagram to one host goes to is the one of an endpoint just when the datagram is
for the local address of that host or for its address. -/
lemma target?_eq_iff {sender : Nat} {octets : Bytes} (distinct : lan.Distinct)
    (opened : lan.Open number ip port) : lan.target? sender octets = some number ↔
      if octets = IPv4.localhost.bytes then sender = number else octets = ip.bytes := by
  have found : lan.hostAt? ip.bytes = some number := opened.hostAt? (by
    rw [plan, List.map_map]
    exact distinct)
  rw [target?]
  split
  · rw [Option.some.injEq]
  · constructor
    · intro known
      obtain ⟨host, there, rfl, -⟩ := open_iff.1 opened
      obtain ⟨inside, same, -⟩ := List.findIdx?_eq_some_iff_getElem.1 known
      rw [(List.getElem?_eq_some_iff.1 there).2] at same
      exact (beq_iff_eq.1 same).symm
    · rintro rfl
      exact found

lemma selects_of_broadcast {sender : Nat} {transit : Transit} {octets source : Bytes}
    (address : transit.destination.octets = .ok octets) (named : lan.isBroadcast octets = true)
    (origin : transit.source.octets = .ok source) :
    lan.selects number ip port (sender, transit) = true ↔ transit.destination.port = port ∧
      (lan.loopback = true ∨ ¬ (source = ip.bytes ∧ transit.source.port = port)) := by
  rw [selects, address, origin]
  dsimp only
  rw [if_pos named]
  grind [Except.toOption]

lemma selects_of_unicast (sender : Nat) {transit : Transit} {octets : Bytes}
    (distinct : lan.Distinct) (opened : lan.Open number ip port)
    (address : transit.destination.octets = .ok octets) (unicast : lan.isBroadcast octets = false) :
    lan.selects number ip port (sender, transit) = true ↔
      transit.destination.port = port ∧ lan.target? sender octets = some number := by
  rw [target?_eq_iff distinct opened, selects, address]
  dsimp only
  rw [unicast, if_neg Bool.false_ne_true]
  split <;> simp

/-- A datagram that is sent and not lost stands at the end of the queue of every endpoint that it is
for, and no other queue changes. -/
lemma queueOf_send {sender : Nat} {transit : Transit} (distinct : lan.Distinct)
    (readable : (Call.send sender transit).isReadable = true) (opened : lan.Open number ip port) :
    (lan.send sender transit).2.queueOf number port = lan.queueOf number port
      ++ (((Call.send sender transit).carried lan.loss).filter (lan.selects number ip port)).map
        Prod.snd := by
  by_cases paid : lan.loss = 0
  · have one : (((Call.send sender transit).carried lan.loss).filter
        (lan.selects number ip port)).map Prod.snd
        = if lan.selects number ip port (sender, transit) then [transit] else [] := by
      rw [Call.carried, if_pos paid, List.filter_singleton]
      cases lan.selects number ip port (sender, transit) <;> rfl
    rw [one]
    obtain ⟨host, there, rfl, bound⟩ := open_iff.1 opened
    simp only [Call.isReadable, Bool.and_eq_true] at readable
    cases origin : transit.source.octets with
    | error _ => simp [origin, Except.isOk, Except.toBool] at readable
    | ok source =>
      cases address : transit.destination.octets with
      | error _ => simp [address, Except.isOk, Except.toBool] at readable
      | ok octets =>
        cases named : lan.isBroadcast octets with
        | true =>
          obtain ⟨after, sent, -, -, queues⟩ :=
            send_broadcast sender transit paid address named origin
          rw [sent, queues]
          congr 1
          refine if_congr ?_ rfl rfl
          rw [selects_of_broadcast address named origin, there]
          simp only [Option.any_some, isSender]
          grind
        | false =>
          have goes := selects_of_unicast sender distinct opened address named
          cases known : lan.target? sender octets with
          | none =>
            have missed : ¬ lan.selects number host.ip port (sender, transit) = true := by
              rw [goes, known]
              simp
            rw [send_nowhere sender transit paid address named known, if_neg missed, List.append_nil]
            rfl
          | some target =>
            obtain ⟨after, sent, -, -, queues⟩ := send_host sender transit paid address named known
            rw [sent, queues]
            congr 1
            refine if_congr ?_ rfl rfl
            rw [goes, known, there]
            by_cases here : port = transit.destination.port
            · subst here
              simp [bound, eq_comm]
            · simp [here, Ne.symm here]
  · obtain ⟨after, sent, -, -, queues⟩ := send_of_loss (Nat.pos_of_ne_zero paid) sender transit
    rw [sent, queues, Call.carried, if_neg paid]
    simp

/-- What is taken of a queue stood before the rest of it, and no other queue changes. -/
lemma queueOf_receive (lan : Lan) (n : Nat) (p : Int) (number : Nat) (port : Int) :
    (Call.receive n p).taken lan number port ++ (lan.pop n p).2.queueOf number port
      = lan.queueOf number port := by
  rw [Call.taken]
  cases queue : lan.queueOf n p with
  | nil =>
    rw [pop_of_nil queue]
    split <;> rfl
  | cons transit rest =>
    obtain ⟨after, popped, -, -, queues⟩ := pop_of_cons queue
    rw [popped, queues]
    by_cases here : n = number ∧ p = port
    · obtain ⟨rfl, rfl⟩ := here
      simp [queue]
    · rw [if_neg here, if_neg (by rwa [eq_comm, @eq_comm _ port])]
      rfl

/-! ## One call -/

lemma perform_injectLoss (count : Int) :
    lan.perform (.injectLoss count) = { lan with loss := lan.loss + count.toNat } := by
  rw [perform, Lan.injectLoss]
  by_cases negative : count < 0
  · rw [if_pos negative, show count.toNat = 0 by omega]
    rfl
  · rw [if_neg negative]

lemma perform_startLog : lan.perform .startLog = { lan with log := some (lan.log.getD []) } := rfl

lemma perform_takeLog : lan.perform .takeLog = { lan with log := lan.log.map fun _ => [] } := by
  rw [perform, takeLog]
  split
  · rename_i unstarted
    rw [unstarted, Option.map_none, ← unstarted]
  · rename_i entries started
    rw [started]
    rfl

/-- What is sent changes queues, pays a loss if one is owed, and is recorded. -/
lemma after_send (lan : Lan) (number : Nat) (transit : Transit) :
    Alike lan (lan.send number transit).2 ∧ (lan.send number transit).2.block = lan.block ∧
      (lan.send number transit).2.loss = lan.loss - 1 ∧
      (lan.send number transit).2.log = lan.log.map (· ++ [transit]) := by
  rw [send]
  split
  · exact ⟨⟨rfl, rfl, rfl⟩, rfl, rfl, rfl⟩
  · rename_i paid
    have none : lan.loss = lan.loss - 1 := by
      have paid : ¬ 0 < lan.loss := paid
      omega
    have recorded : Alike lan (lan.record transit) := ⟨rfl, rfl, rfl⟩
    simp only [route, deliverBroadcast]
    split
    · exact ⟨recorded, rfl, none, rfl⟩
    · split
      · split
        · exact ⟨⟨plan_map_deliver, rfl, rfl⟩, rfl, none, rfl⟩
        · split <;> exact ⟨recorded, rfl, none, rfl⟩
      · split
        · exact ⟨recorded, rfl, none, rfl⟩
        · exact ⟨⟨plan_updateHost _ fun host => ⟨rfl, host.ports_updateQueue _ _⟩, rfl, rfl⟩, rfl,
            none, rfl⟩

/-- What is taken of a queue changes that queue alone. -/
lemma after_pop (lan : Lan) (number : Nat) (port : Int) :
    Alike lan (lan.pop number port).2 ∧ (lan.pop number port).2.block = lan.block ∧
      (lan.pop number port).2.loss = lan.loss ∧ (lan.pop number port).2.log = lan.log := by
  rw [pop]
  split
  · exact ⟨.refl lan, rfl, rfl, rfl⟩
  · exact ⟨⟨plan_updateHost number fun host => ⟨rfl, host.ports_updateQueue _ _⟩, rfl, rfl⟩, rfl,
      rfl, rfl⟩

/-- Hosts and ports are added, and nothing else happens. -/
structure Enlarges (before after : Lan) : Prop where
  more : Extends before after
  distinct : before.Distinct → after.Distinct
  loss : after.loss = before.loss
  log : after.log = before.log
  queues : ∀ n p, after.queueOf n p = before.queueOf n p

lemma Enlarges.refl (lan : Lan) : Enlarges lan lan := ⟨.refl lan, id, rfl, rfl, fun _ _ => rfl⟩

lemma Enlarges.attach {after : Lan} {text : Option String}
    (attached : lan.attach text = .ok (ip, after)) : Enlarges lan after := by
  have kept {n : Nat} {ip : IPv4} {p : Int} (opened : lan.Open n ip p) : after.Open n ip p := by
    obtain ⟨host, there, address, bound⟩ := open_iff.1 opened
    obtain ⟨-, rfl⟩ := attach_ok attached
    refine open_iff.2 ⟨host, ?_, address, bound⟩
    rw [List.getElem?_append_left (List.getElem?_eq_some_iff.1 there).1]
    exact there
  have queues := queueOf_attach attached
  have distinct (distinct : lan.Distinct) := distinct_attach distinct attached
  obtain ⟨-, rfl⟩ := attach_ok attached
  exact ⟨⟨rfl, rfl, rfl, kept⟩, distinct, rfl, rfl, queues⟩

lemma Enlarges.bind {after : Lan} {host : LanHost} {asked : Option Int} {address : PhysicalAddress}
    (there : lan.hosts[number]? = some host)
    (bound : lan.bind number host asked = .ok (address, after)) : Enlarges lan after := by
  have kept {n : Nat} {ip : IPv4} {p : Int} (opened : lan.Open n ip p) : after.Open n ip p := by
    obtain ⟨other, here, own, listens⟩ := open_iff.1 opened
    obtain ⟨-, -, rfl⟩ := bind_ok bound
    by_cases same : number = n
    · subst same
      obtain rfl : host = other := by simpa [there] using here
      refine open_iff.2 ⟨{ host with ports := host.ports ++ [{ port := address.port }] },
        by simp [updateHost, there], own, ?_⟩
      rw [LanHost.isBound_iff] at listens ⊢
      rw [List.map_append]
      exact List.mem_append_left _ listens
    · exact open_iff.2 ⟨other, by simp [updateHost, same, here], own, listens⟩
  have queues := queueOf_bind there bound
  have distinct (distinct : lan.Distinct) : after.Distinct := by
    rw [Distinct, ips_bind there bound]
    exact distinct
  obtain ⟨-, -, rfl⟩ := bind_ok bound
  exact ⟨⟨rfl, rfl, rfl, kept⟩, distinct, rfl, rfl, queues⟩

lemma enlarges_attach (lan : Lan) (text : Option String) :
    Enlarges lan (lan.perform (.attach text)) := by
  rw [perform]
  split
  · rename_i attached
    exact .attach attached
  · exact .refl lan

lemma enlarges_bind (lan : Lan) (number : Nat) (asked : Option Int) :
    Enlarges lan (lan.perform (.bind number asked)) := by
  rw [perform]
  split
  · rename_i there
    split
    · rename_i bound
      exact .bind there bound
    · exact .refl lan
  · exact .refl lan

/-- A call changes no setting and closes no endpoint. -/
lemma Extends.perform (lan : Lan) (call : Call) : Extends lan (lan.perform call) := by
  cases call with
  | attach text => exact (enlarges_attach lan text).more
  | bind n asked => exact (enlarges_bind lan n asked).more
  | send n transit => exact .of_alike (after_send lan n transit).1 (after_send lan n transit).2.1
  | receive n p => exact .of_alike (after_pop lan n p).1 (after_pop lan n p).2.1
  | injectLoss count =>
    rw [perform_injectLoss]
    exact ⟨rfl, rfl, rfl, id⟩
  | startLog => exact ⟨rfl, rfl, rfl, id⟩
  | takeLog =>
    rw [perform_takeLog]
    exact ⟨rfl, rfl, rfl, id⟩

lemma Distinct.of_alike {before after : Lan} (distinct : before.Distinct)
    (alike : Alike before after) : after.Distinct := by
  have same : after.plan.map Prod.fst = before.plan.map Prod.fst := by rw [alike.plan]
  rw [plan, plan, List.map_map, List.map_map] at same
  exact (congrArg List.Nodup same).mpr distinct

lemma Distinct.perform (distinct : lan.Distinct) (call : Call) : (lan.perform call).Distinct := by
  cases call with
  | attach text => exact (enlarges_attach lan text).distinct distinct
  | bind n asked => exact (enlarges_bind lan n asked).distinct distinct
  | send n transit => exact distinct.of_alike (after_send lan n transit).1
  | receive n p => exact distinct.of_alike (after_pop lan n p).1
  | injectLoss count => rwa [perform_injectLoss]
  | startLog => exact distinct
  | takeLog => rwa [perform_takeLog]

/-- The losses that are owed are those that the account says. -/
lemma loss_perform (call : Call) : (lan.perform call).loss = call.owing lan.loss := by
  cases call with
  | attach text => exact (enlarges_attach lan text).loss
  | bind n asked => exact (enlarges_bind lan n asked).loss
  | send n transit => exact (after_send lan n transit).2.2.1
  | receive n p => exact (after_pop lan n p).2.2.1
  | injectLoss count => rw [perform_injectLoss]; rfl
  | startLog => rfl
  | takeLog => rw [perform_takeLog]; rfl

/-- **What an endpoint takes and holds** after a call is what it held before and what the call carries
to it. -/
theorem balance_perform {call : Call} (distinct : lan.Distinct) (readable : call.isReadable = true)
    (opened : lan.Open number ip port) :
    call.taken lan number port ++ (lan.perform call).queueOf number port
      = lan.queueOf number port
        ++ ((call.carried lan.loss).filter (lan.selects number ip port)).map Prod.snd := by
  cases call with
  | attach text => simpa using (enlarges_attach lan text).queues number port
  | bind n asked => simpa using (enlarges_bind lan n asked).queues number port
  | send sender transit => exact queueOf_send distinct readable opened
  | receive n p => exact (queueOf_receive lan n p number port).trans (by simp)
  | injectLoss count => simp [perform_injectLoss, queueOf]
  | startLog => simp [perform_startLog, queueOf]
  | takeLog => simp [perform_takeLog, queueOf]

/-- **What is taken of the log and what it holds** after a call is what it held before and what the
call sends. -/
theorem log_perform {entries : List Transit} (call : Call) (started : lan.log = some entries) :
    ∃ rest, (lan.perform call).log = some rest ∧ call.logged lan ++ rest = entries ++ call.sent := by
  cases call with
  | attach text => exact ⟨entries, (enlarges_attach lan text).log.trans started, by simp⟩
  | bind n asked => exact ⟨entries, (enlarges_bind lan n asked).log.trans started, by simp⟩
  | send n transit =>
    exact ⟨entries ++ [transit], by rw [perform, (after_send lan n transit).2.2.2, started]; rfl,
      by simp⟩
  | receive n p => exact ⟨entries, (after_pop lan n p).2.2.2.trans started, by simp⟩
  | injectLoss count => exact ⟨entries, by rw [perform_injectLoss, started], by simp⟩
  | startLog => exact ⟨entries, by rw [perform_startLog, started]; rfl, by simp⟩
  | takeLog =>
    exact ⟨[], by rw [perform_takeLog, started]; rfl, by simp [Call.logged, takeLog, started]⟩

/-- Without a log nothing is taken of it, and it is started by its own call only. -/
lemma no_log_perform {call : Call} (other : call ≠ .startLog) (unstarted : lan.log = none) :
    (lan.perform call).log = none ∧ call.logged lan = [] := by
  cases call with
  | attach text => exact ⟨(enlarges_attach lan text).log.trans unstarted, rfl⟩
  | bind n asked => exact ⟨(enlarges_bind lan n asked).log.trans unstarted, rfl⟩
  | send n transit => exact ⟨by rw [perform, (after_send lan n transit).2.2.2, unstarted]; rfl, rfl⟩
  | receive n p => exact ⟨(after_pop lan n p).2.2.2.trans unstarted, rfl⟩
  | injectLoss count => exact ⟨by rw [perform_injectLoss, unstarted], rfl⟩
  | startLog => exact absurd rfl other
  | takeLog => exact ⟨by rw [perform_takeLog, unstarted]; rfl, by simp [Call.logged, takeLog, unstarted]⟩

end RollCall.Lan
