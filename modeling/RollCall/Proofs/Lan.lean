import Mathlib.Data.List.Nodup
import RollCall.Lan
import RollCall.Proofs.Address

/-!
# Queues of simulated networks

Traffic on a simulated network changes its queues and nothing of how it was set up.  A datagram that
is sent is lost, or is put at the end of every queue that its destination names; one that is taken is
the first of its queue.

* `plan` — the addresses and the bound ports; `Open` — a host with an address and a bound port.
* `send_of_loss`, `send_broadcast`, `send_host`, `send_nowhere` — what becomes of a datagram that is
  sent.
* `pop_of_nil`, `pop_of_cons` — what is taken from a queue.
* `SetUp` — networks as they are set up: addresses are distinct and queues are empty.
-/

namespace RollCall

namespace LanHost

variable (host : LanHost) (port : Int) (change : List Transit → List Transit)

@[simp] lemma queue?_updateQueue (p : Int) : (host.updateQueue port change).queue? p
    = if p = port then (host.queue? p).map change else host.queue? p := by
  simp only [queue?, updateQueue]
  induction host.ports with
  | nil => simp
  | cons bound ports ih =>
    by_cases here : bound.port = p
    · subst here
      by_cases same : bound.port = port <;> simp [same]
    · have moved : (if bound.port = port then { bound with queue := change bound.queue }
          else bound).port = bound.port := by
        split <;> rfl
      rw [List.map_cons, List.find?_cons_of_neg (by simpa [moved] using here),
        List.find?_cons_of_neg (by simpa using here)]
      exact ih

@[simp] lemma ip_updateQueue : (host.updateQueue port change).ip = host.ip := rfl

@[simp] lemma ports_updateQueue : (host.updateQueue port change).ports.map BoundPort.port
    = host.ports.map BoundPort.port := by
  rw [updateQueue, List.map_map]
  refine List.map_congr_left fun bound _ => ?_
  rw [Function.comp_apply]
  split <;> rfl

/-- A port is bound if it is among the bound ports. -/
lemma isBound_iff : host.isBound port = true ↔ port ∈ host.ports.map BoundPort.port := by
  simp [isBound, queue?]

end LanHost

namespace Lan

variable {lan : Lan} {number target : Nat} {port : Int} {transit : Transit} {ip : IPv4}

/-! ## What traffic leaves alone -/

/-- The addresses of the hosts, each with the bound ports. -/
def plan (lan : Lan) : List (IPv4 × List Int) :=
  lan.hosts.map fun host => (host.ip, host.ports.map BoundPort.port)

/-- Traffic changes neither the addresses and ports nor the settings of a network. -/
structure Alike (before after : Lan) : Prop where
  plan : after.plan = before.plan
  broadcast : after.broadcast = before.broadcast
  loopback : after.loopback = before.loopback

lemma Alike.refl (lan : Lan) : Alike lan lan := ⟨rfl, rfl, rfl⟩

/-- A host with an address, and a port of it that is bound. -/
def Open (lan : Lan) (number : Nat) (ip : IPv4) (port : Int) : Prop :=
  ∃ ports, lan.plan[number]? = some (ip, ports) ∧ port ∈ ports

lemma Open.alike {before after : Lan} (opened : before.Open number ip port)
    (alike : Alike before after) : after.Open number ip port := by
  rw [Open, alike.plan]
  exact opened

lemma open_iff : lan.Open number ip port ↔
    ∃ host, lan.hosts[number]? = some host ∧ host.ip = ip ∧ host.isBound port = true := by
  constructor
  · rintro ⟨ports, here, bound⟩
    simp only [plan, List.getElem?_map, Option.map_eq_some_iff, Prod.mk.injEq] at here
    obtain ⟨host, there, rfl, rfl⟩ := here
    exact ⟨host, there, rfl, (host.isBound_iff port).2 bound⟩
  · rintro ⟨host, there, rfl, bound⟩
    exact ⟨_, by simp [plan, there], (host.isBound_iff port).1 bound⟩

/-- Where addresses are distinct, a host is found by its address. -/
lemma Open.hostAt? (opened : lan.Open number ip port)
    (distinct : (lan.plan.map Prod.fst).Nodup) : lan.hostAt? ip.bytes = some number := by
  obtain ⟨host, there, rfl, -⟩ := open_iff.1 opened
  obtain ⟨inside, here⟩ := List.getElem?_eq_some_iff.1 there
  rw [Lan.hostAt?, List.findIdx?_eq_some_iff_getElem]
  refine ⟨inside, by simp [here], ?_⟩
  intro j before same
  rw [plan, List.map_map] at distinct
  have apart := List.pairwise_iff_getElem.1 distinct j number (by simp; omega) (by simpa) before
  simp only [List.getElem_map, Function.comp_apply, here] at apart
  exact apart (IPv4.bytes_injective (by simpa using same))

/-- A host with an address, and the common port bound. -/
def Sited (lan : Lan) (number : Nat) (ip : IPv4) : Prop :=
  ∃ ports, lan.plan[number]? = some (ip, ports) ∧ udpPort ∈ ports

lemma Sited.opened (sited : lan.Sited number ip) : lan.Open number ip udpPort := sited

lemma Sited.alike {before after : Lan} (sited : before.Sited number ip)
    (alike : Alike before after) : after.Sited number ip :=
  sited.opened.alike alike

lemma Sited.host (sited : lan.Sited number ip) :
    ∃ host, lan.hosts[number]? = some host ∧ host.ip = ip ∧ host.isBound udpPort = true :=
  open_iff.1 sited.opened

lemma Sited.hostAt? (sited : lan.Sited number ip) (distinct : (lan.plan.map Prod.fst).Nodup) :
    lan.hostAt? ip.bytes = some number :=
  sited.opened.hostAt? distinct

lemma plan_updateHost {change : LanHost → LanHost} (number : Nat)
    (keeps : ∀ host, (change host).ip = host.ip ∧
      (change host).ports.map BoundPort.port = host.ports.map BoundPort.port) :
    (lan.updateHost number change).plan = lan.plan := by
  apply List.ext_getElem?
  intro n
  simp only [plan, updateHost, List.getElem?_map, List.getElem?_modify]
  cases lan.hosts[n]? with
  | none => simp
  | some host =>
    by_cases here : number = n <;> simp [here, keeps]

lemma queueOf_updateHost {change : LanHost → LanHost} (lan : Lan) (target number : Nat)
    (port : Int) : (lan.updateHost target change).queueOf number port
      = if number = target then
          (lan.hosts[number]?.bind fun host => (change host).queue? port).getD []
        else lan.queueOf number port := by
  rw [queueOf, queueOf, updateHost, List.getElem?_modify]
  by_cases here : target = number
  · subst here
    cases lan.hosts[target]? <;> simp
  · cases lan.hosts[number]? <;> simp [here, Ne.symm here]

/-! ## Sending -/

/-- While a loss is due, a datagram is lost. -/
lemma send_of_loss (due : 0 < lan.loss) (number : Nat) (transit : Transit) :
    ∃ after, lan.send number transit = (.ok (), after) ∧ Alike lan after ∧
      after.loss = lan.loss - 1 ∧ ∀ n p, after.queueOf n p = lan.queueOf n p := by
  refine ⟨{ lan.record transit with loss := lan.loss - 1 }, ?_, ⟨rfl, rfl, rfl⟩, rfl, fun _ _ => rfl⟩
  rw [send]
  exact if_pos due

lemma queueOf_map_deliver {skips : LanHost → Bool} (n : Nat) (p : Int) :
    { lan with
      hosts := lan.hosts.map fun host =>
        if skips host then host else host.deliver port transit }.queueOf n p
      = lan.queueOf n p
        ++ if p = port ∧ lan.hosts[n]?.any (fun host => host.isBound p && !skips host) then [transit]
          else [] := by
  simp only [queueOf, List.getElem?_map]
  cases lan.hosts[n]? with
  | none => simp
  | some host =>
    cases skipped : skips host with
    | true => simp [skipped]
    | false =>
      by_cases here : p = port
      · cases queue : host.queue? port <;>
          simp [skipped, here, LanHost.deliver, queue, LanHost.isBound]
      · simp [skipped, here, LanHost.deliver]

lemma plan_map_deliver {skips : LanHost → Bool} :
    { lan with
      hosts := lan.hosts.map fun host =>
        if skips host then host else host.deliver port transit }.plan = lan.plan := by
  simp only [plan, List.map_map]
  refine List.map_congr_left fun host _ => ?_
  rw [Function.comp_apply]
  split
  · rfl
  · simp [LanHost.deliver]

/-- **A broadcast** is put at the end of the queue of every endpoint that has its port, but for the
one that sent it, unless broadcasts come back. -/
theorem send_broadcast (number : Nat) (transit : Transit) {octets source : Bytes} (paid : lan.loss = 0)
    (address : transit.destination.octets = .ok octets) (named : lan.isBroadcast octets = true)
    (origin : transit.source.octets = .ok source) :
    ∃ after, lan.send number transit = (.ok (), after) ∧ Alike lan after ∧ after.loss = 0 ∧
      ∀ n p, after.queueOf n p = lan.queueOf n p
        ++ if p = transit.destination.port ∧ lan.hosts[n]?.any (fun host => host.isBound p &&
            !(isSender host p source transit.source && !lan.loopback)) then [transit] else [] := by
  have none : ¬ 0 < (lan.record transit).loss := by
    show ¬ 0 < lan.loss
    omega
  have sent : lan.send number transit = (lan.record transit).deliverBroadcast transit := by
    rw [send, if_neg none, route, address]
    dsimp only
    exact if_pos named
  rw [sent, deliverBroadcast, origin]
  refine ⟨_, rfl, ⟨plan_map_deliver, rfl, rfl⟩, paid, ?_⟩
  intro n p
  rw [queueOf_map_deliver]
  show lan.queueOf n p ++ _ = _
  by_cases here : p = transit.destination.port
  · subst here
    rfl
  · simp [here]

/-- The number of the host that a datagram to one host goes to: the sender's own for the local
address, and otherwise the one that has the address. -/
def target? (lan : Lan) (number : Nat) (octets : Bytes) : Option Nat :=
  if octets = IPv4.localhost.bytes then some number else lan.hostAt? octets

/-- **A datagram to one host** is put at the end of the queue of its port. -/
theorem send_host (number : Nat) (transit : Transit) {octets : Bytes} (paid : lan.loss = 0)
    (address : transit.destination.octets = .ok octets) (unicast : lan.isBroadcast octets = false)
    (known : lan.target? number octets = some target) :
    ∃ after, lan.send number transit = (.ok (), after) ∧ Alike lan after ∧ after.loss = 0 ∧
      ∀ n p, after.queueOf n p = lan.queueOf n p
        ++ if n = target ∧ p = transit.destination.port ∧
            lan.hosts[n]?.any (fun host => host.isBound p) then [transit] else [] := by
  have none : ¬ 0 < (lan.record transit).loss := by
    show ¬ 0 < lan.loss
    omega
  have sent : lan.send number transit = (.ok (), (lan.record transit).updateHost target
      fun host => host.deliver transit.destination.port transit) := by
    rw [send, if_neg none, route, address]
    dsimp only
    have unnamed : (lan.record transit).isBroadcast octets = false := unicast
    have found : (if octets = IPv4.localhost.bytes then some number
        else (lan.record transit).hostAt? octets) = some target := known
    rw [unnamed, if_neg Bool.false_ne_true, found]
  rw [sent]
  refine ⟨_, rfl, ⟨plan_updateHost target fun host => ⟨rfl, host.ports_updateQueue _ _⟩, rfl, rfl⟩,
    paid, ?_⟩
  intro n p
  rw [queueOf_updateHost]
  show (if n = target then (lan.hosts[n]?.bind _).getD [] else lan.queueOf n p) = _
  by_cases here : n = target
  · subst here
    simp only [queueOf, LanHost.deliver, LanHost.queue?_updateQueue, LanHost.isBound, true_and,
      if_true]
    cases lan.hosts[n]? with
    | none => simp
    | some host =>
      by_cases there : p = transit.destination.port
      · subst there
        cases queue : host.queue? transit.destination.port <;> simp [queue]
      · simp [there]
  · simp [here]

lemma send_unicast (number : Nat) (transit : Transit) (paid : lan.loss = 0)
    (address : transit.destination.octets = .ok ip.bytes)
    (unicast : lan.isBroadcast ip.bytes = false) (elsewhere : ip ≠ .localhost)
    (known : lan.hostAt? ip.bytes = some target) :
    ∃ after, lan.send number transit = (.ok (), after) ∧ Alike lan after ∧ after.loss = 0 ∧
      ∀ n p, after.queueOf n p = lan.queueOf n p
        ++ if n = target ∧ p = transit.destination.port ∧
            lan.hosts[n]?.any (fun host => host.isBound p) then [transit] else [] := by
  have other : ip.bytes ≠ IPv4.localhost.bytes := fun same =>
    elsewhere (IPv4.bytes_injective same)
  refine send_host number transit paid address unicast ?_
  rw [target?, if_neg other, known]

/-- **A datagram to an address that no host has** is refused, and recorded all the same. -/
theorem send_nowhere (number : Nat) (transit : Transit) {octets : Bytes} (paid : lan.loss = 0)
    (address : transit.destination.octets = .ok octets) (unicast : lan.isBroadcast octets = false)
    (unknown : lan.target? number octets = none) :
    lan.send number transit
      = (.error (.link (.unreachable transit.destination lan.block)), lan.record transit) := by
  have none : ¬ 0 < (lan.record transit).loss := by
    show ¬ 0 < lan.loss
    omega
  rw [send, if_neg none, route, address]
  dsimp only
  have unnamed : (lan.record transit).isBroadcast octets = false := unicast
  have missing : (if octets = IPv4.localhost.bytes then some number
      else (lan.record transit).hostAt? octets) = Option.none := unknown
  rw [unnamed, if_neg Bool.false_ne_true, missing]
  rfl

/-! ## Receiving -/

lemma pop_of_nil (empty : lan.queueOf number port = []) : lan.pop number port = (none, lan) := by
  rw [pop, empty]

/-- What is taken is the first datagram of its queue, and no other queue changes. -/
lemma pop_of_cons {rest : List Transit} (queue : lan.queueOf number port = transit :: rest) :
    ∃ after, lan.pop number port = (some transit, after) ∧ Alike lan after ∧
      after.loss = lan.loss ∧
      ∀ n p, after.queueOf n p = if n = number ∧ p = port then rest else lan.queueOf n p := by
  rw [pop, queue]
  refine ⟨_, rfl, ⟨plan_updateHost number fun host => ⟨rfl, host.ports_updateQueue _ _⟩, rfl, rfl⟩,
    rfl, ?_⟩
  intro n p
  rw [queueOf_updateHost]
  by_cases here : n = number
  · subst here
    simp only [if_true, LanHost.queue?_updateQueue, true_and]
    by_cases there : p = port
    · subst there
      rw [queueOf] at queue
      cases found : lan.hosts[n]? with
      | none => simp [found] at queue
      | some host =>
        cases held : host.queue? p with
        | none => simp [found, held] at queue
        | some waiting => simp [held]
    · simp [there, queueOf]
  · simp [here]

/-! ## Networks as they are set up -/

/-- A network is set up: hosts are attached, ports are bound, and losses and the log asked for. -/
inductive SetUp : Lan → Prop
  | create {lan : Lan} {subnet : String} {prefixLength : Int} {broadcast : Option String}
      {loopback : Bool} : Lan.create subnet prefixLength broadcast loopback = .ok lan → SetUp lan
  | attach {lan after : Lan} {text : Option String} {ip : IPv4} : SetUp lan →
      lan.attach text = .ok (ip, after) → SetUp after
  | bind {lan after : Lan} {number : Nat} {host : LanHost} {port : Option Int}
      {address : PhysicalAddress} : SetUp lan → lan.hosts[number]? = some host →
      lan.bind number host port = .ok (address, after) → SetUp after
  | injectLoss {lan after : Lan} {count : Int} : SetUp lan → lan.injectLoss count = .ok after →
      SetUp after
  | startLog {lan : Lan} : SetUp lan → SetUp lan.startLog
  | takeLog {lan : Lan} : SetUp lan → SetUp lan.takeLog.2

/-- No two hosts have the same address, and nothing is on its way. -/
structure Clean (lan : Lan) : Prop where
  distinct : (lan.hosts.map LanHost.ip).Nodup
  empty : ∀ host ∈ lan.hosts, ∀ bound ∈ host.ports, bound.queue = []

lemma Clean.of_hosts {before after : Lan} (clean : Clean before)
    (same : after.hosts = before.hosts) : Clean after := by
  constructor
  · rw [same]
    exact clean.distinct
  · rw [same]
    exact clean.empty

/-- An address for a new host is one that no host has. -/
lemma isTaken_addressFor {text : Option String} (free : lan.addressFor text = .ok ip) :
    lan.isTaken ip = false := by
  cases text with
  | some text =>
    simp only [addressFor, chosenAddress] at free
    split at free
    · cases free
    · split at free
      · cases free
      · split at free
        · cases free
        · split at free
          · cases free
          · cases free
            simp_all
  | none =>
    simp only [addressFor] at free
    split at free
    · rename_i found
      cases free
      have unused := List.find?_some found
      simp only [Bool.and_eq_true, Bool.not_eq_eq_eq_not, Bool.not_true] at unused
      exact unused.1
    · cases free

lemma attach_ok {after : Lan} {text : Option String} (attached : lan.attach text = .ok (ip, after)) :
    lan.isTaken ip = false ∧ after = { lan with hosts := lan.hosts ++ [{ ip := ip }] } := by
  rw [Lan.attach] at attached
  cases free : lan.addressFor text with
  | error fault => rw [free] at attached; cases attached
  | ok address =>
    rw [free] at attached
    cases attached
    exact ⟨isTaken_addressFor free, rfl⟩

/-- A port that is bound was free, and is put after the other ports of its host. -/
lemma bind_ok {after : Lan} {host : LanHost} {asked : Option Int} {address : PhysicalAddress}
    (bound : lan.bind number host asked = .ok (address, after)) :
    address.host = host.text ∧ host.isBound address.port = false ∧
      after = lan.updateHost number fun _ =>
        { host with ports := host.ports ++ [{ port := address.port }] } := by
  rw [Lan.bind, LanHost.bind] at bound
  by_cases taken : host.isBound (asked.getD host.nextPort) = true
  · rw [if_pos taken] at bound
    cases bound
  · rw [if_neg taken] at bound
    cases bound
    exact ⟨rfl, by simpa using taken, rfl⟩

/-- A new address stands beside the others. -/
lemma distinct_attach {after : Lan} {text : Option String}
    (distinct : (lan.hosts.map LanHost.ip).Nodup) (attached : lan.attach text = .ok (ip, after)) :
    (after.hosts.map LanHost.ip).Nodup := by
  obtain ⟨unused, rfl⟩ := attach_ok attached
  rw [List.map_append, List.map_singleton]
  refine distinct.append (List.nodup_singleton _) ?_
  simpa [isTaken, List.disjoint_singleton] using unused

/-- A host keeps its address when a port of it is bound. -/
lemma ips_bind {after : Lan} {host : LanHost} {asked : Option Int} {address : PhysicalAddress}
    (there : lan.hosts[number]? = some host)
    (bound : lan.bind number host asked = .ok (address, after)) :
    after.hosts.map LanHost.ip = lan.hosts.map LanHost.ip := by
  obtain ⟨-, -, rfl⟩ := bind_ok bound
  apply List.ext_getElem?
  intro n
  simp only [updateHost, List.getElem?_map, List.getElem?_modify]
  by_cases here : number = n
  · subst here
    simp [there]
  · cases lan.hosts[n]? <;> simp [here]

lemma Clean.attach {after : Lan} {text : Option String} (clean : Clean lan)
    (attached : lan.attach text = .ok (ip, after)) : Clean after := by
  refine ⟨distinct_attach clean.distinct attached, ?_⟩
  obtain ⟨-, rfl⟩ := attach_ok attached
  intro host among
  rcases List.mem_append.1 among with old | new
  · exact clean.empty host old
  · rw [List.mem_singleton.1 new]
    simp

lemma Clean.bind {after : Lan} {host : LanHost} {asked : Option Int} {address : PhysicalAddress}
    (clean : Clean lan) (there : lan.hosts[number]? = some host)
    (bound : lan.bind number host asked = .ok (address, after)) : Clean after := by
  constructor
  · rw [ips_bind there bound]
    exact clean.distinct
  · obtain ⟨-, -, rfl⟩ := bind_ok bound
    intro other among
    obtain ⟨n, held⟩ := List.mem_iff_getElem?.1 among
    simp only [updateHost, List.getElem?_modify] at held
    by_cases here : number = n
    · subst here
      simp only [there, Option.map_eq_map, Option.map_some, if_true, Option.some.injEq] at held
      subst held
      intro p among
      rcases List.mem_append.1 among with old | new
      · exact clean.empty host (List.mem_of_getElem? there) p old
      · rw [List.mem_singleton.1 new]
    · have kept : lan.hosts[n]? = some other := by
        simpa [here] using held
      exact clean.empty other (List.mem_of_getElem? kept)

lemma SetUp.clean (setUp : SetUp lan) : Clean lan := by
  induction setUp with
  | create made =>
    rw [Lan.create] at made
    split at made
    · cases made
    · split at made
      · cases made
        exact ⟨List.nodup_nil, by simp⟩
      · split at made <;> cases made
        exact ⟨List.nodup_nil, by simp⟩
  | attach _ attached clean => exact clean.attach attached
  | bind _ there bound clean => exact clean.bind there bound
  | injectLoss _ asked clean =>
    rw [Lan.injectLoss] at asked
    split at asked <;> cases asked
    exact clean.of_hosts rfl
  | startLog _ clean => exact clean.of_hosts rfl
  | @takeLog lan _ clean =>
    refine clean.of_hosts ?_
    rw [Lan.takeLog]
    split <;> rfl

lemma Clean.plan (clean : Clean lan) : (lan.plan.map Prod.fst).Nodup := by
  rw [Lan.plan, List.map_map]
  exact clean.distinct

lemma Clean.queueOf (clean : Clean lan) (number : Nat) (port : Int) :
    lan.queueOf number port = [] := by
  rw [Lan.queueOf]
  cases there : lan.hosts[number]? with
  | none => rfl
  | some host =>
    cases found : host.ports.find? fun bound => bound.port == port with
    | none => simp [LanHost.queue?, found]
    | some bound =>
      have empty := clean.empty host (List.mem_of_getElem? there) bound
        (List.mem_of_find?_eq_some found)
      simp [LanHost.queue?, found, empty]

end Lan

end RollCall
