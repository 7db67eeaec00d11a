import RollCall.Proofs.Fleet.Crew

/-!
# Fleets in harmony

Every datagram that waits in a fleet is a letter of the crew, and on every channel sender, queue and
receiver are in step.  Each change of a fleet keeps it so: a node changes in silence, hands a datagram
over, or takes the first one that waits for it.

* `Harmony` — the invariant of a fleet, with so many datagrams lost.
* `Harmony.silent` — a node changes without hearing or sending.
* `Posted.broadcast`, `Posted.unicast_to`, `Harmony.hand` — a datagram is handed over, and is lost or
  reaches those that it is for.
* `Harmony.take` — a datagram is taken.
-/

namespace RollCall.Fleet

open Node (Sent Unsent Quiet)

variable {n : Nat}

/-- The counter in the bytes of a datagram, if it is one of the sender on the channel. -/
def counterOn? (sender : LogicalAddress) (channel : Bool) (data : Bytes) : Option Int :=
  match Envelope.decode data with
  | .ok envelope =>
    if envelope.sender = sender ∧ envelope.destination.isBroadcast = channel then
      some envelope.counter
    else none
  | .error _ => none

/-- The counters of one sender on one channel in a queue. -/
def countersOn (sender : LogicalAddress) (channel : Bool) (queue : List Transit) : List Int :=
  queue.filterMap fun transit => counterOn? sender channel transit.data

/-- Where datagrams to a node are sent on a channel. -/
def Crew.line (crew : Crew n) (b : Fin n) (channel : Bool) : LogicalAddress :=
  if channel then .broadcast else crew.host b

/-- A network on which the crew stands, and on which nothing but letters of the crew wait for it. -/
structure Posted (crew : Crew n) (lan : Lan) : Prop where
  distinct : (lan.plan.map Prod.fst).Nodup
  sited : ∀ i, lan.Sited (crew.site i).number (crew.site i).ip
  unicast : ∀ i, lan.isBroadcast (crew.site i).ip.bytes = false
  letters : ∀ b, ∀ transit ∈ (crew.site b).inbox lan,
    ∃ a envelope packet, Letter crew a b transit envelope packet

/-- A fleet of which so many datagrams were lost: the nodes are fit, and on every channel the sender,
the queue and the receiver are in step. -/
structure Harmony (crew : Crew n) (lost : Nat) (fleet : Fleet n) : Prop where
  fit : ∀ i, Fit crew lost i (fleet.nodes i)
  posted : Posted crew fleet.lan
  inStep : ∀ a b, a ≠ b → ∀ channel,
    InStep (countersOn (crew.host a) channel ((crew.site b).inbox fleet.lan))
      ((fleet.nodes a).nextNumber (crew.line b channel))
      ((fleet.nodes b).map.expectation (crew.host a) channel) lost

variable {crew : Crew n} {lost : Nat} {fleet : Fleet n} {a b : Fin n} {m k : Node} {lan after : Lan}
  {transit : Transit} {envelope : Envelope} {packet : Packet} {destination : LogicalAddress}

lemma Crew.Sound.isBroadcast_line (sound : crew.Sound) (b : Fin n) (channel : Bool) :
    (crew.line b channel).isBroadcast = channel := by
  cases channel with
  | true => rfl
  | false => exact sound.unicast b

/-- On a channel go the datagrams to all, or those to one node alone. -/
lemma Crew.Sound.line_eq_iff (sound : crew.Sound) {channel : Bool} :
    crew.line b channel = destination ↔ destination.isBroadcast = channel ∧
      (destination.isBroadcast = true ∨ destination = crew.host b) := by
  constructor
  · rintro rfl
    rw [sound.isBroadcast_line]
    cases channel with
    | true => exact ⟨rfl, .inl rfl⟩
    | false => exact ⟨rfl, .inr rfl⟩
  · rintro ⟨rfl, reached⟩
    cases named : destination.isBroadcast with
    | true => exact (LogicalAddress.isBroadcast_iff.1 named).symm
    | false =>
      rw [named] at reached
      exact (reached.resolve_left Bool.false_ne_true).symm

lemma Letter.counterOn? (letter : Letter crew a b transit envelope packet)
    (sender : LogicalAddress) (channel : Bool) : counterOn? sender channel transit.data
      = if crew.host a = sender ∧ envelope.destination.isBroadcast = channel then
          some envelope.counter else none := by
  rw [Fleet.counterOn?, letter.decoded, ← letter.sender]

lemma Letter.packetIn? (letter : Letter crew a b transit envelope packet)
    (sender : LogicalAddress) : packetIn? crew.codec sender transit.data
      = if crew.host a = sender ∧ packet.isAnnouncement = false then some packet else none := by
  rw [Fleet.packetIn?, letter.decoded]
  dsimp only
  rw [letter.sender, letter.body]
  by_cases here : crew.host a = sender
  · cases kind : packet.isAnnouncement <;> simp [here, kind, Except.toOption, Option.filter]
  · simp [here]

/-! ## Silence -/

/-- A change without hearing or sending. -/
structure Silent (m k : Node) : Prop where
  unheard : Unheard m k
  unsent : Unsent m k

lemma Silent.refl (m : Node) : Silent m m := ⟨.refl m, .refl m⟩

lemma Silent.lookup (m : Node) (logical : LogicalAddress) :
    Silent m { m with map := (m.map.lookup logical m.time).2 } := by
  refine ⟨⟨.lookup m logical, rfl, ?_⟩, .lookup m logical⟩
  rcases NetworkMap.lookup_eq m.map logical m.time with same | removed
  · rw [same]
  · rw [removed]
    rfl

/-- A change of neither the map nor the numbers nor the counts. -/
lemma Silent.of_map_eq {m k : Node} (config : k.config = m.config) (codec : k.codec = m.codec)
    (session : k.session = m.session) (same : k.map = m.map) (traffic : k.traffic = m.traffic)
    (broadcasts : k.broadcastCounter = m.broadcastCounter) : Silent m k :=
  ⟨⟨.of_map_eq config codec session same, traffic, by rw [same]⟩,
    .of_map_eq config same broadcasts⟩

lemma Silent.purge (m : Node) : Silent m m.purge :=
  ⟨⟨.purge m, rfl, rfl⟩, .purge m⟩

/-- **Silence keeps harmony**: what is forgotten is not expected. -/
theorem Harmony.silent (harmony : Harmony crew lost fleet) (who : Fin n)
    (silent : Silent (fleet.nodes who) k) : Harmony crew lost (fleet.put who k fleet.lan) := by
  have each (j : Fin n) : Silent (fleet.nodes j) ((fleet.put who k fleet.lan).nodes j) :=
    forall_nodes_put (fun j => Silent (fleet.nodes j)) silent (fun _ _ => .refl _) fleet.lan j
  refine ⟨fun j => (harmony.fit j).unheard (each j).unheard, harmony.posted, ?_⟩
  intro a b different channel
  rw [(each a).unsent.numbers (harmony.fit a).distinct]
  refine (harmony.inStep a b different channel).expecting ?_
  exact ((each b).unheard.unexpected (harmony.fit b).distinct _).expectation channel

/-! ## Handing a datagram over -/

/-- What becomes of a datagram of `a` that is handed to the network: it is gone, or it waits with
those that it is for.  If it is for all, it may wait with `a` too. -/
structure Carriage (crew : Crew n) (a : Fin n) (destination : LogicalAddress) (transit : Transit)
    (lan after : Lan) (gone : Bool) : Prop where
  alike : Lan.Alike lan after
  loss : lan.loss = after.loss + gone.toNat
  others : ∀ i ≠ a, (crew.site i).inbox after = (crew.site i).inbox lan
    ++ if gone = false ∧ (destination.isBroadcast = true ∨ destination = crew.host i) then [transit]
      else []
  own : (crew.site a).inbox after = (crew.site a).inbox lan ∨
    destination.isBroadcast = true ∧
      (crew.site a).inbox after = (crew.site a).inbox lan ++ [transit]

namespace Posted

/-- Traffic moves no host. -/
lemma alike (posted : Posted crew lan) (alike : Lan.Alike lan after)
    (letters : ∀ b, ∀ transit ∈ (crew.site b).inbox after,
      ∃ a envelope packet, Letter crew a b transit envelope packet) : Posted crew after where
  distinct := by
    rw [alike.plan]
    exact posted.distinct
  sited i := (posted.sited i).alike alike
  unicast i := by
    rw [Lan.isBroadcast, alike.broadcast]
    exact posted.unicast i
  letters := letters

/-- Different nodes stand at different addresses. -/
lemma ip_injective (posted : Posted crew lan) (sound : crew.Sound) :
    Function.Injective fun i => (crew.site i).ip := by
  intro i j same
  have here := (posted.sited i).hostAt? posted.distinct
  have there := (posted.sited j).hostAt? posted.distinct
  dsimp only at same
  rw [same, there] at here
  exact (sound.apart (Option.some.inj here)).symm

/-- A datagram that is lost reaches nobody. -/
lemma gone (due : 0 < lan.loss) (a : Fin n) (destination : LogicalAddress) (transit : Transit) :
    ∃ after, lan.send (crew.site a).number transit = (.ok (), after) ∧
      Carriage crew a destination transit lan after true := by
  obtain ⟨after, sent, alike, loss, queues⟩ := Lan.send_of_loss due (crew.site a).number transit
  refine ⟨after, sent, alike, ?_, ?_, .inl (queues _ _)⟩
  · simp only [Bool.toNat_true]
    omega
  · intro i _
    simpa [Site.inbox] using queues (crew.site i).number udpPort

/-- A datagram to the broadcast address is lost or reaches all others. -/
lemma broadcast (posted : Posted crew lan) (sound : crew.Sound) (a : Fin n) (data : Bytes)
    (named : destination.isBroadcast = true) :
    ∃ after gone, (crew.site a).link.send ⟨lan.broadcast.text, udpPort⟩ data lan = (.ok (), after) ∧
      Carriage crew a destination ⟨(crew.site a).address, ⟨lan.broadcast.text, udpPort⟩, data⟩ lan
        after gone := by
  by_cases due : 0 < lan.loss
  · obtain ⟨after, lost⟩ := gone due a destination _
    exact ⟨after, true, lost⟩
  · have all : lan.isBroadcast lan.broadcast.bytes = true := by simp [Lan.isBroadcast]
    obtain ⟨after, sent, alike, paid, queues⟩ := Lan.send_broadcast (crew.site a).number
      ⟨(crew.site a).address, ⟨lan.broadcast.text, udpPort⟩, data⟩ (by omega)
      (lan.broadcast.octets_text udpPort) all ((crew.site a).ip.octets_text udpPort)
    refine ⟨after, false, sent, alike, ?_, ?_, ?_⟩
    · simp only [Bool.toNat_false]
      omega
    · intro i other
      obtain ⟨host, there, ip, bound⟩ := (posted.sited i).host
      have foreign : (host.ip.bytes == (crew.site a).ip.bytes) = false := by
        rw [beq_eq_false_iff_ne, ip]
        intro same
        exact other (posted.ip_injective sound (IPv4.bytes_injective same))
      rw [Site.inbox, queues, Site.inbox]
      simp [there, bound, Lan.isSender, foreign, named]
    · rw [Site.inbox, queues, Site.inbox]
      split
      · exact .inr ⟨named, rfl⟩
      · exact .inl (List.append_nil _)

/-- A datagram to the address of a node is lost or reaches that node alone. -/
lemma unicast_to (posted : Posted crew lan) (sound : crew.Sound) (different : b ≠ a)
    (data : Bytes) :
    ∃ after gone, (crew.site a).link.send (crew.site b).address data lan = (.ok (), after) ∧
      Carriage crew a (crew.host b) ⟨(crew.site a).address, (crew.site b).address, data⟩ lan after
        gone := by
  by_cases due : 0 < lan.loss
  · obtain ⟨after, lost⟩ := gone due a (crew.host b) _
    exact ⟨after, true, lost⟩
  · obtain ⟨after, sent, alike, paid, queues⟩ := Lan.send_unicast (crew.site a).number
      ⟨(crew.site a).address, (crew.site b).address, data⟩ (by omega)
      ((crew.site b).ip.octets_text udpPort) (posted.unicast b) (sound.elsewhere b)
      ((posted.sited b).hostAt? posted.distinct)
    refine ⟨after, false, sent, alike, ?_, ?_, ?_⟩
    · simp only [Bool.toNat_false]
      omega
    · intro i _
      rw [Site.inbox, queues, Site.inbox]
      by_cases here : i = b
      · subst here
        obtain ⟨host, there, -, bound⟩ := (posted.sited i).host
        simp [there, bound, Site.address]
      · have elsewhere : (crew.site i).number ≠ (crew.site b).number := fun same =>
          here (sound.apart same)
        have unnamed : crew.host b ≠ crew.host i := fun same => here (sound.hosts same).symm
        simp [elsewhere, unnamed, sound.unicast]
    · rw [Site.inbox, queues, Site.inbox]
      have elsewhere : (crew.site a).number ≠ (crew.site b).number := fun same =>
        different (sound.apart same).symm
      simp [elsewhere]

end Posted

/-- What is read from a queue does not change, if nothing is read from the datagram. -/
lemma Carriage.filterMap_of_none {α : Type} {read : Transit → Option α} {gone : Bool}
    (carriage : Carriage crew a destination transit lan after gone) (i : Fin n)
    (none : i = a ∨ destination.isBroadcast = true ∨ destination = crew.host i →
      read transit = none) :
    ((crew.site i).inbox after).filterMap read = ((crew.site i).inbox lan).filterMap read := by
  by_cases here : i = a
  · subst here
    rcases carriage.own with same | ⟨-, more⟩
    · rw [same]
    · rw [more, List.filterMap_append]
      simp [none (.inl rfl)]
  · rw [carriage.others i here, List.filterMap_append]
    split
    · rename_i reached
      simp [none (.inr reached.2)]
    · exact List.append_nil _

/-- What waits after it waited before, or is the datagram, at one of those that it is for. -/
lemma Carriage.mem_inbox {gone : Bool}
    (carriage : Carriage crew a destination transit lan after gone) {i : Fin n} {other : Transit}
    (among : other ∈ (crew.site i).inbox after) : other ∈ (crew.site i).inbox lan ∨
      other = transit ∧ (destination.isBroadcast = true ∨ destination = crew.host i) := by
  by_cases here : i = a
  · subst here
    rcases carriage.own with same | ⟨named, more⟩
    · rw [same] at among
      exact .inl among
    · rw [more] at among
      exact (List.mem_append.1 among).imp id fun last => ⟨List.mem_singleton.1 last, .inl named⟩
  · rw [carriage.others i here] at among
    refine (List.mem_append.1 among).imp id fun last => ?_
    split at last
    · rename_i reached
      exact ⟨List.mem_singleton.1 last, reached.2⟩
    · cases last

/-- The counter of a datagram that is sent is its number. -/
lemma Fit.counterOn?_of_sent (fit : Fit crew lost a m) {data : Bytes}
    (sent : Sent m k destination data) (sender : LogicalAddress) (channel : Bool) :
    counterOn? sender channel data
      = if crew.host a = sender ∧ destination.isBroadcast = channel then
          some (Counter.wrap (m.nextNumber destination)) else none := by
  obtain ⟨kind, decoded⟩ := sent.envelope
  rw [counterOn?, decoded]
  dsimp only
  rw [fit.host]

/-- **The datagram takes the next number on its channel**, and that number is lost with it or waits at
the end of the queue. -/
theorem Harmony.inStep_hand (harmony : Harmony crew lost fleet) (sound : crew.Sound) {gone : Bool}
    (sent : Sent (fleet.nodes a) k destination transit.data)
    (carriage : Carriage crew a destination transit fleet.lan after gone) (different : a ≠ b)
    (channel : Bool) :
    InStep (countersOn (crew.host a) channel ((crew.site b).inbox after))
      (k.nextNumber (crew.line b channel))
      ((fleet.nodes b).map.expectation (crew.host a) channel) (lost + gone.toNat) := by
  have before := harmony.inStep a b different channel
  have counter := (harmony.fit a).counterOn?_of_sent sent (crew.host a) channel
  by_cases line : crew.line b channel = destination
  · obtain ⟨named, reached⟩ := sound.line_eq_iff.1 line
    rw [line] at before ⊢
    rw [sent.number, carriage.others b different.symm]
    cases gone with
    | true => simpa using before.lose
    | false =>
      have last : countersOn (crew.host a) channel [transit]
          = [(fleet.nodes a).nextNumber destination] := by
        rw [countersOn, List.filterMap_cons, counter, if_pos ⟨rfl, named⟩, before.wrap_next]
        rfl
      rw [if_pos ⟨rfl, reached⟩, countersOn, List.filterMap_append, ← countersOn, ← countersOn, last]
      exact before.send
  · have other : crew.line b channel ≠ destination := line
    rw [sent.others _ other, countersOn, carriage.filterMap_of_none b]
    · exact before.mono (Nat.le_add_right ..)
    · intro reached
      rw [counter, if_neg]
      rintro ⟨-, named⟩
      refine line (sound.line_eq_iff.2 ⟨named, reached.resolve_left different.symm⟩)

/-- **Handing a datagram over keeps harmony.** -/
theorem Harmony.hand (harmony : Harmony crew lost fleet) (sound : crew.Sound) {gone : Bool}
    (unheard : Unheard (fleet.nodes a) k) (sent : Sent (fleet.nodes a) k destination transit.data)
    (carriage : Carriage crew a destination transit fleet.lan after gone)
    (letter : ∀ i, destination.isBroadcast = true ∨ destination = crew.host i →
      Letter crew a i transit envelope packet) :
    Harmony crew (lost + gone.toNat) (fleet.put a k after) := by
  have each (i : Fin n) : Unheard (fleet.nodes i) ((fleet.put a k after).nodes i) :=
    forall_nodes_put (fun i => Unheard (fleet.nodes i)) unheard (fun _ _ => .refl _) after i
  refine ⟨fun i => ((harmony.fit i).unheard (each i)).mono (Nat.le_add_right ..), ?_, ?_⟩
  · refine harmony.posted.alike carriage.alike fun i other among => ?_
    rcases carriage.mem_inbox among with old | ⟨rfl, reached⟩
    · exact harmony.posted.letters i other old
    · exact ⟨a, envelope, packet, letter i reached⟩
  · intro x y different channel
    refine InStep.expecting ?_
      (((each y).unexpected (harmony.fit y).distinct _).expectation channel)
    rw [lan_put]
    by_cases sender : x = a
    · subst sender
      rw [nodes_put_self]
      exact harmony.inStep_hand sound sent carriage different channel
    · rw [nodes_put_of_ne _ sender, countersOn, carriage.filterMap_of_none y]
      · exact (harmony.inStep x y different channel).mono (Nat.le_add_right ..)
      · intro _
        rw [(harmony.fit a).counterOn?_of_sent sent, if_neg]
        rintro ⟨same, -⟩
        exact sender (sound.hosts same).symm

/-! ## Taking a datagram -/

/-- The first datagram of an inbox is taken out of it. -/
structure Taken (crew : Crew n) (b : Fin n) (transit : Transit) (lan after : Lan) : Prop where
  alike : Lan.Alike lan after
  loss : after.loss = lan.loss
  own : (crew.site b).inbox lan = transit :: (crew.site b).inbox after
  others : ∀ i ≠ b, (crew.site i).inbox after = (crew.site i).inbox lan

lemma taken_of_pop (sound : crew.Sound) {rest : List Transit}
    (inbox : (crew.site b).inbox lan = transit :: rest) :
    ∃ after, lan.pop (crew.site b).number udpPort = (some transit, after) ∧
      Taken crew b transit lan after := by
  obtain ⟨after, popped, alike, loss, queues⟩ := Lan.pop_of_cons inbox
  refine ⟨after, popped, alike, loss, ?_, ?_⟩
  · rw [inbox, Site.inbox, queues, if_pos ⟨rfl, rfl⟩]
  · intro i other
    have elsewhere : (crew.site i).number ≠ (crew.site b).number := fun same =>
      other (sound.apart same)
    rw [Site.inbox, queues, if_neg (by simp [elsewhere])]
    rfl

lemma Posted.taken (posted : Posted crew lan) (taken : Taken crew b transit lan after) :
    Posted crew after := by
  refine posted.alike taken.alike fun i other among => posted.letters i other ?_
  by_cases here : i = b
  · subst here
    rw [taken.own]
    exact List.mem_cons_of_mem _ among
  · rw [taken.others i here] at among
    exact among

lemma Taken.filterMap_of_none {α : Type} {read : Transit → Option α}
    (taken : Taken crew b transit lan after) (i : Fin n) (none : i = b → read transit = none) :
    ((crew.site i).inbox after).filterMap read = ((crew.site i).inbox lan).filterMap read := by
  by_cases here : i = b
  · subst here
    rw [taken.own, List.filterMap_cons_none (none rfl)]
  · rw [taken.others i here]

/-- The node's own datagram, which came back to it, is taken. -/
lemma Harmony.take_own (harmony : Harmony crew lost fleet) (sound : crew.Sound)
    (letter : Letter crew b b transit envelope packet) (taken : Taken crew b transit fleet.lan after) :
    Harmony crew lost (fleet.put b (fleet.nodes b) after) := by
  have same : (fleet.put b (fleet.nodes b) after).nodes = fleet.nodes := by simp [put]
  refine ⟨?_, harmony.posted.taken taken, ?_⟩
  · rw [same]
    exact harmony.fit
  · intro x y different channel
    rw [same, lan_put, countersOn, taken.filterMap_of_none]
    · exact harmony.inStep x y different channel
    · rintro rfl
      rw [letter.counterOn?, if_neg]
      rintro ⟨host, -⟩
      exact different (sound.hosts host).symm

/-- On the channel of a letter its counter is the first one that waits. -/
lemma Letter.countersOn_taken (letter : Letter crew a b transit envelope packet)
    (taken : Taken crew b transit lan after) :
    countersOn (crew.host a) envelope.destination.isBroadcast ((crew.site b).inbox lan)
      = envelope.counter
        :: countersOn (crew.host a) envelope.destination.isBroadcast ((crew.site b).inbox after) := by
  rw [taken.own, countersOn, List.filterMap_cons, letter.counterOn?, if_pos ⟨rfl, rfl⟩]
  rfl

/-- **After a letter is heard the next number is expected on its channel**; all others are as before. -/
theorem Harmony.inStep_take (harmony : Harmony crew lost fleet) (sound : crew.Sound) {missed : Nat}
    {result : Outcome × Node} (letter : Letter crew a b transit envelope packet)
    (taken : Taken crew b transit fleet.lan after)
    (hears : Hears crew a (fleet.nodes b) envelope packet missed result)
    (later : InStep
      (countersOn (crew.host a) envelope.destination.isBroadcast ((crew.site b).inbox after))
      ((fleet.nodes a).nextNumber (crew.line b envelope.destination.isBroadcast))
      (some (Counter.next envelope.counter)) lost) {x : Fin n} (different : x ≠ b) (channel : Bool) :
    InStep (countersOn (crew.host x) channel ((crew.site b).inbox after))
      ((fleet.nodes x).nextNumber (crew.line b channel))
      (result.2.map.expectation (crew.host x) channel) lost := by
  by_cases heard : crew.host a = crew.host x ∧ envelope.destination.isBroadcast = channel
  · obtain ⟨host, rfl⟩ := heard
    obtain rfl := sound.hosts host
    rw [hears.expected]
    exact later
  · have before := harmony.inStep x b different channel
    rw [countersOn, taken.filterMap_of_none b fun _ => by rw [letter.counterOn?, if_neg heard]]
    by_cases same : a = x
    · subst same
      have other : channel = !envelope.destination.isBroadcast := by
        rw [Bool.eq_not]
        exact fun named => heard ⟨rfl, named.symm⟩
      subst other
      rw [hears.other]
      exact before
    · refine before.expecting ?_
      exact (hears.others _ fun host => same (sound.hosts host).symm).expectation channel

/-- The letter of another node is heard. -/
lemma Harmony.take_other (harmony : Harmony crew lost fleet) (sound : crew.Sound)
    (few : lost < Counter.halfRange) (letter : Letter crew a b transit envelope packet)
    (taken : Taken crew b transit fleet.lan after) (different : a ≠ b) :
    Harmony crew lost (fleet.put b ((fleet.nodes b).handle transit.data transit.source).2 after) ∧
      ∃ missed, ((fleet.nodes b).handle transit.data transit.source).1
        = Node.outcomeOf (crew.host a) packet (some missed) := by
  have first := harmony.inStep a b different envelope.destination.isBroadcast
  rw [letter.countersOn_taken taken] at first
  obtain ⟨missed, new, atMost, later⟩ := first.take few
  have hears := (harmony.fit b).hear sound letter different new
  have fit := (harmony.fit b).heard sound letter different atMost hears
  have unsent := Unsent.handle (fleet.nodes b) transit.data transit.source
  have numbers := unsent.numbers (harmony.fit b).distinct
  generalize (fleet.nodes b).handle transit.data transit.source = result at hears fit numbers ⊢
  refine ⟨⟨?_, harmony.posted.taken taken, ?_⟩, missed, hears.outcome⟩
  · exact forall_nodes_put (Fit crew lost) fit (fun i _ => harmony.fit i) after
  · intro x y apart channel
    have number : ((fleet.put b result.2 after).nodes x).nextNumber (crew.line y channel)
        = (fleet.nodes x).nextNumber (crew.line y channel) :=
      forall_nodes_put (fun i m => m.nextNumber (crew.line y channel)
        = (fleet.nodes i).nextNumber (crew.line y channel)) (numbers _) (fun _ _ => rfl) after x
    rw [number, lan_put]
    by_cases here : y = b
    · subst here
      rw [nodes_put_self]
      exact harmony.inStep_take sound letter taken hears later apart channel
    · rw [nodes_put_of_ne _ here, countersOn, taken.filterMap_of_none y fun same => absurd same here]
      exact harmony.inStep x y apart channel

/-- **Taking a datagram keeps harmony**, and the packet in it is handed on, unless it is one of the
node itself. -/
theorem Harmony.take (harmony : Harmony crew lost fleet) (sound : crew.Sound)
    (few : lost < Counter.halfRange) (taken : Taken crew b transit fleet.lan after) :
    Harmony crew lost (fleet.put b ((fleet.nodes b).handle transit.data transit.source).2 after) ∧
      ∀ a ≠ b, (packetIn? crew.codec (crew.host a) transit.data).toList
        = packetsOf (crew.host a)
            ((fleet.nodes b).handle transit.data transit.source).1.received?.toList := by
  obtain ⟨a, envelope, packet, letter⟩ := harmony.posted.letters b transit (by simp [taken.own])
  by_cases different : a = b
  · subst different
    rw [(harmony.fit a).own letter]
    refine ⟨harmony.take_own sound letter taken, ?_⟩
    intro x other
    rw [letter.packetIn?, if_neg]
    · rfl
    · rintro ⟨host, -⟩
      exact other (sound.hosts host).symm
  · obtain ⟨kept, missed, outcome⟩ := harmony.take_other sound few letter taken different
    refine ⟨kept, ?_⟩
    intro x other
    rw [letter.packetIn?, outcome, Node.outcomeOf]
    cases kind : packet.isAnnouncement with
    | true => simp [Outcome.received?, packetsOf]
    | false =>
      by_cases same : crew.host a = crew.host x <;> simp [Outcome.received?, packetsOf, same]

end RollCall.Fleet
