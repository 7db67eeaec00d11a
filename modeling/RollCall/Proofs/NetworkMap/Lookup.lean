import Mathlib.Data.List.Nodup
import RollCall.NetworkMap.Basic

/-!
# Look-ups in network maps

A network map is a list, but it is used as a table: no two of its peers have the same address.  This
module says so, and reduces what every operation does to what a look-up finds afterwards.

* `find?_update`, `find?_evict` — what a look-up finds after a change, and after a removal of others.
* `Distinct` — the addresses of the peers differ; `Distinct.observe`, `Distinct.lookup` and the
  others say that every operation keeps it.
* `Distinct.find?_evict` — after a removal a look-up finds what it found before, unless that was
  removed.
* `find?_append` — after an addition it finds the new peer too.
* `Observed`, `observed` — what learning a binding does, case by case.
* `of_lookup_eq_some`, `of_lookup_eq_none` — what a look-up shows of the map;
  `Distinct.lookup_evicts` — it removes stale peers alone.
* `nextCounter` — the number of the next datagram to a peer, whether the peer is held or was
  removed; `Distinct.nextCounter_evict` and `nextCounter_append` say that a peer takes its number
  along when it is removed and when it comes back.
-/

namespace RollCall

@[simp] lemma Peer.expected_expect_self (broadcast : Bool) (counter : Option Int) (peer : Peer) :
    (peer.expect broadcast counter).expected broadcast = counter := by
  cases broadcast <;> rfl

@[simp] lemma Peer.expected_expect_other (broadcast : Bool) (counter : Option Int) (peer : Peer) :
    (peer.expect broadcast counter).expected (!broadcast) = peer.expected (!broadcast) := by
  cases broadcast <;> rfl

@[simp] lemma Peer.logical_refresh (physical : PhysicalAddress) (time : Int) (peer : Peer) :
    (peer.refresh physical time).logical = peer.logical := rfl

@[simp] lemma Peer.toCounter_refresh (physical : PhysicalAddress) (time : Int) (peer : Peer) :
    (peer.refresh physical time).toCounter = peer.toCounter := rfl

@[simp] lemma Peer.logical_noteSession (session : Int) (peer : Peer) :
    (peer.noteSession session).logical = peer.logical := by
  unfold Peer.noteSession
  split
  · rfl
  · split <;> rfl

@[simp] lemma Peer.toCounter_noteSession (session : Int) (peer : Peer) :
    (peer.noteSession session).toCounter = peer.toCounter := by
  unfold Peer.noteSession
  split
  · rfl
  · split <;> rfl

lemma Peer.isStale_eq_false_iff {peer : Peer} {window : Nat} {time : Int} :
    peer.isStale window time = false ↔ time - peer.lastSeen ≤ window :=
  decide_eq_false_iff_not.trans Int.not_lt

namespace NetworkMap

lemma logical_of_find? {map : NetworkMap} {logical : LogicalAddress} {peer : Peer}
    (h : map.find? logical = some peer) : peer.logical = logical := by
  simpa using List.find?_some h

lemma mem_of_find? {map : NetworkMap} {logical : LogicalAddress} {peer : Peer}
    (h : map.find? logical = some peer) : peer ∈ map.peers := List.mem_of_find?_eq_some h

/-- A change that keeps the address shows at that address and at no other. -/
lemma find?_update {map : NetworkMap} {logical : LogicalAddress} {change : Peer → Peer}
    (keeps : ∀ peer, (change peer).logical = peer.logical) (other : LogicalAddress) :
    (map.update logical change).find? other
      = if other = logical then (map.find? other).map change else map.find? other := by
  simp only [find?, update]
  induction map.peers with
  | nil => simp
  | cons peer peers ih =>
    by_cases hp : peer.logical = logical
    · by_cases ho : peer.logical = other
      · subst ho; simp [hp, keeps]
      · have hne : other ≠ logical := fun h => ho (hp.trans h.symm)
        simp only [List.map_cons, hp, if_pos, hne, if_false] at ih ⊢
        rw [List.find?_cons_of_neg (by simp [keeps, ho]), List.find?_cons_of_neg (by simp [ho])]
        simpa [hne] using ih
    · by_cases ho : peer.logical = other
      · have hne : other ≠ logical := fun h => hp (ho.trans h)
        simp [ho, hne]
      · rw [List.map_cons, if_neg hp, List.find?_cons_of_neg (by simp [ho]),
          List.find?_cons_of_neg (by simp [ho])]
        exact ih

/-- A peer that is not removed is found as before. -/
lemma find?_evict {map : NetworkMap} {gone : Peer → Bool} {logical : LogicalAddress}
    (stays : ∀ peer ∈ map.peers, peer.logical = logical → gone peer = false) :
    (map.evict gone).find? logical = map.find? logical := by
  simp only [find?, evict]
  revert stays
  induction map.peers with
  | nil => simp
  | cons peer peers ih =>
    intro stays
    have ih := ih fun p hp => stays p (List.mem_cons_of_mem _ hp)
    by_cases hp : peer.logical = logical
    · simp [stays peer List.mem_cons_self hp, hp]
    · cases hg : gone peer <;> simp [hg, hp, ih]

variable {map : NetworkMap} {logical : LogicalAddress} {peer : Peer}

/-- No two peers have the same address. -/
def Distinct (map : NetworkMap) : Prop := (map.peers.map Peer.logical).Nodup

/-! ## Membership -/

lemma find?_eq_none_iff : map.find? logical = none ↔ ∀ p ∈ map.peers, p.logical ≠ logical := by
  simp [find?]

/-- Where addresses differ, a look-up finds exactly the peers that are held. -/
lemma Distinct.find?_eq_some_iff (distinct : map.Distinct) :
    map.find? logical = some peer ↔ peer ∈ map.peers ∧ peer.logical = logical := by
  constructor
  · intro found
    exact ⟨mem_of_find? found, logical_of_find? found⟩
  · rintro ⟨held, named⟩
    cases found : map.find? logical with
    | none => exact absurd named (find?_eq_none_iff.1 found peer held)
    | some p =>
      have hp := logical_of_find? found
      rw [List.inj_on_of_nodup_map distinct (mem_of_find? found) held (hp.trans named.symm)]

/-! ## Removal -/

lemma Distinct.evict (distinct : map.Distinct) (gone : Peer → Bool) :
    (map.evict gone).Distinct :=
  distinct.sublist (List.filter_sublist.map _)

/-- After a removal a look-up finds what it found before, unless that was removed. -/
lemma Distinct.find?_evict (distinct : map.Distinct) (gone : Peer → Bool)
    (logical : LogicalAddress) :
    (map.evict gone).find? logical = (map.find? logical).filter fun peer => !gone peer := by
  ext peer
  rw [(distinct.evict gone).find?_eq_some_iff, Option.filter_eq_some_iff,
    distinct.find?_eq_some_iff]
  simp only [NetworkMap.evict, List.mem_filter]
  tauto

/-- A peer that is found after a removal was found before it. -/
lemma Distinct.find?_of_find?_evict (distinct : map.Distinct) {gone : Peer → Bool}
    (found : (map.evict gone).find? logical = some peer) : map.find? logical = some peer := by
  rw [distinct.find?_evict, Option.filter_eq_some_iff] at found
  exact found.1

/-! ## Change in place -/

lemma Distinct.update (distinct : map.Distinct) {change : Peer → Peer}
    (keeps : ∀ peer, (change peer).logical = peer.logical) (logical : LogicalAddress) :
    (map.update logical change).Distinct := by
  have same : (map.update logical change).peers.map Peer.logical = map.peers.map Peer.logical := by
    simp only [NetworkMap.update, List.map_map]
    refine List.map_congr_left fun peer _ => ?_
    by_cases h : peer.logical = logical <;> simp [h, keeps]
  unfold Distinct
  rw [same]
  exact distinct

/-! ## Addition -/

/-- A new peer's address is added to those that are held. -/
lemma Distinct.append (distinct : map.Distinct) (absent : map.find? logical = none)
    (physical : PhysicalAddress) (time : Int) :
    (map.append logical physical time).2.Distinct := by
  simp only [Distinct, NetworkMap.append, List.map_append, List.map_cons, List.map_nil]
  refine List.Nodup.append distinct (List.nodup_singleton _) ?_
  simpa [List.disjoint_singleton] using find?_eq_none_iff.1 absent

/-- After an addition a look-up finds the new peer, and any other as before. -/
lemma find?_append (absent : map.find? logical = none) (physical : PhysicalAddress) (time : Int)
    (other : LogicalAddress) :
    (map.append logical physical time).2.find? other
      = if other = logical then some (map.append logical physical time).1
        else map.find? other := by
  simp only [find?, NetworkMap.append, List.find?_append]
  by_cases h : other = logical
  · subst h
    simp only [find?] at absent
    simp [absent]
  · simp [h, Ne.symm h]

/-! ## The operations of a map -/

/-- A new map holds no peers and has put no numbers aside. -/
lemma of_create {window capacity : Int} (made : create window capacity = .ok map) :
    map.peers = [] ∧ map.retired = [] := by
  simp only [create] at made
  split at made
  · cases made
  · split at made <;> cases made
    exact ⟨rfl, rfl⟩

lemma distinct_of_create {window capacity : Int} (made : create window capacity = .ok map) :
    map.Distinct := by
  rw [Distinct, (of_create made).1]
  exact List.nodup_nil

lemma Distinct.purge (distinct : map.Distinct) (time : Int) : (map.purge time).Distinct :=
  distinct.evict _

/-- The map in which a new peer is entered: a full one is cleared of its stale peers first. -/
def roomy (map : NetworkMap) (time : Int) : NetworkMap :=
  if map.peers.length < map.capacity then map else map.purge time

lemma Distinct.roomy (distinct : map.Distinct) (time : Int) : (map.roomy time).Distinct := by
  unfold NetworkMap.roomy
  split
  · exact distinct
  · exact distinct.purge time

/-- A peer that is found in the cleared map was found in the map. -/
lemma Distinct.find?_of_find?_roomy (distinct : map.Distinct) {time : Int}
    (found : (map.roomy time).find? logical = some peer) : map.find? logical = some peer := by
  unfold NetworkMap.roomy at found
  split at found
  · exact found
  · exact distinct.find?_of_find?_evict found

lemma Distinct.find?_roomy_eq_none (distinct : map.Distinct)
    (absent : map.find? logical = none) (time : Int) : (map.roomy time).find? logical = none := by
  cases found : (map.roomy time).find? logical with
  | none => rfl
  | some peer => rw [distinct.find?_of_find?_roomy found] at absent; cases absent

@[simp] lemma capacity_roomy (map : NetworkMap) (time : Int) :
    (map.roomy time).capacity = map.capacity := by
  unfold NetworkMap.roomy
  split <;> rfl

/-- What learning a binding does, case by case. -/
inductive Observed (map : NetworkMap) (logical : LogicalAddress) (physical : PhysicalAddress)
    (time : Int) : Except MapFault Peer × NetworkMap → Prop
  /-- The broadcast address is refused. -/
  | broadcast : logical.isBroadcast = true →
      Observed map logical physical time (.error .broadcast, map)
  /-- A peer that is held is refreshed. -/
  | refreshed {peer : Peer} : logical.isBroadcast = false → map.find? logical = some peer →
      Observed map logical physical time
        (.ok (peer.refresh physical time), map.update logical (Peer.refresh physical time))
  /-- A new peer finds room. -/
  | added : logical.isBroadcast = false → map.find? logical = none →
      (map.roomy time).peers.length < map.capacity →
      Observed map logical physical time
        (.ok ((map.roomy time).append logical physical time).1,
          ((map.roomy time).append logical physical time).2)
  /-- A new peer finds no room. -/
  | full : logical.isBroadcast = false → map.find? logical = none →
      map.capacity ≤ (map.roomy time).peers.length →
      Observed map logical physical time (.error (.full map.capacity logical), map.roomy time)

lemma observed (map : NetworkMap) (logical : LogicalAddress) (physical : PhysicalAddress)
    (time : Int) : Observed map logical physical time (map.observe logical physical time) := by
  cases hb : logical.isBroadcast with
  | true => simpa [observe, hb] using Observed.broadcast hb
  | false =>
    cases hf : map.find? logical with
    | some peer => simpa [observe, hb, hf] using Observed.refreshed hb hf
    | none =>
      have unfolded : map.observe logical physical time
          = if (map.roomy time).peers.length < (map.roomy time).capacity then
              (.ok ((map.roomy time).append logical physical time).1,
                ((map.roomy time).append logical physical time).2)
            else (.error (.full map.capacity logical), map.roomy time) := by
        simp only [observe, hb, hf, Bool.false_eq_true, if_false]
        rfl
      rw [unfolded, capacity_roomy]
      split
      · exact .added hb hf ‹_›
      · exact .full hb hf (Nat.le_of_not_lt ‹_›)

lemma Distinct.observe (distinct : map.Distinct) (logical : LogicalAddress)
    (physical : PhysicalAddress) (time : Int) :
    (map.observe logical physical time).2.Distinct := by
  have seen := observed map logical physical time
  generalize map.observe logical physical time = result at seen ⊢
  cases seen with
  | broadcast => exact distinct
  | refreshed => exact distinct.update (Peer.logical_refresh physical time) logical
  | added _ absent =>
    exact (distinct.roomy time).append (distinct.find?_roomy_eq_none absent time) physical time
  | full => exact distinct.roomy time

/-- Learning a binding changes no other peer, though it may remove one. -/
lemma Distinct.find?_of_find?_observe (distinct : map.Distinct) {logical other : LogicalAddress}
    {physical : PhysicalAddress} {time : Int} (different : other ≠ logical)
    (found : (map.observe logical physical time).2.find? other = some peer) :
    map.find? other = some peer := by
  have seen := observed map logical physical time
  generalize map.observe logical physical time = result at seen found
  cases seen with
  | broadcast => exact found
  | refreshed =>
    rw [find?_update (Peer.logical_refresh physical time), if_neg different] at found
    exact found
  | added _ absent =>
    rw [find?_append (distinct.find?_roomy_eq_none absent time), if_neg different] at found
    exact distinct.find?_of_find?_roomy found
  | full => exact distinct.find?_of_find?_roomy found

/-- The peer that a binding is learned of: the one that is held, heard once more, or a new one. -/
def entered (map : NetworkMap) (logical : LogicalAddress) (physical : PhysicalAddress)
    (time : Int) : Peer :=
  match map.find? logical with
  | some known => known.refresh physical time
  | none => ((map.roomy time).append logical physical time).1

/-- Where a binding is learned, a look-up finds the peer that it was learned of. -/
lemma Distinct.find?_observe_self (distinct : map.Distinct) {logical : LogicalAddress}
    {physical : PhysicalAddress} {time : Int} {after : NetworkMap}
    (learned : map.observe logical physical time = (.ok peer, after)) :
    peer = map.entered logical physical time ∧ after.find? logical = some peer := by
  have seen := observed map logical physical time
  rw [learned] at seen
  unfold entered
  cases seen with
  | refreshed _ found =>
    rw [found, find?_update (Peer.logical_refresh physical time), if_pos rfl, found]
    exact ⟨rfl, rfl⟩
  | added _ absent =>
    rw [absent, find?_append (distinct.find?_roomy_eq_none absent time), if_pos rfl]
    exact ⟨rfl, rfl⟩

/-- Where no binding is learned, a look-up finds nothing new. -/
lemma Distinct.find?_of_observe_error (distinct : map.Distinct) {logical other : LogicalAddress}
    {physical : PhysicalAddress} {time : Int} {fault : MapFault} {after : NetworkMap}
    (refused : map.observe logical physical time = (.error fault, after))
    (found : after.find? other = some peer) : map.find? other = some peer := by
  have seen := observed map logical physical time
  rw [refused] at seen
  cases seen with
  | broadcast => exact found
  | full => exact distinct.find?_of_find?_roomy found

/-- Looking a peer up removes it or changes nothing. -/
lemma lookup_eq (map : NetworkMap) (logical : LogicalAddress) (time : Int) :
    map.lookup logical time = (map.find? logical, map) ∨
      map.lookup logical time = (none, map.evict fun peer => peer.logical == logical) := by
  unfold lookup
  cases found : map.find? logical with
  | none => exact .inl rfl
  | some peer =>
    dsimp only
    split
    · exact .inr rfl
    · exact .inl rfl

/-- A peer that a look-up gives was not removed. -/
lemma of_lookup_eq_some {time : Int} {after : NetworkMap}
    (looked : map.lookup logical time = (some peer, after)) :
    map.find? logical = some peer ∧ after = map := by
  rcases lookup_eq map logical time with same | removed
  · rw [looked, Prod.mk.injEq] at same
    exact ⟨same.1.symm, same.2⟩
  · rw [looked] at removed
    cases removed

/-- A look-up that gives no peer has found none, or has removed a stale one. -/
lemma of_lookup_eq_none {time : Int} {after : NetworkMap}
    (looked : map.lookup logical time = (none, after)) :
    after = map ∨ ∃ peer, map.find? logical = some peer ∧ peer.isStale map.window time = true ∧
      after = map.evict fun p => p.logical == logical := by
  unfold lookup at looked
  cases found : map.find? logical with
  | none =>
    rw [found] at looked
    cases looked
    exact .inl rfl
  | some peer =>
    rw [found] at looked
    dsimp only at looked
    split at looked
    case isTrue stale =>
      cases looked
      exact .inr ⟨peer, rfl, stale, rfl⟩
    case isFalse => cases looked

/-- A look-up removes nothing but stale peers: only the peer itself has its address, so that nothing
else goes with it. -/
lemma Distinct.lookup_evicts (distinct : map.Distinct) (logical : LogicalAddress) (time : Int) :
    (map.lookup logical time).2 = map ∨ ∃ gone : Peer → Bool,
      (∀ p ∈ map.peers, gone p = true → p.isStale map.window time = true) ∧
      (map.lookup logical time).2 = map.evict gone := by
  rcases looked : map.lookup logical time with ⟨_ | peer, after⟩
  · rcases of_lookup_eq_none looked with same | ⟨peer, found, stale, removed⟩
    · exact .inl same
    · refine .inr ⟨_, fun p held named => ?_, removed⟩
      have this : map.find? logical = some p :=
        distinct.find?_eq_some_iff.2 ⟨held, by simpa using named⟩
      cases found.symm.trans this
      exact stale
  · exact .inl (of_lookup_eq_some looked).2

lemma Distinct.lookup (distinct : map.Distinct) (logical : LogicalAddress) (time : Int) :
    (map.lookup logical time).2.Distinct := by
  rcases lookup_eq map logical time with same | removed
  · rw [same]; exact distinct
  · rw [removed]; exact distinct.evict _

lemma Distinct.find?_of_find?_lookup (distinct : map.Distinct) {logical other : LogicalAddress}
    {time : Int} (found : (map.lookup logical time).2.find? other = some peer) :
    map.find? other = some peer := by
  rcases lookup_eq map logical time with same | removed
  · rw [same] at found; exact found
  · rw [removed] at found; exact distinct.find?_of_find?_evict found

/-! ## The number of the next datagram to a peer -/

/-- The number of the next datagram to a peer: that of the peer, or the one kept for it. -/
def nextCounter (map : NetworkMap) (logical : LogicalAddress) : Int :=
  match map.find? logical with
  | some peer => peer.toCounter
  | none => map.retiredCounter logical

lemma nextCounter_of_find? (found : map.find? logical = some peer) :
    map.nextCounter logical = peer.toCounter := by
  simp [nextCounter, found]

/-- In a new map every peer's first datagram has number zero. -/
lemma nextCounter_of_create {window capacity : Int} (made : create window capacity = .ok map)
    (logical : LogicalAddress) : map.nextCounter logical = 0 := by
  obtain ⟨nobody, nothing⟩ := of_create made
  rw [nextCounter, find?, nobody, List.find?_nil, retiredCounter, nothing]
  rfl

/-- The counters of a row of peers, looked up by address. -/
lemma lookup_counters (peers : List Peer) (logical : LogicalAddress) :
    (peers.map fun peer => (peer.logical, peer.toCounter)).lookup logical
      = (peers.find? fun peer => peer.logical == logical).map Peer.toCounter := by
  induction peers with
  | nil => rfl
  | cons peer peers ih =>
    by_cases h : peer.logical = logical
    · simp [h]
    · have h' : (logical == peer.logical) = false := by simpa using Ne.symm h
      simpa [List.lookup_cons, h, h'] using ih

/-- A removed peer leaves its number behind, and the others keep theirs. -/
lemma Distinct.nextCounter_evict (distinct : map.Distinct) (gone : Peer → Bool)
    (logical : LogicalAddress) :
    (map.evict gone).nextCounter logical = map.nextCounter logical := by
  have kept := distinct.find?_evict gone logical
  have left : (map.peers.filter gone).find? (fun peer => peer.logical == logical)
      = (map.find? logical).filter gone := by
    have h := distinct.find?_evict (fun peer => !gone peer) logical
    simpa [find?, NetworkMap.evict] using h
  have retired : (map.evict gone).retiredCounter logical
      = (((map.find? logical).filter gone).map Peer.toCounter).getD
          (map.retiredCounter logical) := by
    simp only [retiredCounter, NetworkMap.evict, List.lookup_append, lookup_counters, left]
    cases (map.find? logical).filter gone <;> simp
  unfold nextCounter
  rw [kept, retired]
  cases map.find? logical with
  | none => rfl
  | some peer => cases h : gone peer <;> simp [Option.filter, h]

/-- Where all peers of one address are removed, every number is kept. -/
lemma nextCounter_evict_named (map : NetworkMap) (named logical : LogicalAddress) :
    (map.evict fun peer => peer.logical == named).nextCounter logical
      = map.nextCounter logical := by
  have left : (map.peers.filter fun peer => peer.logical == named).find?
        (fun peer => peer.logical == logical)
      = if logical = named then map.find? logical else none := by
    split
    case isTrue same =>
      subst same
      rw [List.find?_filter, find?]
      congr 1
      funext peer
      simp [Bool.beq_eq_decide_eq]
    case isFalse other =>
      refine List.find?_eq_none.2 fun peer held here => other ?_
      have there := (List.mem_filter.1 held).2
      rw [beq_iff_eq] at here there
      exact here.symm.trans there
  have retired : (map.evict fun peer => peer.logical == named).retiredCounter logical
      = ((if logical = named then map.find? logical else none).map Peer.toCounter).getD
          (map.retiredCounter logical) := by
    simp only [retiredCounter, NetworkMap.evict, List.lookup_append, lookup_counters, left]
    cases if logical = named then map.find? logical else none <;> simp
  by_cases same : logical = named
  · subst same
    have gone : (map.evict fun peer => peer.logical == logical).find? logical = none := by
      simp [find?, NetworkMap.evict]
    rw [nextCounter, gone, nextCounter, retired, if_pos rfl]
    cases map.find? logical <;> rfl
  · have kept : (map.evict fun peer => peer.logical == named).find? logical = map.find? logical :=
      find?_evict fun peer _ here => by simpa [here] using same
    rw [nextCounter, kept, nextCounter, retired, if_neg same]
    rfl

/-- A change of one peer changes no other number. -/
lemma nextCounter_update_of_ne {change : Peer → Peer} {other : LogicalAddress}
    (keeps : ∀ peer, (change peer).logical = peer.logical) (different : other ≠ logical) :
    (map.update logical change).nextCounter other = map.nextCounter other := by
  unfold nextCounter
  rw [find?_update keeps, if_neg different]
  rfl

lemma nextCounter_update_self {change : Peer → Peer}
    (keeps : ∀ peer, (change peer).logical = peer.logical)
    (found : map.find? logical = some peer) :
    (map.update logical change).nextCounter logical = (change peer).toCounter := by
  refine nextCounter_of_find? ?_
  rw [find?_update keeps, if_pos rfl, found]
  rfl

/-- A change that keeps the address and the number of a peer keeps every number. -/
lemma nextCounter_update {change : Peer → Peer}
    (keeps : ∀ peer, (change peer).logical = peer.logical)
    (counts : ∀ peer, (change peer).toCounter = peer.toCounter) (logical other : LogicalAddress) :
    (map.update logical change).nextCounter other = map.nextCounter other := by
  by_cases same : other = logical
  · subst same
    cases found : map.find? other with
    | some peer => rw [nextCounter_update_self keeps found, counts, nextCounter_of_find? found]
    | none =>
      unfold nextCounter
      rw [find?_update keeps, if_pos rfl, found]
      rfl
  · exact nextCounter_update_of_ne keeps same

/-- A new peer takes up the number that was kept for it. -/
lemma nextCounter_append (absent : map.find? logical = none) (physical : PhysicalAddress)
    (time : Int) (other : LogicalAddress) :
    (map.append logical physical time).2.nextCounter other = map.nextCounter other := by
  unfold nextCounter
  rw [find?_append absent]
  by_cases h : other = logical
  · subst h
    rw [if_pos rfl, absent]
    rfl
  · rw [if_neg h]
    cases map.find? other with
    | some peer => rfl
    | none =>
      simp only [retiredCounter, NetworkMap.append]
      congr 1
      induction map.retired with
      | nil => rfl
      | cons kept retired ih =>
        obtain ⟨address, counter⟩ := kept
        by_cases ha : address = logical
        · subst ha
          have h' : (other == address) = false := by simpa using h
          simpa [List.lookup_cons, h'] using ih
        · simp only [List.filter_cons, List.lookup_cons, bne_iff_ne, ne_eq, ha, not_false_eq_true,
            if_true, ih]

lemma Distinct.nextCounter_roomy (distinct : map.Distinct) (time : Int)
    (logical : LogicalAddress) : (map.roomy time).nextCounter logical = map.nextCounter logical := by
  unfold NetworkMap.roomy
  split
  · rfl
  · exact distinct.nextCounter_evict _ logical

/-- Learning a binding keeps every number. -/
lemma Distinct.nextCounter_observe (distinct : map.Distinct) (logical : LogicalAddress)
    (physical : PhysicalAddress) (time : Int) (other : LogicalAddress) :
    (map.observe logical physical time).2.nextCounter other = map.nextCounter other := by
  have seen := observed map logical physical time
  generalize map.observe logical physical time = result at seen ⊢
  cases seen with
  | broadcast => rfl
  | refreshed =>
    exact nextCounter_update (Peer.logical_refresh physical time)
      (Peer.toCounter_refresh physical time) logical other
  | added _ absent =>
    rw [nextCounter_append (distinct.find?_roomy_eq_none absent time)]
    exact distinct.nextCounter_roomy time other
  | full => exact distinct.nextCounter_roomy time other

/-- Looking a peer up keeps every number. -/
lemma Distinct.nextCounter_lookup (distinct : map.Distinct) (logical : LogicalAddress)
    (time : Int) (other : LogicalAddress) :
    (map.lookup logical time).2.nextCounter other = map.nextCounter other := by
  rcases lookup_eq map logical time with same | removed
  · rw [same]
  · rw [removed]; exact distinct.nextCounter_evict _ other

end NetworkMap

end RollCall
