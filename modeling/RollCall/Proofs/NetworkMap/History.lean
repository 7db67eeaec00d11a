import Mathlib.Data.Finset.Card
import Mathlib.Data.List.Induction
import RollCall.Proofs.NetworkMap.Lookup

/-!
# Network maps and the history of what was heard

A map removes peers when they are looked up, in bulk, and when room is needed, and it refreshes those
that it holds in place.  None of this shows from outside: what a map answers is told by the plain list
of the bindings that it has learned, and by how long ago each of them was.

* `Use`, `after`, `sightings` — a row of uses of a map, the map after it, and what was learned in it.
* `latest?`, `liveOthers` — where a peer was heard last, and which peers were heard within the window.
* `Agrees` — the map holds of every peer what was heard last, and forgets only what is stale.
  `Agrees.evict` and `Agrees.observe` say that the two changes of a map keep it.
* `refines_sightings` — **a map answers as the list of sightings does.**
-/

namespace RollCall.NetworkMap

/-- A binding that was learned: who was heard, from where, and when. -/
structure Sighting where
  logical : LogicalAddress
  physical : PhysicalAddress
  time : Int
deriving DecidableEq, Repr

/-- One use of a map. -/
inductive Use where
  | observe (logical : LogicalAddress) (physical : PhysicalAddress) (time : Int)
  | lookup (logical : LogicalAddress) (time : Int)
  | resolve (logical : LogicalAddress) (time : Int)
  | purge (time : Int)
  | noteSession (logical : LogicalAddress) (session : Int)
deriving DecidableEq, Repr

namespace Use

/-- The time that a use is made at; noting a session takes none. -/
def time? : Use → Option Int
  | observe _ _ time | lookup _ time | resolve _ time | purge time => some time
  | noteSession _ _ => none

def perform (map : NetworkMap) : Use → NetworkMap
  | observe logical physical time => (map.observe logical physical time).2
  | lookup logical time => (map.lookup logical time).2
  | resolve logical time => (map.resolve logical time).2
  | purge time => map.purge time
  | noteSession logical session => (map.noteSession logical session).2

/-- What a use teaches: an observation that succeeds is a sighting. -/
def sighting? (map : NetworkMap) : Use → Option Sighting
  | observe logical physical time =>
    match (map.observe logical physical time).1 with
    | .ok _ => some ⟨logical, physical, time⟩
    | .error _ => none
  | _ => none

end Use

/-- The map after a row of uses. -/
def after (map : NetworkMap) (uses : List Use) : NetworkMap := uses.foldl Use.perform map

/-- What a row of uses teaches, the latest first. -/
def sightings (map : NetworkMap) : List Use → List Sighting
  | [] => []
  | use :: uses => sightings (use.perform map) uses ++ (use.sighting? map).toList

/-- The last sighting of a peer. -/
def latest? (seen : List Sighting) (logical : LogicalAddress) : Option Sighting :=
  seen.find? fun s => s.logical == logical

/-- Where a peer was heard last, if that is not longer ago than the window. -/
def whereabouts (window : Int) (seen : List Sighting) (logical : LogicalAddress) (time : Int) :
    Option PhysicalAddress :=
  ((latest? seen logical).filter fun s => time - s.time ≤ window).map Sighting.physical

/-- The peers other than one that were heard within the window. -/
def liveOthers (window : Int) (seen : List Sighting) (logical : LogicalAddress) (time : Int) :
    Finset LogicalAddress :=
  (seen.map Sighting.logical).toFinset.filter fun other =>
    other ≠ logical ∧ (whereabouts window seen other time).isSome

lemma after_concat (map : NetworkMap) (uses : List Use) (use : Use) :
    map.after (uses ++ [use]) = use.perform (map.after uses) := by
  simp [after]

lemma sightings_concat (map : NetworkMap) (uses : List Use) (use : Use) :
    map.sightings (uses ++ [use])
      = (use.sighting? (map.after uses)).toList ++ map.sightings uses := by
  induction uses generalizing map with
  | nil => simp [sightings, after]
  | cons first uses ih => simp [sightings, after, ih]

variable {map : NetworkMap} {seen : List Sighting} {now time : Int}
  {logical other : LogicalAddress} {physical : PhysicalAddress} {peer : Peer} {s : Sighting}

lemma latest?_cons :
    latest? (s :: seen) other = if s.logical = other then some s else latest? seen other := by
  by_cases h : s.logical = other <;> simp [latest?, h]

lemma mem_of_latest? (found : latest? seen logical = some s) :
    s ∈ seen ∧ s.logical = logical := by
  refine ⟨List.mem_of_find?_eq_some found, ?_⟩
  simpa using List.find?_some found

lemma whereabouts_isSome {window : Int} :
    (whereabouts window seen logical time).isSome
      ↔ ∃ s, latest? seen logical = some s ∧ time - s.time ≤ window := by
  cases h : latest? seen logical with
  | none => simp [whereabouts, h]
  | some s =>
    rw [whereabouts, h, Option.isSome_map, Option.isSome_filter]
    simp

lemma mem_liveOthers {window : Int} :
    other ∈ liveOthers window seen logical time
      ↔ other ≠ logical ∧ (whereabouts window seen other time).isSome := by
  simp only [liveOthers, Finset.mem_filter, List.mem_toFinset, List.mem_map, and_iff_right_iff_imp]
  rintro ⟨-, live⟩
  obtain ⟨s, found, -⟩ := whereabouts_isSome.1 live
  exact ⟨s, mem_of_latest? found⟩

/-! ## The map and the list agree -/

/-- Of every peer the map holds what was heard last, and a peer that was heard but is not held is
stale. -/
structure Agrees (map : NetworkMap) (seen : List Sighting) (now : Int) : Prop where
  distinct : map.Distinct
  bounded : map.peers.length ≤ map.capacity
  held : ∀ {logical peer}, map.find? logical = some peer →
    latest? seen logical = some ⟨logical, peer.physical, peer.lastSeen⟩
  gone : ∀ {logical s}, latest? seen logical = some s → map.find? logical = none →
    (map.window : Int) < now - s.time

lemma Agrees.later (agrees : Agrees map seen now) (le : now ≤ time) : Agrees map seen time where
  distinct := agrees.distinct
  bounded := agrees.bounded
  held := agrees.held
  gone h h' := by
    have := agrees.gone h h'
    omega

/-- Removing stale peers, whichever they are, does not show. -/
lemma Agrees.evict (agrees : Agrees map seen now) {gone : Peer → Bool}
    (stale : ∀ peer ∈ map.peers, gone peer = true → peer.isStale map.window now = true) :
    Agrees (map.evict gone) seen now where
  distinct := agrees.distinct.evict gone
  bounded := (List.length_filter_le _ _).trans agrees.bounded
  held found := agrees.held (agrees.distinct.find?_of_find?_evict found)
  gone := by
    intro logical s heard absent
    rw [agrees.distinct.find?_evict] at absent
    cases found : map.find? logical with
    | none => exact agrees.gone heard found
    | some peer =>
      have last := agrees.held found
      rw [heard] at last
      cases last
      have removed : gone peer = true := by simpa [found, Option.filter] using absent
      have old := stale peer (mem_of_find? found) removed
      exact of_decide_eq_true old

lemma Agrees.purge (agrees : Agrees map seen now) : Agrees (map.purge now) seen now :=
  agrees.evict fun _ _ stale => stale

lemma Agrees.roomy (agrees : Agrees map seen now) : Agrees (map.roomy now) seen now := by
  rw [NetworkMap.roomy]
  split
  · exact agrees
  · exact agrees.purge

lemma Agrees.lookup (agrees : Agrees map seen now) (logical : LogicalAddress) :
    Agrees (map.lookup logical now).2 seen now := by
  rcases agrees.distinct.lookup_evicts logical now with same | ⟨gone, stale, removed⟩
  · rw [same]
    exact agrees
  · rw [removed]
    exact agrees.evict stale

/-- A change of a peer that is held shows as the last sighting of it does, if it is one. -/
lemma Agrees.update (agrees : Agrees map seen now) {after : List Sighting} {change : Peer → Peer}
    (keeps : ∀ peer, (change peer).logical = peer.logical) (found : map.find? logical = some peer)
    (here : latest? after logical
      = some ⟨logical, (change peer).physical, (change peer).lastSeen⟩)
    (elsewhere : ∀ other ≠ logical, latest? after other = latest? seen other) :
    Agrees (map.update logical change) after now where
  distinct := agrees.distinct.update keeps logical
  bounded := by simpa [NetworkMap.update] using agrees.bounded
  held := by
    intro other p known
    rw [find?_update keeps] at known
    by_cases same : other = logical
    · subst same
      simp only [if_true, found, Option.map_some, Option.some.injEq] at known
      rw [← known, here]
    · rw [if_neg same] at known
      rw [elsewhere other same, agrees.held known]
  gone := by
    intro other s heard absent
    rw [find?_update keeps] at absent
    by_cases same : other = logical
    · simp [same, found] at absent
    · rw [if_neg same] at absent
      rw [elsewhere other same] at heard
      exact agrees.gone heard absent

lemma Agrees.noteSession (agrees : Agrees map seen now) (logical : LogicalAddress)
    (session : Int) : Agrees (map.noteSession logical session).2 seen now := by
  cases found : map.find? logical with
  | none => simpa [NetworkMap.noteSession, found] using agrees
  | some peer =>
    have same : (peer.noteSession session).physical = peer.physical ∧
        (peer.noteSession session).lastSeen = peer.lastSeen := by
      rw [Peer.noteSession]
      split
      · simp
      · split <;> simp
    simp only [NetworkMap.noteSession, found]
    refine agrees.update (Peer.logical_noteSession session) found ?_ fun _ _ => rfl
    rw [same.1, same.2, agrees.held found]

/-- A new peer shows as a sighting. -/
lemma Agrees.append (agrees : Agrees map seen now) (absent : map.find? logical = none)
    (room : map.peers.length < map.capacity) :
    Agrees (map.append logical physical now).2 (⟨logical, physical, now⟩ :: seen) now where
  distinct := agrees.distinct.append absent physical now
  bounded := by simpa [NetworkMap.append] using Nat.succ_le_of_lt room
  held := by
    intro other p known
    rw [find?_append absent] at known
    rw [latest?_cons]
    by_cases same : other = logical
    · subst same
      simp only [if_true, Option.some.injEq] at known
      simp [← known, NetworkMap.append]
    · rw [if_neg same] at known
      rw [if_neg (Ne.symm same), agrees.held known]
  gone := by
    intro other s heard missing
    rw [find?_append absent] at missing
    by_cases same : other = logical
    · simp [same] at missing
    · rw [if_neg same] at missing
      rw [latest?_cons, if_neg (Ne.symm same)] at heard
      exact agrees.gone heard missing

/-- What is learned is the last thing heard, and what is refused is not heard at all. -/
lemma Agrees.observe (agrees : Agrees map seen now) (logical : LogicalAddress)
    (physical : PhysicalAddress) :
    Agrees (map.observe logical physical now).2
      (((Use.observe logical physical now).sighting? map).toList ++ seen) now := by
  have seen' := observed map logical physical now
  simp only [Use.sighting?]
  generalize map.observe logical physical now = result at seen' ⊢
  cases seen' with
  | broadcast => exact agrees
  | refreshed _ found =>
    refine agrees.update (Peer.logical_refresh physical now) found ?_ ?_
    · simp [latest?, Peer.refresh]
    · intro other different
      simp [latest?_cons, Ne.symm different]
  | added _ absent room =>
    exact agrees.roomy.append (agrees.distinct.find?_roomy_eq_none absent now)
      (by simpa using room)
  | full => exact agrees.roomy

/-- One use keeps the agreement. -/
lemma Agrees.perform (agrees : Agrees map seen now) (use : Use)
    (present : ∀ time ∈ use.time?, time = now) :
    Agrees (use.perform map) ((use.sighting? map).toList ++ seen) now := by
  cases use with
  | observe logical physical time =>
    obtain rfl : time = now := present time rfl
    exact agrees.observe logical physical
  | lookup logical time | resolve logical time =>
    obtain rfl : time = now := present time rfl
    exact agrees.lookup logical
  | purge time =>
    obtain rfl : time = now := present time rfl
    exact agrees.purge
  | noteSession logical session => exact agrees.noteSession logical session

/-- A row of uses keeps it: the induction is on the last use, so that the agreement is at its time. -/
lemma agrees_after {window capacity : Int} (made : create window capacity = .ok map)
    (uses : List Use) (ordered : (uses.filterMap Use.time? ++ [now]).Pairwise (· ≤ ·)) :
    Agrees (map.after uses) (map.sightings uses) now := by
  induction uses using List.reverseRecOn generalizing now with
  | nil =>
    have nobody := (of_create made).1
    refine ⟨distinct_of_create made, ?_, ?_, ?_⟩
    · simp [after, nobody]
    · intro logical peer found
      simp [after, find?, nobody] at found
    · intro logical s heard
      simp [sightings, latest?] at heard
  | append_singleton uses use ih =>
    rw [after_concat, sightings_concat]
    cases taken : use.time? with
    | none =>
      simp only [List.filterMap_append, List.filterMap_cons, taken, List.filterMap_nil,
        List.append_nil] at ordered
      exact (ih ordered).perform use (by simp [taken])
    | some time =>
      simp only [List.filterMap_append, List.filterMap_cons, taken, List.filterMap_nil] at ordered
      obtain ⟨before, -, last⟩ := List.pairwise_append.1 ordered
      have here := (ih before).perform use (by simp [taken])
      exact here.later (last time (by simp) now (by simp))

/-! ## What the agreement says -/

lemma Agrees.resolve_eq (agrees : Agrees map seen now) (logical : LogicalAddress) :
    (map.resolve logical now).1 = whereabouts map.window seen logical now := by
  cases found : map.find? logical with
  | none =>
    have missing : (map.resolve logical now).1 = none := by
      simp [NetworkMap.resolve, NetworkMap.lookup, found]
    rw [missing]
    cases heard : latest? seen logical with
    | none => simp [whereabouts, heard]
    | some s =>
      have old := agrees.gone heard found
      have long : ¬ now - s.time ≤ map.window := by omega
      simp [whereabouts, heard, Option.filter, long]
  | some peer =>
    by_cases old : (map.window : Int) < now - peer.lastSeen
    · have long : ¬ now - peer.lastSeen ≤ map.window := by omega
      simp [NetworkMap.resolve, NetworkMap.lookup, found, Peer.isStale, Peer.age, old, whereabouts,
        agrees.held found, Option.filter, long]
    · have short : now - peer.lastSeen ≤ map.window := by omega
      simp [NetworkMap.resolve, NetworkMap.lookup, found, Peer.isStale, Peer.age, old, whereabouts,
        agrees.held found, Option.filter, short]

/-- The peers that were heard within the window are those that are held and not stale. -/
lemma Agrees.live_iff (agrees : Agrees map seen now) :
    (whereabouts map.window seen logical now).isSome
      ↔ ∃ peer ∈ (map.purge now).peers, peer.logical = logical := by
  rw [whereabouts_isSome]
  constructor
  · rintro ⟨s, heard, short⟩
    cases found : (map.purge now).find? logical with
    | some peer => exact ⟨peer, mem_of_find? found, logical_of_find? found⟩
    | none =>
      have old : (map.window : Int) < now - s.time := agrees.purge.gone heard found
      omega
  · rintro ⟨peer, kept, rfl⟩
    obtain ⟨here, fresh⟩ := List.mem_filter.1 kept
    have found := agrees.distinct.find?_eq_some_iff.2 ⟨here, rfl⟩
    have young : peer.isStale map.window now = false := by simpa using fresh
    exact ⟨_, agrees.held found, Peer.isStale_eq_false_iff.1 young⟩

lemma Agrees.card_addresses (agrees : Agrees map seen now) :
    (map.peers.map Peer.logical).toFinset.card = map.peers.length := by
  rw [List.toFinset_card_of_nodup agrees.distinct, List.length_map]

/-- While a peer is held, fewer others than the map has room for were heard within the window. -/
lemma Agrees.card_liveOthers_lt (agrees : Agrees map seen now)
    (found : map.find? logical = some peer) :
    (liveOthers map.window seen logical now).card < map.capacity := by
  have others : liveOthers map.window seen logical now
      ⊂ (map.peers.map Peer.logical).toFinset := by
    refine Finset.ssubset_iff_subset_ne.2 ⟨?_, ?_⟩
    · intro other live
      obtain ⟨p, kept, rfl⟩ := agrees.live_iff.1 (mem_liveOthers.1 live).2
      simpa using ⟨p, (List.mem_filter.1 kept).1, rfl⟩
    · intro same
      have here : logical ∈ liveOthers map.window seen logical now := by
        rw [same]
        simpa using ⟨peer, mem_of_find? found, logical_of_find? found⟩
      exact (mem_liveOthers.1 here).1 rfl
  have fewer := Finset.card_lt_card others
  rw [agrees.card_addresses] at fewer
  exact fewer.trans_le agrees.bounded

/-- While a peer is not held, the others that were heard within the window are those that are left
when the stale ones are removed. -/
lemma Agrees.card_liveOthers_eq (agrees : Agrees map seen now)
    (absent : map.find? logical = none) :
    (liveOthers map.window seen logical now).card = (map.purge now).peers.length := by
  rw [← agrees.purge.card_addresses]
  congr 1
  ext other
  rw [mem_liveOthers, agrees.live_iff]
  simp only [List.mem_toFinset, List.mem_map, and_iff_right_iff_imp]
  rintro ⟨p, kept, rfl⟩
  exact find?_eq_none_iff.1 absent p (List.mem_filter.1 kept).1

/-- A peer is refused exactly if as many others as the map has room for were heard within the
window. -/
lemma Agrees.observe_eq (agrees : Agrees map seen now) (unicast : logical.isBroadcast = false)
    (physical : PhysicalAddress) :
    if (liveOthers map.window seen logical now).card = map.capacity then
      (map.observe logical physical now).1 = .error (.full map.capacity logical)
    else ∃ peer, (map.observe logical physical now).1 = .ok peer := by
  have left : (map.purge now).peers.length ≤ map.peers.length := List.length_filter_le _ _
  have bounded := agrees.bounded
  have seen' := observed map logical physical now
  generalize map.observe logical physical now = result at seen' ⊢
  cases seen' with
  | broadcast named => rw [unicast] at named; cases named
  | refreshed _ found =>
    have fewer := agrees.card_liveOthers_lt found
    rw [if_neg fewer.ne]
    exact ⟨_, rfl⟩
  | added _ absent room =>
    have count := agrees.card_liveOthers_eq absent
    rw [NetworkMap.roomy] at room
    split at room
    · rw [if_neg (by omega)]
      exact ⟨_, rfl⟩
    · rw [if_neg (by omega)]
      exact ⟨_, rfl⟩
  | full _ absent noRoom =>
    have count := agrees.card_liveOthers_eq absent
    rw [NetworkMap.roomy] at noRoom
    split at noRoom
    · omega
    · rw [if_pos (by omega)]

/-- Learning a binding removes no peer that is not stale. -/
lemma Distinct.find?_observe_of_live (distinct : map.Distinct)
    (found : map.find? other = some peer) (live : peer.isStale map.window time = false)
    (different : other ≠ logical) :
    (map.observe logical physical time).2.find? other = some peer := by
  have kept : (map.roomy time).find? other = some peer := by
    rw [NetworkMap.roomy]
    split
    · exact found
    · rw [NetworkMap.purge, distinct.find?_evict, found]
      simp [Option.filter, live]
  have seen' := observed map logical physical time
  generalize map.observe logical physical time = result at seen' ⊢
  cases seen' with
  | broadcast => exact found
  | refreshed => rw [find?_update (Peer.logical_refresh physical time), if_neg different, found]
  | added _ absent =>
    rw [find?_append (distinct.find?_roomy_eq_none absent time), if_neg different, kept]
  | full => exact kept

/-! ## The settings of a map -/

/-- Window and capacity stay what the map was made with. -/
lemma settings_observe (map : NetworkMap) (logical : LogicalAddress)
    (physical : PhysicalAddress) (time : Int) :
    (map.observe logical physical time).2.window = map.window ∧
      (map.observe logical physical time).2.capacity = map.capacity := by
  have roomy : (map.roomy time).window = map.window := by
    rw [NetworkMap.roomy]
    split <;> rfl
  have seen := observed map logical physical time
  generalize map.observe logical physical time = result at seen ⊢
  cases seen with
  | broadcast | refreshed => exact ⟨rfl, rfl⟩
  | added | full => exact ⟨roomy, capacity_roomy map time⟩

lemma settings_lookup (map : NetworkMap) (logical : LogicalAddress) (time : Int) :
    (map.lookup logical time).2.window = map.window ∧
      (map.lookup logical time).2.capacity = map.capacity := by
  rcases lookup_eq map logical time with same | removed
  · rw [same]; exact ⟨rfl, rfl⟩
  · rw [removed]; exact ⟨rfl, rfl⟩

lemma settings_perform (map : NetworkMap) (use : Use) :
    (use.perform map).window = map.window ∧ (use.perform map).capacity = map.capacity := by
  cases use with
  | observe logical physical time => exact settings_observe map logical physical time
  | lookup logical time | resolve logical time => exact settings_lookup map logical time
  | purge => exact ⟨rfl, rfl⟩
  | noteSession logical session =>
    simp only [Use.perform, NetworkMap.noteSession]
    split <;> exact ⟨rfl, rfl⟩

lemma settings_after (map : NetworkMap) (uses : List Use) :
    (map.after uses).window = map.window ∧ (map.after uses).capacity = map.capacity := by
  induction uses generalizing map with
  | nil => exact ⟨rfl, rfl⟩
  | cons use uses ih =>
    obtain ⟨window, capacity⟩ := settings_perform map use
    obtain ⟨window', capacity'⟩ := ih (use.perform map)
    exact ⟨window'.trans window, capacity'.trans capacity⟩

lemma settings_of_create {window capacity : Int} (made : create window capacity = .ok map) :
    (map.window : Int) = window ∧ (map.capacity : Int) = capacity := by
  simp only [create] at made
  split at made
  · cases made
  · split at made
    · cases made
    · cases made
      exact ⟨Int.toNat_of_nonneg (by omega), Int.toNat_of_nonneg (by omega)⟩

/-! ## The whole of it -/

/-- **A map answers as the list of sightings does.**  Take any row of uses of a new map, at times that
never go back, and any time after them.  Where a peer can be reached is where it was last sighted, if
that was within the window, and nowhere else.  A peer is refused exactly if as many others as the map
has room for were sighted within the window, and that changes where nobody can be reached.  The map
never holds more peers than it has room for, each found under its own address, and learning a binding
removes no other peer that is not stale. -/
theorem refines_sightings {window capacity : Int} (made : create window capacity = .ok map)
    (uses : List Use) (ordered : (uses.filterMap Use.time? ++ [time]).Pairwise (· ≤ ·)) :
    (∀ logical, ((map.after uses).resolve logical time).1
      = whereabouts window (map.sightings uses) logical time) ∧
    (∀ logical physical, logical.isBroadcast = false →
      if ((liveOthers window (map.sightings uses) logical time).card : Int) = capacity then
        ((map.after uses).observe logical physical time).1
          = .error (.full capacity.toNat logical)
      else ∃ peer, ((map.after uses).observe logical physical time).1 = .ok peer) ∧
    (∀ logical physical fault, ((map.after uses).observe logical physical time).1 = .error fault →
      ∀ other, (((map.after uses).observe logical physical time).2.resolve other time).1
        = ((map.after uses).resolve other time).1) ∧
    (((map.after uses).peers.length : Int) ≤ capacity ∧
      ∀ peer ∈ (map.after uses).peers, (map.after uses).find? peer.logical = some peer) ∧
    ∀ logical physical other peer, (map.after uses).find? other = some peer →
      peer.isStale (map.after uses).window time = false → other ≠ logical →
      ((map.after uses).observe logical physical time).2.find? other = some peer := by
  have agrees := agrees_after made uses ordered
  obtain ⟨sameWindow, sameCapacity⟩ := settings_after map uses
  obtain ⟨rfl, rfl⟩ := settings_of_create made
  rw [← sameWindow, ← sameCapacity]
  refine ⟨agrees.resolve_eq, ?_, ?_, ⟨?_, ?_⟩, ?_⟩
  · intro logical physical unicast
    have answer := agrees.observe_eq unicast physical
    simpa only [Int.natCast_inj, Int.toNat_natCast] using answer
  · intro logical physical fault refused other
    have later := agrees.observe logical physical
    rw [Use.sighting?, refused] at later
    have same := later.resolve_eq other
    rw [(settings_observe _ _ _ _).1] at same
    rw [same, agrees.resolve_eq]
    rfl
  · exact_mod_cast agrees.bounded
  · intro peer held
    exact agrees.distinct.find?_eq_some_iff.2 ⟨held, rfl⟩
  · intro logical physical other peer found live different
    exact agrees.distinct.find?_observe_of_live found live different

/-! ### A full map with a stale peer -/

/-- Two peers fill the map.  One is heard again, the other grows stale and makes room for a third. -/
def threeForTwo : List Use :=
  [.observe .missionControl ⟨"10.0.0.2", udpPort⟩ 0, .observe (.camera 1) ⟨"10.0.0.3", udpPort⟩ 1,
    .observe .missionControl ⟨"10.0.0.4", udpPort⟩ 6, .noteSession .missionControl 9,
    .observe (.camera 2) ⟨"10.0.0.5", udpPort⟩ 12]

/-- A peer is still reached at the age of the whole window, and a fourth finds no room then. -/
theorem refines_sightings_three_for_two :
    create 10 2 = .ok { window := 10, capacity := 2 } ∧
      ((after { window := 10, capacity := 2 } threeForTwo).resolve .missionControl 16).1
        = some ⟨"10.0.0.4", udpPort⟩ ∧
      ((after { window := 10, capacity := 2 } threeForTwo).resolve (.camera 1) 16).1 = none ∧
      ((after { window := 10, capacity := 2 } threeForTwo).observe (.camera 3) ⟨"10.0.0.6", udpPort⟩
        16).1 = .error (.full 2 (.camera 3)) := by
  have made : create 10 2 = .ok { window := 10, capacity := 2 } := rfl
  have ordered : (threeForTwo.filterMap Use.time? ++ [16]).Pairwise (· ≤ ·) := by decide
  obtain ⟨reached, refused, -⟩ := refines_sightings made threeForTwo ordered
  refine ⟨made, ?_, ?_, ?_⟩
  · rw [reached]
    decide
  · rw [reached]
    decide
  · exact refused (.camera 3) ⟨"10.0.0.6", udpPort⟩ rfl

end RollCall.NetworkMap
