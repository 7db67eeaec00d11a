import RollCall.Proofs.NetworkMap.History

/-!
# Stale peers, removed or not

A stale peer counts as absent to everybody who looks it up, so it should not matter whether it has
been removed yet.  Two maps are put side by side here that differ in peers that are stale only: the
maps of two rows of requests, the same but for looks that are slipped into the one of them.  Every
answer of the two is the same as long as one thing does not happen.  Where a stale peer that is
still held is heard again it is refreshed as a live one is, and keeps the counters expected of it
and the session that it announced.  Where it was removed before, it comes back without them.

* `Request`, `Answer` — what is asked of a map besides its uses, and what is told.
* `Look`, `Item`, `answers` — rows of requests with looks slipped in, and what is told in them.
* `revives`, `revivals` — where a stale peer of which something is remembered is heard again.
* `Alike` — two maps that differ in stale peers only.  `Alike.forget` and `Alike.learn` are the two
  changes that it is kept by, and `Alike.observe_eq_iff` says when the two learn the same.
* `answers_eq_iff` — looks slipped in do not show exactly if they change no revival.
* `looks_unnoticed_iff` — **looks go unnoticed exactly if no stale peer is revived.**
-/

namespace RollCall

namespace Peer

/-- The peer with other counters. -/
def recount (change : Peer → Int × Option Int × Option Int) (peer : Peer) : Peer :=
  { peer with
    toCounter := (change peer).1
    fromCounter := (change peer).2.1
    broadcastCounter := (change peer).2.2 }

/-- Whether anything is known of a peer that it loses when it is removed. -/
def remembers (peer : Peer) : Bool :=
  peer.fromCounter.isSome || peer.broadcastCounter.isSome || peer.session.isSome

/-- A peer is what a refresh makes of another exactly if it is the same but for place and time. -/
lemma refresh_eq_fresh_iff {peer : Peer} {physical : PhysicalAddress} {time : Int} :
    peer.refresh physical time
        = { logical := peer.logical, physical := physical, lastSeen := time,
            toCounter := peer.toCounter }
      ↔ peer.remembers = false := by
  simp [refresh, remembers, and_assoc]

lemma lastSeen_noteSession (session : Int) (peer : Peer) :
    (peer.noteSession session).lastSeen = peer.lastSeen := by
  unfold noteSession
  split
  · rfl
  · split <;> rfl

end Peer

namespace NetworkMap

/-! ## Requests, and looks between them -/

/-- What is asked of a map.  Besides its uses there is the change of a peer's counters by whoever
looked it up, and the clearing of the map. -/
inductive Request where
  | use (use : Use)
  | recount (logical : LogicalAddress) (time : Int) (change : Peer → Int × Option Int × Option Int)
  | clear

/-- What is told of a request. -/
inductive Answer where
  | learned (answer : Except MapFault Peer)
  | found (answer : Option Peer)
  | place (answer : Option PhysicalAddress)
  /-- Nothing that is compared. -/
  | untold
deriving DecidableEq

namespace Request

def time? : Request → Option Int
  | .use called => called.time?
  | .recount _ time _ => some time
  | .clear => none

/-- The map after a request.  Where a peer to be changed is not found, nothing is. -/
def perform (map : NetworkMap) : Request → NetworkMap
  | .use called => called.perform map
  | .recount logical time change => (map.lookup logical time).2.update logical (Peer.recount change)
  | .clear => map.clear

def answer (map : NetworkMap) : Request → Answer
  | .use (.observe logical physical time) => .learned (map.observe logical physical time).1
  | .use (.lookup logical time) | .recount logical time _ => .found (map.lookup logical time).1
  | .use (.resolve logical time) => .place (map.resolve logical time).1
  | .use (.purge _) | .use (.noteSession _ _) | .clear => .untold

end Request

/-- Hearing a peer revives it: it is held, it is stale, and something is remembered of it. -/
def revives (map : NetworkMap) (logical : LogicalAddress) (time : Int) : Bool :=
  !logical.isBroadcast &&
    (map.find? logical).any fun peer => peer.isStale map.window time && peer.remembers

def Request.revives (map : NetworkMap) : Request → Bool
  | .use (.observe logical _ time) => map.revives logical time
  | _ => false

/-- A look at a map at some time: a use that may be slipped in anywhere. -/
inductive Look where
  | lookup (logical : LogicalAddress) (time : Int)
  | resolve (logical : LogicalAddress) (time : Int)
  | purge (time : Int)
deriving DecidableEq, Repr

namespace Look

def time : Look → Int
  | lookup _ time | resolve _ time | purge time => time

def use : Look → Use
  | lookup logical time => .lookup logical time
  | resolve logical time => .resolve logical time
  | purge time => .purge time

end Look

/-- An item of a row: a request, or a look that is slipped in. -/
inductive Item where
  | asked (request : Request)
  | slipped (look : Look)

namespace Item

def asked? : Item → Option Request
  | asked request => some request
  | slipped _ => none

def time? : Item → Option Int
  | asked request => request.time?
  | slipped look => some look.time

def perform (map : NetworkMap) : Item → NetworkMap
  | asked request => request.perform map
  | slipped look => look.use.perform map

end Item

/-- What is told in a row, of the requests alone. -/
def answers (map : NetworkMap) : List Item → List Answer
  | [] => []
  | item :: items =>
    (item.asked?.map (Request.answer map)).toList ++ answers (item.perform map) items

/-- Which of the requests of a row revive a peer. -/
def revivals (map : NetworkMap) : List Item → List Bool
  | [] => []
  | item :: items =>
    (item.asked?.map (Request.revives map)).toList ++ revivals (item.perform map) items

/-- A row has the given requests, and its times never go back. -/
structure Slips (requests : List Request) (items : List Item) : Prop where
  asked : items.filterMap Item.asked? = requests
  ordered : (items.filterMap Item.time?).Pairwise (· ≤ ·)

/-- The requests alone. -/
def plain (requests : List Request) : List Item := requests.map .asked

variable {m n m' n' map : NetworkMap} {now time : Int} {logical other : LogicalAddress}
  {physical : PhysicalAddress} {peer : Peer}

/-! ## Maps in order -/

/-- No two peers have the same address, and there is room for all of them. -/
structure Sound (map : NetworkMap) : Prop where
  distinct : map.Distinct
  bounded : map.peers.length ≤ map.capacity

lemma Sound.evict (sound : map.Sound) (gone : Peer → Bool) : (map.evict gone).Sound where
  distinct := sound.distinct.evict gone
  bounded := (List.length_filter_le _ _).trans sound.bounded

lemma Sound.update (sound : map.Sound) {change : Peer → Peer}
    (keeps : ∀ peer, (change peer).logical = peer.logical) (logical : LogicalAddress) :
    (map.update logical change).Sound where
  distinct := sound.distinct.update keeps logical
  bounded := by simpa [NetworkMap.update] using sound.bounded

lemma Sound.append (sound : map.Sound) (absent : map.find? logical = none)
    (room : map.peers.length < map.capacity) (physical : PhysicalAddress) (time : Int) :
    (map.append logical physical time).2.Sound where
  distinct := sound.distinct.append absent physical time
  bounded := by simpa [NetworkMap.append] using Nat.succ_le_of_lt room

lemma sound_of_create {window capacity : Int} (made : create window capacity = .ok map) :
    map.Sound where
  distinct := distinct_of_create made
  bounded := by simp [(of_create made).1]

/-- Maps in which the same is found hold as many peers. -/
lemma Distinct.length_eq (here : m.Distinct) (there : n.Distinct)
    (same : ∀ logical, m.find? logical = n.find? logical) : m.peers.length = n.peers.length := by
  refine (List.Perm.length_eq ?_)
  rw [List.perm_ext_iff_of_nodup (List.Nodup.of_map _ here) (List.Nodup.of_map _ there)]
  intro peer
  have held : m.find? peer.logical = some peer ↔ peer ∈ m.peers ∧ peer.logical = peer.logical :=
    here.find?_eq_some_iff
  rw [same, there.find?_eq_some_iff] at held
  simpa using held.symm

/-- A new peer finds room exactly if it does so once the stale peers are removed. -/
lemma Sound.room_iff (sound : map.Sound) :
    (map.roomy time).peers.length < map.capacity
      ↔ (map.purge time).peers.length < map.capacity := by
  have left : (map.purge time).peers.length ≤ map.peers.length := List.length_filter_le _ _
  have bounded := sound.bounded
  rw [NetworkMap.roomy]
  split
  · constructor <;> intro <;> omega
  · rfl

/-- Where a stale peer is held there is room for it, so that there would be if it were not held. -/
lemma Sound.room_of_stale (sound : map.Sound) (found : map.find? logical = some peer)
    (stale : peer.isStale map.window time = true) :
    (map.purge time).peers.length < map.capacity := by
  have fewer : (map.purge time).peers.length < map.peers.length :=
    List.length_filter_lt_length_iff_exists.2 ⟨peer, mem_of_find? found, by simp [stale]⟩
  exact fewer.trans_le sound.bounded

/-! ## Maps that differ in stale peers only -/

/-- What two maps find of one address: the same, or a stale peer and none. -/
inductive Near (window : Nat) (now : Int) : Option Peer → Option Peer → Prop
  | same (held : Option Peer) : Near window now held held
  | lost {peer : Peer} : peer.isStale window now = true → Near window now (some peer) none
  | back {peer : Peer} : peer.isStale window now = true → Near window now none (some peer)

/-- Two maps that differ in stale peers only.  The number of the next datagram to a peer survives
its removal, so that it is the same in both. -/
structure Alike (m n : NetworkMap) (now : Int) : Prop where
  here : m.Sound
  there : n.Sound
  window : m.window = n.window
  capacity : m.capacity = n.capacity
  near : ∀ logical, Near m.window now (m.find? logical) (n.find? logical)
  numbers : ∀ logical, m.nextCounter logical = n.nextCounter logical

lemma Near.symm {window : Nat} {p q : Option Peer} (near : Near window now p q) :
    Near window now q p := by
  cases near with
  | same => exact .same _
  | lost stale => exact .back stale
  | back stale => exact .lost stale

lemma Alike.symm (alike : Alike m n now) : Alike n m now where
  here := alike.there
  there := alike.here
  window := alike.window.symm
  capacity := alike.capacity.symm
  near logical := alike.window ▸ (alike.near logical).symm
  numbers logical := (alike.numbers logical).symm

lemma Sound.alike (sound : map.Sound) : Alike map map now where
  here := sound
  there := sound
  window := rfl
  capacity := rfl
  near _ := .same _
  numbers _ := rfl

lemma Alike.later (alike : Alike m n now) (le : now ≤ time) : Alike m n time := by
  have older {peer : Peer} (stale : peer.isStale m.window now = true) :
      peer.isStale m.window time = true := by
    have long : (m.window : Int) < now - peer.lastSeen := of_decide_eq_true stale
    refine decide_eq_true ?_
    rw [Peer.age]
    omega
  refine { alike with near := fun logical => ?_ }
  have near := alike.near logical
  generalize m.find? logical = p, n.find? logical = q at near ⊢
  cases near with
  | same => exact .same _
  | lost stale => exact .lost (older stale)
  | back stale => exact .back (older stale)

/-- Peers that are not stale are found in both. -/
lemma Near.filter_eq {window : Nat} {p q : Option Peer} (near : Near window now p q) :
    p.filter (fun peer => !peer.isStale window now)
      = q.filter fun peer => !peer.isStale window now := by
  cases near with
  | same => rfl
  | lost stale | back stale => simp [Option.filter, stale]

/-- Stale peers may be removed from one of the two. -/
lemma Alike.forget (alike : Alike m n now) {gone : Peer → Bool}
    (stale : ∀ peer ∈ m.peers, gone peer = true → peer.isStale m.window now = true) :
    Alike (m.evict gone) n now where
  here := alike.here.evict gone
  there := alike.there
  window := alike.window
  capacity := alike.capacity
  numbers logical := by rw [alike.here.distinct.nextCounter_evict, alike.numbers]
  near logical := by
    have near := alike.near logical
    rw [alike.here.distinct.find?_evict]
    show Near m.window now _ _
    cases found : m.find? logical with
    | none => rw [found] at near; exact near
    | some peer =>
      rw [found] at near
      cases removed : gone peer with
      | false => simpa [Option.filter, removed] using near
      | true =>
        have old := stale peer (mem_of_find? found) removed
        have gone : (some peer).filter (fun p => !gone p) = none := by simp [Option.filter, removed]
        rw [gone]
        generalize n.find? logical = held at near ⊢
        cases near with
        | same => exact .back old
        | lost => exact .same _

lemma Alike.purge (alike : Alike m n now) : Alike (m.purge now) n now :=
  alike.forget fun _ _ stale => stale

lemma Alike.roomy (alike : Alike m n now) : Alike (m.roomy now) n now := by
  rw [NetworkMap.roomy]
  split
  · exact alike
  · exact alike.purge

lemma Alike.lookup (alike : Alike m n now) (logical : LogicalAddress) :
    Alike (m.lookup logical now).2 n now := by
  rcases alike.here.distinct.lookup_evicts logical now with same | ⟨gone, stale, removed⟩
  · rw [same]
    exact alike
  · rw [removed]
    exact alike.forget stale

lemma Alike.look (alike : Alike m n now) (look : Look) (present : look.time = now) :
    Alike (look.use.perform m) n now := by
  subst present
  cases look with
  | lookup logical | resolve logical => exact alike.lookup logical
  | purge => exact alike.purge

/-! ## Both maps change -/

/-- The second map is the first with a peer entered: put in its place, or added. -/
structure Learns (map after : NetworkMap) (peer : Peer) : Prop where
  sound : after.Sound
  window : after.window = map.window
  capacity : after.capacity = map.capacity
  entered : after.find? peer.logical = some peer
  finds : ∀ other ≠ peer.logical, after.find? other = map.find? other
  numbers : ∀ other ≠ peer.logical, after.nextCounter other = map.nextCounter other

lemma Sound.learns_update (sound : map.Sound) {change : Peer → Peer}
    (keeps : ∀ peer, (change peer).logical = peer.logical) (found : map.find? logical = some peer) :
    Learns map (map.update logical change) (change peer) := by
  have named : (change peer).logical = logical := (keeps peer).trans (logical_of_find? found)
  refine ⟨sound.update keeps logical, rfl, rfl, ?_, ?_, ?_⟩
  · rw [named, find?_update keeps, if_pos rfl, found, Option.map_some]
  · intro other different
    rw [find?_update keeps, if_neg (named ▸ different)]
  · intro other different
    exact nextCounter_update_of_ne keeps (named ▸ different)

lemma Sound.learns_append (sound : map.Sound) (absent : map.find? logical = none)
    (room : map.peers.length < map.capacity) (physical : PhysicalAddress) (time : Int) :
    Learns map (map.append logical physical time).2 (map.append logical physical time).1 := by
  refine ⟨sound.append absent room physical time, rfl, rfl, ?_, ?_, ?_⟩
  · exact (find?_append absent physical time logical).trans (if_pos rfl)
  · intro other different
    exact (find?_append absent physical time other).trans (if_neg different)
  · intro other _
    exact nextCounter_append absent physical time other

/-- The same peer is entered in both. -/
lemma Alike.learn (alike : Alike m n now) (left : Learns m m' peer) (right : Learns n n' peer) :
    Alike m' n' now where
  here := left.sound
  there := right.sound
  window := by rw [left.window, right.window, alike.window]
  capacity := by rw [left.capacity, right.capacity, alike.capacity]
  near logical := by
    rw [left.window]
    by_cases same : logical = peer.logical
    · rw [same, left.entered, right.entered]
      exact .same _
    · rw [left.finds logical same, right.finds logical same]
      exact alike.near logical
  numbers logical := by
    by_cases same : logical = peer.logical
    · rw [same, nextCounter_of_find? left.entered, nextCounter_of_find? right.entered]
    · rw [left.numbers logical same, right.numbers logical same, alike.numbers]

/-- A change of a peer that no map holds is none. -/
lemma update_of_find?_eq_none (absent : map.find? logical = none) (change : Peer → Peer) :
    map.update logical change = map := by
  have same : (map.peers.map fun peer => if peer.logical = logical then change peer else peer)
      = map.peers := by
    conv_rhs => rw [← List.map_id map.peers]
    exact List.map_congr_left fun peer held => if_neg (find?_eq_none_iff.1 absent peer held)
  rw [NetworkMap.update, same]

/-- Where the two find the same, they may be changed alike. -/
lemma Alike.update (alike : Alike m n now) {change : Peer → Peer}
    (keeps : ∀ peer, (change peer).logical = peer.logical)
    (same : m.find? logical = n.find? logical) :
    Alike (m.update logical change) (n.update logical change) now := by
  cases found : m.find? logical with
  | none =>
    rw [update_of_find?_eq_none found, update_of_find?_eq_none (same ▸ found)]
    exact alike
  | some peer =>
    exact alike.learn (alike.here.learns_update keeps found)
      (alike.there.learns_update keeps (same ▸ found))

/-- A stale peer may be changed in one of the two, if it stays as old and keeps its number. -/
lemma Alike.alter (alike : Alike m n now) {change : Peer → Peer}
    (keeps : ∀ peer, (change peer).logical = peer.logical)
    (ages : ∀ peer, (change peer).lastSeen = peer.lastSeen)
    (counts : ∀ peer, (change peer).toCounter = peer.toCounter)
    (absent : n.find? logical = none) : Alike (m.update logical change) n now where
  here := alike.here.update keeps logical
  there := alike.there
  window := alike.window
  capacity := alike.capacity
  numbers other := by rw [nextCounter_update keeps counts, alike.numbers]
  near other := by
    show Near m.window now _ _
    rw [find?_update keeps]
    have near := alike.near other
    split
    case isTrue same =>
      rw [same, absent] at near ⊢
      cases found : m.find? logical with
      | none => exact .same _
      | some peer =>
        rw [found] at near
        cases near with
        | lost stale =>
          refine .lost ?_
          rw [Peer.isStale, Peer.age, ages]
          exact stale
    case isFalse => exact near

lemma noteSession_eq (map : NetworkMap) (logical : LogicalAddress) (session : Int) :
    (map.noteSession logical session).2 = map.update logical (Peer.noteSession session) := by
  unfold NetworkMap.noteSession
  cases found : map.find? logical with
  | none => rw [update_of_find?_eq_none found]
  | some peer => rfl

lemma Alike.noteSession (alike : Alike m n now) (logical : LogicalAddress) (session : Int) :
    Alike (m.noteSession logical session).2 (n.noteSession logical session).2 now := by
  have keeps := Peer.logical_noteSession session
  have ages := Peer.lastSeen_noteSession session
  have counts := Peer.toCounter_noteSession session
  rw [noteSession_eq, noteSession_eq]
  have near := alike.near logical
  cases here : m.find? logical with
  | none =>
    rw [update_of_find?_eq_none here]
    exact (alike.symm.alter keeps ages counts here).symm
  | some peer =>
    cases there : n.find? logical with
    | none =>
      rw [update_of_find?_eq_none there]
      exact alike.alter keeps ages counts there
    | some peer' =>
      rw [here, there] at near
      cases near
      exact alike.update keeps (here.trans there.symm)

lemma Alike.clear (alike : Alike m n now) : Alike m.clear n.clear now where
  here := ⟨List.nodup_nil, Nat.zero_le _⟩
  there := ⟨List.nodup_nil, Nat.zero_le _⟩
  window := alike.window
  capacity := alike.capacity
  near _ := .same _
  numbers _ := rfl

/-! ## What the two answer -/

/-- A look-up finds the peer if it is not stale. -/
lemma lookup_fst (map : NetworkMap) (logical : LogicalAddress) (time : Int) :
    (map.lookup logical time).1
      = (map.find? logical).filter fun peer => !peer.isStale map.window time := by
  unfold NetworkMap.lookup
  cases found : map.find? logical with
  | none => rfl
  | some peer => cases stale : peer.isStale map.window time <;> simp [Option.filter, stale]

/-- What a look-up finds is what is held after it. -/
lemma find?_lookup_self (map : NetworkMap) (logical : LogicalAddress) (time : Int) :
    (map.lookup logical time).2.find? logical = (map.lookup logical time).1 := by
  unfold NetworkMap.lookup
  cases found : map.find? logical with
  | none => exact found
  | some peer =>
    cases stale : peer.isStale map.window time with
    | false => simpa [stale] using found
    | true => simp [stale, find?, NetworkMap.evict]

lemma Alike.lookup_fst_eq (alike : Alike m n now) (logical : LogicalAddress) :
    (m.lookup logical now).1 = (n.lookup logical now).1 := by
  rw [lookup_fst, lookup_fst, ← alike.window]
  exact (alike.near logical).filter_eq

lemma Alike.lookup_both (alike : Alike m n now) (logical : LogicalAddress) :
    Alike (m.lookup logical now).2 (n.lookup logical now).2 now :=
  ((alike.lookup logical).symm.lookup logical).symm

/-- The two have room for the same newcomers. -/
lemma Alike.room_iff (alike : Alike m n now) :
    (m.roomy now).peers.length < m.capacity ↔ (n.roomy now).peers.length < n.capacity := by
  have same : ∀ logical, (m.purge now).find? logical = (n.purge now).find? logical := by
    intro logical
    rw [NetworkMap.purge, NetworkMap.purge, alike.here.distinct.find?_evict,
      alike.there.distinct.find?_evict, ← alike.window]
    exact (alike.near logical).filter_eq
  have length := (alike.here.distinct.purge now).length_eq (alike.there.distinct.purge now) same
  rw [alike.here.room_iff, alike.there.room_iff, length, alike.capacity]

/-- A peer that is new to both comes in with the same number. -/
lemma Alike.append_fst_eq (alike : Alike m n now) (here : m.find? logical = none)
    (there : n.find? logical = none) (physical : PhysicalAddress) :
    (m.append logical physical now).1 = (n.append logical physical now).1 := by
  have number := alike.numbers logical
  simp only [nextCounter, here, there] at number
  simp [NetworkMap.append, number]

/-- A stale peer that only the first map holds is heard: the first refreshes it, the second enters
it anew, and the two have learned the same if nothing was remembered of it. -/
lemma Alike.observe_of_lost (alike : Alike m n now) (unicast : logical.isBroadcast = false)
    (here : m.find? logical = some peer) (there : n.find? logical = none)
    (physical : PhysicalAddress) :
    ((m.observe logical physical now).1 = (n.observe logical physical now).1
        ↔ peer.remembers = false) ∧
      (peer.remembers = false →
        Alike (m.observe logical physical now).2 (n.observe logical physical now).2 now) := by
  have stale : peer.isStale m.window now = true := by
    have near := alike.near logical
    rw [here, there] at near
    cases near with
    | lost stale => exact stale
  have room : (n.roomy now).peers.length < n.capacity := by
    rw [← alike.room_iff, alike.here.room_iff]
    exact alike.here.room_of_stale here stale
  have absent := alike.there.distinct.find?_roomy_eq_none there now
  have roomy : Alike m (n.roomy now) now := alike.symm.roomy.symm
  have left : m.observe logical physical now
      = (.ok (peer.refresh physical now), m.update logical (Peer.refresh physical now)) := by
    simp [NetworkMap.observe, unicast, here]
  have right : n.observe logical physical now
      = (.ok ((n.roomy now).append logical physical now).1,
        ((n.roomy now).append logical physical now).2) := by
    have seen := observed n logical physical now
    generalize n.observe logical physical now = result at seen ⊢
    cases seen with
    | broadcast named => rw [unicast] at named; cases named
    | refreshed _ found => rw [there] at found; cases found
    | added => rfl
    | full _ _ noRoom => omega
  -- The newcomer has the number of the one that was lost.
  have fresh : ((n.roomy now).append logical physical now).1
      = { logical := peer.logical, physical := physical, lastSeen := now,
          toCounter := peer.toCounter } := by
    have number := roomy.numbers logical
    rw [nextCounter_of_find? here] at number
    simp only [nextCounter, absent] at number
    simp [NetworkMap.append, logical_of_find? here, number]
  have same : peer.refresh physical now = ((n.roomy now).append logical physical now).1
      ↔ peer.remembers = false := by
    rw [fresh, Peer.refresh_eq_fresh_iff]
  rw [left, right]
  refine ⟨by simpa using same, fun forgotten => ?_⟩
  refine roomy.learn (alike.here.learns_update (Peer.logical_refresh physical now) here) ?_
  rw [same.2 forgotten]
  exact roomy.there.learns_append absent (by simpa using room) physical now

/-- The two learn the same of a peer exactly if it is revived in both or in neither. -/
lemma Alike.observe_eq_iff (alike : Alike m n now) (logical : LogicalAddress)
    (physical : PhysicalAddress) :
    ((m.observe logical physical now).1 = (n.observe logical physical now).1
        ↔ m.revives logical now = n.revives logical now) ∧
      (m.revives logical now = n.revives logical now →
        Alike (m.observe logical physical now).2 (n.observe logical physical now).2 now) := by
  cases unicast : logical.isBroadcast with
  | true =>
    have refused (map : NetworkMap) :
        map.observe logical physical now = (.error .broadcast, map) := by
      simp [NetworkMap.observe, unicast]
    rw [refused, refused]
    simpa [revives, unicast] using alike
  | false =>
    have near := alike.near logical
    cases here : m.find? logical with
    | some peer =>
      cases there : n.find? logical with
      | some peer' =>
        rw [here, there] at near
        cases near
        have heard {map : NetworkMap} (found : map.find? logical = some peer) :
            map.observe logical physical now
              = (.ok (peer.refresh physical now),
                map.update logical (Peer.refresh physical now)) := by
          simp [NetworkMap.observe, unicast, found]
        rw [heard here, heard there]
        have both := alike.update (Peer.logical_refresh physical now) (here.trans there.symm)
        simpa [revives, here, there, alike.window] using both
      | none =>
        have lost := alike.observe_of_lost unicast here there physical
        rw [here, there] at near
        cases near with
        | lost stale => simpa [revives, unicast, here, there, stale] using lost
    | none =>
      cases there : n.find? logical with
      | some peer =>
        have lost := alike.symm.observe_of_lost unicast there here physical
        rw [here, there] at near
        cases near with
        | back stale =>
          rw [alike.window] at stale
          have back : peer.remembers = false ↔ m.revives logical now = n.revives logical now := by
            simp [revives, unicast, here, there, stale]
          rw [← back]
          exact ⟨eq_comm.trans lost.1, fun forgotten => (lost.2 forgotten).symm⟩
      | none =>
        have left := observed m logical physical now
        have right := observed n logical physical now
        have roomy : Alike (m.roomy now) (n.roomy now) now := alike.roomy.symm.roomy.symm
        have absent := alike.here.distinct.find?_roomy_eq_none here now
        have absent' := alike.there.distinct.find?_roomy_eq_none there now
        have room := alike.room_iff
        have quiet : m.revives logical now = n.revives logical now := by simp [revives, here, there]
        generalize m.observe logical physical now = result at left ⊢
        generalize n.observe logical physical now = result' at right ⊢
        simp only [quiet, iff_true, forall_const]
        cases left with
        | broadcast named => rw [unicast] at named; cases named
        | refreshed _ found => rw [here] at found; cases found
        | added _ _ fits =>
          cases right with
          | broadcast named => rw [unicast] at named; cases named
          | refreshed _ found => rw [there] at found; cases found
          | added _ _ fits' =>
            have same := roomy.append_fst_eq absent absent' physical
            refine ⟨by rw [same], ?_⟩
            have left := roomy.here.learns_append absent (by simpa using fits) physical now
            refine roomy.learn left ?_
            rw [same]
            exact roomy.there.learns_append absent' (by simpa using fits') physical now
          | full _ _ noRoom => omega
        | full _ _ noRoom =>
          cases right with
          | broadcast named => rw [unicast] at named; cases named
          | refreshed _ found => rw [there] at found; cases found
          | added _ _ fits' => omega
          | full => exact ⟨by rw [alike.capacity], roomy⟩

/-- One request: the answers are the same just if the revivals are, and then the maps stay alike. -/
lemma Alike.request (alike : Alike m n now) (request : Request)
    (present : ∀ time ∈ request.time?, time = now) :
    (request.answer m = request.answer n ↔ request.revives m = request.revives n) ∧
      (request.revives m = request.revives n →
        Alike (request.perform m) (request.perform n) now) := by
  cases request with
  | clear => exact ⟨by simp [Request.answer, Request.revives], fun _ => alike.clear⟩
  | recount logical time change =>
    obtain rfl : time = now := present time rfl
    refine ⟨by simp [Request.answer, Request.revives, alike.lookup_fst_eq logical], fun _ => ?_⟩
    refine (alike.lookup_both logical).update (fun _ => rfl) ?_
    rw [find?_lookup_self, find?_lookup_self, alike.lookup_fst_eq logical]
  | use called =>
    cases called with
    | observe logical physical time =>
      obtain rfl : time = now := present time rfl
      simpa [Request.answer, Request.revives, Request.perform, Use.perform]
        using alike.observe_eq_iff logical physical
    | lookup logical time =>
      obtain rfl : time = now := present time rfl
      exact ⟨by simp [Request.answer, Request.revives, alike.lookup_fst_eq logical],
        fun _ => alike.lookup_both logical⟩
    | resolve logical time =>
      obtain rfl : time = now := present time rfl
      exact ⟨by simp [Request.answer, Request.revives, NetworkMap.resolve,
        alike.lookup_fst_eq logical], fun _ => alike.lookup_both logical⟩
    | purge time =>
      obtain rfl : time = now := present time rfl
      exact ⟨by simp [Request.answer, Request.revives], fun _ => alike.purge.symm.purge.symm⟩
    | noteSession logical session =>
      exact ⟨by simp [Request.answer, Request.revives], fun _ => alike.noteSession logical session⟩

/-! ## Rows of requests -/

/-- **Looks slipped in do not show exactly if they change no revival.**  The one map answers the
requests with looks between them, the other the requests alone. -/
theorem Alike.answers_eq_iff (alike : Alike m n now) (items : List Item)
    (ordered : (now :: items.filterMap Item.time?).Pairwise (· ≤ ·)) :
    m.answers items = n.answers (plain (items.filterMap Item.asked?))
      ↔ m.revivals items = n.revivals (plain (items.filterMap Item.asked?)) := by
  induction items generalizing m n now with
  | nil => simp [answers, revivals, plain]
  | cons item items ih =>
    cases item with
    | slipped look =>
      obtain ⟨first, rest⟩ := List.pairwise_cons.1 ordered
      have looked := (alike.later (first look.time (by simp [Item.time?]))).look look rfl
      simp only [answers, revivals, List.filterMap_cons, Item.asked?, Item.perform, Option.map_none,
        Option.toList_none, List.nil_append]
      exact ih looked rest
    | asked request =>
      -- A request without a time is taken at the time that it is.
      obtain ⟨present, le, step, rest⟩ : ∃ present, now ≤ present ∧
          (∀ time ∈ request.time?, time = present) ∧
          (present :: items.filterMap Item.time?).Pairwise (· ≤ ·) := by
        cases taken : request.time? with
        | none =>
          simp only [List.filterMap_cons, Item.time?, taken] at ordered
          exact ⟨now, Int.le_refl now, by simp, ordered⟩
        | some time =>
          simp only [List.filterMap_cons, Item.time?, taken] at ordered
          obtain ⟨first, rest⟩ := List.pairwise_cons.1 ordered
          exact ⟨time, first time (by simp), by simp, rest⟩
      obtain ⟨told, kept⟩ := (alike.later le).request request step
      simp only [answers, revivals, plain, List.filterMap_cons, Item.asked?, List.map_cons,
        Item.perform, Option.map_some, Option.toList_some, List.cons_append, List.nil_append,
        List.cons.injEq]
      rw [told]
      exact and_congr_right fun same => ih (kept same) rest

lemma Slips.answers_eq_iff {requests : List Request} {items : List Item}
    (slips : Slips requests items) (sound : map.Sound) :
    map.answers items = map.answers (plain requests)
      ↔ map.revivals items = map.revivals (plain requests) := by
  obtain ⟨rfl, ordered⟩ := slips
  -- The first look may be at any time, so that the two maps are alike at the time of it.
  have alike (now : Int) : Alike map map now := sound.alike
  cases times : items.filterMap Item.time? with
  | nil => exact (alike 0).answers_eq_iff items (by simp [times])
  | cons first rest =>
    refine (alike first).answers_eq_iff items ?_
    rw [times] at ordered ⊢
    refine List.pairwise_cons.2 ⟨fun time among => ?_, ordered⟩
    rcases List.mem_cons.1 among with rfl | later
    · exact Int.le_refl _
    · exact (List.pairwise_cons.1 ordered).1 time later

/-! ## Purges before every request -/

/-- A request, after a purge at its time. -/
def tidy (request : Request) : List Item :=
  (request.time?.map fun time => .slipped (.purge time)).toList ++ [.asked request]

/-- The row of requests in which every request with a time comes after a purge. -/
def tidied (requests : List Request) : List Item := requests.flatMap tidy

lemma tidied_cons (request : Request) (requests : List Request) :
    tidied (request :: requests) = tidy request ++ tidied requests := List.flatMap_cons

lemma asked_tidied (requests : List Request) :
    (tidied requests).filterMap Item.asked? = requests := by
  induction requests with
  | nil => rfl
  | cons request requests ih =>
    rw [tidied_cons, List.filterMap_append, ih, tidy]
    cases request.time? <;> rfl

/-- Every time stands there twice. -/
lemma times_tidied_cons (request : Request) (requests : List Request) :
    (tidied (request :: requests)).filterMap Item.time?
      = request.time?.toList ++ request.time?.toList ++ (tidied requests).filterMap Item.time? := by
  rw [tidied_cons, List.filterMap_append, tidy]
  cases taken : request.time? <;> simp [Item.time?, Look.time, taken]

lemma mem_times_tidied {requests : List Request} :
    time ∈ (tidied requests).filterMap Item.time? ↔ time ∈ requests.filterMap Request.time? := by
  induction requests with
  | nil => rfl
  | cons request requests ih =>
    rw [times_tidied_cons, List.mem_append, ih]
    cases taken : request.time? <;> simp [taken]

lemma slips_tidied {requests : List Request}
    (ordered : (requests.filterMap Request.time?).Pairwise (· ≤ ·)) :
    Slips requests (tidied requests) := by
  refine ⟨asked_tidied requests, ?_⟩
  induction requests with
  | nil => exact .nil
  | cons request requests ih =>
    rw [times_tidied_cons]
    cases taken : request.time? with
    | none =>
      rw [List.filterMap_cons, taken] at ordered
      exact ih ordered
    | some time =>
      rw [List.filterMap_cons, taken] at ordered
      obtain ⟨first, rest⟩ := List.pairwise_cons.1 ordered
      have later : ∀ other ∈ (tidied requests).filterMap Item.time?, time ≤ other :=
        fun other among => first other (mem_times_tidied.1 among)
      simpa [ih rest] using later

/-- A purge leaves nobody to be revived at its time. -/
lemma revives_purge (map : NetworkMap) (logical : LogicalAddress) (time : Int) :
    (map.purge time).revives logical time = false := by
  unfold revives
  cases found : (map.purge time).find? logical with
  | none => simp
  | some peer =>
    have kept := (List.mem_filter.1 (mem_of_find? found)).2
    have live : peer.isStale map.window time = false := by simpa using kept
    simp [NetworkMap.purge, NetworkMap.evict, live]

lemma revivals_tidied (map : NetworkMap) (requests : List Request) :
    true ∉ map.revivals (tidied requests) := by
  induction requests generalizing map with
  | nil => simp [tidied, revivals]
  | cons request requests ih =>
    rw [tidied_cons]
    match request with
    | .use (.observe logical physical time) =>
      have quiet := revives_purge map logical time
      simp [tidy, Request.time?, Use.time?, revivals, Item.asked?, Item.perform, Request.revives,
        Look.use, Use.perform, quiet, ih]
    | .use (.lookup ..) | .use (.resolve ..) | .use (.purge ..) | .use (.noteSession ..)
    | .recount .. | .clear =>
      simp [tidy, Request.time?, Use.time?, revivals, Item.asked?, Item.perform, Request.revives,
        ih]

lemma slips_plain {requests : List Request}
    (ordered : (requests.filterMap Request.time?).Pairwise (· ≤ ·)) :
    Slips requests (plain requests) := by
  constructor
  · simp [plain, List.filterMap_map, Function.comp_def, Item.asked?]
  · simpa [plain, List.filterMap_map, Function.comp_def, Item.time?] using ordered

lemma length_revivals_eq (map : NetworkMap) (items : List Item) :
    (map.revivals items).length = (items.filterMap Item.asked?).length := by
  induction items generalizing map with
  | nil => rfl
  | cons item items ih => cases item <;> simp [revivals, List.filterMap_cons, Item.asked?, ih]

/-- Two rows with the same requests in which nobody is revived have the same revivals. -/
lemma Slips.revivals_eq {requests : List Request} {items others : List Item}
    (slips : Slips requests items) (also : Slips requests others)
    (nobody : true ∉ map.revivals items) (neither : true ∉ map.revivals others) :
    map.revivals items = map.revivals others := by
  have quiet {row : List Item} (slips : Slips requests row) (nobody : true ∉ map.revivals row) :
      map.revivals row = List.replicate requests.length false := by
    refine List.eq_replicate_iff.2 ⟨by rw [length_revivals_eq, slips.asked], fun b among => ?_⟩
    cases b with
    | false => rfl
    | true => exact absurd among nobody
  rw [quiet slips nobody, quiet also neither]

/-! ## The whole of it -/

/-- **Looks go unnoticed exactly if no stale peer is revived.**  Take any row of requests to a new
map, at times that never go back, and slip in look-ups and purges wherever the times allow.  Every
observation, look-up and resolution then answers what it answers without them, the whole of what is
known of the peer included, exactly if the same observations revive a stale peer of which something
is remembered.  So no look that might be slipped in shows exactly if nobody is revived, whatever
looks are slipped in. -/
theorem looks_unnoticed_iff {window capacity : Int} (made : create window capacity = .ok map)
    (requests : List Request)
    (ordered : (requests.filterMap Request.time?).Pairwise (· ≤ ·)) :
    (∀ items, Slips requests items →
      (map.answers items = map.answers (plain requests)
        ↔ map.revivals items = map.revivals (plain requests))) ∧
    ((∀ items, Slips requests items → map.answers items = map.answers (plain requests))
      ↔ ∀ items, Slips requests items → true ∉ map.revivals items) := by
  have shows (items : List Item) (slips : Slips requests items) :=
    slips.answers_eq_iff (sound_of_create made)
  refine ⟨shows, fun unnoticed items slips => ?_, fun nobody items slips => ?_⟩
  · -- The row with purges everywhere revives nobody, and no other row does otherwise.
    have tidied := slips_tidied ordered
    have same := (shows items slips).1 (unnoticed items slips)
    rw [same, ← (shows _ tidied).1 (unnoticed _ tidied)]
    exact revivals_tidied map requests
  · have plain := slips_plain ordered
    exact (shows items slips).2 (slips.revivals_eq plain (nobody items slips) (nobody _ plain))

/-! ### Two peers that fall silent -/

/-- Two peers are heard, announce a session and fall silent.  Both are heard again when they have
been stale for a millisecond. -/
def twoSilent : List Request :=
  [.use (.observe .missionControl ⟨"10.0.0.2", udpPort⟩ 0),
    .use (.observe (.camera 1) ⟨"10.0.0.3", udpPort⟩ 0), .use (.noteSession .missionControl 7),
    .use (.noteSession (.camera 1) 9), .use (.observe .missionControl ⟨"10.0.0.2", udpPort⟩ 501),
    .use (.observe (.camera 1) ⟨"10.0.0.3", udpPort⟩ 501)]

/-- Just before that somebody looks one of them up. -/
def oneLookedUp : List Item :=
  plain (twoSilent.take 4) ++ .slipped (.lookup .missionControl 501) :: plain (twoSilent.drop 4)

/-- It is the only one that is not revived, and this shows. -/
theorem looks_unnoticed_iff_two_silent :
    create 500 32 = .ok { window := 500, capacity := 32 } ∧
      (twoSilent.filterMap Request.time?).Pairwise (· ≤ ·) ∧ Slips twoSilent oneLookedUp ∧
      revivals { window := 500, capacity := 32 } (plain twoSilent)
        = [false, false, false, false, true, true] ∧
      revivals { window := 500, capacity := 32 } oneLookedUp
        = [false, false, false, false, false, true] ∧
      answers { window := 500, capacity := 32 } oneLookedUp
        ≠ answers { window := 500, capacity := 32 } (plain twoSilent) := by
  have made : create 500 32 = .ok { window := 500, capacity := 32 } := rfl
  have ordered : (twoSilent.filterMap Request.time?).Pairwise (· ≤ ·) := by decide
  have slips : Slips twoSilent oneLookedUp := ⟨rfl, by decide⟩
  have both : revivals { window := 500, capacity := 32 } (plain twoSilent)
      = [false, false, false, false, true, true] := by decide
  have one : revivals { window := 500, capacity := 32 } oneLookedUp
      = [false, false, false, false, false, true] := by decide
  refine ⟨made, ordered, slips, both, one, fun same => ?_⟩
  have told := ((looks_unnoticed_iff made twoSilent ordered).1 oneLookedUp slips).1 same
  rw [both, one] at told
  cases told

/-- Not every look goes unnoticed: a peer that was looked up before it is heard again has no
session, and one that was not still has the session that it announced. -/
theorem not_every_look_unnoticed :
    ¬ ∀ (window capacity : Int) (map : NetworkMap) (requests : List Request) (items : List Item),
      create window capacity = .ok map → Slips requests items →
        map.answers items = map.answers (plain requests) := by
  intro unnoticed
  have same := unnoticed 500 32 { window := 500, capacity := 32 } twoSilent oneLookedUp rfl
    ⟨rfl, by decide⟩
  revert same
  decide

end NetworkMap

end RollCall
