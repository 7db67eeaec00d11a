import Mathlib.Data.List.Basic
import RollCall.Proofs.IPv4
import RollCall.Proofs.Sockets.Opening

/-!
# The broadcast address of a transport over sockets

A transport that is not given a broadcast address derives it from its local address when it is opened.
It keeps what it derived where a given address is kept, so it derives only once.  When it is closed and
opened again with another local address, the local address is found out anew, but the broadcast address
stays that of the first.  As long as all local addresses lie in one block, nobody can tell.

* `SocketLayer.Inet` — an operating system whose addresses are IPv4 addresses.
* `Hosted.Follows` — the broadcast address is that of the local address.
* `Hosted.Remembers` — what a transport knows, by the block of its first local address.
* `Remembers.openSocket` — one call to open: the block is learnt once and never forgotten.
* `follows_iff_one_block` — **along every history, the broadcast address follows the local address just
  if all local addresses lie in one block.**
-/

namespace RollCall

variable {ω : Type}

/-- An operating system whose hosts are IPv4 addresses, in their usual text. -/
structure SocketLayer.Inet (os : SocketLayer ω) : Prop where
  localAddress : ∀ {socket w address}, (os.localAddress socket w).1 = .ok address →
    ∃ ip : IPv4, address.host = ip.text
  routeHost : ∀ {w host}, (os.routeHost w).1 = some host → ∃ ip : IPv4, host = ip.text

lemma SocketLayer.Inet.tracked {os : SocketLayer ω} (inet : os.Inet) : os.tracked.Inet where
  localAddress := inet.localAddress
  routeHost := inet.routeHost

namespace Hosted

variable {os : SocketLayer ω} {h : Hosted}

/-- A transport can be reached at an IPv4 address, and that lies in a block. -/
def LiesIn (block : IPv4.Block) (h : Hosted) : Prop :=
  ∃ (ip : IPv4) (port : Int), h.address = .ok ⟨ip.text, port⟩ ∧ block.contains ip = true

lemma liesIn_iff {block : IPv4.Block} {h : Hosted} : LiesIn block h ↔
    ∃ address ∈ h.localAddress, ∃ ip ∈ IPv4.ofText? address.host.toList,
      address.host = ip.text ∧ block.contains ip = true := by
  constructor
  · rintro ⟨ip, port, there, inside⟩
    unfold Hosted.address at there
    split at there <;> cases there
    rename_i known
    exact ⟨_, known, ip, IPv4.ofText?_text ip, rfl, inside⟩
  · rintro ⟨⟨host, port⟩, known, ip, -, rfl, inside⟩
    refine ⟨ip, port, ?_, inside⟩
    rw [Hosted.address, known]

instance (block : IPv4.Block) (h : Hosted) : Decidable (LiesIn block h) := decidable_of_iff' _ liesIn_iff

/-- A transport answers with the last address of the block that its local address lies in. -/
def Follows (os : SocketLayer ω) (prefixLength : Int) (h : Hosted) : Prop :=
  ∃ block : IPv4.Block, (block.prefixLength : Int) = prefixLength ∧ LiesIn block h ∧
    ∀ w, ((transport os).broadcastOctets (h, w)).1 = .ok block.last.bytes

/-! ## What opening learns -/

/-- The broadcast address that is derived from the text of an address is the last one of its block. -/
lemma derivedBroadcast_text (ip : IPv4) {length : Nat} (le : length ≤ 32) :
    derivedBroadcast ip.text length = .ok (IPv4.Block.around ip length le).last.bytes := by
  rw [derivedBroadcast, IPv4.Block.aroundText?_text ip le]

lemma settle_of_some {address : PhysicalAddress} {octets : Bytes} (known : h.broadcast = some octets) :
    h.settle address = (.ok (), { h with localAddress := some address }) := by
  cases h
  cases known
  rfl

lemma settle_of_none {address : PhysicalAddress} {octets : Bytes} (unknown : h.broadcast = none)
    (derived : derivedBroadcast address.host h.prefixLength = .ok octets) :
    h.settle address = (.ok (), { h with localAddress := some address, broadcast := some octets }) := by
  cases h
  cases unknown
  rw [settle, derived]

/-- Where a socket can be reached is the text of an address. -/
lemma locate_text (inet : os.Inet) {socket : Socket} {w : ω} {address : PhysicalAddress}
    (located : (locate os socket w).1 = .ok address) : ∃ ip : IPv4, address.host = ip.text := by
  unfold locate at located
  split at located
  · cases located
  · rename_i there after found
    split at located
    · cases located
      cases route : (os.routeHost after).1 with
      | none => exact ⟨.localhost, rfl⟩
      | some host => exact inet.routeHost route
    · cases located
      exact inet.localAddress (congrArg Prod.fst found)

/-! ## What a transport remembers -/

/-- What a transport with a prefix length knows: nothing yet, or the block of its first local address. -/
structure Remembers (length : Nat) (known : Option IPv4.Block) (h : Hosted) : Prop where
  prefixLength : h.prefixLength = length
  length : ∀ block ∈ known, block.prefixLength = length
  broadcast : h.broadcast = known.map fun block => block.last.bytes
  /-- The local address may be of any block, but there is none before there is a block. -/
  address : ∀ address ∈ h.localAddress, known.isSome = true ∧ ∃ ip : IPv4, address.host = ip.text

namespace Remembers

variable {length : Nat} {known : Option IPv4.Block} {block : IPv4.Block} {w : ω × Ledger}

lemma binding (remembers : Remembers length known h) (socket : Socket) (chained : Bool) :
    Remembers length known (h.binding socket chained) :=
  ⟨remembers.prefixLength, remembers.length, remembers.broadcast, remembers.address⟩

/-- A transport that knows nothing yet is nowhere. -/
lemma not_liesIn (remembers : Remembers length none h) (block : IPv4.Block) : ¬ LiesIn block h := by
  rintro ⟨ip, port, there, -⟩
  rw [Hosted.address] at there
  cases known : h.localAddress with
  | none =>
    rw [known] at there
    cases there
  | some address =>
    have nothing := (remembers.address address (by rw [known]; rfl)).1
    cases nothing

/-- A transport that knows a block follows its local address just if that lies in the block. -/
lemma follows_iff (remembers : Remembers length (some block) h) (os : SocketLayer ω) (w : ω) :
    Follows os length h ↔ LiesIn block h := by
  have answer (later : ω) :
      ((transport os).broadcastOctets (h, later)).1 = .ok block.last.bytes := by
    simp only [transport, remembers.broadcast, Option.map_some]
  have long := remembers.length block rfl
  constructor
  · rintro ⟨other, same, inside, told⟩
    have bytes : block.last.bytes = other.last.bytes := Except.ok.inj ((answer w).symm.trans (told w))
    have here : block = other :=
      IPv4.Block.eq_of_last (by omega) (IPv4.bytes_injective bytes)
    rwa [here]
  · intro inside
    exact ⟨block, congrArg Int.ofNat long, inside, answer⟩

/-- The local address is known, and the block if there was none: it is the one around the address. -/
lemma settle (remembers : Remembers length known h) (le : length ≤ 32) {address : PhysicalAddress}
    {ip : IPv4} (host : address.host = ip.text) :
    (h.settle address).1 = .ok () ∧
      Remembers length (some (known.getD (.around ip length le))) (h.settle address).2 ∧
      (h.settle address).2.address = .ok address := by
  have settled : Remembers length (some (known.getD (.around ip length le)))
      { h with localAddress := some address,
               broadcast := some (known.getD (.around ip length le)).last.bytes } := by
    refine ⟨remembers.prefixLength, ?_, rfl, ?_⟩
    · intro block same
      cases same
      cases known with
      | none => rfl
      | some block => exact remembers.length block rfl
    · intro other same
      cases same
      exact ⟨rfl, ip, host⟩
  cases known with
  | none =>
    have derived : derivedBroadcast address.host h.prefixLength
        = .ok (IPv4.Block.around ip length le).last.bytes := by
      rw [remembers.prefixLength, host, derivedBroadcast_text ip le]
    rw [settle_of_none remembers.broadcast derived]
    exact ⟨rfl, settled, rfl⟩
  | some block =>
    have derived : h.broadcast = some block.last.bytes := remembers.broadcast
    rw [Option.getD_some, ← derived] at settled
    rw [settle_of_some derived]
    exact ⟨rfl, settled, rfl⟩

/-- **One call to open.**  The block that is known stays.  If there is none yet, the call learns the block
of the local address that it finds, or it learns nothing. -/
theorem openSocket (remembers : Remembers length known h) (le : length ≤ 32) (inet : os.Inet) (w : ω) :
    Remembers length known (h.openSocket os w).2.1 ∨
      known = none ∧ (h.openSocket os w).1 = .ok () ∧
        ∃ block, Remembers length (some block) (h.openSocket os w).2.1 ∧
          LiesIn block (h.openSocket os w).2.1 := by
  have exit := openSocket_exit os h w
  generalize h.openSocket os w = result at exit ⊢
  cases exit with
  | already standing => exact .inl remembers
  | exhausted closed found => exact .inl remembers
  | senseless closed found => exact .inl remembers
  | unlocated closed found lost => exact .inl (remembers.binding _ _)
  | @located socket chained _ _ address closed found there =>
    obtain ⟨ip, host⟩ := locate_text inet (congrArg Prod.fst there)
    obtain ⟨fine, settled, reached⟩ := (remembers.binding socket chained).settle le host
    cases known with
    | some block => exact .inl settled
    | none =>
      refine .inr ⟨rfl, fine, .around ip length le, settled, ip, address.port, ?_,
        IPv4.Block.contains_around ip le⟩
      rw [reached, ← host]

lemma close (remembers : Remembers length known h) (os : SocketLayer ω) (w : ω) :
    Remembers length known (h.close os w).1 := by
  unfold Hosted.close
  split
  · exact remembers
  · exact ⟨remembers.prefixLength, remembers.length, remembers.broadcast, remembers.address⟩

end Remembers

/-! ## Histories -/

/-- An address lies in one block of a length. -/
lemma LiesIn.unique {block other : IPv4.Block} (here : LiesIn block h) (there : LiesIn other h)
    (lengths : block.prefixLength = other.prefixLength) : block = other := by
  obtain ⟨ip, port, seen, inside⟩ := here
  obtain ⟨again, samePort, seenAgain, insideOther⟩ := there
  rw [seen] at seenAgain
  have texts : ip.text = again.text := congrArg PhysicalAddress.host (Except.ok.inj seenAgain)
  have same : ip = again := by
    have read := IPv4.ofText?_text ip
    rw [texts, IPv4.ofText?_text again] at read
    exact (Option.some.inj read).symm
  cases same
  refine IPv4.Block.eq_of_first lengths ?_
  rw [← IPv4.Block.around_eq inside, ← IPv4.Block.around_eq insideOther]
  simp only [lengths]

/-- What holds of a transport when a call to open it returns. -/
def OnReturn (os : SocketLayer ω) (holds : Hosted → Prop) (state : Hosted × ω × Ledger) : Prop :=
  (state.1.openSocket os.tracked state.2).1 = .ok () →
    holds (state.1.openSocket os.tracked state.2).2.1

instance (os : SocketLayer ω) (holds : Hosted → Prop) [DecidablePred holds]
    (state : Hosted × ω × Ledger) : Decidable (OnReturn os holds state) :=
  inferInstanceAs (Decidable (_ → _))

namespace Remembers

variable {length : Nat} {block : IPv4.Block} {s : Hosted × ω × Ledger}

/-- A transport that knows a block follows its local address as long as that stays in the block. -/
lemma openings_iff (remembers : Remembers length (some block) s.1) (le : length ≤ 32)
    (inet : os.tracked.Inet) (calls : List (Call ω)) :
    (∀ state ∈ openings os calls s, OnReturn os (Follows os length) state) ↔
      ∀ state ∈ openings os calls s, OnReturn os (LiesIn block) state := by
  induction calls generalizing s with
  | nil => simp [openings]
  | cons call calls ih =>
    cases call with
    | «open» =>
      have after : Remembers length (some block) (s.1.openSocket os.tracked s.2).2.1 := by
        rcases remembers.openSocket le inet s.2 with same | ⟨unknown, -⟩
        · exact same
        · cases unknown
      rw [openings, List.forall_mem_cons, List.forall_mem_cons]
      exact and_congr (imp_congr_right fun _ => after.follows_iff os s.2.1) (ih after)
    | close => exact ih (remembers.close os.tracked s.2)
    | outside change => exact ih remembers

/-- A transport that knows nothing yet follows its local address just if that stays in some block. -/
lemma openings_iff_exists (remembers : Remembers length none s.1) (le : length ≤ 32)
    (inet : os.tracked.Inet) (calls : List (Call ω)) :
    (∀ state ∈ openings os calls s, OnReturn os (Follows os length) state) ↔
      ∃ block : IPv4.Block, block.prefixLength = length ∧
        ∀ state ∈ openings os calls s, OnReturn os (LiesIn block) state := by
  induction calls generalizing s with
  | nil => simpa [openings] using ⟨IPv4.Block.around .localhost length le, rfl⟩
  | cons call calls ih =>
    cases call with
    | «open» =>
      simp only [openings, List.forall_mem_cons]
      rcases remembers.openSocket le inet s.2 with after | ⟨-, returns, block, after, inside⟩
      · -- Nothing is learnt, so a call that returned would have left the transport nowhere.
        constructor
        · rintro ⟨now, rest⟩
          obtain ⟨block, long, rest⟩ := (ih after).1 rest
          refine ⟨block, long, fun returns => ?_, rest⟩
          obtain ⟨other, -, inside, -⟩ := now returns
          exact absurd inside (after.not_liesIn other)
        · rintro ⟨block, long, now, rest⟩
          refine ⟨fun returns => ?_, (ih after).2 ⟨block, long, rest⟩⟩
          exact absurd (now returns) (after.not_liesIn block)
      · -- From here on the block is known, and it is the only one that the address lies in.
        have long := after.length block rfl
        have known := after.openings_iff le inet calls
        constructor
        · rintro ⟨-, rest⟩
          exact ⟨block, long, fun _ => inside, known.1 rest⟩
        · rintro ⟨other, same, there, rest⟩
          cases inside.unique (there returns) (long.trans same.symm)
          exact ⟨fun _ => (after.follows_iff os s.2.1).2 inside, known.2 rest⟩
    | close => exact ih (remembers.close os.tracked s.2)
    | outside change => exact ih remembers

end Remembers

/-- A new transport that is not given a broadcast address knows nothing. -/
lemma remembers_of_create {bindHost : String} {firstPort chainLength : Int} {length : Nat}
    (made : create bindHost firstPort none length chainLength = .ok h) : Remembers length none h := by
  unfold create at made
  split at made <;> cases made
  exact ⟨rfl, nofun, rfl, nofun⟩

/-- **The broadcast address follows the local address just if that stays in one block.**  Take a new
transport that is not given a broadcast address, with a prefix length that a network can have, and any
history of opening and closing it, in which the operating system may answer with another local address at
every opening.  Each time a call to open has returned, the transport answers with the broadcast address of
the block that its local address lies in, just if all these local addresses lie in the same block. -/
theorem follows_iff_one_block {bindHost : String} {firstPort prefixLength chainLength : Int}
    (made : create bindHost firstPort none prefixLength chainLength = .ok h) (low : 0 ≤ prefixLength)
    (high : prefixLength ≤ 32) (inet : os.Inet) (calls : List (Call ω)) (w : ω) :
    (∀ state ∈ openings os calls (h, w, {}), OnReturn os (Follows os prefixLength) state) ↔
      ∃ block : IPv4.Block, (block.prefixLength : Int) = prefixLength ∧
        ∀ state ∈ openings os calls (h, w, {}), OnReturn os (LiesIn block) state := by
  obtain ⟨length, rfl⟩ := Int.eq_ofNat_of_zero_le low
  have remembers : Remembers length none h := remembers_of_create made
  have le : length ≤ 32 := by omega
  simp only [Int.natCast_inj]
  exact remembers.openings_iff_exists le inet.tracked calls

end Hosted

/-! ## A small operating system -/

/-- An operating system of a host that may move to another address, and where ports may be taken. -/
structure SmallOs where
  /-- The address of the interface that traffic leaves by. -/
  ip : IPv4
  taken : List Int := []
  /-- The number of the next socket. -/
  next : Socket := 0
  /-- The port that was bound last. -/
  port : Int := 0
deriving DecidableEq, Repr

namespace SmallOs

/-- Binds a socket to a port that is not taken. -/
def bind (address : PhysicalAddress) (os : SmallOs) : Except OsFault Unit × SmallOs :=
  if address.port < 0 ∨ 65535 < address.port then (.error (.senseless "no such port"), os)
  else if os.taken.contains address.port then (.error (.refused "in use"), os)
  else (.ok (), { os with port := address.port })

/-- Its socket calls; sockets are bound to every address of the host. -/
def layer : SocketLayer SmallOs where
  create os := (.ok os.next, { os with next := os.next + 1 })
  allowBroadcast _ os := (.ok (), os)
  bind _ := bind
  stopBlocking _ os := (.ok (), os)
  localAddress _ os := (.ok ⟨Hosted.anyHost, os.port⟩, os)
  close _ os := os
  send _ _ os := (.ok (), os)
  receive _ _ os := (.ok none, os)
  routeHost os := (some os.ip.text, os)

lemma layer_inet : layer.Inet where
  localAddress := by
    rintro socket os address located
    cases located
    have unspecified : Hosted.anyHost = (IPv4.ofNumber 0).text := by decide +kernel
    exact ⟨.ofNumber 0, unspecified⟩
  routeHost := by
    rintro os host routed
    cases routed
    exact ⟨os.ip, rfl⟩

end SmallOs

namespace Hosted

/-- A transport is opened, closed, and opened again at another address. -/
def move (ip : IPv4) : List (Call SmallOs) := [.open, .close, .outside fun os => { os with ip := ip }, .open]

/-- The openings of a transport that is opened at 10.1.2.3 first. -/
def moves (ip : IPv4) : List (Hosted × SmallOs × Ledger) :=
  openings SmallOs.layer (move ip) (plain 24, { ip := .ofNumber 0x0a010203 }, {})

/-- What a transport tells after each opening: its local address and the broadcast address. -/
def told (states : List (Hosted × SmallOs × Ledger)) : List (Option PhysicalAddress × Option Bytes) :=
  states.map fun state =>
    let after := (state.1.openSocket SmallOs.layer.tracked state.2).2.1
    (after.localAddress, after.broadcast)

/-- The move to 10.1.2.77 stays in the block. -/
theorem follows_iff_one_block_near :
    create anyHost udpPort none 24 5 = .ok (plain 24) ∧
    told (moves (.ofNumber 0x0a01024d)) = [(some ⟨"10.1.2.3", 25560⟩, some [10, 1, 2, 255]),
      (some ⟨"10.1.2.77", 25560⟩, some [10, 1, 2, 255])] ∧
    ∀ state ∈ moves (.ofNumber 0x0a01024d), OnReturn SmallOs.layer (Follows SmallOs.layer 24) state := by
  have made : create anyHost udpPort none 24 5 = .ok (plain 24) := rfl
  refine ⟨made, by decide +kernel, ?_⟩
  refine (follows_iff_one_block made (by decide) (by decide) SmallOs.layer_inet _ _).2 ?_
  exact ⟨.around (.ofNumber 0x0a010203) 24 (by decide), rfl, by decide +kernel⟩

/-- After the move to 10.9.8.7 the broadcast address is still that of the network that was left. -/
theorem not_every_broadcast_follows :
    create anyHost udpPort none 24 5 = .ok (plain 24) ∧
    told (moves (.ofNumber 0x0a090807)) = [(some ⟨"10.1.2.3", 25560⟩, some [10, 1, 2, 255]),
      (some ⟨"10.9.8.7", 25560⟩, some [10, 1, 2, 255])] ∧
    derivedBroadcast "10.9.8.7" 24 = .ok [10, 9, 8, 255] ∧
    ¬ ∀ state ∈ moves (.ofNumber 0x0a090807),
      OnReturn SmallOs.layer (Follows SmallOs.layer 24) state := by
  have made : create anyHost udpPort none 24 5 = .ok (plain 24) := rfl
  have remembers : Remembers 24 none (plain 24) := remembers_of_create made
  refine ⟨made, by decide +kernel, by decide +kernel, fun follows => ?_⟩
  obtain ⟨block, long, inside⟩ :=
    (remembers.openings_iff_exists (by decide) SmallOs.layer_inet.tracked _).1 follows
  have first := inside _ List.mem_cons_self (by decide +kernel)
  have left : block = .around (.ofNumber 0x0a010203) 24 (by decide) :=
    first.unique (by decide +kernel) long
  rw [left] at inside
  exact absurd inside (by decide +kernel)

end Hosted

end RollCall
