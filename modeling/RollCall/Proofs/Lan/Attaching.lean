import Mathlib.Data.List.Perm.Subperm
import RollCall.Proofs.IPv4
import RollCall.Proofs.Lan.History

/-!
# Addresses of attached hosts

A host is attached at the lowest free address, or at one that it asks for.  Each way has a rule of its
own for what a host may have.  The lowest free address is sought among the hosts of the block, and the
broadcast address in force is passed over; a host that asks may have any address between the two ends
of the block, also the broadcast address, if that was set to one of them.  In a block of two addresses,
or of one, there is nothing between the ends, and the hosts of the block are the ends themselves.  So
the two ways agree on most networks and not on all, and where they do not, a host can be given an
address at which it hears what is for everyone.

* `IsUsable` — the addresses that a host should have.
* `IsFree`, `freeAddress?_eq_some_iff`, `chosenAddress_eq_ok_iff` — the two rules.
* `of_attached` — what holds of every address that is given out holds of every host.
* `Placed` and `Tidy` — what holds of the hosts of every network, and what should hold of them.
* `IsRegular` — the networks on which the rules agree.
* `run_tidy_iff` — **hosts have usable addresses along every run of a network just if it is regular.**
-/

namespace RollCall.Lan

variable {lan : Lan} {ip : IPv4}

/-- The addresses that a host should have: those of the block that name neither the network nor
everyone on it. -/
structure IsUsable (lan : Lan) (ip : IPv4) : Prop where
  inner : lan.block.IsInner ip
  broadcast : ip ≠ lan.broadcast

/-- The addresses that are given to hosts that ask for none. -/
structure IsFree (lan : Lan) (ip : IPv4) : Prop where
  host : lan.block.IsHost ip
  untaken : lan.isTaken ip = false
  broadcast : ip ≠ lan.broadcast

/-- An address is the lowest of those with a property. -/
def IsLowest (P : IPv4 → Prop) (ip : IPv4) : Prop := P ip ∧ ∀ other, P other → ip.number ≤ other.number

lemma IsLowest.unique {P : IPv4 → Prop} {a b : IPv4} (low : IsLowest P a) (lowToo : IsLowest P b) :
    a = b :=
  IPv4.eq_of_number (Nat.le_antisymm (low.2 b lowToo.1) (lowToo.2 a low.1))

lemma isTaken_iff : lan.isTaken ip = true ↔ ip ∈ lan.hosts.map LanHost.ip := by
  simp [isTaken]

/-! ## The lowest free address -/

/-- Whether the host of the block with a number can have its address. -/
def isFreeAt (lan : Lan) (n : Nat) : Bool :=
  !lan.isTaken (lan.block.host n) && lan.block.host n != lan.broadcast

lemma isFreeAt_iff {n : Nat} (few : n < lan.block.hostCount) :
    lan.isFreeAt n = true ↔ lan.IsFree (lan.block.host n) := by
  simp only [isFreeAt, Bool.and_eq_true, Bool.not_eq_true', bne_iff_ne]
  exact ⟨fun free => ⟨IPv4.Block.isHost_iff.2 ⟨n, few, rfl⟩, free.1, free.2⟩,
    fun free => ⟨free.untaken, free.broadcast⟩⟩

/-- How many hosts of the block are looked at. -/
def looked (lan : Lan) : Nat := min lan.block.hostCount (lan.hosts.length + 2)

lemma freeAddress?_eq (lan : Lan) :
    lan.freeAddress? = ((List.range lan.looked).find? lan.isFreeAt).map lan.block.host :=
  List.find?_map ..

/-- Of one more host than there are addresses to be passed over, one is free. -/
lemma le_of_unfree {n : Nat} (few : n ≤ lan.block.hostCount)
    (unfree : ∀ m < n, lan.isFreeAt m = false) : n ≤ lan.hosts.length + 1 := by
  have apart : ((List.range n).map lan.block.host).Nodup := by
    refine List.nodup_range.map_on fun a low b lowToo same => ?_
    rw [List.mem_range] at low lowToo
    have numbers := congrArg IPv4.number same
    rw [IPv4.Block.number_host (by omega), IPv4.Block.number_host (by omega)] at numbers
    omega
  have passed : (List.range n).map lan.block.host ⊆ lan.broadcast :: lan.hosts.map LanHost.ip := by
    intro ip among
    obtain ⟨m, low, rfl⟩ := List.mem_map.1 among
    have refused := unfree m (List.mem_range.1 low)
    by_cases everyone : lan.block.host m = lan.broadcast
    · rw [everyone]
      exact List.mem_cons_self
    · refine List.mem_cons_of_mem _ (isTaken_iff.1 ?_)
      simpa [isFreeAt, everyone] using refused
  simpa using (apart.subperm passed).length_le

/-- If no host that is looked at is free, there is none. -/
lemma freeAddress?_eq_none_iff : lan.freeAddress? = none ↔ ∀ ip, ¬ lan.IsFree ip := by
  rw [freeAddress?_eq, Option.map_eq_none_iff, List.find?_range_eq_none]
  have within : lan.looked ≤ lan.block.hostCount := Nat.min_le_left ..
  constructor
  · intro none ip free
    obtain ⟨n, few, rfl⟩ := IPv4.Block.isHost_iff.1 free.host
    have unfree (m : Nat) (near : m < lan.looked) : lan.isFreeAt m = false := by
      simpa using none m near
    have near := le_of_unfree within unfree
    have all : lan.looked = lan.block.hostCount := by
      unfold looked at near ⊢
      omega
    have isFree := (isFreeAt_iff few).2 free
    rw [unfree n (all ▸ few)] at isFree
    cases isFree
  · intro none n near
    simpa using fun isFree => none _ ((isFreeAt_iff (Nat.lt_of_lt_of_le near within)).1 isFree)

/-- **Automatic addresses** are the lowest free ones. -/
theorem freeAddress?_eq_some_iff : lan.freeAddress? = some ip ↔ IsLowest lan.IsFree ip := by
  have lowest {ip : IPv4} (found : lan.freeAddress? = some ip) : IsLowest lan.IsFree ip := by
    rw [freeAddress?_eq, Option.map_eq_some_iff] at found
    obtain ⟨n, found, rfl⟩ := found
    obtain ⟨free, near, before⟩ := List.find?_range_eq_some.1 found
    have few : n < lan.block.hostCount := by
      rw [List.mem_range, looked] at near
      omega
    refine ⟨(isFreeAt_iff few).1 free, fun other otherFree => ?_⟩
    obtain ⟨m, fewToo, rfl⟩ := IPv4.Block.isHost_iff.1 otherFree.host
    rw [IPv4.Block.number_host few, IPv4.Block.number_host fewToo]
    refine Nat.add_le_add_left (Nat.le_of_not_lt fun low => ?_) _
    simpa [(isFreeAt_iff fewToo).2 otherFree] using before m low
  refine ⟨lowest, fun low => ?_⟩
  cases found : lan.freeAddress? with
  | none => exact absurd low.1 (freeAddress?_eq_none_iff.1 found ip)
  | some other => rw [(lowest found).unique low]

lemma attach_none_ok_iff : (∃ after, lan.attach none = .ok (ip, after)) ↔ IsLowest lan.IsFree ip := by
  rw [← freeAddress?_eq_some_iff, attach, addressFor]
  cases lan.freeAddress? <;> simp [Except.map]

lemma attach_none_error_iff :
    lan.attach none = .error (.hostsExhausted lan.block) ↔ ∀ ip, ¬ lan.IsFree ip := by
  rw [← freeAddress?_eq_none_iff, attach, addressFor]
  cases lan.freeAddress? <;> simp [Except.map]

/-! ## An address that is asked for -/

/-- **Explicit addresses** are those between the ends of the block that no host has. -/
theorem chosenAddress_eq_ok_iff {text : String} : lan.chosenAddress text = .ok ip ↔
    IPv4.ofText? text.toList = some ip ∧ lan.block.IsInner ip ∧ lan.isTaken ip = false := by
  rw [chosenAddress]
  cases IPv4.ofText? text.toList with
  | none => simp
  | some asked =>
    dsimp only
    cases inside : lan.block.contains asked with
    | false =>
      rw [if_pos (by simp)]
      refine iff_of_false (by rintro ⟨⟩) ?_
      rintro ⟨⟨⟩, inner, -⟩
      rw [inner.inside] at inside
      cases inside
    | true =>
      rw [if_neg (by simp)]
      by_cases reserved : asked = lan.block.first ∨ asked = lan.block.last
      · rw [if_pos reserved]
        refine iff_of_false (by rintro ⟨⟩) ?_
        rintro ⟨⟨⟩, inner, -⟩
        exact absurd reserved (not_or.2 ⟨inner.first, inner.last⟩)
      · rw [if_neg reserved]
        obtain ⟨notFirst, notLast⟩ := not_or.1 reserved
        cases taken : lan.isTaken asked with
        | true =>
          rw [if_pos rfl]
          refine iff_of_false (by rintro ⟨⟩) ?_
          rintro ⟨⟨⟩, -, untaken⟩
          rw [taken] at untaken
          cases untaken
        | false =>
          rw [if_neg (by simp)]
          refine ⟨?_, fun chosen => congrArg Except.ok (Option.some.inj chosen.1)⟩
          rintro ⟨⟩
          exact ⟨rfl, ⟨inside, notFirst, notLast⟩, taken⟩

lemma attach_some_ok_iff {text : String} : (∃ after, lan.attach (some text) = .ok (ip, after)) ↔
    IPv4.ofText? text.toList = some ip ∧ lan.block.IsInner ip ∧ lan.isTaken ip = false := by
  rw [← chosenAddress_eq_ok_iff, attach, addressFor]
  cases lan.chosenAddress text <;> simp [Except.map]

/-! ## All hosts of a run -/

lemma Alike.ips {before after : Lan} (alike : Alike before after) :
    after.hosts.map LanHost.ip = before.hosts.map LanHost.ip := by
  have same : after.plan.map Prod.fst = before.plan.map Prod.fst := by rw [alike.plan]
  rw [Lan.plan, Lan.plan, List.map_map, List.map_map] at same
  exact same

/-- A call changes the addresses of hosts in one way: it attaches another. -/
lemma ips_perform (lan : Lan) (call : Call) :
    (lan.perform call).hosts.map LanHost.ip = lan.hosts.map LanHost.ip ∨
      ∃ text ip after, lan.attach text = .ok (ip, after) ∧
        (lan.perform call).hosts.map LanHost.ip = lan.hosts.map LanHost.ip ++ [ip] := by
  cases call with
  | attach text =>
    rw [perform]
    split
    · rename_i ip after attached
      refine .inr ⟨text, ip, after, attached, ?_⟩
      rw [(attach_ok attached).2, List.map_append]
      rfl
    · exact .inl rfl
  | bind n asked =>
    rw [perform]
    split
    · rename_i there
      split
      · rename_i bound
        exact .inl (ips_bind there bound)
      · exact .inl rfl
    · exact .inl rfl
  | send n transit => exact .inl (after_send lan n transit).1.ips
  | receive n p => exact .inl (after_pop lan n p).1.ips
  | injectLoss count =>
    rw [perform_injectLoss]
    exact .inl rfl
  | startLog => exact .inl rfl
  | takeLog =>
    rw [perform_takeLog]
    exact .inl rfl

/-- **What holds of every address that is given out** holds of every host, over any series of calls. -/
theorem of_attached {P : IPv4 → Prop}
    (given : ∀ between text ip after, Extends lan between → between.attach text = .ok (ip, after) → P ip)
    (start : ∀ ip ∈ lan.hosts.map LanHost.ip, P ip) (calls : List Call) :
    ∀ ip ∈ (lan.run calls).hosts.map LanHost.ip, P ip := by
  induction calls generalizing lan with
  | nil => exact start
  | cons call calls ih =>
    have more := Extends.perform lan call
    refine ih (fun between text ip after further => given between text ip after (more.trans further)) ?_
    intro ip among
    rcases ips_perform lan call with same | ⟨text, new, after, attached, grown⟩
    · exact start ip (same ▸ among)
    · rw [grown] at among
      rcases List.mem_append.1 among with old | here
      · exact start ip old
      · rw [List.mem_singleton.1 here]
        exact given lan text new after (.refl lan) attached

/-- Either way gives out an address of the block that is a host's. -/
lemma isHost_of_attach {text : Option String} {after : Lan}
    (attached : lan.attach text = .ok (ip, after)) : lan.block.IsHost ip := by
  cases text with
  | none => exact (attach_none_ok_iff.1 ⟨after, attached⟩).1.host
  | some text => exact (attach_some_ok_iff.1 ⟨after, attached⟩).2.1.isHost

/-! ## Regular networks -/

/-- What holds of the hosts of every network. -/
structure Placed (lan : Lan) : Prop where
  /-- Addresses are in the block, and not at its ends if there is anything between these. -/
  hosts : ∀ host ∈ lan.hosts, lan.block.IsHost host.ip
  /-- No address is given out twice. -/
  once : lan.Distinct
  /-- A call that fails attaches nobody. -/
  failed : ∀ text fault, lan.attach text = .error fault → lan.perform (.attach text) = lan

/-- What should hold of the hosts of a network. -/
structure Tidy (lan : Lan) : Prop where
  hosts : ∀ host ∈ lan.hosts, lan.IsUsable host.ip
  /-- Without a wish, a host is given the lowest usable address that no host has. -/
  automatic : ∀ ip, (∃ after, lan.attach none = .ok (ip, after)) ↔
    IsLowest (fun ip => lan.IsUsable ip ∧ lan.isTaken ip = false) ip
  /-- It is refused just if there is none. -/
  exhausted : lan.attach none = .error (.hostsExhausted lan.block) ↔
    ∀ ip, lan.IsUsable ip → lan.isTaken ip = true
  /-- A wish is granted just if it is for a usable address that no host has. -/
  explicit : ∀ text ip, (∃ after, lan.attach (some text) = .ok (ip, after)) ↔
    IPv4.ofText? text.toList = some ip ∧ lan.IsUsable ip ∧ lan.isTaken ip = false
  /-- Nobody who sends to a host is taken to send to everyone. -/
  unicast : ∀ host ∈ lan.hosts, ∀ port octets,
    (PhysicalAddress.mk host.text port).octets = .ok octets → lan.isBroadcast octets = false

/-- The networks on which the two rules agree: the broadcast address is none that a host could ask for,
and no end of the block is given out. -/
def IsRegular (lan : Lan) : Prop :=
  lan.block.IsWide ∧ ¬ lan.block.IsInner lan.broadcast ∨
    lan.block.prefixLength = 32 ∧ lan.broadcast = lan.block.first

instance (lan : Lan) : Decidable lan.IsRegular :=
  decidable_of_iff (lan.block.prefixLength ≤ 30 ∧
      ¬ (lan.block.contains lan.broadcast = true ∧ lan.broadcast ≠ lan.block.first ∧
        lan.broadcast ≠ lan.block.last) ∨
      lan.block.prefixLength = 32 ∧ lan.broadcast = lan.block.first) <| by
    refine or_congr (and_congr Iff.rfl (not_congr ⟨fun all => ⟨all.1, all.2.1, all.2.2⟩,
      fun inner => ⟨inner.inside, inner.first, inner.last⟩⟩)) Iff.rfl

lemma IsUsable.isBroadcast (usable : lan.IsUsable ip) : lan.isBroadcast ip.bytes = false := by
  rw [Lan.isBroadcast, Bool.or_eq_false_iff]
  exact ⟨beq_eq_false_iff_ne.2 fun same => usable.broadcast (IPv4.bytes_injective same),
    beq_eq_false_iff_ne.2 fun same => usable.inner.ne_limitedBroadcast (IPv4.bytes_injective same)⟩

/-- A block of one address has one host, which has it. -/
lemma host_of_single (single : lan.block.prefixLength = 32) (host : lan.block.IsHost ip) :
    ip = lan.block.first := by
  have inside := IPv4.Block.contains_iff.1 host.1
  have size : lan.block.size = 1 := by rw [IPv4.Block.size, single]
  exact IPv4.eq_of_number (by omega)

/-- **On a regular network** the addresses that are given out are the usable ones. -/
theorem IsRegular.isFree_iff (regular : lan.IsRegular) :
    lan.IsFree ip ↔ lan.IsUsable ip ∧ lan.isTaken ip = false := by
  refine ⟨fun free => ⟨⟨?_, free.broadcast⟩, free.untaken⟩,
    fun usable => ⟨usable.1.inner.isHost, usable.2, usable.1.broadcast⟩⟩
  rcases regular with ⟨wide, -⟩ | ⟨single, everyone⟩
  · exact free.host.2 wide
  · exact absurd ((host_of_single single free.host).trans everyone.symm) free.broadcast

/-- **On a regular network** the addresses that can be asked for are the usable ones. -/
theorem IsRegular.isUsable_iff (regular : lan.IsRegular) :
    lan.IsUsable ip ↔ lan.block.IsInner ip := by
  refine ⟨IsUsable.inner, fun inner => ⟨inner, ?_⟩⟩
  rintro rfl
  rcases regular with ⟨-, outer⟩ | ⟨-, everyone⟩
  · exact outer inner
  · exact inner.first everyone

/-- On a regular network either way gives out usable addresses. -/
lemma IsRegular.isUsable_of_attach (regular : lan.IsRegular) {text : Option String} {after : Lan}
    (attached : lan.attach text = .ok (ip, after)) : lan.IsUsable ip := by
  cases text with
  | none => exact (regular.isFree_iff.1 (attach_none_ok_iff.1 ⟨after, attached⟩).1).1
  | some text => exact regular.isUsable_iff.2 (attach_some_ok_iff.1 ⟨after, attached⟩).2.1

lemma IsRegular.tidy (regular : lan.IsRegular) (hosts : ∀ host ∈ lan.hosts, lan.IsUsable host.ip) :
    Tidy lan where
  hosts := hosts
  automatic ip := by
    have same : lan.IsFree = fun ip => lan.IsUsable ip ∧ lan.isTaken ip = false :=
      funext fun ip => propext regular.isFree_iff
    rw [attach_none_ok_iff, same]
  exhausted := by
    rw [attach_none_error_iff]
    refine forall_congr' fun ip => ?_
    rw [regular.isFree_iff, not_and, Bool.not_eq_false]
  explicit text ip := by rw [attach_some_ok_iff, regular.isUsable_iff]
  unicast host among port octets read := by
    rw [LanHost.text, IPv4.octets_text] at read
    cases read
    exact (hosts host among).isBroadcast

/-- The first host of a block that is not wide, or the second one, is free on a network without hosts,
unless there is one address and it is the broadcast address. -/
lemma exists_isFree (narrow : ¬ lan.block.IsWide) (empty : lan.hosts = [])
    (other : ¬ (lan.block.prefixLength = 32 ∧ lan.broadcast = lan.block.first)) :
    ∃ ip, lan.IsFree ip := by
  have nobody (ip : IPv4) : lan.isTaken ip = false := by simp [isTaken, empty]
  have narrowHost {ip : IPv4} (inside : lan.block.contains ip = true) : lan.block.IsHost ip :=
    ⟨inside, fun wide => absurd wide narrow⟩
  by_cases first : lan.broadcast = lan.block.first
  · refine ⟨lan.block.last, narrowHost lan.block.contains_last, nobody _, fun same => other ⟨?_, first⟩⟩
    -- The first address is the last one, so there is but one.
    have number := lan.block.number_last
    rw [same, first] at number
    rcases IPv4.Block.size_of_narrow narrow with ⟨-, size⟩ | ⟨single, -⟩
    · omega
    · exact single
  · exact ⟨lan.block.first, narrowHost lan.block.contains_first, nobody _, Ne.symm first⟩

/-- A network without hosts that is tidy is regular. -/
lemma Tidy.isRegular (tidy : Tidy lan) (empty : lan.hosts = []) : lan.IsRegular := by
  by_cases wide : lan.block.IsWide
  · refine .inl ⟨wide, fun inner => ?_⟩
    -- A host that asks for the broadcast address gets it.
    have granted := (tidy.explicit lan.broadcast.text lan.broadcast).1
      (attach_some_ok_iff.2 ⟨IPv4.ofText?_text _, inner, by simp [isTaken, empty]⟩)
    exact granted.2.1.broadcast rfl
  · refine .inr (Classical.byContradiction fun other => ?_)
    -- Some address is given out, and none is usable.
    obtain ⟨ip, free⟩ := exists_isFree wide empty other
    have exhausted := attach_none_error_iff.1 (tidy.exhausted.2 fun ip usable =>
      absurd usable.inner.isWide wide)
    exact exhausted ip free

/-- **Which networks give out usable addresses.**  Along every run of a new network, every host has an
address of its own in the block, and a call that fails attaches nobody.  The address is usable, the
lowest one for a host that asks for none, and a host that asks is given what is usable and free, along
all runs just if the network is regular. -/
theorem run_tidy_iff {subnet : String} {prefixLength : Int} {broadcast : Option String}
    {loopback : Bool} (made : Lan.create subnet prefixLength broadcast loopback = .ok lan) :
    (∀ calls, Placed (lan.run calls)) ∧ ((∀ calls, Tidy (lan.run calls)) ↔ lan.IsRegular) := by
  obtain ⟨empty, -, -⟩ := of_create made
  have start {P : IPv4 → Prop} : ∀ ip ∈ lan.hosts.map LanHost.ip, P ip := by simp [empty]
  refine ⟨fun calls => ⟨?_, ?_, ?_⟩, fun tidy => (tidy []).isRegular empty, fun regular calls => ?_⟩
  · intro host among
    rw [(Extends.run lan calls).block]
    refine of_attached (fun between text ip after more attached => ?_) start calls host.ip
      (List.mem_map_of_mem among)
    rw [← more.block]
    exact isHost_of_attach attached
  · exact Distinct.run (by simp [Distinct, empty]) calls
  · intro text fault failed
    rw [perform, failed]
  · have same {between : Lan} (more : Extends lan between) : between.IsRegular := by
      rw [IsRegular, more.block, more.broadcast]
      exact regular
    have more := Extends.run lan calls
    have usable {between : Lan} (more : Extends lan between) (ip : IPv4) :
        between.IsUsable ip ↔ lan.IsUsable ip := by
      constructor <;> rintro ⟨inner, other⟩
      · exact ⟨more.block ▸ inner, more.broadcast ▸ other⟩
      · exact ⟨more.block.symm ▸ inner, more.broadcast.symm ▸ other⟩
    refine (same more).tidy fun host among => (usable more host.ip).2 ?_
    exact of_attached (fun between text ip after more attached =>
      (usable more ip).1 ((same more).isUsable_of_attach attached)) start calls host.ip
      (List.mem_map_of_mem among)

/-- A network whose broadcast address lies between the ends of its block. -/
def overridden : Lan := { quiet with broadcast := .ofNumber 0x0A00000A }

/-- Hosts with and without a wish, more than the block of four addresses has room for, and a datagram
that is taken. -/
def crowd : List Call :=
  [.attach none, .attach none, .bind 0 none, .attach (some "10.0.0.2"), .attach (some "10.0.0.3"),
    .attach none, parcelTo "10.0.0.1" 1, .receive 0 udpPort, .attach none]

theorem run_tidy_iff_crowd : ∃ lan, Lan.create "10.0.0.0" 30 none false = .ok lan ∧ lan.IsRegular ∧
    Tidy (lan.run crowd) ∧ (lan.run crowd).hosts.map LanHost.text = ["10.0.0.1", "10.0.0.2"] :=
  have made : Lan.create "10.0.0.0" 30 none false = .ok
      { block := .around (.ofNumber 0x0A000000) 30 (Nat.le_add_right 30 2)
        broadcast := .ofNumber 0x0A000003
        loopback := false } := by decide +kernel
  have regular := by decide +kernel
  ⟨_, made, regular, (run_tidy_iff made).2.2 regular crowd, by decide +kernel⟩

/-- A host asks for the broadcast address in force and gets it, and is reached by what is for everyone
at an address that is passed over where nobody asks. -/
theorem not_every_network_tidy :
    Lan.create "10.0.0.0" 24 (some "10.0.0.10") false = .ok overridden ∧
    overridden.attach (some "10.0.0.10")
      = .ok (overridden.broadcast, overridden.run [.attach (some "10.0.0.10")]) ∧
    ¬ Tidy (overridden.run [.attach (some "10.0.0.10")]) := by
  refine ⟨by decide +kernel, by decide +kernel, fun tidy => ?_⟩
  have everyone := (tidy.hosts { ip := overridden.broadcast } (by decide +kernel)).broadcast
  exact everyone (by decide +kernel)

end RollCall.Lan
