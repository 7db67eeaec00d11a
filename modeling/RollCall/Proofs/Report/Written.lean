import Mathlib.Tactic.Lemma
import RollCall.Report.Written

/-!
# The writer keeps to what is documented

The writer of this library is one of those that reports may be given to.

* `write?_scalar`, `write?_list`, `write?_tuple`, `write?_table`, `write?_thing` — the text of a value by
  what kind of value it is.
* `written_documented` — **the writer does what is documented of writers.**
-/

namespace RollCall.Report

variable {hook : Hook} {style : Style} {place : Place} {v : Value}

lemma write?_scalar (leaf : v.isScalar = true) : write? hook style place v = writeScalar? v := by
  cases v with
  | null | bool | int | float | text => unfold write?; rfl
  | _ => cases leaf

lemma allowsContainer_of_lt (low : place.depth < nestingLimit) : place.allowsContainer = true :=
  bne_iff_ne.2 (Nat.ne_of_lt low)

lemma mapM_attach {α β : Type} (f : α → Option β) (items : List α) :
    (items.attach.mapM fun item => f item.1) = items.mapM f := by
  simp

lemma write?_list (low : place.depth < nestingLimit) (items : List Value) :
    write? hook style place (.list items)
      = (items.mapM (write? hook style place.inside)).map (writeContainer style place.depth "[" "]") := by
  rw [write?, if_pos (allowsContainer_of_lt low), mapM_attach (write? hook style place.inside)]

lemma write?_tuple (items : List Value) :
    write? hook style place (.tuple items)
      = (items.mapM (write? hook style place.inside)).map (writeContainer style place.depth "[" "]") := by
  rw [write?, mapM_attach (write? hook style place.inside)]

lemma write?_table (low : place.depth < nestingLimit) (entries : List (Option String × Value)) :
    write? hook style place (.table entries)
      = (entries.mapM (entryText? (write? hook style place.inside))).map (writeTable style place.depth) := by
  have entry : entryText? (write? hook style place.inside) = fun entry =>
      entry.1.bind fun key => (write? hook style place.inside entry.2).map fun written => (key, written) := by
    funext ⟨key, v⟩
    cases key <;> rfl
  rw [write?, if_pos (allowsContainer_of_lt low), ← mapM_attach (entryText? _) entries, entry]

lemma write?_thing (thing : v.isThing = true) (few : place.things ≤ nestingLimit) :
    write? hook style place v = (hook v).bind (write? hook style place.instead) := by
  cases v with
  | bytes | logical | physical | peer | traffic | received | record | formless =>
    conv => lhs; unfold write?
    exact (if_pos rfl).trans (dif_pos few)
  | _ => cases thing

/-- **The writer does what is documented of writers.** -/
theorem written_documented : written.Documented := by
  intro hook style
  refine ⟨write? hook style, ?_, fun _ => rfl⟩
  constructor
  case alike => exact fun _ _ leaf => (write?_scalar leaf).trans (write?_scalar leaf).symm
  case scalar =>
    intro v place leaf other
    rw [write?_scalar leaf]
    cases v with
    | int n => exact absurd rfl (other n)
    | null | bool | float | text => rfl
    | _ => cases leaf
  case int =>
    intro place n
    rw [write?_scalar rfl, writeScalar?]
    split <;> simp_all
  case role =>
    intro place r
    rw [write?_scalar (v := .int r.code.toNat) rfl]
    unfold write?
    rfl
  case list =>
    exact ⟨fun depth => writeContainer style depth "[" "]", fun _ items low => write?_list low items⟩
  case tuple => exact ⟨fun depth => writeContainer style depth "[" "]", fun _ items _ => write?_tuple items⟩
  case table => exact ⟨writeTable style, fun _ entries low => write?_table low entries⟩
  case thing => exact fun _ _ => write?_thing

end RollCall.Report
