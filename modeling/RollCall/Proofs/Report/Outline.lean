import Mathlib.Logic.Basic
import Mathlib.Tactic.Lemma
import RollCall.Report.Writer

/-!
# Outlines and plain forms

The outline of a value is what it turns into at once: the form of a thing, the code of a role, and any
other value as it is.  What is in the outline may be things again.  The plain form is put together from the
plain forms of these parts, and everything about plain forms goes by induction on the parts of outlines.

* `Value.outline?` — the outline of a value.
* `Value.height` — how many containers stand within one another in the plain form.
* `Value.outlineInduction` — induction on a value by the parts of its outline.
* `Value.IsPlain`, `Value.isPlain_plain` — a plain form has no things in it.
* `Value.Unwritable` — a plain value holds something that has no notation.
-/

namespace RollCall.Report.Value

variable {v w : Value} {items : List Value} {entries : List (Option String × Value)}

/-! ## Plain forms -/

/-- The outline of a value, if it has one.  Its parts are left as they are. -/
def outline? : Value → Option Value
  | role r => some (int r.code.toNat)
  | v => bif v.isThing then v.form? else some v

lemma plainItems_eq (items : List Value) : plainItems items = items.map plain := by
  induction items with
  | nil => rfl
  | cons v items ih => exact congrArg (v.plain :: ·) ih

lemma plainEntries_eq (entries : List (Option String × Value)) :
    plainEntries entries = entries.map fun entry => (entry.1, entry.2.plain) := by
  induction entries with
  | nil => rfl
  | cons entry entries ih => exact congrArg ((entry.1, entry.2.plain) :: ·) ih

lemma plainFields_eq (fields : List (String × Value)) :
    plainFields fields = fields.map fun field => (field.1, field.2.plain) := by
  induction fields with
  | nil => rfl
  | cons field fields ih => exact congrArg ((field.1, field.2.plain) :: ·) ih

@[simp] lemma plain_list (items : List Value) : (list items).plain = list (items.map plain) :=
  congrArg list (plainItems_eq items)

@[simp] lemma plain_tuple (items : List Value) : (tuple items).plain = tuple (items.map plain) :=
  congrArg tuple (plainItems_eq items)

@[simp] lemma plain_table (entries : List (Option String × Value)) :
    (table entries).plain = table (entries.map fun entry => (entry.1, entry.2.plain)) :=
  congrArg table (plainEntries_eq entries)

@[simp] lemma plain_dict (fields : List (String × Value)) :
    (dict fields).plain = dict (fields.map fun field => (field.1, field.2.plain)) := by
  rw [dict, plain_table, List.map_map, dict, List.map_map]
  rfl

@[simp] lemma plain_record (fields : List (String × Value)) :
    (record fields).plain = dict (fields.map fun field => (field.1, field.2.plain)) :=
  congrArg dict (plainFields_eq fields)

@[simp] lemma plain_received (sender : LogicalAddress) (type : String) (packet : Value) :
    (received sender type packet).plain = ofReceived sender type packet.plain := rfl

@[simp] lemma plain_logical (a : LogicalAddress) : (logical a).plain = ofLogical a := rfl

@[simp] lemma plain_physical (a : PhysicalAddress) : (physical a).plain = ofPhysical a := rfl

@[simp] lemma plain_bytes (bs : Bytes) : (bytes bs).plain = text bs.hex := rfl

@[simp] lemma plain_role (r : Role) : (role r).plain = int r.code.toNat := rfl

@[simp] lemma plain_text (s : String) : (text s).plain = text s := rfl

@[simp] lemma plain_int (n : Int) : (int n).plain = int n := rfl

@[simp] lemma plain_int? (n : Option Int) : (int? n).plain = int? n := by
  cases n <;> rfl

@[simp] lemma plain_ofLogical (a : LogicalAddress) : (ofLogical a).plain = ofLogical a := by
  unfold ofLogical
  split <;> rfl

@[simp] lemma plain_ofPhysical (a : PhysicalAddress) : (ofPhysical a).plain = ofPhysical a := rfl

/-- The plain form of a value is that of its outline: a thing may be turned first, and what is in it
afterwards. -/
lemma plain_of_outline? (outline : v.outline? = some w) : v.plain = w.plain := by
  cases v with
  | formless => cases outline
  | logical a =>
    cases outline
    rw [plain_logical, plain_ofLogical]
  | peer p =>
    cases outline
    show ofPeer p = (ofPeer p).plain
    simp [ofPeer]
  | received sender type packet =>
    cases outline
    simp [ofReceived]
  | record fields =>
    cases outline
    rw [plain_record, plain_dict]
  | _ =>
    cases outline
    rfl

/-- The plain form of one value is its own, and no thing. -/
lemma outline?_of_outline? (outline : v.outline? = some w) :
    w.outline? = some w ∧ w.isThing = false := by
  cases v with
  | formless => cases outline
  | logical a =>
    cases outline
    unfold ofLogical
    split <;> exact ⟨rfl, rfl⟩
  | _ =>
    cases outline
    exact ⟨rfl, rfl⟩

/-! ## Heights -/

mutual

/-- The number of lists, tuples and tables that stand within one another in the plain form. -/
def height : Value → Nat
  | list items => heightOfItems items + 1
  | tuple items => heightOfItems items + 1
  | table entries => heightOfEntries entries + 1
  | record fields => heightOfFields fields + 1
  | received _ _ packet => max 1 (height packet) + 1
  | peer _ => 2
  | logical _ => 1
  | physical _ => 1
  | traffic _ => 1
  | null => 0
  | bool _ => 0
  | int _ => 0
  | float _ => 0
  | text _ => 0
  | bytes _ => 0
  | role _ => 0
  | formless => 0

/-- The greatest height among items. -/
def heightOfItems : List Value → Nat
  | [] => 0
  | v :: rest => max (height v) (heightOfItems rest)

/-- The greatest height among the entries of a table. -/
def heightOfEntries : List (Option String × Value) → Nat
  | [] => 0
  | (_, v) :: rest => max (height v) (heightOfEntries rest)

/-- The greatest height among the fields of a record. -/
def heightOfFields : List (String × Value) → Nat
  | [] => 0
  | (_, v) :: rest => max (height v) (heightOfFields rest)

end

lemma heightOfEntries_dict (fields : List (String × Value)) :
    heightOfEntries (fields.map fun entry => (some entry.1, entry.2)) = heightOfFields fields := by
  induction fields with
  | nil => rfl
  | cons entry rest ih =>
    simp only [List.map_cons, heightOfEntries, heightOfFields]
    rw [ih]

@[simp] lemma height_dict (fields : List (String × Value)) :
    (dict fields).height = heightOfFields fields + 1 := by
  rw [dict, height, heightOfEntries_dict]

@[simp] lemma height_ofLogical (a : LogicalAddress) : (ofLogical a).height = 1 := by
  unfold ofLogical
  split <;> simp [heightOfFields, height]

/-- The outline of a value is as high as the value. -/
lemma height_of_outline? (outline : v.outline? = some w) : w.height = v.height := by
  have session (s : Option Int) : (int? s).height = 0 := by cases s <;> rfl
  cases v <;> cases outline <;>
    simp [ofPhysical, ofPeer, ofTraffic, ofReceived, heightOfFields, height, session]

lemma height_le_of_mem_items {v : Value} {items : List Value} (h : v ∈ items) :
    v.height ≤ heightOfItems items := by
  induction items with
  | nil => cases h
  | cons first rest ih =>
    rw [heightOfItems]
    rcases List.mem_cons.1 h with rfl | h
    · exact Nat.le_max_left _ _
    · exact Nat.le_trans (ih h) (Nat.le_max_right _ _)

lemma height_le_of_mem_entries {entry : Option String × Value}
    {entries : List (Option String × Value)} (h : entry ∈ entries) :
    entry.2.height ≤ heightOfEntries entries := by
  induction entries with
  | nil => cases h
  | cons first rest ih =>
    rw [heightOfEntries]
    rcases List.mem_cons.1 h with rfl | h
    · exact Nat.le_max_left _ _
    · exact Nat.le_trans (ih h) (Nat.le_max_right _ _)

lemma height_lt_of_mem_list {v w : Value} {items : List Value}
    (h : v.outline? = some (list items)) (hw : w ∈ items) : w.height < v.height := by
  have below := height_le_of_mem_items hw
  rw [← height_of_outline? h, height]
  omega

lemma height_lt_of_mem_tuple {v w : Value} {items : List Value}
    (h : v.outline? = some (tuple items)) (hw : w ∈ items) : w.height < v.height := by
  have below := height_le_of_mem_items hw
  rw [← height_of_outline? h, height]
  omega

lemma height_lt_of_mem_table {v : Value} {entry : Option String × Value}
    {entries : List (Option String × Value)} (h : v.outline? = some (table entries))
    (he : entry ∈ entries) : entry.2.height < v.height := by
  have below := height_le_of_mem_entries he
  rw [← height_of_outline? h, height]
  omega

/-- What holds of a value if it holds of the parts of its outline, holds of all values. -/
lemma outlineInduction {motive : Value → Prop} (formless : motive formless)
    (scalar : ∀ v w, v.outline? = some w → w.isScalar = true → v.plain = w → motive v)
    (list : ∀ v items, v.outline? = some (list items) → v.plain = list (items.map plain) →
      (∀ item ∈ items, motive item) → motive v)
    (tuple : ∀ v items, v.outline? = some (tuple items) → v.plain = tuple (items.map plain) →
      (∀ item ∈ items, motive item) → motive v)
    (table : ∀ v entries, v.outline? = some (table entries) →
      v.plain = table (entries.map fun entry => (entry.1, entry.2.plain)) →
      (∀ entry ∈ entries, motive entry.2) → motive v)
    (v : Value) : motive v := by
  cases outline : v.outline? with
  | none =>
    cases v with
    | formless => exact formless
    | _ => cases outline
  | some w =>
    obtain ⟨own, nothing⟩ := outline?_of_outline? outline
    have same := plain_of_outline? outline
    cases w with
    | list items =>
      exact list v items outline (same.trans (plain_list items)) fun item _ =>
        outlineInduction formless scalar list tuple table item
    | tuple items =>
      exact tuple v items outline (same.trans (plain_tuple items)) fun item _ =>
        outlineInduction formless scalar list tuple table item
    | table entries =>
      exact table v entries outline (same.trans (plain_table entries)) fun entry _ =>
        outlineInduction formless scalar list tuple table entry.2
    | null | bool | int | float | text => exact scalar v _ outline rfl same
    | role => cases own
    | _ => cases nothing
termination_by v.height
decreasing_by
  · exact height_lt_of_mem_list outline ‹_›
  · exact height_lt_of_mem_tuple outline ‹_›
  · exact height_lt_of_mem_table outline ‹_›

/-- A value in which no thing stands, but perhaps one without a plain form. -/
inductive IsPlain : Value → Prop
  | formless : IsPlain formless
  | scalar {v : Value} : v.isScalar = true → IsPlain v
  | list {items : List Value} : (∀ item ∈ items, IsPlain item) → IsPlain (list items)
  | tuple {items : List Value} : (∀ item ∈ items, IsPlain item) → IsPlain (tuple items)
  | table {entries : List (Option String × Value)} :
      (∀ entry ∈ entries, IsPlain entry.2) → IsPlain (table entries)

/-- **No thing is left in a plain form.** -/
theorem isPlain_plain (v : Value) : v.plain.IsPlain := by
  induction v using outlineInduction with
  | formless => exact .formless
  | scalar v w _ leaf plain => exact plain ▸ .scalar leaf
  | list v items _ plain ih => exact plain ▸ .list (List.forall_mem_map.2 ih)
  | tuple v items _ plain ih => exact plain ▸ .tuple (List.forall_mem_map.2 ih)
  | table v entries _ plain ih => exact plain ▸ .table (List.forall_mem_map.2 ih)

/-- The plain form of a value is as high as the value. -/
lemma height_plain (v : Value) : v.plain.height = v.height := by
  have ofItems {items : List Value} (same : ∀ item ∈ items, item.plain.height = item.height) :
      heightOfItems (items.map plain) = heightOfItems items := by
    induction items with
    | nil => rfl
    | cons item items ih =>
      rw [List.forall_mem_cons] at same
      rw [List.map_cons, heightOfItems, heightOfItems, same.1, ih same.2]
  have ofEntries {entries : List (Option String × Value)}
      (same : ∀ entry ∈ entries, entry.2.plain.height = entry.2.height) :
      heightOfEntries (entries.map fun entry => (entry.1, entry.2.plain)) = heightOfEntries entries := by
    induction entries with
    | nil => rfl
    | cons entry entries ih =>
      rw [List.forall_mem_cons] at same
      rw [List.map_cons, heightOfEntries, heightOfEntries, same.1, ih same.2]
  induction v using outlineInduction with
  | formless => rfl
  | scalar v w outline _ plain => rw [plain, height_of_outline? outline]
  | list v items outline plain ih | tuple v items outline plain ih =>
    rw [plain, ← height_of_outline? outline, height, height, ofItems ih]
  | table v entries outline plain ih =>
    rw [plain, ← height_of_outline? outline, height, height, ofEntries ih]

/-! ## What cannot be written -/

/-- What has no notation: a thing without a plain form, an integer beyond 64 bits, a key that is not a
text, and what holds one of these. -/
inductive Unwritable : Value → Prop
  | formless : Unwritable formless
  | int {n : Int} : ¬ Fits64 n → Unwritable (int n)
  | item {items : List Value} {v : Value} : v ∈ items → Unwritable v → Unwritable (list items)
  | part {items : List Value} {v : Value} : v ∈ items → Unwritable v → Unwritable (tuple items)
  | key {entries : List (Option String × Value)} {v : Value} : (none, v) ∈ entries →
      Unwritable (table entries)
  | value {entries : List (Option String × Value)} {key : Option String} {v : Value} :
      (key, v) ∈ entries → Unwritable v → Unwritable (table entries)

@[simp] lemma not_unwritable_text (s : String) : ¬ (text s).Unwritable := by rintro ⟨⟩

@[simp] lemma unwritable_int_iff {n : Int} : (int n).Unwritable ↔ ¬ Fits64 n :=
  ⟨fun beyond => by cases beyond; assumption, .int⟩

@[simp] lemma unwritable_list_iff : (list items).Unwritable ↔ ∃ v ∈ items, v.Unwritable := by
  constructor
  · rintro (_ | _ | ⟨among, unwritable⟩)
    exact ⟨_, among, unwritable⟩
  · rintro ⟨v, among, unwritable⟩
    exact .item among unwritable

@[simp] lemma unwritable_tuple_iff : (tuple items).Unwritable ↔ ∃ v ∈ items, v.Unwritable := by
  constructor
  · rintro (_ | _ | _ | ⟨among, unwritable⟩)
    exact ⟨_, among, unwritable⟩
  · rintro ⟨v, among, unwritable⟩
    exact .part among unwritable

@[simp] lemma unwritable_table_iff :
    (table entries).Unwritable ↔ ∃ entry ∈ entries, entry.1 = none ∨ entry.2.Unwritable := by
  constructor
  · rintro (_ | _ | _ | _ | among | ⟨among, unwritable⟩)
    · exact ⟨_, among, .inl rfl⟩
    · exact ⟨_, among, .inr unwritable⟩
  · rintro ⟨⟨key, v⟩, among, rfl | unwritable⟩
    · exact .key among
    · exact .value among unwritable

lemma unwritable_dict_iff {fields : List (String × Value)} :
    (dict fields).Unwritable ↔ ∃ field ∈ fields, field.2.Unwritable := by
  rw [dict, unwritable_table_iff]
  simp only [List.mem_map, exists_exists_and_eq_and, reduceCtorEq, false_or]

end RollCall.Report.Value
