import Mathlib.Data.List.TakeWhile
import RollCall.Address.Written
import RollCall.Proofs.Address
import RollCall.Proofs.Text.Numeral

/-!
# Which texts are addresses

An address is written as the name of its role in lower case and, exactly if the role is instanced, a
colon and a numeral.  Blanks at the ends and the case of letters do not matter, nor do the script of
the digits and zeros in front.  This is all that reading accepts, and it accepts all of it.

* `IsNumeral`, `Spells` — how numbers and addresses are written.
* `Lowered` — a text in lower case, whichever map of Unicode is taken: maps differ in characters
  that stand in no address, so `Lowered.spells_iff` says that they spell the same addresses.
* `split?_eq_some_iff`, `ofParts_eq_ok_iff` — what the two steps of reading accept.
* `ofText_text` — the text of an address reads back.
* `ofText_accepts_exactly` — **a text is read as an address exactly if it spells it.**
-/

namespace RollCall

namespace Text

/-! ## Digits -/

lemma digitValue?_asciiDigit : ∀ d < 10, digitValue? (asciiDigit d) = some d := by decide

/-- A text of digits has the value of each of its characters. -/
lemma digitValues?_eq_some_iff {cs : List Char} {ds : List Nat} :
    digitValues? cs = some ds ↔ cs.map digitValue? = ds.map some := by
  unfold digitValues?
  induction cs generalizing ds with
  | nil => cases ds <;> simp
  | cons c cs ih =>
    rw [List.mapM_cons]
    cases value : digitValue? c with
    | none => cases ds <;> simp [value]
    | some d =>
      cases ds with
      | nil => simp [Option.bind_eq_some_iff]
      | cons e ds => simp [value, ← ih, Option.bind_eq_some_iff, and_comm]

end Text

namespace Role

/-- The lower-case name of a role is its name in lower case. -/
lemma label_eq (role : Role) : role.label.toList = role.name.toList.map Text.lowerCase := by
  cases role <;> decide +kernel

lemma label_of_ofLabel? {label : String} {role : Role} (h : ofLabel? label = some role) :
    role.label = label := by
  simpa using List.find?_some h

end Role

namespace LogicalAddress

/-! ## How addresses are written -/

/-- A numeral: decimal digits of any script, at least one and not too many. -/
structure IsNumeral (cs : List Char) (n : Nat) : Prop where
  unempty : cs ≠ []
  short : cs.length ≤ Text.digitLimit
  value : ∃ ds : List Nat, cs.map Text.digitValue? = ds.map some ∧
    Nat.ofDigits 10 ds.reverse = n

/-- A text in lower case spells an address: it is the name of the role and, exactly if the address
has a number, a colon and a numeral of that number. -/
def Spells (cs : List Char) (a : LogicalAddress) : Prop :=
  match a.number with
  | none => cs = a.role.name.toList.map Text.lowerCase
  | some n => ∃ numeral, cs = a.role.name.toList.map Text.lowerCase ++ ':' :: numeral ∧
    IsNumeral numeral n.toNat

/-- The characters that addresses are written in. -/
def isPlain (c : Char) : Bool := isNameCharacter c || c == ':' || (Text.digitValue? c).isSome

/-- A text and what a lower-case map of Unicode makes of it.  Such a map may put several characters
for one and look at the characters around it; it is fixed here only for what becomes a character of
addresses.  From anything else comes at least one character that stands in no address. -/
inductive Lowered : List Char → List Char → Prop
  | nil : Lowered [] []
  | plain {c : Char} {cs ds : List Char} : isPlain (Text.lowerCase c) = true → Lowered cs ds →
      Lowered (c :: cs) (Text.lowerCase c :: ds)
  | foreign {c d : Char} {cs ds spread : List Char} : isPlain (Text.lowerCase c) = false →
      d ∈ spread → isPlain d = false → Lowered cs ds → Lowered (c :: cs) (spread ++ ds)

variable {cs ds : List Char} {a : LogicalAddress} {role : Role}

lemma lowered_map (cs : List Char) : Lowered cs (cs.map Text.lowerCase) := by
  induction cs with
  | nil => exact .nil
  | cons c cs ih =>
    cases kind : isPlain (Text.lowerCase c) with
    | true => exact .plain kind ih
    | false =>
      show Lowered (c :: cs) ([Text.lowerCase c] ++ cs.map Text.lowerCase)
      exact .foreign kind (List.mem_singleton_self _) kind ih

/-- Where nothing foreign comes out, the map is the one for plain characters. -/
lemma Lowered.eq_map (lowered : Lowered cs ds) (plain : ∀ d ∈ ds, isPlain d = true) :
    ds = cs.map Text.lowerCase := by
  induction lowered with
  | nil => rfl
  | plain _ _ ih => rw [List.map_cons, ← ih fun d among => plain d (List.mem_cons_of_mem _ among)]
  | foreign _ among foreign =>
    have here := plain _ (List.mem_append_left _ among)
    rw [foreign] at here
    cases here

/-- Where nothing foreign goes in either. -/
lemma Lowered.eq_map_of_map (lowered : Lowered cs ds)
    (plain : ∀ d ∈ cs.map Text.lowerCase, isPlain d = true) : ds = cs.map Text.lowerCase := by
  induction lowered with
  | nil => rfl
  | plain _ _ ih => rw [List.map_cons, ← ih fun d among => plain d (List.mem_cons_of_mem _ among)]
  | foreign foreign =>
    have here := plain _ (List.mem_map_of_mem List.mem_cons_self)
    rw [foreign] at here
    cases here

lemma isNameCharacter_label (role : Role) :
    ∀ c ∈ role.label.toList, isNameCharacter c = true := by
  have all : role.label.toList.all isNameCharacter = true := by
    cases role <;> decide +kernel
  exact List.all_eq_true.1 all

lemma label_ne_nil (role : Role) : role.label.toList ≠ [] := by
  cases role <;> decide +kernel

lemma spells_iff : Spells cs a ↔ match a.number with
    | none => cs = a.role.label.toList
    | some n => ∃ numeral, cs = a.role.label.toList ++ ':' :: numeral ∧
      IsNumeral numeral n.toNat := by
  rw [Spells, ← Role.label_eq]

lemma IsNumeral.isSome_digitValue? {n : Nat} (numeral : IsNumeral cs n) :
    ∀ c ∈ cs, (Text.digitValue? c).isSome = true := by
  obtain ⟨values, same, -⟩ := numeral.value
  intro c among
  have value := List.mem_map_of_mem (f := Text.digitValue?) among
  rw [same] at value
  obtain ⟨d, -, is⟩ := List.mem_map.1 value
  rw [← is]
  rfl

lemma Spells.isPlain (spells : Spells cs a) : ∀ c ∈ cs, isPlain c = true := by
  have named : ∀ c ∈ a.role.label.toList, LogicalAddress.isPlain c = true := fun c among => by
    simp [LogicalAddress.isPlain, isNameCharacter_label a.role c among]
  rw [spells_iff] at spells
  split at spells
  · rw [spells]
    exact named
  · obtain ⟨numeral, rfl, is⟩ := spells
    intro c among
    rcases List.mem_append.1 among with before | after
    · exact named c before
    · rcases List.mem_cons.1 after with rfl | digit
      · rfl
      · simp [LogicalAddress.isPlain, is.isSome_digitValue? c digit]

/-- **It does not matter which lower-case map is taken.** -/
theorem Lowered.spells_iff (lowered : Lowered cs ds) :
    Spells ds a ↔ Spells (cs.map Text.lowerCase) a := by
  constructor
  · intro spells
    rw [← lowered.eq_map spells.isPlain]
    exact spells
  · intro spells
    rw [lowered.eq_map_of_map spells.isPlain]
    exact spells

/-! ## The two steps of reading -/

/-- Splitting finds a name of letters and underscores and, after a colon, a row of digits. -/
lemma split?_eq_some_iff {parts : Parts} : split? cs = some parts ↔ parts.label ≠ [] ∧
    (∀ c ∈ parts.label, isNameCharacter c = true) ∧ match parts.digits with
      | none => cs = parts.label
      | some ds => ∃ numeral, cs = parts.label ++ ':' :: numeral ∧ numeral ≠ [] ∧
        numeral.map Text.digitValue? = ds.map some := by
  have colon : isNameCharacter ':' = false := by decide
  constructor
  · intro found
    have whole := List.takeWhile_append_dropWhile (p := isNameCharacter) (l := cs)
    have named : ∀ c ∈ cs.takeWhile isNameCharacter, isNameCharacter c = true :=
      fun c among => List.mem_takeWhile_imp among
    rw [split?] at found
    split at found
    · cases found
    · rename_i unempty
      have unempty : cs.takeWhile isNameCharacter ≠ [] := by simpa using unempty
      split at found
      · rename_i ends
        cases found
        rw [ends, List.append_nil] at whole
        exact ⟨unempty, named, whole.symm⟩
      · rename_i numeral follows
        obtain ⟨values, read, rfl⟩ := Option.map_eq_some_iff.1 found
        rw [Text.plainDigits?] at read
        split at read
        · cases read
        · rename_i digits
          rw [follows] at whole
          exact ⟨unempty, named, numeral, whole.symm, by simpa using digits,
            Text.digitValues?_eq_some_iff.1 read⟩
      · cases found
  · rintro ⟨unempty, named, is⟩
    obtain ⟨label, digits⟩ := parts
    have taken (rest : List Char) (stops : rest.head?.all fun c => !isNameCharacter c) :
        (label ++ rest).takeWhile isNameCharacter = label ∧
          (label ++ rest).dropWhile isNameCharacter = rest := by
      rw [List.takeWhile_append_of_pos named, List.dropWhile_append_of_pos named]
      cases rest with
      | nil => simp
      | cons c rest =>
        have stops : isNameCharacter c = false := by simpa using stops
        simp [stops]
    have unempty : label.isEmpty = false := by simpa using unempty
    cases digits with
    | none =>
      obtain ⟨front, back⟩ := taken [] rfl
      rw [List.append_nil] at front back
      subst is
      simp [split?, front, back, unempty]
    | some values =>
      obtain ⟨numeral, rfl, digits, read⟩ := is
      obtain ⟨front, back⟩ := taken (':' :: numeral) (by simp [colon])
      have many : numeral.isEmpty = false := by simpa using digits
      have read : Text.plainDigits? numeral = some values := by
        rw [Text.plainDigits?, many, if_neg Bool.false_ne_true]
        exact Text.digitValues?_eq_some_iff.2 read
      simp [split?, front, back, unempty, read]

/-- A role and a number make an address if the number is there just if it should, and is a byte. -/
lemma make?_eq_ok_iff {number : Option Int} : make? role number = .ok a ↔
    a.role = role ∧ a.number.map (fun n => (n.toNat : Int)) = number := by
  obtain ⟨r, byte, fits⟩ := a
  unfold make?
  constructor
  · intro made
    split at made
    · split at made
      · split at made
        · rename_i n range
          cases made
          refine ⟨rfl, ?_⟩
          have small : n.toNat % 256 = n.toNat := Nat.mod_eq_of_lt (by omega)
          simp [small, range.1]
        · cases made
      · cases made
    · split at made
      · cases made
      · cases made
        exact ⟨rfl, rfl⟩
  · rintro ⟨rfl, rfl⟩
    dsimp only at fits ⊢
    cases byte with
    | none =>
      have plain : r.isInstanced = false := fits.symm
      simp [plain]
    | some n =>
      have instanced : r.isInstanced = true := fits.symm
      have range : (0 : Int) ≤ n.toNat ∧ (n.toNat : Int) ≤ 255 := by
        have small := n.toNat_lt
        omega
      simp [instanced, range]

/-- The parts of a text are those of an address. -/
lemma ofParts_eq_ok_iff {parts : Parts} : ofParts parts = .ok a ↔
    parts.label = a.role.label.toList ∧ match parts.digits with
      | none => a.number = none
      | some ds => ds.length ≤ Text.digitLimit ∧
        a.number.map UInt8.toNat = some (Text.ofDigits ds) := by
  obtain ⟨label, digits⟩ := parts
  have named : Role.ofLabel? (String.ofList label) = some a.role ↔ label = a.role.label.toList := by
    constructor
    · intro found
      rw [Role.label_of_ofLabel? found, String.toList_ofList]
    · intro same
      rw [same, String.ofList_toList, Role.ofLabel?_label]
  rw [ofParts, ← named]
  dsimp only
  cases known : Role.ofLabel? (String.ofList label) with
  | none => simp
  | some role =>
    cases digits with
    | none => simp [make?_eq_ok_iff, eq_comm (a := role)]
    | some ds =>
      dsimp only
      rw [Text.limitedNumber?]
      by_cases short : ds.length ≤ Text.digitLimit
      · rw [if_pos short]
        simp only [make?_eq_ok_iff, Option.some.injEq, short, true_and, eq_comm (a := role)]
        cases a.number <;> simp
      · rw [if_neg short]
        simp [short]

/-- Reading accepts exactly the texts that spell an address. -/
lemma ofText_eq_ok_iff {text : String} : ofText text = .ok a ↔
    Spells ((Text.trim text.toList).map Text.lowerCase) a := by
  rw [ofText, spells_iff]
  generalize (Text.trim text.toList).map Text.lowerCase = cs
  constructor
  · intro read
    split at read
    · cases read
    rename_i parts found
    obtain ⟨-, -, is⟩ := split?_eq_some_iff.1 found
    obtain ⟨label, digits⟩ := parts
    obtain ⟨rfl, numbered⟩ := ofParts_eq_ok_iff.1 read
    cases digits with
    | none =>
      dsimp only at is numbered
      rw [numbered]
      exact is
    | some ds =>
      obtain ⟨numeral, rfl, unempty, read⟩ := is
      obtain ⟨short, numbered⟩ := numbered
      obtain ⟨n, number, value⟩ := Option.map_eq_some_iff.1 numbered
      rw [number]
      have length : numeral.length = ds.length := by simpa using congrArg List.length read
      exact ⟨numeral, rfl, unempty, by omega, ds, read, by rw [← Text.ofDigits_eq, ← value]⟩
  · intro spells
    suffices parted : ∃ parts, split? cs = some parts ∧ ofParts parts = .ok a by
      obtain ⟨parts, found, read⟩ := parted
      rw [found]
      exact read
    simp only [split?_eq_some_iff, ofParts_eq_ok_iff]
    cases number : a.number with
    | none =>
      rw [number] at spells
      exact ⟨⟨a.role.label.toList, none⟩,
        ⟨label_ne_nil a.role, isNameCharacter_label a.role, spells⟩, rfl, rfl⟩
    | some n =>
      rw [number] at spells
      obtain ⟨numeral, rfl, is⟩ := spells
      obtain ⟨ds, read, value⟩ := is.value
      have length : numeral.length = ds.length := by simpa using congrArg List.length read
      have short := is.short
      refine ⟨⟨a.role.label.toList, some ds⟩,
        ⟨label_ne_nil a.role, isNameCharacter_label a.role, numeral, rfl, is.unempty, read⟩, rfl,
        by omega, ?_⟩
      rw [Text.ofDigits_eq, value]
      rfl

/-! ## The text of an address -/

/-- The characters of a written address are neither blank nor changed by the lower-case map. -/
lemma settled_text (a : LogicalAddress) :
    ∀ c ∈ a.text.toList, Text.isBlank c = false ∧ Text.lowerCase c = c := by
  have named (role : Role) :
      ∀ c ∈ role.label.toList, Text.isBlank c = false ∧ Text.lowerCase c = c := by
    have all : (role.label.toList.all fun c => !Text.isBlank c && Text.lowerCase c == c) = true :=
      by cases role <;> decide +kernel
    simpa using all
  have digit : ∀ d < 10, Text.isBlank (Text.asciiDigit d) = false ∧
      Text.lowerCase (Text.asciiDigit d) = Text.asciiDigit d := by
    decide
  rw [text]
  split
  · exact named a.role
  · simp only [String.toList_append, String.toList_ofList]
    intro c among
    rcases List.mem_append.1 among with before | after
    · rcases List.mem_append.1 before with label | colon
      · exact named a.role c label
      · obtain rfl : c = ':' := by simpa using colon
        decide
    · obtain ⟨d, written, rfl⟩ := List.mem_map.1 after
      exact digit d (Text.digits_lt_ten written)

lemma isNumeral_decimal {n : Nat} (small : n < 256) : IsNumeral (Text.decimal n) n where
  unempty := by simpa [Text.decimal] using Text.digits_ne_nil n
  short := by
    have few : ∀ n < 256, (Text.digits n).length ≤ 3 := by decide +kernel
    have here := few n small
    rw [Text.decimal, List.length_map, Text.digitLimit]
    omega
  value := by
    refine ⟨Text.digits n, ?_, by rw [← Text.ofDigits_eq, Text.ofDigits_digits]⟩
    rw [Text.decimal, List.map_map]
    refine List.map_congr_left fun d written => ?_
    exact Text.digitValue?_asciiDigit d (Text.digits_lt_ten written)

/-- The text of an address reads back. -/
lemma ofText_text (a : LogicalAddress) : ofText a.text = .ok a := by
  have settled := a.settled_text
  have trimmed : Text.trim a.text.toList = a.text.toList :=
    Text.trimBoth_eq_self (fun c first => (settled c (List.mem_of_head? first)).1)
      fun c last => (settled c (List.mem_of_getLast? last)).1
  have lowered : a.text.toList.map Text.lowerCase = a.text.toList := by
    conv_rhs => rw [← List.map_id a.text.toList]
    exact List.map_congr_left fun c among => (settled c among).2
  rw [ofText_eq_ok_iff, trimmed, lowered, spells_iff, text]
  cases a.number with
  | none => rfl
  | some n =>
    exact ⟨Text.decimal n.toNat, by simp, isNumeral_decimal n.toNat_lt⟩

end LogicalAddress

/-- The faults for which a text is no address: it has not the form of one, or names no role, or its
number is missing, uncalled for, above 255 or too long. -/
def AddressFault.refusesText : AddressFault → Bool
  | unreadable _ | unknownName _ | needsInstance _ _ | takesNoInstance _ | numeralTooLong => true
  | unknownCode _ | tooShort _ | strayInstance _ _ => false

namespace LogicalAddress

variable {fault : AddressFault}

lemma refusesText_of_make? {role : Role} {number : Option Int}
    (failed : make? role number = .error fault) : fault.refusesText = true := by
  unfold make? at failed
  split at failed
  · split at failed
    · split at failed
      · cases failed
      · cases failed; rfl
    · cases failed; rfl
  · split at failed
    · cases failed; rfl
    · cases failed

lemma refusesText_of_ofText {text : String} (failed : ofText text = .error fault) :
    fault.refusesText = true := by
  rw [ofText] at failed
  split at failed
  · cases failed; rfl
  · rw [ofParts] at failed
    split at failed
    · cases failed; rfl
    · split at failed
      · exact refusesText_of_make? failed
      · split at failed
        · cases failed; rfl
        · exact refusesText_of_make? failed

/-- **A text is read as an address exactly if it spells it.**  Without the blanks at its ends and in
lower case, by whichever lower-case map, it is the name of the role and, exactly if the role is
instanced, a colon and one or more digits, at most as many as numerals may have, of the value of the
number.  Every other text is refused for its form, its name or its number.  So whatever is read has
a written form of its own, which reads back. -/
theorem ofText_accepts_exactly (text : String) {lowered : List Char}
    (lower : Lowered (Text.trim text.toList) lowered) :
    (∀ a, ofText text = .ok a ↔ Spells lowered a) ∧
    ((∀ a, ¬ Spells lowered a) →
      ∃ fault, ofText text = .error fault ∧ fault.refusesText = true) ∧
    ∀ a, ofText text = .ok a → ofText a.text = .ok a := by
  have reads (a : LogicalAddress) : ofText text = .ok a ↔ Spells lowered a := by
    rw [ofText_eq_ok_iff, lower.spells_iff]
  refine ⟨reads, fun nothing => ?_, fun a _ => ofText_text a⟩
  cases read : ofText text with
  | error fault => exact ⟨fault, rfl, refusesText_of_ofText read⟩
  | ok a => exact absurd ((reads a).1 read) (nothing a)

/-- Blanks around it, capital letters, Arabic digits and zeros in front: the text is read, its lower
case spells what was read, and written out it reads again. -/
theorem ofText_accepts_exactly_capitals :
    Lowered (Text.trim "\u2003Engine_CONTROLLER:\u0660\u0661\u0662\n".toList)
        "engine_controller:\u0660\u0661\u0662".toList ∧
      ofText "\u2003Engine_CONTROLLER:\u0660\u0661\u0662\n" = .ok (.engineController 12) ∧
      Spells "engine_controller:\u0660\u0661\u0662".toList (.engineController 12) ∧
      ofText "engine_controller:12" = .ok (.engineController 12) := by
  have lower : Lowered (Text.trim "\u2003Engine_CONTROLLER:\u0660\u0661\u0662\n".toList)
      "engine_controller:\u0660\u0661\u0662".toList := by
    have lowered : (Text.trim "\u2003Engine_CONTROLLER:\u0660\u0661\u0662\n".toList).map
        Text.lowerCase = "engine_controller:\u0660\u0661\u0662".toList := by
      decide +kernel
    exact lowered ▸ lowered_map _
  obtain ⟨reads, -, again⟩ := ofText_accepts_exactly _ lower
  have read : ofText "\u2003Engine_CONTROLLER:\u0660\u0661\u0662\n" = .ok (.engineController 12) :=
    by decide +kernel
  have written : (LogicalAddress.engineController 12).text = "engine_controller:12" := by
    decide +kernel
  exact ⟨lower, read, (reads _).1 read, written ▸ again _ read⟩

end LogicalAddress

end RollCall
