import Mathlib.Data.List.Induction
import Mathlib.Data.List.TakeWhile
import Mathlib.Data.Nat.Digits.Defs
import RollCall.Text.Numeral

/-!
# Which texts are integers

An integer may be written with blanks around it, a sign before it, zeros in front, digits of any script,
and single underscores between its digits.  The lenient reading accepts these texts and no others.

* `ofDigits_digits` — the digits of a number write that number.
* `IsGrouped`, `IsInteger` — how integers are written.
* `groupedDigits?_eq_some_iff`, `magnitude?_eq_some_iff` — what the steps of reading accept.
* `integer?_eq_some_iff` — **a text is read as an integer exactly if it is written as one.**
* `IsInteger.not_mem` — the characters that stand in no integer.
-/

namespace RollCall.Text

/-- A text that neither begins nor ends with a dropped character is left as it is. -/
lemma trimBoth_eq_self {drop : Char → Bool} {cs : List Char}
    (hfirst : ∀ c, cs.head? = some c → drop c = false)
    (hlast : ∀ c, cs.getLast? = some c → drop c = false) : trimBoth drop cs = cs := by
  have front : ∀ {ds : List Char}, (∀ c, ds.head? = some c → drop c = false) →
      ds.dropWhile drop = ds := by
    intro ds h
    cases ds with
    | nil => rfl
    | cons d ds => simp [h d rfl]
  rw [trimBoth, front hfirst, front, List.reverse_reverse]
  intro c hc
  exact hlast c (by simpa [List.head?_reverse] using hc)

/-! ## Digits -/

lemma ofDigits_append (ds : List Nat) (d : Nat) :
    ofDigits (ds ++ [d]) = 10 * ofDigits ds + d := by
  simp [ofDigits, List.foldl_append]

/-- The digits of a number write that number. -/
lemma ofDigits_digits (n : Nat) : ofDigits (digits n) = n := by
  fun_induction digits n with
  | case1 n h => simp [ofDigits]
  | case2 n h ih => rw [ofDigits_append, ih]; omega

lemma digits_lt_ten {n d : Nat} (h : d ∈ digits n) : d < 10 := by
  fun_induction digits n with
  | case1 n hn => simp only [List.mem_singleton] at h; omega
  | case2 n hn ih =>
    rcases List.mem_append.1 h with h | h
    · exact ih h
    · simp only [List.mem_singleton] at h; omega

lemma digits_ne_nil (n : Nat) : digits n ≠ [] := by
  fun_induction digits n <;> simp

/-- Digits in base ten, the most significant first. -/
lemma ofDigits_eq (ds : List Nat) : ofDigits ds = Nat.ofDigits 10 ds.reverse := by
  induction ds using List.reverseRecOn with
  | nil => rfl
  | append_singleton ds d ih =>
    rw [ofDigits_append, ih, List.reverse_append, List.reverse_singleton, List.singleton_append,
      Nat.ofDigits_cons, Nat.add_comm]

/-! ## How integers are written -/

/-- A row of digits with the given values, at least one, in which one underscore may stand between two
digits. -/
inductive IsGrouped : List Char → List Nat → Prop
  | last {c : Char} {d : Nat} : digitValue? c = some d → IsGrouped [c] [d]
  | next {c : Char} {d : Nat} {cs : List Char} {ds : List Nat} : digitValue? c = some d →
      IsGrouped cs ds → IsGrouped (c :: cs) (d :: ds)
  | apart {c : Char} {d : Nat} {cs : List Char} {ds : List Nat} : digitValue? c = some d →
      IsGrouped cs ds → IsGrouped (c :: '_' :: cs) (d :: ds)

/-- A text that writes an integer: blanks, an optional sign, digits, at most as many as a numeral may
have, and blanks. -/
inductive IsInteger (cs : List Char) (n : Int) : Prop
  | intro {before after body : List Char} {sign : Option Char} {ds : List Nat} {m : Nat} :
      cs = before ++ (sign.toList ++ body) ++ after →
      (∀ c ∈ before, isNumeralBlank c = true) → (∀ c ∈ after, isNumeralBlank c = true) →
      IsGrouped body ds → ds.length ≤ digitLimit → Nat.ofDigits 10 ds.reverse = m →
      (sign = none ∨ sign = some '+') ∧ n = m ∨ sign = some '-' ∧ n = -(m : Int) → IsInteger cs n

variable {cs body : List Char} {ds : List Nat} {n : Int}

/-! ## The characters of integers -/

/-- No digit is a blank. -/
lemma isNumeralBlank_of_digit {c : Char} {d : Nat} (digit : digitValue? c = some d) :
    isNumeralBlank c = false := by
  have apart : ∀ first ∈ digitZeros, ∀ range ∈ blankTable, first + 9 < range.1 ∨ range.2 < first := by
    decide
  simp only [digitValue?, Option.map_eq_some_iff] at digit
  obtain ⟨first, found, -⟩ := digit
  have listed := List.mem_of_find?_eq_some found
  have inside := List.find?_some found
  simp only [Bool.and_eq_true, decide_eq_true_eq] at inside
  have solid : isBlank c = false := by
    rw [Bool.eq_false_iff]
    intro blank
    simp only [isBlank, RangeTable.contains, List.any_eq_true, Bool.and_eq_true,
      decide_eq_true_eq] at blank
    obtain ⟨range, among, within⟩ := blank
    have separate := apart first listed range among
    omega
  rw [isNumeralBlank, solid, Bool.false_and]

lemma IsGrouped.head (grouped : IsGrouped body ds) : ∃ c cs, body = c :: cs ∧
    (digitValue? c).isSome = true := by
  cases grouped with
  | last digit => exact ⟨_, _, rfl, by rw [digit]; rfl⟩
  | next digit => exact ⟨_, _, rfl, by rw [digit]; rfl⟩
  | apart digit => exact ⟨_, _, rfl, by rw [digit]; rfl⟩

lemma IsGrouped.last_digit (grouped : IsGrouped body ds) :
    ∃ cs c, body = cs ++ [c] ∧ (digitValue? c).isSome = true := by
  induction grouped with
  | last digit => exact ⟨[], _, rfl, by rw [digit]; rfl⟩
  | @next c _ _ _ _ _ ih =>
    obtain ⟨cs, e, rfl, digit⟩ := ih
    exact ⟨c :: cs, e, rfl, digit⟩
  | @apart c _ _ _ _ _ ih =>
    obtain ⟨cs, e, rfl, digit⟩ := ih
    exact ⟨c :: '_' :: cs, e, rfl, digit⟩

lemma IsGrouped.mem {c : Char} (grouped : IsGrouped body ds) (among : c ∈ body) :
    c = '_' ∨ (digitValue? c).isSome = true := by
  induction grouped with
  | last digit =>
    obtain rfl := List.mem_singleton.1 among
    exact .inr (by rw [digit]; rfl)
  | next digit _ ih =>
    rcases List.mem_cons.1 among with rfl | later
    · exact .inr (by rw [digit]; rfl)
    · exact ih later
  | apart digit _ ih =>
    rcases List.mem_cons.1 among with rfl | later
    · exact .inr (by rw [digit]; rfl)
    · rcases List.mem_cons.1 later with rfl | later
      · exact .inl rfl
      · exact ih later

/-- What stands in an integer is a blank, a sign, an underscore or a digit. -/
lemma IsInteger.not_mem {c : Char} (integer : IsInteger cs n) (solid : isNumeralBlank c = false)
    (unsigned : c ≠ '+' ∧ c ≠ '-' ∧ c ≠ '_') (other : digitValue? c = none) : c ∉ cs := by
  obtain ⟨rfl, front, back, grouped, -, -, signed⟩ := integer
  have blank {bs : List Char} (blanks : ∀ b ∈ bs, isNumeralBlank b = true) : c ∉ bs := by
    intro among
    rw [blanks c among] at solid
    cases solid
  simp only [List.mem_append, not_or]
  refine ⟨⟨blank front, ?_, ?_⟩, blank back⟩
  · rcases signed with ⟨rfl | rfl, -⟩ | ⟨rfl, -⟩
    · simp
    · simpa using unsigned.1
    · simpa using unsigned.2.1
  · intro among
    rcases grouped.mem among with rfl | digit
    · exact unsigned.2.2 rfl
    · rw [other] at digit
      cases digit

/-! ## The steps of reading -/

/-- Reading finds the values of a row of digits with single underscores between them. -/
lemma groupedDigits?_eq_some_iff : groupedDigits? cs = some ds ↔ IsGrouped cs ds := by
  constructor
  · intro read
    fun_induction groupedDigits? cs generalizing ds with
    | case1 => cases read
    | case2 c =>
      obtain ⟨d, digit, rfl⟩ := Option.map_eq_some_iff.1 read
      exact .last digit
    | case3 c rest ih =>
      simp only [Option.bind_eq_bind, Option.bind_eq_some_iff] at read
      obtain ⟨d, digit, es, later, made⟩ := read
      cases made
      exact .apart digit (ih later)
    | case4 c rest _ _ ih =>
      simp only [Option.bind_eq_bind, Option.bind_eq_some_iff] at read
      obtain ⟨d, digit, es, later, made⟩ := read
      cases made
      exact .next digit (ih later)
  · intro grouped
    induction grouped with
    | last digit => rw [groupedDigits?, digit]; rfl
    | next digit grouped ih =>
      obtain ⟨e, es, rfl, first⟩ := grouped.head
      have plain : e ≠ '_' := by
        rintro rfl
        cases first
      rw [groupedDigits?, digit, ih]
      · rfl
      · rintro ⟨⟩
      · rintro rest same
        exact plain (List.cons.inj same).1
    | apart digit _ ih => rw [groupedDigits?, digit, ih]; rfl

lemma magnitude?_eq_some_iff {m : Nat} : magnitude? cs = some m ↔
    ∃ ds, IsGrouped cs ds ∧ ds.length ≤ digitLimit ∧ Nat.ofDigits 10 ds.reverse = m := by
  simp only [magnitude?, Option.bind_eq_bind, Option.bind_eq_some_iff, groupedDigits?_eq_some_iff,
    limitedNumber?, ← ofDigits_eq, Option.ite_none_right_eq_some, Option.some.injEq]

/-- Blanks at the ends do not matter. -/
lemma trimBoth_append {drop : Char → Bool} {before after : List Char}
    (front : ∀ c ∈ before, drop c = true) (back : ∀ c ∈ after, drop c = true) (core : List Char) :
    trimBoth drop (before ++ core ++ after) = trimBoth drop core := by
  have back' : ∀ c ∈ after.reverse, drop c = true := fun c among => back c (List.mem_reverse.1 among)
  rw [trimBoth, trimBoth, List.append_assoc, List.dropWhile_append_of_pos front, List.dropWhile_append]
  split
  · rename_i all
    rw [List.isEmpty_iff.1 all, List.dropWhile_eq_nil_iff.2 back]
  · rw [List.reverse_append, List.dropWhile_append_of_pos back']

/-- Trimming takes off what is to be dropped, and nothing else. -/
lemma exists_trimBoth (drop : Char → Bool) (cs : List Char) : ∃ before after,
    cs = before ++ trimBoth drop cs ++ after ∧ (∀ c ∈ before, drop c = true) ∧
      ∀ c ∈ after, drop c = true := by
  refine ⟨cs.takeWhile drop, ((cs.dropWhile drop).reverse.takeWhile drop).reverse, ?_, ?_, ?_⟩
  · rw [trimBoth, List.append_assoc, ← List.reverse_append, List.takeWhile_append_dropWhile,
      List.reverse_reverse, List.takeWhile_append_dropWhile]
  · intro c among
    exact List.mem_takeWhile_imp among
  · intro c among
    exact List.mem_takeWhile_imp (List.mem_reverse.1 among)

/-- A row of digits, with or without a sign before it, has no blanks to be taken off. -/
lemma IsGrouped.trimBoth_signed (grouped : IsGrouped body ds) {sign : Option Char}
    (solid : ∀ c ∈ sign, isNumeralBlank c = false) :
    trimBoth isNumeralBlank (sign.toList ++ body) = sign.toList ++ body := by
  obtain ⟨c, rest, first, digit⟩ := grouped.head
  obtain ⟨rest', c', last, digit'⟩ := grouped.last_digit
  obtain ⟨d, value⟩ := Option.isSome_iff_exists.1 digit
  obtain ⟨d', value'⟩ := Option.isSome_iff_exists.1 digit'
  refine trimBoth_eq_self ?_ ?_
  · intro e head
    cases sign with
    | none =>
      rw [first] at head
      cases head
      exact isNumeralBlank_of_digit value
    | some s =>
      cases head
      exact solid _ rfl
  · intro e final
    rw [last, ← List.append_assoc, List.getLast?_concat] at final
    cases final
    exact isNumeralBlank_of_digit value'

/-- **A text is read as an integer exactly if it is written as one.** -/
theorem integer?_eq_some_iff : integer? cs = some n ↔ IsInteger cs n := by
  constructor
  · intro read
    obtain ⟨before, after, whole, front, back⟩ := exists_trimBoth isNumeralBlank cs
    rw [integer?] at read
    split at read
    · rename_i rest trimmed
      obtain ⟨m, found, rfl⟩ := Option.map_eq_some_iff.1 read
      obtain ⟨ds, grouped, short, value⟩ := magnitude?_eq_some_iff.1 found
      rw [trimmed] at whole
      exact ⟨whole, front, back, grouped, short, value, .inl ⟨.inr rfl, rfl⟩⟩
    · rename_i rest trimmed
      obtain ⟨m, found, rfl⟩ := Option.map_eq_some_iff.1 read
      obtain ⟨ds, grouped, short, value⟩ := magnitude?_eq_some_iff.1 found
      rw [trimmed] at whole
      exact ⟨whole, front, back, grouped, short, value, .inr ⟨rfl, rfl⟩⟩
    · obtain ⟨m, found, rfl⟩ := Option.map_eq_some_iff.1 read
      obtain ⟨ds, grouped, short, value⟩ := magnitude?_eq_some_iff.1 found
      exact ⟨whole, front, back, grouped, short, value, .inl ⟨.inl rfl, rfl⟩⟩
  · rintro ⟨rfl, front, back, grouped, short, number, signed⟩
    rename_i body sign ds m
    have read : magnitude? body = some m := magnitude?_eq_some_iff.2 ⟨ds, grouped, short, number⟩
    have solid : ∀ c ∈ sign, isNumeralBlank c = false := by
      rcases signed with ⟨rfl | rfl, -⟩ | ⟨rfl, -⟩ <;> rintro c ⟨⟩ <;> decide
    rw [integer?, trimBoth_append front back, grouped.trimBoth_signed solid]
    rcases signed with ⟨rfl | rfl, rfl⟩ | ⟨rfl, rfl⟩
    · -- Without a sign the first character is a digit, so it is not taken for one.
      obtain ⟨c, rest, rfl, digit⟩ := grouped.head
      dsimp only [Option.toList, List.nil_append]
      split
      · rename_i same
        cases (List.cons.inj same).1
        cases digit
      · rename_i same
        cases (List.cons.inj same).1
        cases digit
      · rw [read]
        rfl
    · show (magnitude? body).map Int.ofNat = _
      rw [read]
      rfl
    · show (magnitude? body).map (fun n => -Int.ofNat n) = _
      rw [read]
      rfl

end RollCall.Text
