import Mathlib.Data.List.Basic
import Workbench.Proofs.Arithmetic
import Workbench.Script.Interpreter

/-! Numerals and the texts of numbers.

The text of a number that a variable can hold is a numeral, with a minus before it if it is
negative, and is read back as one wherever a blank, a connective or a parenthesis follows it.
-/

set_option autoImplicit false

namespace Workbench

namespace Arithmetic

def separators : List Char := [' ', '\t', '+', '-', '*', '/', '(', ')']

def Parted (tail : List Char) : Prop := ∀ c ∈ tail.head?, c ∈ separators

/-- Characters after which a run of digits is over. -/
def Stops (tail : List Char) : Prop := ∀ c ∈ tail.head?, c.isDigit = false ∧ c ≠ '_'

def baseLetters : List Char := ['x', 'X', 'o', 'O', 'b', 'B']

theorem Parted.ne {tail : List Char} (parted : Parted tail) (c : Char) (other : c ∉ separators) :
    tail.head? ≠ some c := fun first => other (parted c first)

theorem Parted.stops {tail : List Char} (parted : Parted tail) : Stops tail := by
  intro c first
  have separator := parted c first
  revert separator
  simp only [separators, List.mem_cons, List.not_mem_nil, or_false]
  rintro (rfl | rfl | rfl | rfl | rfl | rfl | rfl | rfl) <;> decide

theorem isDigits_iff {text : List Char} :
    isDigits text = true ↔ text ≠ [] ∧ ∀ c ∈ text, c.isDigit = true := by
  simp [isDigits]

section
open Formula

theorem digitRun_digit {c : Char} (digit : c.isDigit = true) (text : List Char) :
    digitRun Char.isDigit (c :: text) =
      (digitRun Char.isDigit text).map fun (run, after) => (c :: run, after) := by
  cases text with
  | nil => simp [digitRun, digit]
  | cons d rest => rw [digitRun, if_pos digit]

theorem digitRun_stop {tail : List Char} (stops : Stops tail) :
    digitRun Char.isDigit tail = some ([], tail) := by
  match tail with
  | [] => rfl
  | [c] =>
    obtain ⟨other, line⟩ := stops c rfl
    simp [digitRun, other, line]
  | c :: d :: rest =>
    obtain ⟨other, line⟩ := stops c rfl
    simp [digitRun, other, line]

theorem digitRun_digits {digits tail : List Char} (all : ∀ c ∈ digits, c.isDigit = true)
    (stops : Stops tail) :
    digitRun Char.isDigit (digits ++ tail) = some (digits, tail) := by
  induction digits with
  | nil => exact digitRun_stop stops
  | cons c rest ih =>
    rw [List.cons_append, digitRun_digit (all c (List.mem_cons_self ..)),
      ih fun d later => all d (List.mem_cons_of_mem _ later)]
    rfl

theorem numeral_digits {digits tail : List Char} (all : isDigits digits = true) (stops : Stops tail)
    (decimal : ∀ c ∈ tail.head?, c ∉ baseLetters) :
    numeral (digits ++ tail) = decimalNumeral digits tail := by
  obtain ⟨some_digit, all⟩ := isDigits_iff.1 all
  have second : ∀ first c rest, digits ++ tail = first :: c :: rest → c ∉ baseLetters := by
    intro first c rest same letter
    cases digits with
    | nil => exact some_digit rfl
    | cons d more =>
      obtain ⟨-, same⟩ := List.cons.inj same
      cases more with
      | nil =>
        change tail = c :: rest at same
        exact decimal c (by rw [same]; rfl) letter
      | cons e more =>
        obtain ⟨rfl, -⟩ := List.cons.inj same
        have digit := all e (by simp)
        revert letter
        simp only [baseLetters, List.mem_cons, List.not_mem_nil, or_false]
        rintro (rfl | rfl | rfl | rfl | rfl | rfl) <;> exact absurd digit (by decide)
  unfold numeral
  split
  case h_7 =>
    rw [digitRun_digits all stops]
    rfl
  all_goals
    refine (second _ _ _ (by assumption) ?_).elim
    decide

theorem mark_digits {digits tail : List Char} (all : isDigits digits = true) (stops : Stops tail)
    (decimal : ∀ c ∈ tail.head?, c ∉ baseLetters) :
    mark (digits ++ tail) = decimalNumeral digits tail := by
  rw [← numeral_digits all stops decimal]
  obtain ⟨some_digit, all⟩ := isDigits_iff.1 all
  cases digits with
  | nil => exact absurd rfl some_digit
  | cons d more => rw [List.cons_append, mark, if_pos (by simp [all d (List.mem_cons_self ..)])]

theorem fractionPart_parted {tail : List Char} (other : tail.head? ≠ some '.') :
    fractionPart tail = some (none, tail) := by
  unfold fractionPart
  split
  · simp at other
  · simp at other
  · rfl

theorem fractionPart_places {places tail : List Char} (all : isDigits places = true)
    (stops : Stops tail) :
    fractionPart ('.' :: (places ++ tail)) = some (some places, tail) := by
  obtain ⟨some_place, all⟩ := isDigits_iff.1 all
  cases places with
  | nil => exact absurd rfl some_place
  | cons d more =>
    have run := digitRun_digits all stops
    rw [List.cons_append] at run ⊢
    rw [fractionPart, if_pos (all d (List.mem_cons_self ..)), run]
    rfl

theorem exponentPart_parted {tail : List Char} (small : tail.head? ≠ some 'e')
    (capital : tail.head? ≠ some 'E') :
    exponentPart tail = some (none, tail) := by
  cases tail with
  | nil => rfl
  | cons c rest =>
    have other : ¬ (c == 'e' || c == 'E') = true := by
      simpa using ⟨fun h => small (by simp [h]), fun h => capital (by simp [h])⟩
    rw [exponentPart.eq_def]
    simp only [if_neg other]

def exponentValue (minus : Bool) (power : List Char) : Int :=
  if minus then -(valueIn 10 power : Int) else valueIn 10 power

theorem exponentPart_power (minus : Bool) {power tail : List Char} (all : isDigits power = true)
    (stops : Stops tail) :
    exponentPart ('e' :: signChar minus :: (power ++ tail)) =
      some (some (exponentValue minus power), tail) := by
  obtain ⟨some_digit, all⟩ := isDigits_iff.1 all
  cases power with
  | nil => exact absurd rfl some_digit
  | cons d more =>
    have digit := all d (List.mem_cons_self ..)
    have run := digitRun_digits all stops
    rw [List.cons_append] at run ⊢
    cases minus with
    | false =>
      rw [show signChar false = '+' from rfl, exponentPart, if_pos (by decide)]
      simp only [if_pos digit, run]
      rfl
    | true =>
      rw [show signChar true = '-' from rfl, exponentPart, if_pos (by decide)]
      simp only [if_pos digit, run]
      rfl

theorem valueIn_zeros {digits : List Char} (zeros : digits.all (· == '0') = true) :
    valueIn 10 digits = 0 := by
  unfold valueIn
  induction digits with
  | nil => rfl
  | cons c rest ih =>
    simp only [List.all_cons, Bool.and_eq_true, beq_iff_eq] at zeros
    obtain ⟨rfl, zeros⟩ := zeros
    exact ih zeros

theorem wholeNumeral_integer {digits : List Char} (well : isInteger digits = true) :
    wholeNumeral digits = some (.int (valueIn 10 digits)) := by
  simp only [isInteger, Bool.and_eq_true, Bool.or_eq_true, bne_iff_ne, decide_eq_true_eq] at well
  obtain ⟨-, zeros | ⟨leading, short⟩⟩ := well
  · rw [wholeNumeral, if_pos zeros, valueIn_zeros zeros]
  · unfold wholeNumeral
    split
    · rename_i zeros
      rw [valueIn_zeros zeros]
    · rw [if_neg (by simpa using leading), if_neg (by omega)]

end

def fractionChars (places : List Char) : List Char := if places.isEmpty then [] else '.' :: places

/-- The spellings of numerals: an integer, a fraction, or a number with an exponent. -/
inductive Figures : List Char → Numeral → Prop where
  | integer {digits : List Char} (well : isInteger digits = true) :
      Figures digits (.int (Formula.valueIn 10 digits))
  | real {digits places : List Char} (well : isDigits digits = true) (placed : isDigits places = true) :
      Figures (digits ++ '.' :: places) (.float (Formula.doubleOf digits places 0))
  | scientific {digits places power : List Char} (minus : Bool) (well : isDigits digits = true)
      (placed : ∀ c ∈ places, c.isDigit = true) (raised : isDigits power = true) :
      Figures (digits ++ (fractionChars places ++ 'e' :: signChar minus :: power))
        (.float (Formula.doubleOf digits places (exponentValue minus power)))

theorem Figures.isInteger {chars : List Char} {n : Nat} (figures : Figures chars (.int n)) :
    isInteger chars = true := by
  generalize whole : Numeral.int n = numeral at figures
  cases figures with
  | integer well => exact well
  | real | scientific => cases whole

theorem Literal.figures (literal : Literal) : Figures literal.chars literal.numeral := by
  cases literal with
  | integer digits well => exact .integer well
  | real digits places well =>
    obtain ⟨well, placed⟩ := Bool.and_eq_true_iff.1 well
    exact .real well placed

theorem not_baseLetter_of_parted {tail : List Char} (parted : Parted tail) :
    ∀ c ∈ tail.head?, c ∉ baseLetters := by
  intro c first letter
  have separator := parted c first
  revert separator
  revert letter
  simp only [baseLetters, List.mem_cons, List.not_mem_nil, or_false]
  rintro (rfl | rfl | rfl | rfl | rfl | rfl) <;> decide

/-- A numeral is read as such up to what parts it. -/
theorem Figures.mark {chars tail : List Char} {numeral : Numeral} (figures : Figures chars numeral)
    (parted : Parted tail) : Formula.mark (chars ++ tail) = some (numeral.mark, tail) := by
  have stops := parted.stops
  have exponentless := exponentPart_parted (parted.ne 'e' (by decide)) (parted.ne 'E' (by decide))
  have unimaginary : ¬ (tail.head? == some 'j' || tail.head? == some 'J') = true := by
    have small := parted.ne 'j' (by decide)
    have capital := parted.ne 'J' (by decide)
    simp [small, capital]
  cases figures with
  | @integer digits well =>
    rw [mark_digits (Bool.and_eq_true_iff.1 well).1 stops (not_baseLetter_of_parted parted)]
    simp only [Formula.decimalNumeral,
      fractionPart_parted (parted.ne '.' (by decide)), exponentless,
      Option.bind_eq_bind, Option.bind_some, if_neg unimaginary, wholeNumeral_integer well]
    rfl
  | @real digits places well placed =>
    rw [List.append_assoc, List.cons_append,
      mark_digits well (by rintro c ⟨⟩; decide) (by rintro c ⟨⟩; decide)]
    simp only [Formula.decimalNumeral, fractionPart_places placed stops, exponentless,
      Option.bind_eq_bind, Option.bind_some, if_neg unimaginary]
    rfl
  | @scientific digits places power minus well placed raised =>
    have raise := exponentPart_power minus raised stops
    have letter : Stops ('e' :: signChar minus :: (power ++ tail)) := by
      rintro c ⟨⟩
      decide
    simp only [List.append_assoc, List.cons_append]
    cases places with
    | nil =>
      have pointless : Formula.fractionPart ('e' :: signChar minus :: (power ++ tail)) =
        some (none, _) :=
        fractionPart_parted (by simp)
      rw [fractionChars, if_pos (by rfl), List.nil_append,
        mark_digits well letter (by rintro c ⟨⟩; decide)]
      simp only [Formula.decimalNumeral, pointless, raise, Option.bind_eq_bind, Option.bind_some,
        if_neg unimaginary]
      rfl
    | cons place places =>
      rw [fractionChars, if_neg (by simp), List.cons_append,
        mark_digits well (by rintro c ⟨⟩; decide) (by rintro c ⟨⟩; decide)]
      simp only [Formula.decimalNumeral,
        fractionPart_places (isDigits_iff.2 ⟨by simp, placed⟩) letter, raise,
        Option.bind_eq_bind, Option.bind_some, if_neg unimaginary]
      rfl

/-! ## The texts of numbers -/

theorem toDigits_isDigits (n : Nat) : isDigits (Nat.toDigits 10 n) = true :=
  isDigits_iff.2 ⟨Nat.toDigits_ne_nil,
    fun _ digit => Nat.isDigit_of_mem_toDigits (by decide) (by decide) digit⟩

theorem valueIn_of_digits {digits : List Char} (all : ∀ c ∈ digits, c.isDigit = true) :
    Formula.valueIn 10 digits = Nat.ofDigitChars 10 digits 0 := by
  rw [Formula.valueIn, Nat.ofDigitChars_eq_foldl]
  refine List.foldl_ext _ _ _ fun value c member => ?_
  rw [Formula.hexValue, if_pos (all c member)]

theorem valueIn_toDigits (n : Nat) : Formula.valueIn 10 (Nat.toDigits 10 n) = n := by
  rw [valueIn_of_digits (isDigits_iff.1 (toDigits_isDigits n)).2, Nat.ofDigitChars_ten_toDigits]

theorem head_toDigits {n : Nat} (positive : 0 < n) : (Nat.toDigits 10 n).head? ≠ some '0' := by
  induction n using Nat.strongRecOn with
  | ind n ih =>
    by_cases small : n < 10
    · have single : ∀ d < 10, 0 < d → [Nat.digitChar d].head? ≠ some '0' := by decide
      rw [Nat.toDigits_of_lt_base small]
      exact single n small positive
    · have front := ih (n / 10) (by omega) (by omega)
      rw [Nat.toDigits_of_base_le (by decide) (by omega),
        List.head?_append_of_ne_nil _ Nat.toDigits_ne_nil]
      exact front

theorem length_toDigits {n count : Nat} (some_digit : 0 < count) (short : n < Number.tenTo count) :
    (Nat.toDigits 10 n).length ≤ count :=
  (Nat.length_toDigits_le_iff (by decide) some_digit).2 short

theorem isInteger_toDigits {n : Nat} (short : n < Number.tenTo Formula.digitLimit) :
    isInteger (Nat.toDigits 10 n) = true := by
  rw [isInteger, toDigits_isDigits, Bool.true_and, Bool.or_eq_true]
  rcases Nat.eq_zero_or_pos n with rfl | positive
  · exact Or.inl rfl
  · refine Or.inr ?_
    rw [Bool.and_eq_true, bne_iff_ne, decide_eq_true_eq]
    exact ⟨head_toDigits positive, length_toDigits (by decide) short⟩

/-- A numeral, with a minus before it if it is negative. -/
def Spelled.Written (spelled : Spelled) (chars : List Char) : Prop :=
  ∃ figures, Figures figures spelled.numeral ∧
    chars = if spelled.negative then '-' :: figures else figures

def spelledInt (n : Int) : Spelled := ⟨decide (n < 0), .int n.natAbs⟩

theorem written_int {n : Int} {text : String} (held : (Number.int n).text? = some text) :
    (spelledInt n).Written text.toList := by
  rw [Number.text?] at held
  split at held
  · cases held
  · rename_i short
    cases held
    refine ⟨Nat.toDigits 10 n.natAbs, ?_, ?_⟩
    · have figures := Figures.integer (isInteger_toDigits (Nat.lt_of_not_le short))
      rwa [valueIn_toDigits] at figures
    · rw [Int.toString_eq_repr, Int.repr_eq_if]
      by_cases negative : n < 0
      · rw [if_neg (by omega), spelledInt, if_pos (by simpa using negative), show (-n).toNat =
          n.natAbs by omega, String.toList_append, Nat.toList_repr]
        rfl
      · rw [if_pos (by omega), spelledInt, if_neg (by simpa using negative), show n.toNat =
          n.natAbs by omega, Nat.toList_repr]

theorem toList_exponentText (exponent : Int) :
    ∃ minus power, isDigits power = true ∧
      (Number.exponentText exponent).toList = signChar minus :: power := by
  have digits := toDigits_isDigits exponent.natAbs
  have padded : isDigits ('0' :: Nat.toDigits 10 exponent.natAbs) = true := by
    rw [isDigits_iff] at digits ⊢
    exact ⟨List.cons_ne_nil _ _, List.forall_mem_cons.2 ⟨rfl, digits.2⟩⟩
  simp only [Number.exponentText]
  split <;> split
  · exact ⟨true, _, padded, by simp [signChar]⟩
  · exact ⟨true, _, digits, by simp [signChar]⟩
  · exact ⟨false, _, padded, by simp [signChar]⟩
  · exact ⟨false, _, digits, by simp [signChar]⟩

theorem figures_pointed {whole places : List Char} (some_digit : whole ≠ [])
    (some_place : places ≠ [])
    (all : ∀ c ∈ whole ++ places, c.isDigit = true) :
    ∃ numeral, Figures (whole ++ '.' :: places) numeral :=
  ⟨_, .real (isDigits_iff.2 ⟨some_digit, fun c member => all c (List.mem_append_left _ member)⟩)
    (isDigits_iff.2 ⟨some_place, fun c member => all c (List.mem_append_right _ member)⟩)⟩

theorem isDigit_of_mem_replicate {count : Nat} {c : Char} (member : c ∈ List.replicate count '0') :
    c.isDigit = true := by
  rw [List.eq_of_mem_replicate member]
  rfl

theorem figures_positional {digits : List Char} {whole : Nat} (positive : 0 < whole)
    (some_digit : digits ≠ []) (all : ∀ c ∈ digits, c.isDigit = true) :
    ∃ numeral, Figures (digits.take whole ++ '.' ::
      (if (digits.drop whole).isEmpty then ['0'] else digits.drop whole)) numeral := by
  have front : digits.take whole ≠ [] := by
    simpa [List.take_eq_nil_iff] using ⟨by omega, some_digit⟩
  split
  · refine figures_pointed front (List.cons_ne_nil '0' []) ?_
    intro c member
    rcases List.mem_append.1 member with taken | zero
    · exact all c (List.mem_of_mem_take taken)
    · exact List.mem_singleton.1 zero ▸ rfl
  · rename_i fraction
    refine figures_pointed front (mt List.isEmpty_iff.2 fraction) ?_
    rw [List.take_append_drop]
    exact all

theorem figures_render (decimal : Number.Decimal) :
    ∃ numeral, Figures decimal.render.toList numeral := by
  obtain ⟨some_digit, all⟩ := isDigits_iff.1 (toDigits_isDigits decimal.digits)
  simp only [Number.Decimal.render]
  generalize Nat.toDigits 10 decimal.digits = digits at some_digit all ⊢
  split
  · -- Far from the point the figures are raised to a power.
    obtain ⟨minus, power, raised, shown⟩ :=
      toList_exponentText (decimal.exponent + digits.length - 1)
    cases digits with
    | nil => exact absurd rfl some_digit
    | cons first rest =>
      obtain ⟨first_digit, rest_digits⟩ := List.forall_mem_cons.1 all
      have figures :=
        Figures.scientific minus (isDigits_iff.2 ⟨List.cons_ne_nil first [], by simpa⟩)
        rest_digits raised
      refine ⟨.float (Formula.doubleOf [first] rest (exponentValue minus power)), ?_⟩
      simp only [String.toList_append, String.toList_ofList, shown]
      simpa [fractionChars] using figures
  · split
    · -- Below one, zeros stand before the digits.
      obtain ⟨numeral, figures⟩ := figures_pointed (List.cons_ne_nil '0' [])
        (List.append_ne_nil_of_right_ne_nil
          (List.replicate (-(decimal.exponent + digits.length - 1) - 1).toNat '0') some_digit) (by
            simp only [List.cons_append, List.nil_append, List.forall_mem_cons, List.mem_append]
            exact ⟨rfl, fun c => Or.rec isDigit_of_mem_replicate (all c)⟩)
      exact ⟨numeral, by simpa using figures⟩
    · -- From one on, the point stands among the digits or behind added zeros.
      have positive : 0 < (decimal.exponent + digits.length - 1 + 1).toNat := by omega
      generalize (decimal.exponent + digits.length - 1 + 1).toNat = whole at positive ⊢
      obtain ⟨numeral, figures⟩ := figures_positional positive
        (List.append_ne_nil_of_left_ne_nil some_digit (List.replicate (whole - digits.length) '0'))
          (by
          intro c member
          exact (List.mem_append.1 member).elim (all c) isDigit_of_mem_replicate)
      refine ⟨numeral, ?_⟩
      simp only [String.toList_append, String.toList_ofList, apply_ite String.toList,
        List.append_assoc]
      exact figures

/-- A double that a variable can hold: one that stands for a number. -/
def isFinite (x : Float) : Bool :=
  match Number.Binary64.ofFloat x with
  | .finite .. => true
  | _ => false

theorem written_float {x : Float} (finite : isFinite x = true) :
    ∃ spelled : Spelled, spelled.Written (Number.renderFloat x).toList := by
  simp only [isFinite] at finite
  split at finite
  · rename_i negative significand exponent is_finite
    have shown : ∃ numeral, Figures
        (if significand == 0 then "0.0"
          else (Number.shortest significand exponent).render).toList numeral := by
      split
      · have zero : Figures (['0'] ++ '.' :: ['0']) _ := .real (by decide) (by decide)
        exact ⟨_, zero⟩
      · exact figures_render _
    obtain ⟨numeral, figures⟩ := shown
    refine ⟨⟨negative, numeral⟩, _, figures, ?_⟩
    simp only [Number.renderFloat, is_finite, String.toList_append]
    cases negative <;> rfl
  · cases finite

/-- What a variable can hold can be spelled, unless it is an integer of too many digits. -/
def Held : Number → Prop
  | .int _ => True
  | .float x => isFinite x = true

theorem written_number {value : Number} (held : Held value) {text : String}
    (shown : value.text? = some text) :
    ∃ spelled : Spelled, spelled.Written text.toList := by
  cases value with
  | int n => exact ⟨_, written_int shown⟩
  | float x =>
    obtain rfl := Option.some.inj shown
    exact written_float held

end Arithmetic

end Workbench
