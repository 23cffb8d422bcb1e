import Mathlib.Data.List.Infix
import Workbench.Proofs.Numerals

/-! Putting values into the places of names.

Names are replaced as texts, one after the other. An occurrence cannot run over a blank, a
connective or a parenthesis, so each name of a tree is replaced on its own. If no name is part of
another, each is left with the text of its value, where only the letter of an exponent could still
be taken for a name.
-/

set_option autoImplicit false

namespace Workbench

namespace Text

variable {old new : List Char}

theorem prefix_of_not_mem {front back : List Char} {c : Char} (outside : c ∉ old)
    (fits : old <+: front ++ c :: back) : old <+: front := by
  rcases List.prefix_or_prefix_of_prefix fits (List.prefix_append front (c :: back)) with
    inside | ⟨more, rfl⟩
  · exact inside
  · rw [List.prefix_append_right_inj] at fits
    cases more with
    | nil => simp
    | cons d more =>
      obtain ⟨rfl, -⟩ := List.cons_prefix_cons.1 fits
      simp at outside

/-- No occurrence runs over a character that the replaced text does not have. -/
theorem replaceFrom_append {c : Char} (some_char : old ≠ []) (outside : c ∉ old)
    (back : List Char) :
    ∀ (front : List Char) (drop : Nat), drop ≤ front.length →
      replaceFrom old new drop (front ++ c :: back) =
        replaceFrom old new drop front ++ c :: replaceFrom old new 0 back := by
  intro front
  induction front with
  | nil =>
    intro drop short
    obtain rfl : drop = 0 := by simpa using short
    have misfit : ¬ old.isPrefixOf (c :: back) = true := by
      intro fits
      have whole : old <+: [] ++ c :: back := List.isPrefixOf_iff_prefix.1 fits
      exact some_char (List.prefix_nil.1 (prefix_of_not_mem outside whole))
    simp [replaceFrom, misfit]
  | cons d front ih =>
    intro drop short
    cases drop with
    -- Inside an occurrence, which ends before the character as it was found before it.
    | succ drop => exact ih drop (by simpa using short)
    | zero =>
      simp only [List.cons_append, replaceFrom]
      by_cases fits : old.isPrefixOf (d :: front) = true
      · have longer : old.isPrefixOf (d :: (front ++ c :: back)) = true := by
          rw [List.isPrefixOf_iff_prefix] at fits ⊢
          exact fits.trans (List.prefix_append (d :: front) (c :: back))
        have length := (List.isPrefixOf_iff_prefix.1 fits).length_le
        rw [if_pos fits, if_pos longer, ih _ (by simp at length; omega), List.append_assoc]
      · have longer : ¬ old.isPrefixOf (d :: (front ++ c :: back)) = true := by
          rw [List.isPrefixOf_iff_prefix] at fits ⊢
          exact fun whole => fits (prefix_of_not_mem outside whole)
        rw [if_neg fits, if_neg longer, ih 0 (by omega), List.cons_append]

theorem replaceFrom_of_not_infix (text : List Char) (absent : ¬ old <:+: text) :
    replaceFrom old new 0 text = text := by
  induction text with
  | nil => rfl
  | cons c rest ih =>
    have misfit : ¬ old.isPrefixOf (c :: rest) = true := by
      rw [List.isPrefixOf_iff_prefix]
      exact fun fits => absent fits.isInfix
    rw [replaceFrom, if_neg misfit,
      ih fun later => absent (later.trans (List.suffix_cons c rest).isInfix)]

theorem replaceFrom_length_append (front back : List Char) :
    replaceFrom old new front.length (front ++ back) = replaceFrom old new 0 back := by
  induction front with
  | nil => rfl
  | cons c front ih => exact ih

theorem replace_self_append (some_char : old ≠ []) (back : List Char) :
    replace old new (old ++ back) = new ++ replace old new back := by
  obtain ⟨c, rest, rfl⟩ := List.exists_cons_of_ne_nil some_char
  have fits : (c :: rest).isPrefixOf (c :: (rest ++ back)) = true :=
    List.isPrefixOf_iff_prefix.2 (List.prefix_append (c :: rest) back)
  have found : replaceFrom (c :: rest) new 0 (c :: rest ++ back) =
      new ++ replaceFrom (c :: rest) new rest.length (rest ++ back) := if_pos fits
  rwa [replaceFrom_length_append] at found

theorem replace_self (some_char : old ≠ []) : replace old new old = new := by
  have alone : replace old new (old ++ []) = new ++ replace old new [] :=
    replace_self_append some_char []
  rwa [List.append_nil, show replace old new [] = [] by simp [replace, replaceFrom, some_char],
    List.append_nil] at alone

theorem replace_of_not_infix {text : List Char} (some_char : old ≠ []) (absent : ¬ old <:+: text) :
    replace old new text = text := by
  rw [replace, if_neg (by simpa using some_char), replaceFrom_of_not_infix text absent]

theorem replace_append {front back : List Char} {c : Char} (some_char : old ≠ [])
    (outside : c ∉ old) :
    replace old new (front ++ c :: back) = replace old new front ++ c :: replace old new back := by
  simp only [replace, if_neg (show ¬ old.isEmpty = true by simpa using some_char)]
  exact replaceFrom_append some_char outside back front 0 (by omega)

end Text

namespace Arithmetic

/-! ## Names and separators -/

theorem isName_iff {chars : List Char} :
    isName chars = true ↔ ∃ c rest, chars = c :: rest ∧ Formula.startsWord c = true ∧
      ∀ d ∈ rest, Text.isWord d = true := by
  cases chars with
  | nil => simp [isName]
  | cons c rest => simp [isName]

theorem isWord_of_startsWord {c : Char} (starts : Formula.startsWord c = true) :
    Text.isWord c = true := by
  simp only [Formula.startsWord, Text.isWord, Bool.or_eq_true] at starts ⊢
  rcases starts with letter | line
  · exact Or.inl (Or.inl (Or.inr letter))
  · exact Or.inl (Or.inl (Or.inl line))

theorem not_startsWord_of_isDigit {c : Char} (digit : c.isDigit = true) :
    ¬ Formula.startsWord c = true := by
  have range : 48 ≤ c.toNat ∧ c.toNat ≤ 57 := by
    simpa [Char.isDigit, UInt32.le_iff_toNat_le] using digit
  have cases : ∀ n ≤ 9, ¬ Formula.startsWord (Char.ofNat (48 + n)) = true := by decide
  have other := cases (c.toNat - 48) (by omega)
  rwa [show 48 + (c.toNat - 48) = c.toNat by omega, Char.ofNat_toNat] at other

section
variable {old : List Char} (named : isName old = true)
include named

theorem name_ne_nil : old ≠ [] := by
  obtain ⟨c, rest, rfl, -⟩ := isName_iff.1 named
  exact List.cons_ne_nil c rest

theorem isWord_of_mem_name {c : Char} (member : c ∈ old) : Text.isWord c = true := by
  obtain ⟨d, rest, rfl, starts, continues⟩ := isName_iff.1 named
  rcases List.mem_cons.1 member with rfl | later
  · exact isWord_of_startsWord starts
  · exact continues c later

theorem separator_not_mem {c : Char} (separator : c ∈ separators) : c ∉ old := by
  intro member
  have word := isWord_of_mem_name named member
  revert separator
  simp only [separators, List.mem_cons, List.not_mem_nil, or_false]
  rintro (rfl | rfl | rfl | rfl | rfl | rfl | rfl | rfl) <;> exact absurd word (by decide)

theorem not_infix_of_not_starts {text : List Char}
    (plain : ∀ c ∈ text, ¬ Formula.startsWord c = true) :
    ¬ old <:+: text := by
  obtain ⟨c, rest, rfl, starts, -⟩ := isName_iff.1 named
  intro inside
  exact plain c (inside.subset (List.mem_cons_self ..)) starts

theorem eq_of_infix_concat {text : List Char} {c : Char}
    (plain : ∀ d ∈ text, ¬ Formula.startsWord d = true)
    (inside : old <:+: text ++ [c]) : old = [c] := by
  obtain ⟨d, rest, rfl, starts, -⟩ := isName_iff.1 named
  obtain ⟨before, after, same⟩ := inside
  -- The name starts at the last character, or before it where nothing can start one.
  rcases List.eq_nil_or_concat (rest ++ after) with empty | ⟨more, last, concat⟩
  · obtain ⟨rfl, rfl⟩ := List.append_eq_nil_iff.1 empty
    rw [List.append_nil] at same
    rw [(List.append_inj' same rfl).2]
  · rw [List.append_assoc, List.cons_append, concat, List.concat_eq_append, ← List.cons_append,
      ← List.append_assoc] at same
    obtain ⟨rfl, -⟩ := List.append_inj' same rfl
    exact absurd starts (plain d (by simp))

theorem replace_plain (new : List Char) {text : List Char}
    (plain : ∀ c ∈ text, ¬ Formula.startsWord c = true) :
    Text.replace old new text = text :=
  Text.replace_of_not_infix (name_ne_nil named) (not_infix_of_not_starts named plain)

end

theorem not_startsWord_of_isDigits {text : List Char} (all : isDigits text = true) :
    ∀ c ∈ text, ¬ Formula.startsWord c = true :=
  fun c member => not_startsWord_of_isDigit ((isDigits_iff.1 all).2 c member)

theorem not_startsWord_of_fraction {digits places : List Char}
    (whole : ∀ c ∈ digits, c.isDigit = true)
    (placed : ∀ c ∈ places, c.isDigit = true) :
    ∀ c ∈ digits ++ '.' :: places, ¬ Formula.startsWord c = true := by
  simp only [List.forall_mem_append, List.forall_mem_cons]
  exact ⟨fun c member => not_startsWord_of_isDigit (whole c member), by decide,
    fun c member => not_startsWord_of_isDigit (placed c member)⟩

theorem Literal.not_startsWord (literal : Literal) :
    ∀ c ∈ literal.chars, ¬ Formula.startsWord c = true := by
  cases literal with
  | integer digits well => exact not_startsWord_of_isDigits (Bool.and_eq_true_iff.1 well).1
  | real digits places well =>
    obtain ⟨well, placed⟩ := Bool.and_eq_true_iff.1 well
    exact not_startsWord_of_fraction (isDigits_iff.1 well).2 (isDigits_iff.1 placed).2

/-- Of names only the letter of an exponent can stand in a numeral. -/
theorem Figures.replace {chars old new : List Char} {numeral : Numeral}
    (figures : Figures chars numeral)
    (named : isName old = true) (other : old ≠ ['e']) : Text.replace old new chars = chars := by
  cases figures with
  | integer well =>
    exact replace_plain named new (not_startsWord_of_isDigits (Bool.and_eq_true_iff.1 well).1)
  | real well placed =>
    exact replace_plain named new
      (not_startsWord_of_fraction (isDigits_iff.1 well).2 (isDigits_iff.1 placed).2)
  | @scientific digits places power minus well placed raised =>
    -- The sign of the exponent cuts the numeral into a part that ends in the letter, and digits.
    have some_char := name_ne_nil named
    have sign : signChar minus ∉ old := separator_not_mem named (by cases minus <;> decide)
    have plain : ∀ c ∈ digits ++ fractionChars places, ¬ Formula.startsWord c = true := by
      unfold fractionChars
      split
      · simpa using not_startsWord_of_isDigits well
      · exact not_startsWord_of_fraction (isDigits_iff.1 well).2 placed
    have front : ¬ old <:+: (digits ++ fractionChars places) ++ ['e'] :=
      fun inside => other (eq_of_infix_concat named plain inside)
    rw [show digits ++ (fractionChars places ++ 'e' :: signChar minus :: power) =
        ((digits ++ fractionChars places) ++ ['e']) ++ signChar minus :: power by simp,
      Text.replace_append some_char sign, Text.replace_of_not_infix some_char front,
      replace_plain named new (not_startsWord_of_isDigits raised)]

/-! ## Trees -/

theorem Gap.separators (gap : Gap) : ∀ c ∈ gap.chars, c ∈ separators := by
  intro c member
  have blank := List.all_eq_true.1 gap.blank c member
  rw [Bool.or_eq_true, beq_iff_eq, beq_iff_eq] at blank
  rcases blank with rfl | rfl <;> decide

theorem Connective.separator (connective : Connective) : connective.char ∈ separators := by
  cases connective <;> decide

theorem Gap.parted (gap : Gap) {tail : List Char} (parted : Parted tail) :
    Parted (gap.chars ++ tail) := by
  have all := gap.separators
  cases chars : gap.chars with
  | nil => exact parted
  | cons c rest =>
    rintro d ⟨⟩
    exact all c (by rw [chars]; exact List.mem_cons_self ..)

theorem Chain.parted (chain : Chain) (fill : List Char → List Char) {tail : List Char}
    (parted : Parted tail) :
    Parted (chain.text fill ++ tail) := by
  cases chain with
  | done => exact parted
  | more connective after operand rest =>
    rintro c ⟨⟩
    exact connective.separator

section
variable {old : List Char} (new : List Char) (named : isName old = true)
include named

theorem replace_nil : Text.replace old new [] = [] :=
  Text.replace_of_not_infix (name_ne_nil named) (by simpa using name_ne_nil named)

theorem replace_separator {c : Char} (separator : c ∈ separators) (rest : List Char) :
    Text.replace old new (c :: rest) = c :: Text.replace old new rest := by
  have cut : Text.replace old new ([] ++ c :: rest) = _ :=
    Text.replace_append (name_ne_nil named) (separator_not_mem named separator)
  rw [List.nil_append] at cut
  rw [cut, replace_nil new named, List.nil_append]

theorem replace_parted {front rest : List Char} (parted : Parted rest) :
    Text.replace old new (front ++ rest) = Text.replace old new front ++
      Text.replace old new rest := by
  cases rest with
  | nil => rw [replace_nil new named, List.append_nil, List.append_nil]
  | cons c rest =>
    have separator := parted c rfl
    rw [Text.replace_append (name_ne_nil named) (separator_not_mem named separator),
      replace_separator new named separator]

theorem Gap.replace (gap : Gap) (rest : List Char) :
    Text.replace old new (gap.chars ++ rest) = gap.chars ++ Text.replace old new rest := by
  have all := gap.separators
  generalize gap.chars = chars at all ⊢
  induction chars with
  | nil => rfl
  | cons c chars ih =>
    obtain ⟨separator, all⟩ := List.forall_mem_cons.1 all
    rw [List.cons_append, replace_separator new named separator, ih all, List.cons_append]

variable (fill : List Char → List Char)

set_option linter.unusedSectionVars false in
mutual

theorem Operand.replace (operand : Operand) {tail : List Char} (parted : Parted tail) :
    Text.replace old new (operand.text fill ++ tail) =
      operand.text (fun chars => Text.replace old new (fill chars)) ++
        Text.replace old new tail := by
  cases operand with
  | number literal after =>
    simp only [Operand.text, List.append_assoc]
    rw [replace_parted new named (after.parted parted),
      replace_plain named new literal.not_startsWord, after.replace new named]
  | name name after =>
    simp only [Operand.text, List.append_assoc]
    rw [replace_parted new named (after.parted parted), after.replace new named]
  | group before inside after =>
    have closing : Parted (')' :: (after.chars ++ tail)) := by
      rintro c ⟨⟩
      decide
    simp only [Operand.text, List.cons_append, List.append_assoc]
    rw [replace_separator new named (by decide), before.replace new named, inside.replace closing,
      replace_separator new named (by decide), after.replace new named]
  | signed minus after operand =>
    simp only [Operand.text, List.cons_append, List.append_assoc]
    rw [replace_separator new named (by cases minus <;> decide), after.replace new named,
      operand.replace parted]

theorem Expression.replace (expression : Expression) {tail : List Char} (parted : Parted tail) :
    Text.replace old new (expression.text fill ++ tail) =
      expression.text (fun chars => Text.replace old new (fill chars)) ++
        Text.replace old new tail := by
  obtain ⟨first, rest⟩ := expression
  simp only [Expression.text, List.append_assoc]
  rw [first.replace (rest.parted fill parted), rest.replace parted]

theorem Chain.replace (chain : Chain) {tail : List Char} (parted : Parted tail) :
    Text.replace old new (chain.text fill ++ tail) =
      chain.text (fun chars => Text.replace old new (fill chars)) ++ Text.replace old new tail := by
  cases chain with
  | done => rfl
  | more connective after operand rest =>
    simp only [Chain.text, List.cons_append, List.append_assoc]
    rw [replace_separator new named connective.separator, after.replace new named,
      operand.replace (rest.parted fill parted), rest.replace parted]

end

theorem Expression.replace_text (expression : Expression) :
    Text.replace old new (expression.text fill) =
      expression.text fun chars => Text.replace old new (fill chars) := by
  have alone : Text.replace old new (expression.text fill ++ []) = _ :=
    expression.replace new named fill (by simp [Parted])
  rwa [replace_nil new named, List.append_nil, List.append_nil] at alone

omit fill in
theorem Spelled.Written.replace (other : old ≠ ['e']) {spelled : Spelled} {chars : List Char}
    (written : spelled.Written chars) : Text.replace old new chars = chars := by
  obtain ⟨figures, read, rfl⟩ := written
  split
  · rw [replace_separator new named (by decide), read.replace named other]
  · exact read.replace named other

end

/-! ## Stores -/

def shown (value : Number) : List Char := (value.text?.getD "").toList

/-- What is left of a text when all names have been replaced. -/
def filled (entries : List (String × Number)) (text : List Char) : List Char :=
  entries.foldl (fun text entry => Text.replace entry.1.toList (shown entry.2) text) text

def Named (entries : List (String × Number)) : Prop :=
  ∀ entry ∈ entries, isName entry.1.toList = true

/-- Substitution goes through a tree, unless some value has too many digits. -/
theorem Expression.substitute (expression : Expression) (entries : List (String × Number)) :
    ∀ fill : List Char → List Char, Named entries →
      Store.substitute entries (String.ofList (expression.text fill)) =
        if entries.all fun entry => entry.2.text?.isSome then
          .ok (String.ofList (expression.text fun chars => filled entries (fill chars)))
        else .error .tooLong := by
  induction entries with
  | nil => exact fun fill _ => rfl
  | cons entry rest ih =>
    intro fill named
    obtain ⟨name, value⟩ := entry
    obtain ⟨well, named⟩ := List.forall_mem_cons.1 named
    cases text : value.text? with
    | none =>
      simp only [Store.substitute, Store.textOf, List.all_cons, text]
      rfl
    | some spelled =>
      -- One variable's text is filled in wherever its name stands, and nowhere else.
      have step : Store.substitute ((name, value) :: rest) (String.ofList (expression.text fill)) =
          Store.substitute rest (String.ofList
            (expression.text fun chars =>
              Text.replace name.toList (shown value) (fill chars))) := by
        rw [← expression.replace_text (shown value) well fill]
        simp only [Store.substitute, Store.textOf, shown, text, String.toList_ofList]
        rfl
      rw [step, ih _ named]
      simp only [List.all_cons, text]
      rfl

def Untouched (entries : List (String × Number)) (text : List Char) : Prop :=
  ∀ entry ∈ entries, Text.replace entry.1.toList (shown entry.2) text = text

theorem filled_untouched {entries : List (String × Number)} {text : List Char}
    (untouched : Untouched entries text) :
    filled entries text = text := by
  induction entries with
  | nil => rfl
  | cons entry rest ih =>
    obtain ⟨first, untouched⟩ := List.forall_mem_cons.1 untouched
    rw [filled, List.foldl_cons, first]
    exact ih untouched

/-- In the end a name has been replaced by the text of its value, and by nothing else. -/
theorem filled_name {entries : List (String × Number)} (named : Named entries) {name : String}
    {value : Number} (untouched : Untouched entries (shown value))
    (apart : ∀ entry ∈ entries, entry.1.toList <:+: name.toList → entry.1 = name)
    (known : entries.lookup name = some value) : filled entries name.toList = shown value := by
  induction entries with
  | nil => cases known
  | cons entry rest ih =>
    obtain ⟨key, found⟩ := entry
    obtain ⟨well, rest_named⟩ := List.forall_mem_cons.1 named
    obtain ⟨-, rest_untouched⟩ := List.forall_mem_cons.1 untouched
    obtain ⟨apart_key, apart⟩ := List.forall_mem_cons.1 apart
    rw [filled, List.foldl_cons]
    by_cases same : name = key
    -- From here on it is the text of the value that the other names are looked for in.
    · subst same
      obtain rfl : found = value := by simpa using known
      rw [Text.replace_self (name_ne_nil well)]
      exact filled_untouched rest_untouched
    · rw [Text.replace_of_not_infix (name_ne_nil well) fun inside => same (apart_key inside).symm]
      rw [List.lookup_cons, beq_eq_false_iff_ne.2 same] at known
      exact ih rest_named rest_untouched apart known

theorem written_shown {value : Number} (held : Held value) (short : value.text?.isSome) :
    ∃ spelled : Spelled, spelled.Written (shown value) := by
  obtain ⟨text, has_text⟩ := Option.isSome_iff_exists.1 short
  rw [shown, has_text]
  exact written_number held has_text

/-- The text of a value has no name in it but the letter of an exponent. -/
theorem untouched_shown {entries : List (String × Number)} (named : Named entries)
    (letter : ∀ entry ∈ entries, entry.1 ≠ "e") {value : Number} (held : Held value)
    (short : value.text?.isSome) : Untouched entries (shown value) := by
  intro entry member
  obtain ⟨spelled, written⟩ := written_shown held short
  exact written.replace _ (named entry member) fun same =>
    letter entry member (String.toList_injective same)

theorem untouched_int {entries : List (String × Number)} (named : Named entries) {n : Int}
    (short : (Number.int n).text?.isSome) : Untouched entries (shown (.int n)) := by
  intro entry member
  obtain ⟨text, has_text⟩ := Option.isSome_iff_exists.1 short
  obtain ⟨figures, read, spelled⟩ := written_int has_text
  have plain := not_startsWord_of_isDigits (Bool.and_eq_true_iff.1 read.isInteger).1
  rw [show shown (.int n) = text.toList by rw [shown, has_text, Option.getD_some], spelled]
  refine replace_plain (named entry member) _ ?_
  split
  · exact List.forall_mem_cons.2 ⟨by decide, plain⟩
  · exact plain

end Arithmetic

end Workbench
