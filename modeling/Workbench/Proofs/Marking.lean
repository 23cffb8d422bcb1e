import Workbench.Proofs.Reading
import Workbench.Proofs.Substitution

/-! The marks of a tree as text.

Where a text is put into the place of each name that spells a number, what is read is the marks of
the tree, as long as its parentheses do not nest too deep.
-/

set_option autoImplicit false

namespace Workbench

namespace Formula

def Mark.isNewline : Mark → Bool
  | .newline => true
  | _ => false

/-- Between one depth and another a text is read as marks on one line, each of which takes some
fuel. -/
structure Marked (nesting : Option Nat) (before : Nat) (text : List Char)
    (marks : List Mark) (after : Nat) (tail : List Char) : Prop where
  line : ∀ mark ∈ marks, mark.isNewline = false
  read : ∀ fuel, (text ++ tail).length < fuel → ∃ left, tail.length < left ∧
    left + marks.length ≤ fuel ∧
    marksFrom nesting fuel before false (text ++ tail) =
      marks ++ marksFrom nesting left after false tail

section
variable {nesting : Option Nat} {before between after : Nat} {tail : List Char}

theorem Marked.nothing : Marked nesting before [] [] before tail :=
  ⟨by simp, fun fuel enough => ⟨fuel, enough, by simp, rfl⟩⟩

theorem Marked.append {first second : List Char} {marks more : List Mark}
    (start : Marked nesting before first marks between (second ++ tail))
    (rest : Marked nesting between second more after tail) :
    Marked nesting before (first ++ second) (marks ++ more) after tail := by
  refine ⟨List.forall_mem_append.2 ⟨start.line, rest.line⟩, fun fuel enough => ?_⟩
  obtain ⟨left, enough_left, used, started⟩ := start.read fuel (by simpa using enough)
  obtain ⟨last, enough_last, used_more, read⟩ := rest.read left enough_left
  refine ⟨last, enough_last, by rw [List.length_append]; omega, ?_⟩
  rw [List.append_assoc, started, read, List.append_assoc]

def startsMark (c : Char) : Bool := !isGap c && c != '\n' && c != '#' && c != '\\'

theorem Marked.one {c : Char} {rest : List Char} {found : Mark} (starts : startsMark c = true)
    (line : found.isNewline = false) (read : mark (c :: rest ++ tail) = some (found, tail))
    (deep : depthAfter before found = after)
    (allowed : allows nesting after = true) :
    Marked nesting before (c :: rest) [found] after tail := by
  refine ⟨by simpa using line, fun fuel enough => ?_⟩
  simp only [startsMark, Bool.and_eq_true, Bool.not_eq_true', bne_iff_ne] at starts
  obtain ⟨⟨⟨gap, newline⟩, comment⟩, continuation⟩ := starts
  simp only [List.cons_append, List.length_cons, List.length_append] at enough
  obtain ⟨fuel, rfl⟩ := Nat.exists_eq_add_of_le' (show 1 ≤ fuel by omega)
  refine ⟨fuel, by omega, by simp, ?_⟩
  rw [List.cons_append] at read ⊢
  rw [marksFrom.eq_def]
  dsimp only
  rw [if_neg (by simp [gap]), if_neg (by simpa using newline), if_neg (by simpa using comment),
    if_neg (by simpa using continuation), read]
  simp only [deep, allowed, if_true, List.singleton_append]

theorem Marked.blank {c : Char} {rest : List Char} {marks : List Mark} (gap : isGap c = true)
    (read : Marked nesting before rest marks after tail) :
    Marked nesting before (c :: rest) marks after tail := by
  refine ⟨read.line, fun fuel enough => ?_⟩
  simp only [List.cons_append, List.length_cons] at enough
  obtain ⟨fuel, rfl⟩ := Nat.exists_eq_add_of_le' (show 1 ≤ fuel by omega)
  obtain ⟨left, enough_left, used, marked⟩ := read.read fuel (by omega)
  refine ⟨left, enough_left, by omega, ?_⟩
  rw [List.cons_append, marksFrom.eq_def]
  dsimp only
  rw [if_pos gap, marked]

theorem dropTrailingNewlines_line {marks : List Mark}
    (line : ∀ mark ∈ marks, mark.isNewline = false) :
    dropTrailingNewlines marks = marks := by
  unfold dropTrailingNewlines
  cases reversed : marks.reverse with
  | nil =>
    rw [← List.reverse_reverse marks, reversed]
    rfl
  | cons last rest =>
    have shown := line last (by rw [← List.mem_reverse, reversed]; exact List.mem_cons_self ..)
    rw [List.dropWhile_cons_of_neg, ← reversed, List.reverse_reverse]
    cases last with
    | newline => cases shown
    | _ => simp

theorem marksFrom_fresh {fuel : Nat} {c : Char} {rest : List Char} (starts : startsMark c = true) :
    marksFrom nesting (fuel + 1) 0 true (c :: rest) =
      marksFrom nesting fuel 0 false (c :: rest) := by
  have margin : indentation 0 0 (c :: rest) = some (0, c :: rest) := by
    unfold indentation
    split
    all_goals first | rfl | (rename_i same; obtain ⟨rfl, -⟩ := List.cons.inj same; cases starts)
  rw [marksFrom, margin]
  dsimp only
  split
  · rename_i same
    obtain ⟨rfl, -⟩ := List.cons.inj same
    cases starts
  · rename_i same
    obtain ⟨rfl, -⟩ := List.cons.inj same
    cases starts
  · rfl

theorem unifyNewlines_line {text : List Char} (line : '\r' ∉ text) :
    Text.unifyNewlines text = text := by
  induction text with
  | nil => rfl
  | cons c rest ih =>
    obtain ⟨other, line⟩ := not_or.1 (mt List.mem_cons.2 line)
    rw [Text.unifyNewlines]
    · rw [if_neg (by simpa using Ne.symm other), ih line]
    · intro after same
      exact absurd same (Ne.symm other)

theorem marksOf_marked {c : Char} {rest : List Char} {marks : List Mark}
    (starts : startsMark c = true)
    (line : '\r' ∉ c :: rest) (marked : Marked nesting 0 (c :: rest) marks 0 []) :
    marksOf nesting (c :: rest) = marks := by
  have margin : ¬ (c == ' ' || c == '\t') = true := by
    intro blank
    rw [Bool.or_eq_true, beq_iff_eq, beq_iff_eq] at blank
    rcases blank with rfl | rfl <;> cases starts
  -- One unit of fuel goes to the start of the line; what is left is more than the characters need.
  obtain ⟨left, some_left, used, read⟩ := marked.read (2 * (c :: rest).length + 1)
    (by rw [List.append_nil]; omega)
  obtain ⟨left, rfl⟩ : ∃ less, left = less + 1 :=
    ⟨left - 1, by simp only [List.length_nil] at some_left; omega⟩
  have ended : marksFrom nesting (left + 1) 0 false [] = [] := by rw [marksFrom]
  rw [List.append_nil, ended, List.append_nil] at read
  simp only [marksOf]
  rw [unifyNewlines_line line, List.dropWhile_cons_of_neg (by exact margin),
    marksFrom_fresh starts, read, dropTrailingNewlines_line marked.line]

theorem Marked.length_le {text : List Char} {marks : List Mark}
    (marked : Marked nesting before text marks after []) :
    marks.length ≤ text.length := by
  obtain ⟨left, some_left, used, -⟩ :=
    marked.read (text.length + 1) (by rw [List.append_nil]; omega)
  omega

end

end Formula

namespace Arithmetic

open Formula (Mark Marked allows)

theorem Gap.marked (gap : Gap) {nesting : Option Nat} {depth : Nat} {tail : List Char} :
    Marked nesting depth gap.chars [] depth tail := by
  have blank := gap.blank
  generalize gap.chars = chars at blank ⊢
  induction chars with
  | nil => exact .nothing
  | cons c rest ih =>
    rw [List.all_cons, Bool.and_eq_true, Bool.or_eq_true, beq_iff_eq, beq_iff_eq] at blank
    exact (ih blank.2).blank (by rcases blank.1 with rfl | rfl <;> rfl)

/-- What does not make a longer sign of a connective before it. -/
def Single (tail : List Char) : Prop := ∀ c ∈ tail.head?, c ≠ '*' ∧ c ≠ '/'

theorem mark_connective (connective : Connective) {tail : List Char} (single : Single tail) :
    Formula.mark (connective.char :: tail) = some (.sign connective.spelling, tail) := by
  cases connective with
  | plus => rfl
  | minus => rfl
  | times =>
    cases tail with
    | nil => rfl
    | cons c rest =>
      -- The doubled sign is tried first, and the next character rules it out.
      have found : (Formula.signSpellings.find? fun spelling =>
        spelling.toList.isPrefixOf ('*' :: c :: rest)) =
          some "*" := by
        rw [Formula.signSpellings, List.find?_cons_of_neg (by simp),
          List.find?_cons_of_neg (by simpa using (single c rfl).1.symm)]
        rfl
      rw [Connective.char, Formula.mark, if_neg (by simp), if_neg (by decide),
        if_neg (by decide), found]
      rfl
  | divide =>
    cases tail with
    | nil => rfl
    | cons c rest =>
      have found : (Formula.signSpellings.find? fun spelling =>
        spelling.toList.isPrefixOf ('/' :: c :: rest)) =
          some "/" := by
        rw [Formula.signSpellings, List.find?_cons_of_neg (by simp),
          List.find?_cons_of_neg (by simp),
          List.find?_cons_of_neg (by simpa using (single c rfl).2.symm)]
        rfl
      rw [Connective.char, Formula.mark, if_neg (by simp), if_neg (by decide),
        if_neg (by decide), found]
      rfl

theorem Figures.head {chars : List Char} {numeral : Numeral} (figures : Figures chars numeral) :
    ∃ c rest, chars = c :: rest ∧ c.isDigit = true := by
  have front : ∀ digits rest : List Char, isDigits digits = true →
      ∃ c more, digits ++ rest = c :: more ∧ c.isDigit = true := by
    intro digits rest well
    obtain ⟨some_digit, all⟩ := isDigits_iff.1 well
    obtain ⟨c, more, rfl⟩ := List.exists_cons_of_ne_nil some_digit
    exact ⟨c, more ++ rest, rfl, all c (List.mem_cons_self ..)⟩
  cases figures with
  | integer well => simpa using front _ [] (Bool.and_eq_true_iff.1 well).1
  | real well placed => exact front _ _ well
  | scientific minus well placed raised => exact front _ _ well

theorem startsMark_of_isDigit {c : Char} (digit : c.isDigit = true) :
    Formula.startsMark c = true := by
  simp only [Formula.startsMark, Formula.isGap, Bool.and_eq_true, Bool.not_eq_true', bne_iff_ne,
    Bool.or_eq_false_iff, beq_eq_false_iff_ne]
  refine ⟨⟨⟨⟨⟨?_, ?_⟩, ?_⟩, ?_⟩, ?_⟩, ?_⟩ <;> rintro rfl <;> exact absurd digit (by decide)

theorem Gap.single (gap : Gap) {tail : List Char} (single : Single tail) :
    Single (gap.chars ++ tail) := by
  have all := List.all_eq_true.1 gap.blank
  cases chars : gap.chars with
  | nil => exact single
  | cons c rest =>
    rintro d ⟨⟩
    have blank := all c (by rw [chars]; exact List.mem_cons_self ..)
    rw [Bool.or_eq_true, beq_iff_eq, beq_iff_eq] at blank
    rcases blank with rfl | rfl <;> decide

theorem Figures.single {chars : List Char} {numeral : Numeral} (figures : Figures chars numeral)
    (tail : List Char) : Single (chars ++ tail) := by
  obtain ⟨c, rest, rfl, digit⟩ := figures.head
  rintro d ⟨⟩
  constructor <;> rintro rfl <;> exact absurd digit (by decide)

theorem Spelled.Written.single {spelled : Spelled} {chars : List Char}
    (written : spelled.Written chars) (tail : List Char) : Single (chars ++ tail) := by
  obtain ⟨figures, read, rfl⟩ := written
  split
  · rintro c ⟨⟩
    decide
  · exact read.single tail

section
variable {nesting : Option Nat} {depth : Nat} {tail : List Char}

theorem Figures.marked {chars : List Char} {numeral : Numeral} (figures : Figures chars numeral)
    (allowed : allows nesting depth = true) (parted : Parted tail) :
    Marked nesting depth chars [numeral.mark] depth tail := by
  obtain ⟨c, rest, rfl, digit⟩ := figures.head
  exact .one (startsMark_of_isDigit digit) (by cases numeral <;> rfl) (figures.mark parted)
    (by cases numeral <;> rfl) allowed

theorem Spelled.Written.marked {spelled : Spelled} {chars : List Char}
    (written : spelled.Written chars)
    (allowed : allows nesting depth = true) (parted : Parted tail) :
    Marked nesting depth chars spelled.marks depth tail := by
  obtain ⟨figures, read, rfl⟩ := written
  unfold Spelled.marks
  split
  · have minus : Marked nesting depth ['-'] [.sign "-"] depth (figures ++ tail) :=
      .one (by decide) rfl rfl rfl allowed
    exact minus.append (read.marked allowed parted)
  · exact read.marked allowed parted

variable (fill : List Char → List Char) (spelling : List Char → Spelled)

/-- What stands in the place of each of some names is what is spelled there. -/
def Fills (names : List Name) : Prop :=
  ∀ name ∈ names, (spelling name.chars).Written (fill name.chars)

variable {fill spelling}

theorem Operand.single (operand : Operand) (fills : Fills fill spelling operand.names) :
    Single (operand.text fill ++ tail) := by
  cases operand with
  | number literal after =>
    rw [Operand.text, List.append_assoc]
    exact literal.figures.single _
  | name name after =>
    rw [Operand.text, List.append_assoc]
    exact (fills name (List.mem_singleton_self name)).single _
  | group before inside after =>
    rintro c ⟨⟩
    decide
  | signed minus after operand =>
    rintro c ⟨⟩
    cases minus <;> decide

theorem allows_add {limit : Option Nat} {depth first second : Nat}
    (allowed : allows limit (depth + max first second) = true) :
    allows limit (depth + first) = true ∧ allows limit (depth + second) = true :=
  ⟨Formula.allows_of_le (by omega) allowed, Formula.allows_of_le (by omega) allowed⟩

mutual

theorem Operand.marked (operand : Operand) {depth : Nat} {tail : List Char}
    (allowed : allows nesting (depth + operand.nesting) = true)
    (fills : Fills fill spelling operand.names) (parted : Parted tail) :
    Marked nesting depth (operand.text fill) (operand.marks spelling) depth tail := by
  have here : allows nesting depth = true := Formula.allows_of_le (Nat.le_add_right ..) allowed
  cases operand with
  | number literal after =>
    exact (literal.figures.marked here (after.parted parted)).append after.marked
  | name name after =>
    have written := fills name (List.mem_singleton_self name)
    have read : Marked nesting depth (fill name.chars ++ after.chars)
      ((spelling name.chars).marks ++ []) depth tail :=
      (written.marked here (after.parted parted)).append after.marked
    rwa [List.append_nil] at read
  | group before inside after =>
    have deeper : allows nesting (depth + 1 + inside.nesting) = true := by
      rwa [Operand.nesting, ← Nat.add_assoc, Nat.add_right_comm] at allowed
    have closing : Marked nesting (depth + 1) [')'] [.sign ")"] depth (after.chars ++ tail) :=
      .one (by decide) rfl rfl rfl here
    have content : Marked nesting (depth + 1) (inside.text fill) (inside.marks spelling) (depth + 1)
        (([')'] ++ after.chars) ++ tail) := inside.marked deeper fills (by rintro c ⟨⟩; decide)
    have opening : Marked nesting depth ['('] [.sign "("] (depth + 1)
        ((before.chars ++ (inside.text fill ++ ([')'] ++ after.chars))) ++ tail) :=
      .one (by decide) rfl rfl rfl (Formula.allows_of_le (Nat.le_add_right ..) deeper)
    exact opening.append (before.marked.append (content.append (closing.append after.marked)))
  | signed minus after operand =>
    have sign : Marked nesting depth [signChar minus] [.sign (signSpelling minus)] depth
        ((after.chars ++ operand.text fill) ++ tail) :=
      .one (by cases minus <;> decide) rfl (by cases minus <;> rfl) (by cases minus <;> rfl) here
    exact sign.append (after.marked.append (operand.marked allowed fills parted))

theorem Expression.marked (expression : Expression) {depth : Nat} {tail : List Char}
    (allowed : allows nesting (depth + expression.nesting) = true)
    (fills : Fills fill spelling expression.names) (parted : Parted tail) :
    Marked nesting depth (expression.text fill) (expression.marks spelling) depth tail := by
  obtain ⟨first, rest⟩ := expression
  obtain ⟨allowed_first, allowed_rest⟩ := allows_add allowed
  obtain ⟨fills_first, fills_rest⟩ := List.forall_mem_append.1 fills
  exact (first.marked allowed_first fills_first (rest.parted fill parted)).append
    (rest.marked allowed_rest fills_rest parted)

theorem Chain.marked (chain : Chain) {depth : Nat} {tail : List Char}
    (allowed : allows nesting (depth + chain.nesting) = true)
    (fills : Fills fill spelling chain.names) (parted : Parted tail) :
    Marked nesting depth (chain.text fill) (chain.marks spelling) depth tail := by
  cases chain with
  | done => exact .nothing
  | more connective after operand rest =>
    obtain ⟨allowed_operand, allowed_rest⟩ := allows_add allowed
    obtain ⟨fills_operand, fills_rest⟩ := List.forall_mem_append.1 fills
    have single : Single ((after.chars ++ (operand.text fill ++ rest.text fill)) ++ tail) := by
      rw [List.append_assoc, List.append_assoc]
      exact after.single (operand.single fills_operand)
    have sign : Marked nesting depth [connective.char] [.sign connective.spelling] depth
        ((after.chars ++ (operand.text fill ++ rest.text fill)) ++ tail) :=
      .one (by cases connective <;> decide) rfl (mark_connective connective single)
        (by cases connective <;> rfl)
        (Formula.allows_of_le (Nat.le_add_right ..) allowed)
    exact sign.append (after.marked.append
      ((operand.marked allowed_operand fills_operand (rest.parted fill parted)).append
        (rest.marked allowed_rest fills_rest parted)))

end

/-! ## Whole texts -/

/-- The characters that a tree is written with once its names are replaced. -/
def figureChars : List Char := separators ++ "0123456789.e".toList

theorem mem_figureChars_of_isDigit {c : Char} (digit : c.isDigit = true) : c ∈ figureChars := by
  have range : 48 ≤ c.toNat ∧ c.toNat ≤ 57 := by
    simpa [Char.isDigit, UInt32.le_iff_toNat_le] using digit
  have cases : ∀ n ≤ 9, Char.ofNat (48 + n) ∈ figureChars := by decide
  have member := cases (c.toNat - 48) (by omega)
  rwa [show 48 + (c.toNat - 48) = c.toNat by omega, Char.ofNat_toNat] at member

theorem mem_figureChars_of_isDigits {text : List Char} (all : isDigits text = true) :
    ∀ c ∈ text, c ∈ figureChars :=
  fun c member => mem_figureChars_of_isDigit ((isDigits_iff.1 all).2 c member)

theorem Figures.chars {chars : List Char} {numeral : Numeral} (figures : Figures chars numeral) :
    ∀ c ∈ chars, c ∈ figureChars := by
  cases figures with
  | integer well => exact mem_figureChars_of_isDigits (Bool.and_eq_true_iff.1 well).1
  | real well placed =>
    simp only [List.forall_mem_append, List.forall_mem_cons]
    exact ⟨mem_figureChars_of_isDigits well, by decide, mem_figureChars_of_isDigits placed⟩
  | @scientific digits places power minus well placed raised =>
    have fraction : ∀ c ∈ fractionChars places, c ∈ figureChars := by
      unfold fractionChars
      split
      · simp
      · exact List.forall_mem_cons.2 ⟨by decide,
          fun c member => mem_figureChars_of_isDigit (placed c member)⟩
    simp only [List.forall_mem_append, List.forall_mem_cons]
    exact ⟨mem_figureChars_of_isDigits well, fraction, by decide, by cases minus <;> decide,
      mem_figureChars_of_isDigits raised⟩

theorem Spelled.Written.chars {spelled : Spelled} {chars : List Char}
    (written : spelled.Written chars) :
    ∀ c ∈ chars, c ∈ figureChars := by
  obtain ⟨figures, read, rfl⟩ := written
  split
  · exact List.forall_mem_cons.2 ⟨by decide, read.chars⟩
  · exact read.chars

theorem Gap.figureChars (gap : Gap) : ∀ c ∈ gap.chars, c ∈ figureChars :=
  fun c member => List.mem_append_left _ (gap.separators c member)

section
variable {p : Char → Prop}

mutual

/-- Besides what stands in the places of names, a tree has figures and signs only. -/
theorem Operand.forall_text (operand : Operand) (kept : ∀ c ∈ figureChars, p c)
    (named : ∀ name ∈ operand.names, ∀ c ∈ fill name.chars, p c) :
    ∀ c ∈ operand.text fill, p c := by
  have gap : ∀ gap : Gap, ∀ c ∈ gap.chars, p c :=
    fun gap c member => kept c (gap.figureChars c member)
  cases operand with
  | number literal after =>
    exact List.forall_mem_append.2 ⟨fun c member =>
      kept c (literal.figures.chars c member), gap after⟩
  | name name after =>
    exact List.forall_mem_append.2 ⟨named name (List.mem_singleton_self name), gap after⟩
  | group before inside after =>
    simp only [Operand.text, List.forall_mem_append, List.forall_mem_cons]
    exact ⟨kept _ (by decide), gap before, inside.forall_text kept named,
      kept _ (by decide), gap after⟩
  | signed minus after operand =>
    simp only [Operand.text, List.forall_mem_append, List.forall_mem_cons]
    exact ⟨kept _ (by cases minus <;> decide), gap after, operand.forall_text kept named⟩

theorem Expression.forall_text (expression : Expression) (kept : ∀ c ∈ figureChars, p c)
    (named : ∀ name ∈ expression.names, ∀ c ∈ fill name.chars, p c) :
    ∀ c ∈ expression.text fill, p c := by
  obtain ⟨first, rest⟩ := expression
  obtain ⟨named_first, named_rest⟩ := List.forall_mem_append.1 named
  exact List.forall_mem_append.2 ⟨first.forall_text kept named_first,
    rest.forall_text kept named_rest⟩

theorem Chain.forall_text (chain : Chain) (kept : ∀ c ∈ figureChars, p c)
    (named : ∀ name ∈ chain.names, ∀ c ∈ fill name.chars, p c) : ∀ c ∈ chain.text fill, p c := by
  cases chain with
  | done => exact fun c member => absurd member List.not_mem_nil
  | more connective after operand rest =>
    obtain ⟨named_operand, named_rest⟩ := List.forall_mem_append.1 named
    simp only [Chain.text, List.forall_mem_append, List.forall_mem_cons]
    exact ⟨kept _ (by cases connective <;> decide),
      fun c member => kept c (after.figureChars c member),
      operand.forall_text kept named_operand, rest.forall_text kept named_rest⟩

end

end

theorem Expression.chars (expression : Expression) (fills : Fills fill spelling expression.names) :
    ∀ c ∈ expression.text fill, c ∈ figureChars :=
  expression.forall_text (fun _ member => member) fun name member => (fills name member).chars

theorem Spelled.Written.head {spelled : Spelled} {chars : List Char}
    (written : spelled.Written chars) :
    ∃ c rest, chars = c :: rest ∧ Formula.startsMark c = true := by
  obtain ⟨figures, read, rfl⟩ := written
  split
  · exact ⟨'-', figures, rfl, by decide⟩
  · obtain ⟨c, rest, same, digit⟩ := read.head
    exact ⟨c, rest, same, startsMark_of_isDigit digit⟩

theorem Expression.head (expression : Expression) (fills : Fills fill spelling expression.names) :
    ∃ c rest, expression.text fill = c :: rest ∧ Formula.startsMark c = true := by
  obtain ⟨first, chain⟩ := expression
  rw [Expression.text]
  cases first with
  | number literal after =>
    obtain ⟨c, rest, same, digit⟩ := literal.figures.head
    exact ⟨c, _, by rw [Operand.text, same]; rfl, startsMark_of_isDigit digit⟩
  | name name after =>
    obtain ⟨c, rest, same, starts⟩ :=
      (fills name (List.mem_append_left _ (List.mem_singleton_self name))).head
    exact ⟨c, _, by rw [Operand.text, same]; rfl, starts⟩
  | group before inside after => exact ⟨'(', _, rfl, by decide⟩
  | signed minus after operand => exact ⟨signChar minus, _, rfl, by cases minus <;> decide⟩

theorem Expression.marksOf (expression : Expression)
    (allowed : allows nesting expression.nesting = true)
    (fills : Fills fill spelling expression.names) :
    Formula.marksOf nesting (expression.text fill) = expression.marks spelling ∧
      (expression.marks spelling).length ≤ (expression.text fill).length := by
  have marked : Marked nesting 0 (expression.text fill) (expression.marks spelling) 0 [] :=
    expression.marked (by rwa [Nat.zero_add]) fills (by simp [Parted])
  refine ⟨?_, marked.length_le⟩
  have line : '\r' ∉ expression.text fill :=
    fun member => absurd (expression.chars fills _ member) (by decide)
  obtain ⟨c, rest, same, starts⟩ := expression.head fills
  rw [same] at marked line ⊢
  exact Formula.marksOf_marked starts line marked

end

end Arithmetic

end Workbench
