import Workbench.Proofs.Cutting

/-! Regular expressions, and where they match in a text.

An expression that is tried at a place of a text gives the places where a match can end, the
preferred one first. Alternatives are preferred in their order; a repetition takes as much as it
can, or, if it is a lazy one, as little. What a pattern of the token table takes is the preferred
match of the expression it is written as.
-/

set_option autoImplicit false

namespace Workbench

inductive CharClass where
  | just (c : Char)
  | space
  | nameStart
  | nameRest
  | digit
  | inLine
  deriving DecidableEq, Repr

namespace CharClass

def accepts : CharClass → Char → Bool
  | just c, d => d == c
  | space, d => Pattern.isSpace d
  | nameStart, d => Pattern.startsName d
  | nameRest, d => Pattern.continuesName d
  | digit, d => Text.isDecimal d
  | inLine, d => d != '\n'

def text : CharClass → String
  | just c => String.ofList (if c == '.' || c == '"' then ['\\', c] else Pattern.escapeSign c)
  | space => "[ \\n\\t]"
  | nameStart => "[A-Za-z_]"
  | nameRest => "[A-Za-z0-9_]"
  | digit => "\\d"
  | inLine => "."

theorem accepts_space : space.accepts = Pattern.isSpace := rfl

theorem accepts_nameRest : nameRest.accepts = Pattern.continuesName := rfl

theorem accepts_digit : digit.accepts = Text.isDecimal := rfl

end CharClass

inductive Regex where
  | nothing
  | one (chars : CharClass)
  /-- Between a word character and another one, or the end of the text. -/
  | boundary
  | some (chars : CharClass)
  | many (chars : CharClass)
  | fewest (chars : CharClass)
  | both (first second : Regex)
  | either (first second : Regex)
  deriving DecidableEq, Repr

namespace Regex

def text : Regex → String
  | nothing => ""
  | one chars => chars.text
  | boundary => "\\b"
  | some chars => chars.text ++ "+"
  | many chars => chars.text ++ "*"
  | fewest chars => chars.text ++ "*?"
  | both first second => first.text ++ second.text
  | either first second => first.text ++ "|" ++ second.text

def reach (source : List Char) (chars : CharClass) (place : Nat) : Nat :=
  ((source.drop place).takeWhile chars.accepts).length

def atBoundary (source : List Char) (place : Nat) : Bool :=
  (source.take place).getLast?.any Text.isWord != (source.drop place).head?.any Text.isWord

/-- Where a match that starts at a place can end, the preferred end first. -/
def ends (source : List Char) : Regex → Nat → List Nat
  | nothing, place => [place]
  | one chars, place => if (source.drop place).head?.any chars.accepts then [place + 1] else []
  | boundary, place => if atBoundary source place then [place] else []
  | some chars, place => (List.range (reach source chars place)).reverse.map (place + 1 + ·)
  | many chars, place => (List.range (reach source chars place + 1)).reverse.map (place + ·)
  | fewest chars, place => (List.range (reach source chars place + 1)).map (place + ·)
  | both first second, place => (first.ends source place).flatMap (second.ends source)
  | either first second, place => first.ends source place ++ second.ends source place

def stop? (source : List Char) (regex : Regex) (place : Nat) : Option Nat :=
  (regex.ends source place).head?

def spelled (following : Regex) : List Char → Regex
  | [] => following
  | c :: rest => both (one (.just c)) (spelled following rest)

def anyOf : List Regex → Regex
  | [] => nothing
  | [regex] => regex
  | regex :: rest => either regex (anyOf rest)

end Regex

def Pattern.regex : Pattern → Regex
  | words spellings =>
    .anyOf (spellings.map fun word => .both .boundary (.spelled .boundary word.toList))
  | signs spellings => .anyOf (spellings.map fun sign => .spelled .nothing sign.toList)
  | blanks => .some .space
  | identifier => .both (.one .nameStart) (.many .nameRest)
  | real => .both (.some .digit) (.both (.one (.just '.')) (.some .digit))
  | integer => .some .digit
  | quotation => .both (.one (.just '"')) (.both (.fewest .inLine) (.one (.just '"')))

/-- The expressions are those of the token table. -/
theorem Row.text_regex : ∀ row ∈ Row.table, row.pattern.regex.text = row.pattern.expression := by
  decide +kernel

namespace Regex

variable {front rest : List Char}

/-! ## Single steps -/

theorem ends_one (chars : CharClass) : (one chars).ends (front ++ rest) front.length =
    if rest.head?.any chars.accepts then [front.length + 1] else [] := by
  rw [ends, List.drop_left]

theorem ends_boundary : boundary.ends (front ++ rest) front.length =
    if front.getLast?.any Text.isWord != rest.head?.any Text.isWord then
      [front.length] else [] := by
  rw [ends, atBoundary, List.take_left, List.drop_left]

theorem reach_append (chars : CharClass) :
    reach (front ++ rest) chars front.length = (rest.takeWhile chars.accepts).length := by
  rw [reach, List.drop_left]

theorem stop?_both (source : List Char) (place : Nat) (first second : Regex) :
    (both first second).stop? source place =
      (first.ends source place).findSome? (second.stop? source) := by
  rw [stop?, ends, List.head?_flatMap]
  rfl

theorem stop?_one_both (chars : CharClass) (second : Regex) {c : Char}
    (accepted : chars.accepts c = true) :
    (both (one chars) second).stop? (front ++ c :: rest) front.length =
      second.stop? ((front ++ [c]) ++ rest) (front ++ [c]).length := by
  rw [stop?_both, ends_one]
  simp [accepted]

theorem stop?_one_both_of_not (chars : CharClass) (second : Regex) {c : Char}
    (refused : chars.accepts c = false) :
    (both (one chars) second).stop? (front ++ c :: rest) front.length = none := by
  rw [stop?_both, ends_one]
  simp [refused]

theorem stop?_one_both_nil (chars : CharClass) (second : Regex) :
    (both (one chars) second).stop? (front ++ []) front.length = none := by
  rw [stop?_both, ends_one]
  rfl

/-! ## Repetitions -/

theorem stop?_some (chars : CharClass) : (some chars).stop? (front ++ rest) front.length =
    if rest.takeWhile chars.accepts = [] then none
    else Option.some (front.length + (rest.takeWhile chars.accepts).length) := by
  rw [stop?, ends, reach_append]
  cases rest.takeWhile chars.accepts with
  | nil => rfl
  | cons c run =>
    simp only [List.length_cons, List.range_succ, List.reverse_append, List.reverse_singleton,
      List.cons_append, List.map_cons, List.head?_cons, reduceCtorEq, if_false, Option.some.injEq]
    omega

theorem stop?_many (chars : CharClass) : (many chars).stop? (front ++ rest) front.length =
    Option.some (front.length + (rest.takeWhile chars.accepts).length) := by
  rw [stop?, ends, reach_append, List.range_succ, List.reverse_append]
  rfl

/-- Where nothing that follows starts with a repeated character, it is tried behind all of them
only. -/
theorem stop?_some_both {chars : CharClass} {second : Regex}
    (apart : ∀ (front : List Char) (c : Char) (rest : List Char), chars.accepts c = true →
      second.stop? (front ++ c :: rest) front.length = none) :
    (both (some chars) second).stop? (front ++ rest) front.length =
      if rest.takeWhile chars.accepts = [] then none
      else second.stop? (front ++ rest) (front.length + (rest.takeWhile chars.accepts).length) := by
  rw [stop?_both, ends, reach_append]
  have parts : rest.takeWhile chars.accepts ++ rest.dropWhile chars.accepts = rest :=
    List.takeWhile_append_dropWhile
  have accepted : ∀ c ∈ rest.takeWhile chars.accepts, chars.accepts c = true :=
    fun c => List.mem_takeWhile_imp
  generalize rest.takeWhile chars.accepts = run at parts accepted
  cases run with
  | nil => rfl
  | cons c run =>
    -- Ends before the last one have a character of the class behind them.
    have early : ((List.range run.length).reverse.map (front.length + 1 + ·)).findSome?
        (second.stop? (front ++ rest)) = none := by
      refine List.findSome?_eq_none_iff.2 fun place member => ?_
      obtain ⟨index, listed, rfl⟩ := List.mem_map.1 member
      have bound : index < run.length := List.mem_range.1 (List.mem_reverse.1 listed)
      have cut : rest = (c :: run.take index) ++ run[index] ::
          (run.drop (index + 1) ++ rest.dropWhile chars.accepts) := by
        rw [← List.cons_append, ← List.append_assoc, List.cons_append, List.cons_append,
          ← List.drop_eq_getElem_cons bound, List.take_append_drop]
        exact parts.symm
      have none_here := apart (front ++ c :: run.take index) run[index]
        (run.drop (index + 1) ++ rest.dropWhile chars.accepts) (accepted _ (by simp))
      have size : (front ++ c :: run.take index).length = front.length + 1 + index := by
        simp only [List.length_append, List.length_cons, List.length_take]
        omega
      rw [List.append_assoc, ← cut, size] at none_here
      exact none_here
    rw [List.length_cons, List.range_succ, List.reverse_append, List.reverse_singleton,
      List.singleton_append,
      List.map_cons, List.findSome?_cons, early, if_neg (List.cons_ne_nil c run)]
    have last : front.length + 1 + run.length = front.length + (run.length + 1) := by omega
    rw [last]
    cases second.stop? (front ++ rest) (front.length + (run.length + 1)) <;> rfl

theorem stop?_closingQuote (front rest : List Char) :
    (both (fewest .inLine) (one (.just '"'))).stop? (front ++ rest) front.length =
      (Pattern.closingQuote rest).map (front.length + ·.length) := by
  have quote : ∀ front rest, (one (.just '"')).stop? (front ++ rest) front.length =
      if rest.head? = Option.some '"' then Option.some (front.length + 1) else none := by
    intro front rest
    rw [stop?, ends_one]
    cases rest with
    | nil => rfl
    | cons c rest => by_cases same : c = '"' <;> simp [CharClass.accepts, same]
  rw [stop?_both, ends, reach_append]
  induction rest generalizing front with
  | nil =>
    have stuck := quote front []
    simpa [Pattern.closingQuote] using stuck
  | cons c rest ih =>
    rw [Pattern.closingQuote, List.range_succ_eq_map, List.map_cons, List.findSome?_cons,
      Nat.add_zero, quote]
    by_cases close : c = '"'
    · simp [close]
    · by_cases newline : c = '\n'
      · simp [newline, CharClass.accepts]
      · -- The place moves over the character.
        have moved := ih (front ++ [c])
        have inside : CharClass.inLine.accepts c = true := by
          simpa [CharClass.accepts] using newline
        simp only [List.append_assoc, List.singleton_append, List.length_append,
          List.length_singleton] at moved
        simp only [List.head?_cons, Option.some.injEq, close, if_false, beq_iff_eq,
          newline, Option.map_map,
          List.takeWhile_cons_of_pos inside, List.length_cons, List.map_map, Function.comp_def]
        simpa only [Nat.add_assoc, Nat.add_comm 1] using moved

/-! ## Spellings -/

theorem ends_spelled (following : Regex) (word front rest : List Char) :
    (spelled following word).ends (front ++ rest) front.length =
      if word.isPrefixOf rest then following.ends (front ++ rest)
      (front.length + word.length) else [] := by
  induction word generalizing front rest with
  | nil => simp [spelled]
  | cons c word ih =>
    rw [spelled, ends, ends_one]
    cases rest with
    | nil => rfl
    | cons d rest =>
      by_cases same : d = c
      · subst same
        have moved := ih (front ++ [d]) rest
        simp only [List.append_assoc, List.singleton_append, List.length_append,
          List.length_singleton] at moved
        simp [CharClass.accepts, moved, Nat.add_assoc, Nat.add_comm 1]
      · have other : c ≠ d := fun equal => same equal.symm
        simp [CharClass.accepts, same, other]

theorem ends_anyOf (source : List Char) (place : Nat) {regexes : List Regex}
    (some_regex : regexes ≠ []) :
    (anyOf regexes).ends source place = regexes.flatMap (·.ends source place) := by
  induction regexes with
  | nil => exact absurd rfl some_regex
  | cons regex regexes ih =>
    cases regexes with
    | nil => simp [anyOf]
    | cons other regexes =>
      have more := ih (List.cons_ne_nil other regexes)
      rw [List.flatMap_cons, ← more]
      rfl

/-- A word of word characters stands between two boundaries exactly where it stands alone. -/
theorem ends_word {word : List Char} (some_char : word ≠ [])
    (worded : ∀ c ∈ word, Text.isWord c = true) (front rest : List Char) :
    (both boundary (spelled boundary word)).ends (front ++ rest) front.length =
      if Pattern.standsAlone front.getLast? word rest then
        [front.length + word.length] else [] := by
  rw [ends, ends_boundary, Pattern.standsAlone]
  by_cases fits : word.isPrefixOf rest = true
  · obtain ⟨back, rfl⟩ := List.isPrefixOf_iff_prefix.1 fits
    have opens : (word ++ back).head?.any Text.isWord = true := by
      rw [List.head?_append_of_ne_nil _ some_char, List.head?_eq_some_head some_char]
      exact worded _ (List.head_mem some_char)
    have closes : (front ++ word).getLast?.any Text.isWord = true := by
      rw [List.getLast?_append_of_ne_nil _ some_char, List.getLast?_eq_some_getLast some_char]
      exact worded _ (List.getLast_mem some_char)
    have after := @ends_boundary (front ++ word) back
    rw [closes, List.append_assoc, List.length_append] at after
    have inner := ends_spelled boundary word front (word ++ back)
    rw [if_pos fits, after] at inner
    rw [opens, fits, List.drop_left]
    -- The word decides both boundaries but for what stands before it and what follows.
    cases front.getLast?.any Text.isWord with
    | true => rfl
    | false => cases followed : back.head?.any Text.isWord <;> simpa [followed] using inner
  · have misfit : (spelled boundary word).ends (front ++ rest) front.length = [] := by
      rw [ends_spelled, if_neg fits]
    rw [Bool.not_eq_true] at fits
    rw [fits, Bool.and_false, Bool.false_and, if_neg Bool.false_ne_true]
    split <;> simp [misfit]

theorem stop?_anyOf {spellings : List String} (some_spelling : spellings ≠ [])
    (spell : List Char → Regex) (fits : List Char → Bool) {source : List Char} {place : Nat}
    (single : ∀ spelling ∈ spellings, (spell spelling.toList).ends source place =
      if fits spelling.toList then [place + spelling.toList.length] else []) :
    (anyOf (spellings.map fun spelling => spell spelling.toList)).stop? source place =
      ((spellings.find? fun spelling => fits spelling.toList).map (·.toList)).map
        (place + ·.length) := by
  have some_regex : spellings.map (fun spelling => spell spelling.toList) ≠ [] := by
    simpa using some_spelling
  rw [stop?, ends_anyOf source place some_regex, List.flatMap_map]
  clear some_spelling some_regex
  induction spellings with
  | nil => rfl
  | cons spelling spellings ih =>
    obtain ⟨first, others⟩ := List.forall_mem_cons.1 single
    rw [List.flatMap_cons, first]
    cases fitting : fits spelling.toList with
    | true => simp [fitting]
    | false => simpa [fitting] using ih others

end Regex

namespace Pattern

def Spelled : Pattern → Prop
  | words spellings =>
    spellings ≠ [] ∧ ∀ word ∈ spellings, word.toList ≠ [] ∧ ∀ c ∈ word.toList, Text.isWord c = true
  | signs spellings => spellings ≠ []
  | _ => True

def isSpelled : Pattern → Bool
  | words spellings =>
    !spellings.isEmpty && spellings.all fun word => !word.toList.isEmpty &&
      word.toList.all Text.isWord
  | signs spellings => !spellings.isEmpty
  | blanks | identifier | real | integer | quotation => true

theorem spelled_of_isSpelled {pattern : Pattern} (spelled : pattern.isSpelled = true) :
    pattern.Spelled := by
  cases pattern with
  | words spellings | signs spellings => simpa [isSpelled, Spelled] using spelled
  | blanks | identifier | real | integer | quotation => trivial

/-- The point is looked for behind all the digits, since no digit is one. -/
theorem stop?_real (front rest : List Char) :
    real.regex.stop? (front ++ rest) front.length =
      (real.lexeme? front.getLast? rest).map (front.length + ·.length) := by
  have pointless : ∀ c : Char, CharClass.digit.accepts c = true →
      (CharClass.just '.').accepts c = false := by
    intro c digit
    rw [CharClass.accepts, beq_eq_false_iff_ne]
    rintro rfl
    exact absurd digit (by decide)
  have parts : rest.takeWhile Text.isDecimal ++ rest.dropWhile Text.isDecimal = rest :=
    List.takeWhile_append_dropWhile
  -- Fewer digits are tried when the point is missing, in vain.
  rw [regex, Regex.stop?_some_both fun front c rest digit =>
    Regex.stop?_one_both_of_not _ _ (pointless c digit), CharClass.accepts_digit, lexeme?]
  generalize rest.takeWhile Text.isDecimal = whole, rest.dropWhile Text.isDecimal = back at parts ⊢
  subst parts
  cases whole with
  | nil => rfl
  | cons d whole =>
    rw [if_neg (List.cons_ne_nil d whole), ← List.append_assoc, ← List.length_append]
    cases back with
    | nil => exact Regex.stop?_one_both_nil (.just '.') _
    | cons c tail =>
      by_cases point : c = '.'
      · subst point
        rw [Regex.stop?_one_both _ _ (by rfl), Regex.stop?_some, CharClass.accepts_digit]
        simp only
        cases tail.takeWhile Text.isDecimal with
        | nil => rfl
        | cons e fraction =>
          simp only [List.length_append, List.length_cons, List.length_nil, Option.map_some,
            reduceCtorEq, if_false, Option.some.injEq]
          omega
      · rw [Regex.stop?_one_both_of_not _ _ (by simpa [CharClass.accepts] using point)]
        simp [point]

/-- What a pattern takes is the preferred match of its expression. -/
theorem stop?_regex {pattern : Pattern} (spelled : pattern.Spelled) (front rest : List Char) :
    pattern.regex.stop? (front ++ rest) front.length =
      (pattern.lexeme? front.getLast? rest).map (front.length + ·.length) := by
  cases pattern with
  | words spellings =>
    exact Regex.stop?_anyOf spelled.1 (fun word => .both .boundary (.spelled .boundary word))
      (fun word => standsAlone front.getLast? word rest) fun word member =>
        Regex.ends_word (spelled.2 word member).1 (spelled.2 word member).2 front rest
  | signs spellings =>
    exact Regex.stop?_anyOf spelled (.spelled .nothing) (fun sign =>
      sign.isPrefixOf rest) fun sign _ =>
      Regex.ends_spelled .nothing sign.toList front rest
  | blanks =>
    rw [regex, Regex.stop?_some, CharClass.accepts_space, lexeme?]
    cases rest.takeWhile isSpace <;> rfl
  | integer =>
    rw [regex, Regex.stop?_some, CharClass.accepts_digit, lexeme?]
    cases rest.takeWhile Text.isDecimal <;> rfl
  | identifier =>
    cases rest with
    | nil => exact Regex.stop?_one_both_nil .nameStart _
    | cons c rest =>
      cases starts : startsName c with
      | false =>
        rw [regex, Regex.stop?_one_both_of_not .nameStart _ starts]
        simp [lexeme?, starts]
      | true =>
        rw [regex, Regex.stop?_one_both .nameStart _ starts, Regex.stop?_many,
          CharClass.accepts_nameRest]
        simp [lexeme?, starts, Nat.add_assoc, Nat.add_comm 1]
  | real => exact stop?_real front rest
  | quotation =>
    cases rest with
    | nil => exact Regex.stop?_one_both_nil (.just '"') _
    | cons c rest =>
      by_cases quote : c = '"'
      · subst quote
        rw [regex, Regex.stop?_one_both _ _ (by rfl), Regex.stop?_closingQuote]
        simp [lexeme?, Nat.add_assoc, Nat.add_comm 1, Function.comp_def]
      · rw [regex, Regex.stop?_one_both_of_not _ _ (by simpa [CharClass.accepts] using quote),
          lexeme?_unquoted _ quote]
        rfl

end Pattern

end Workbench
