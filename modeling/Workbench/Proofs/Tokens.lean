import Workbench.Proofs.Cutting
import Workbench.Proofs.Statements
import Workbench.Proofs.Valuation

/-! Which tokens are made of words, signs and arithmetic, whatever follows them. -/

set_option autoImplicit false

namespace Workbench

open Line (Word Ended)

/-- A name of the language: letters, digits and low lines, no digit first, and not one of its
words. -/
def isIdentifier (chars : List Char) : Bool :=
  (match chars with
    | [] => false
    | c :: rest =>
      Pattern.startsName c && rest.all Pattern.continuesName) && !reserved.contains chars

theorem isIdentifier_iff {chars : List Char} : isIdentifier chars = true ↔
    ∃ c rest, chars = c :: rest ∧ Pattern.startsName c = true ∧
      (∀ d ∈ rest, Pattern.continuesName d = true) ∧
      chars ∉ reserved := by
  cases chars with
  | nil => simp [isIdentifier]
  | cons c rest => simp [isIdentifier, and_assoc]

/-! ## Words -/

theorem Pattern.standsAlone_word {word name rest : List Char}
    (worded : ∀ c ∈ word, Text.isWord c = true)
    (named : Word name) (ended : Ended rest) :
    standsAlone none word (name ++ rest) = decide (word = name) := by
  rw [Bool.eq_iff_iff, decide_eq_true_eq]
  simp only [standsAlone, Option.any_none, Bool.not_false, Bool.true_and, Bool.and_eq_true,
    List.isPrefixOf_iff_prefix, Bool.not_eq_true']
  constructor
  · rintro ⟨fits, stops⟩
    obtain ⟨more, rfl⟩ := Line.prefix_of_ended worded ended fits
    cases more with
    | nil => exact (List.append_nil word).symm
    | cons c more =>
      -- What is left of the name would have to stand behind the word.
      rw [List.append_assoc, List.drop_left] at stops
      have inside := named.2 c (by simp)
      simp [inside] at stops
  · rintro rfl
    refine ⟨List.prefix_append .., ?_⟩
    rw [List.drop_left]
    cases rest with
    | nil => rfl
    | cons c rest => exact ended c rfl

theorem Pattern.standsAlone_self {name rest : List Char} (named : Word name) (ended : Ended rest) :
    standsAlone none name (name ++ rest) = true := by
  rw [standsAlone_word named.2 named ended, decide_eq_true rfl]

theorem isWord_of_mem_reserved : ∀ word ∈ reserved, ∀ c ∈ word, Text.isWord c = true := by
  have all : ∀ word ∈ reserved, word.all Text.isWord = true := by decide
  exact fun word member => List.all_eq_true.1 (all word member)

theorem Pattern.standsAlone_free {name rest : List Char} (named : Word name) (ended : Ended rest)
    (free : name ∉ reserved) :
    ∀ word ∈ reserved, standsAlone none word (name ++ rest) = false := by
  intro word member
  rw [standsAlone_word (isWord_of_mem_reserved word member) named ended]
  exact decide_eq_false fun same => free (same ▸ member)

theorem Row.first?_word {name rest : List Char} (named : Word name) (ended : Ended rest)
    (free : name ∉ reserved) :
    Row.first? none (name ++ rest) = Row.firstOf none (name ++ rest) (Row.table.zipIdx.drop 6) :=
  Row.first?_wordless none (Pattern.standsAlone_free named ended free)

theorem startsWord_of_startsName {c : Char} (starts : Pattern.startsName c = true) :
    Formula.startsWord c = true := by
  simp only [Pattern.startsName, Formula.startsWord, Bool.or_eq_true] at starts ⊢
  exact starts.imp_left Text.isLetter_of_isAlpha

theorem word_of_startsName {c : Char} {rest : List Char} (starts : Pattern.startsName c = true)
    (continues : ∀ d ∈ rest, Pattern.continuesName d = true) : Word (c :: rest) := by
  refine ⟨List.cons_ne_nil c rest, List.forall_mem_cons.2 ⟨?_, fun d member => ?_⟩⟩
  · exact Pattern.isWord_of_continuesName (Pattern.continuesName_of_startsName starts)
  · exact Pattern.isWord_of_continuesName (continues d member)

theorem word_of_isIdentifier {name : List Char} (identifier : isIdentifier name = true) :
    Word name := by
  obtain ⟨c, rest, rfl, starts, continues, -⟩ := isIdentifier_iff.1 identifier
  exact word_of_startsName starts continues

theorem takeWhile_ended {accepts : Char → Bool}
    (worded : ∀ c, accepts c = true → Text.isWord c = true)
    {front rest : List Char} (all : ∀ c ∈ front, accepts c = true) (ended : Ended rest) :
    (front ++ rest).takeWhile accepts = front := by
  have stop : rest.takeWhile accepts = [] := by
    cases rest with
    | nil => rfl
    | cons c rest =>
      refine List.takeWhile_cons_of_neg fun accepted => ?_
      have inside := worded c accepted
      rw [ended c rfl] at inside
      cases inside
  rw [List.takeWhile_append_of_pos all, stop, List.append_nil]

theorem tokensFrom_ended (before : Option Char) {rest : List Char} (ended : Ended rest) :
    tokensFrom before rest = tokensFrom none rest :=
  congrArg (List.filterMap Piece.token?) (pieces_ended before ended)

theorem tokens_taken {lexeme rest : List Char} (ended : Ended rest) {index : Nat}
    {pattern : Pattern} {kind : Kind}
    {number : Option Int}
    (found : Row.first? none (lexeme ++ rest) =
      some (index, ⟨pattern, some kind, number⟩, lexeme)) :
    tokensFrom none (lexeme ++ rest) = ⟨String.ofList lexeme, kind, number⟩ ::
      tokensFrom none rest := by
  rw [tokensFrom_taken found, tokensFrom_ended _ ended]
  rfl

theorem blanks_word {name : List Char} (named : Word name) (rest : List Char) :
    Pattern.blanks.lexeme? none (name ++ rest) = none := by
  obtain ⟨c, more, rfl⟩ := List.exists_cons_of_ne_nil named.1
  simp [Pattern.lexeme?, not_isSpace_of_isWord (named.2 c (List.mem_cons_self ..))]

theorem Row.drop_words : Row.table.zipIdx.drop 6 =
    (⟨.blanks, none, none⟩, 6) :: (⟨.identifier, some .identifier, some 0⟩, 7) ::
      (⟨.real, some .real, some 2⟩, 8) ::
      (⟨.integer, some .integer, some 1⟩, 9) :: Row.table.zipIdx.drop 10 := rfl

theorem Row.first?_name {before : Option Char} {c : Char} {rest : List Char}
    (starts : Pattern.startsName c = true)
    (wordless : ∀ word ∈ reserved, Pattern.standsAlone before word (c :: rest) = false) :
    Row.first? before (c :: rest) =
      some (7, ⟨.identifier, some .identifier, some 0⟩,
        c :: rest.takeWhile Pattern.continuesName) := by
  have word := Pattern.isWord_of_continuesName (Pattern.continuesName_of_startsName starts)
  have inked : Pattern.blanks.lexeme? none (c :: rest) = none := by
    simp [Pattern.lexeme?, not_isSpace_of_isWord word]
  have taken : Pattern.identifier.lexeme? none (c :: rest) =
      some (c :: rest.takeWhile Pattern.continuesName) := by
    simp only [Pattern.lexeme?, starts, if_true]
  rw [Row.first?_wordless before wordless, Row.drop_words, Row.firstOf_passed inked,
    Row.firstOf_taken taken]

theorem tokens_identifier {name rest : List Char} (identifier : isIdentifier name = true)
    (ended : Ended rest) :
    tokensFrom none (name ++ rest) = ⟨String.ofList name, .identifier, some 0⟩ ::
      tokensFrom none rest := by
  have named := word_of_isIdentifier identifier
  obtain ⟨c, more, rfl, starts, continues, free⟩ := isIdentifier_iff.1 identifier
  have taken := takeWhile_ended (fun _ => Pattern.isWord_of_continuesName) continues ended
  have found : Row.first? none (c :: (more ++ rest)) = _ :=
    Row.first?_name starts (Pattern.standsAlone_free named ended free)
  rw [taken] at found
  exact tokens_taken ended found

section
open Arithmetic

theorem word_of_isDigits {digits : List Char} (all : isDigits digits = true) : Word digits := by
  obtain ⟨some_digit, digit⟩ := isDigits_iff.1 all
  exact ⟨some_digit,
    fun c member => Text.isWord_of_isDecimal (Text.isDecimal_of_isDigit (digit c member))⟩

theorem not_mem_reserved_of_isDigits {digits : List Char} (all : isDigits digits = true) :
    digits ∉ reserved := by
  have letters : ∀ word ∈ reserved, ¬ isDigits word = true := by decide
  exact fun member => letters digits member all

theorem identifier_digits {digits : List Char} (all : isDigits digits = true) (rest : List Char) :
    Pattern.identifier.lexeme? none (digits ++ rest) = none := by
  obtain ⟨some_digit, digit⟩ := isDigits_iff.1 all
  obtain ⟨c, more, rfl⟩ := List.exists_cons_of_ne_nil some_digit
  have other : ¬ Pattern.startsName c = true :=
    mt startsWord_of_startsName (not_startsWord_of_isDigit (digit c (List.mem_cons_self ..)))
  simp [Pattern.lexeme?, other]

theorem takeWhile_digits {digits rest : List Char} (all : isDigits digits = true)
    (ended : Ended rest) :
    (digits ++ rest).takeWhile Text.isDecimal = digits :=
  takeWhile_ended (fun _ => Text.isWord_of_isDecimal)
    (fun c member => Text.isDecimal_of_isDigit ((isDigits_iff.1 all).2 c member)) ended

theorem dropWhile_digits {digits rest : List Char} (all : isDigits digits = true)
    (ended : Ended rest) :
    (digits ++ rest).dropWhile Text.isDecimal = rest := by
  have parts := List.takeWhile_append_dropWhile (p := Text.isDecimal) (l := digits ++ rest)
  rw [takeWhile_digits all ended] at parts
  exact List.append_cancel_left parts

theorem Pattern.lexeme?_point (before : Option Char) {whole : List Char} (some_digit : whole ≠ [])
    (digits : ∀ c ∈ whole, Text.isDecimal c = true) (tail : List Char) :
    real.lexeme? before (whole ++ '.' :: tail) =
      if tail.takeWhile Text.isDecimal = [] then none
        else some (whole ++ '.' :: tail.takeWhile Text.isDecimal) := by
  have point : Text.isDecimal '.' = false := by decide
  have front : (whole ++ '.' :: tail).takeWhile Text.isDecimal = whole := by
    rw [List.takeWhile_append_of_pos digits, List.takeWhile_cons_of_neg (by simp [point]),
      List.append_nil]
  have back : (whole ++ '.' :: tail).dropWhile Text.isDecimal = '.' :: tail := by
    rw [List.dropWhile_append_of_pos digits, List.dropWhile_cons_of_neg (by simp [point])]
  simp only [lexeme?, front, back]
  cases whole with
  | nil => exact absurd rfl some_digit
  | cons c whole => cases tail.takeWhile Text.isDecimal <;> rfl

def Arithmetic.Literal.token : Literal → Token
  | .integer digits _ => ⟨String.ofList digits, .integer, some 1⟩
  | .real digits places _ => ⟨String.ofList (digits ++ '.' :: places), .real, some 2⟩

theorem tokens_literal (literal : Literal) {rest : List Char} (ended : Ended rest)
    (pointless : rest.head? ≠ some '.') :
    tokensFrom none (literal.chars ++ rest) = literal.token :: tokensFrom none rest := by
  cases literal with
  | integer digits well =>
    have all := (Bool.and_eq_true_iff.1 well).1
    -- The row for reals comes first, but finds no point.
    have unreal : Pattern.real.lexeme? none (digits ++ rest) = none := by
      simp only [Pattern.lexeme?, takeWhile_digits all ended, dropWhile_digits all ended]
      split
      · rfl
      · simp at pointless
      · rfl
    have taken : Pattern.integer.lexeme? none (digits ++ rest) = some digits := by
      simp only [Pattern.lexeme?, takeWhile_digits all ended]
      cases digits with
      | nil => cases all
      | cons c digits => rfl
    have found : Row.first? none (digits ++ rest) =
        some (9, ⟨.integer, some .integer, some 1⟩, digits) := by
      rw [Row.first?_word (word_of_isDigits all) ended (not_mem_reserved_of_isDigits all),
        Row.drop_words,
        Row.firstOf_passed (blanks_word (word_of_isDigits all) _),
        Row.firstOf_passed (identifier_digits all _),
        Row.firstOf_passed unreal, Row.firstOf_taken taken]
    exact tokens_taken ended found
  | real digits places well =>
    obtain ⟨all, placed⟩ := Bool.and_eq_true_iff.1 well
    have point : Ended ('.' :: (places ++ rest)) := by
      rintro _ ⟨⟩
      decide
    have taken : Pattern.real.lexeme? none (digits ++ '.' :: (places ++ rest)) =
        some (digits ++ '.' :: places) := by
      obtain ⟨some_digit, digit⟩ := isDigits_iff.1 all
      rw [Pattern.lexeme?_point none some_digit (fun c member =>
        Text.isDecimal_of_isDigit (digit c member)),
        takeWhile_digits placed ended, if_neg (isDigits_iff.1 placed).1]
    have found : Row.first? none ((digits ++ '.' :: places) ++ rest) =
        some (8, ⟨.real, some .real, some 2⟩, digits ++ '.' :: places) := by
      rw [List.append_assoc, List.cons_append,
        Row.first?_word (word_of_isDigits all) point (not_mem_reserved_of_isDigits all),
        Row.drop_words,
        Row.firstOf_passed (blanks_word (word_of_isDigits all) _),
        Row.firstOf_passed (identifier_digits all _), Row.firstOf_taken taken]
    exact tokens_taken ended found

end

/-! ## Signs -/

/-- The signs that are read one character at a time, whatever follows them. -/
def plainSigns : List (Char × Kind × Option Int) :=
  [('+', .plus, some 5), ('-', .minus, some 5), ('*', .times, some 6), ('/', .divide, some 6),
   ('<', .relation, some 7), ('>', .relation, some 7), (';', .semicolon, some 12),
   ('(', .openParen, some 14),
   (')', .closeParen, some 15), ('\x7b', .openBrace, some 16), ('\x7d', .closeBrace, some 17)]

theorem tokens_signed {lexeme rest : List Char}
    (outside : lexeme.getLast?.any Text.isWord = false) {index : Nat}
    {pattern : Pattern} {kind : Kind} {number : Option Int}
    (found : Row.first? none (lexeme ++ rest) =
      some (index, ⟨pattern, some kind, number⟩, lexeme)) :
    tokensFrom none (lexeme ++ rest) = ⟨String.ofList lexeme, kind, number⟩ ::
      tokensFrom none rest := by
  have before : tokensFrom lexeme.getLast? rest = tokensFrom none rest :=
    tokensFrom_before outside rest
  rw [tokensFrom_taken found, before]
  rfl

theorem tokens_sign {c : Char} {kind : Kind} {number : Option Int}
    (sign : (c, kind, number) ∈ plainSigns)
    (rest : List Char) :
    tokensFrom none (c :: rest) = ⟨String.ofList [c], kind, number⟩ :: tokensFrom none rest := by
  have unworded : ∀ entry ∈ plainSigns, Text.isWord entry.1 = false := by decide
  have outside : Text.isWord c = false := unworded _ sign
  have ended : Ended (c :: rest) := by
    rintro _ ⟨⟩
    exact outside
  have found : ∃ index pattern, Row.first? none ([c] ++ rest) =
      some (index, ⟨pattern, some kind, number⟩, [c]) := by
    rw [List.singleton_append, Row.first?_wordless none (Pattern.standsAlone_ended none ended)]
    simp only [plainSigns, List.mem_cons, Prod.mk.injEq, List.not_mem_nil, or_false] at sign
    rcases sign with
      ⟨rfl, rfl, rfl⟩ | ⟨rfl, rfl, rfl⟩ | ⟨rfl, rfl, rfl⟩ | ⟨rfl, rfl, rfl⟩ | ⟨rfl, rfl, rfl⟩ |
      ⟨rfl, rfl, rfl⟩ | ⟨rfl, rfl, rfl⟩ | ⟨rfl, rfl, rfl⟩ | ⟨rfl, rfl, rfl⟩ | ⟨rfl, rfl,
        rfl⟩ | ⟨rfl, rfl, rfl⟩ <;>
    exact ⟨_, _, rfl⟩
  obtain ⟨index, pattern, found⟩ := found
  exact tokens_signed (by simpa using outside) found

theorem tokens_assign {rest : List Char} (single : rest.head? ≠ some '=') :
    tokensFrom none ('=' :: rest) = ⟨"=", .assign, some 18⟩ :: tokensFrom none rest := by
  have ended : Ended ('=' :: rest) := by
    rintro _ ⟨⟩
    decide
  -- The row for comparisons comes first and must not take it.
  have unequal : (Pattern.signs ["==", "!="]).lexeme? none ('=' :: rest) = none := by
    cases rest with
    | nil => rfl
    | cons c rest =>
      have other : ('=' == c) = false :=
        beq_eq_false_iff_ne.2 fun same => single (congrArg some same.symm)
      change Option.map _ (match '=' == '=' && ('=' == c && true) with
        | true => some "=="
        | false => none) = none
      rw [other]
      rfl
  have rows : Row.table.zipIdx.drop 6 = (Row.table.zipIdx.drop 6).take 13 ++
      ((⟨.signs ["==", "!="], some .equality, some 11⟩, 19) :: Row.table.zipIdx.drop 20) := rfl
  have found : Row.first? none (['='] ++ rest) =
      some (26, ⟨.signs ["="], some .assign, some 18⟩, ['=']) := by
    rw [List.singleton_append, Row.first?_wordless none (Pattern.standsAlone_ended none ended),
      rows, Row.firstOf_append, Row.firstOf_passed unequal]
    rfl
  exact tokens_signed (by decide) found

theorem tokens_equal (rest : List Char) :
    tokensFrom none ('=' :: '=' :: rest) = ⟨"==", .equality, some 11⟩ :: tokensFrom none rest := by
  have ended : Ended ('=' :: '=' :: rest) := by
    rintro _ ⟨⟩
    decide
  have found : Row.first? none (['=', '='] ++ rest) =
      some (19, ⟨.signs ["==", "!="], some .equality, some 11⟩, ['=', '=']) :=
    (Row.first?_wordless none (Pattern.standsAlone_ended none ended)).trans rfl
  exact tokens_signed (by decide) found

/-! ## Reserved words -/

def wordKinds : List (List Char × Kind × Option Int) :=
  [("int".toList, .intWord, some 23), ("float".toList, .floatWord, some 24),
    ("print".toList, .printWord, some 24),
   ("if".toList, .ifWord, some 19), ("else".toList, .elseWord, some 22),
     ("void".toList, .typeName, some 4)]

/-- A reserved word that stands alone is read as if there were nothing else. -/
theorem Row.first?_reserved {word : List Char} (member : word ∈ reserved) {before : Option Char}
    {text : List Char}
    (alone : Pattern.standsAlone before word text = true) :
    Row.first? before text = Row.first? none word := by
  have words : ∀ word ∈ reserved, word ≠ [] := by decide
  have named : Word word := ⟨words word member, isWord_of_mem_reserved word member⟩
  -- No other word stands alone there.
  have only : ∀ other ∈ reserved, Pattern.standsAlone before other text =
      Pattern.standsAlone none other word := by
    intro other listed
    have worded := isWord_of_mem_reserved other listed
    simp only [Pattern.standsAlone, Bool.and_eq_true, Bool.not_eq_true',
      List.isPrefixOf_iff_prefix] at alone
    obtain ⟨⟨outside, rest, rfl⟩, followed⟩ := alone
    have ended : Ended rest := by
      rw [List.drop_left] at followed
      intro c head
      simpa [Option.mem_def.1 head] using followed
    have inside := Pattern.standsAlone_word worded named ended
    have single := @Pattern.standsAlone_word other word [] worded named fun _ head => by cases head
    rw [List.append_nil] at single
    rw [single, ← inside, Pattern.standsAlone, Pattern.standsAlone, outside]
    rfl
  have wordy : ∀ entry ∈ Row.table.zipIdx.take 6, entry.1.pattern.Wordy := by decide
  have taken : ∀ word ∈ reserved, (Row.firstOf none word (Row.table.zipIdx.take 6)).isSome =
    true := by decide
  have front :=
    Row.firstOf_congr fun entry listed => Pattern.lexeme?_wordy (wordy entry listed) only
  rw [Row.first?_eq_firstOf, Row.first?_eq_firstOf, ← List.take_append_drop 6 Row.table.zipIdx,
    Row.firstOf_append,
    Row.firstOf_append, front, Option.or_of_isSome (taken word member),
      Option.or_of_isSome (taken word member)]

theorem tokens_word {word : List Char} {kind : Kind} {number : Option Int}
    (member : (word, kind, number) ∈ wordKinds) {rest : List Char} (ended : Ended rest) :
    tokensFrom none (word ++ rest) = ⟨String.ofList word, kind, number⟩ ::
      tokensFrom none rest := by
  have words : ∀ entry ∈ wordKinds, entry.1 ∈ reserved ∧ entry.1 ≠ [] := by decide
  have named : Word word := ⟨(words _ member).2, isWord_of_mem_reserved word (words _ member).1⟩
  have alone := Pattern.standsAlone_self named ended
  have rows : ∀ entry ∈ wordKinds, (Row.first? none entry.1).map
      (fun found => (found.2.1.kind, found.2.1.number, found.2.2)) =
        some (some entry.2.1, entry.2.2, entry.1) := by decide
  obtain ⟨⟨index, ⟨pattern, _, _⟩, _⟩, found, same⟩ := Option.map_eq_some_iff.1 (rows _ member)
  simp only [Prod.mk.injEq] at same
  obtain ⟨rfl, rfl, rfl⟩ := same
  exact tokens_taken ended ((Row.first?_reserved (words _ member).1 alone).trans found)

theorem tokens_gap (gap : Arithmetic.Gap) (rest : List Char) :
    tokensFrom none (gap.chars ++ rest) = tokensFrom none rest := by
  by_cases nothing : gap.chars = []
  · rw [nothing, List.nil_append]
  · refine tokensFrom_spaces none nothing (fun c member => ?_) rest
    have blank := List.all_eq_true.1 gap.blank c member
    rw [Bool.or_eq_true, beq_iff_eq, beq_iff_eq] at blank
    rcases blank with rfl | rfl <;> rfl

/-! ## Expressions -/

/-- What may follow a word or a number that ends there. -/
def Closed (rest : List Char) : Prop := ∀ c ∈ rest.head?, Text.isWord c = false ∧ c ≠ '.'

theorem Closed.ended {rest : List Char} (closed : Closed rest) :
    Ended rest := fun c head => (closed c head).1

theorem closed_cons {c : Char} (sign : Text.isWord c = false ∧ c ≠ '.') (rest : List Char) :
    Closed (c :: rest) := by
  rintro _ ⟨⟩
  exact sign

namespace Arithmetic

theorem Gap.closed (gap : Gap) {rest : List Char} (closed : Closed rest) :
    Closed (gap.chars ++ rest) := by
  have all := List.all_eq_true.1 gap.blank
  cases chars : gap.chars with
  | nil => exact closed
  | cons c more =>
    have blank := all c (by rw [chars]; exact List.mem_cons_self ..)
    rw [Bool.or_eq_true, beq_iff_eq, beq_iff_eq] at blank
    rcases blank with rfl | rfl <;> exact closed_cons (by decide) _

def Name.token (name : Name) : Token := ⟨name.string, .identifier, some 0⟩

def Connective.token : Connective → Token
  | plus => ⟨"+", .plus, some 5⟩
  | minus => ⟨"-", .minus, some 5⟩
  | times => ⟨"*", .times, some 6⟩
  | divide => ⟨"/", .divide, some 6⟩

def signToken (minus : Bool) : Token :=
  if minus then Connective.minus.token else Connective.plus.token

def openToken : Token := ⟨"(", .openParen, some 14⟩

def closeToken : Token := ⟨")", .closeParen, some 15⟩

mutual

def Operand.tokens : Operand → List Token
  | .number literal _ => [literal.token]
  | .name name _ => [name.token]
  | .group _ inside _ => openToken :: (inside.tokens ++ [closeToken])
  | .signed minus _ operand => signToken minus :: operand.tokens

def Expression.tokens : Expression → List Token
  | .mk first rest => first.tokens ++ rest.tokens

def Chain.tokens : Chain → List Token
  | .done => []
  | .more connective _ operand rest => connective.token :: (operand.tokens ++ rest.tokens)

end

theorem tokens_open (rest : List Char) :
    tokensFrom none ('(' :: rest) = openToken :: tokensFrom none rest :=
  tokens_sign (by decide) rest

theorem tokens_close (rest : List Char) :
    tokensFrom none (')' :: rest) = closeToken :: tokensFrom none rest :=
  tokens_sign (by decide) rest

theorem tokens_connective (connective : Connective) (rest : List Char) :
    tokensFrom none (connective.char :: rest) = connective.token :: tokensFrom none rest := by
  cases connective <;> exact tokens_sign (by decide) rest

theorem tokens_signChar (minus : Bool) (rest : List Char) :
    tokensFrom none (signChar minus :: rest) = signToken minus :: tokensFrom none rest := by
  cases minus
  · exact tokens_connective .plus rest
  · exact tokens_connective .minus rest

theorem Chain.closed (chain : Chain) {rest : List Char} (closed : Closed rest) :
    Closed (chain.text id ++ rest) := by
  cases chain with
  | done => exact closed
  | more connective after operand chain => exact closed_cons (by cases connective <;> decide) _

mutual

/-- An operand makes its tokens, if what follows does not go on with it. -/
theorem Operand.lexed (operand : Operand)
    (identifiers : ∀ name ∈ operand.names, isIdentifier name.chars = true)
    {rest : List Char} (closed : Closed rest) :
    tokensFrom none (operand.text id ++ rest) = operand.tokens ++ tokensFrom none rest := by
  cases operand with
  | number literal after =>
    have closed := after.closed closed
    rw [Operand.text, List.append_assoc, tokens_literal literal closed.ended fun head =>
      (closed _ head).2 rfl, tokens_gap]
    rfl
  | name name after =>
    have identifier := identifiers name (List.mem_singleton_self name)
    rw [Operand.text, List.append_assoc, id,
      tokens_identifier identifier (after.closed closed).ended, tokens_gap]
    rfl
  | group before inside after =>
    have last : Closed (')' :: (after.chars ++ rest)) := closed_cons (by decide) _
    simp only [Operand.text, List.cons_append, List.append_assoc]
    rw [tokens_open, tokens_gap, inside.lexed identifiers last, tokens_close, tokens_gap]
    simp only [Operand.tokens, List.cons_append, List.append_assoc]
    rfl
  | signed minus after operand =>
    simp only [Operand.text, List.cons_append, List.append_assoc]
    rw [tokens_signChar, tokens_gap, operand.lexed identifiers closed]
    rfl

theorem Expression.lexed (expression : Expression)
    (identifiers : ∀ name ∈ expression.names, isIdentifier name.chars = true) {rest : List Char}
    (closed : Closed rest) :
    tokensFrom none (expression.text id ++ rest) = expression.tokens ++ tokensFrom none rest := by
  obtain ⟨first, chain⟩ := expression
  obtain ⟨identifiers_first, identifiers_chain⟩ := List.forall_mem_append.1 identifiers
  rw [Expression.text, List.append_assoc, first.lexed identifiers_first (chain.closed closed),
    chain.lexed identifiers_chain closed, Expression.tokens, List.append_assoc]

theorem Chain.lexed (chain : Chain)
    (identifiers : ∀ name ∈ chain.names, isIdentifier name.chars = true)
    {rest : List Char} (closed : Closed rest) :
    tokensFrom none (chain.text id ++ rest) = chain.tokens ++ tokensFrom none rest := by
  cases chain with
  | done => rfl
  | more connective after operand chain =>
    obtain ⟨identifiers_operand, identifiers_chain⟩ := List.forall_mem_append.1 identifiers
    simp only [Chain.text, List.cons_append, List.append_assoc]
    rw [tokens_connective, tokens_gap, operand.lexed identifiers_operand (chain.closed closed),
      chain.lexed identifiers_chain closed, Chain.tokens, List.cons_append, List.append_assoc]

end

end Arithmetic

end Workbench
