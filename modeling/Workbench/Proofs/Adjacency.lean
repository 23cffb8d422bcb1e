import Mathlib.Data.List.Chain
import Workbench.Proofs.Scoping
import Workbench.Proofs.Tiling

/-! Which tokens stand side by side in a program, and how the lines of an accepted text start.

A name is never followed by another word, and a word for a type only by a name or a semicolon. So
where a reader of lines sees the word for a type, a blank and a run of word characters, the lexer
has found a declaration of one name: in any other case it would have cut the run into several
tokens, and no program has them in a row.
-/

set_option autoImplicit false

namespace Workbench

/-! ## Neighbours in programs -/

namespace Kind

def isWorded : Kind → Bool
  | intWord | floatWord | printWord | ifWord | elseWord | typeName | identifier | real | integer =>
    true
  | _ => false

def isValue : Kind → Bool
  | identifier | real | integer => true
  | _ => false

def leads : Kind → Bool
  | assign | plus | minus | times | divide | relation | equality | openParen => true
  | _ => false

/-- Whether a token of the second kind may stand right behind one of the first. -/
def admits (first second : Kind) : Bool :=
  second != .quotation &&
    match first with
    | intWord | floatWord => second == .identifier || second == .semicolon
    | printWord | ifWord | elseWord | typeName => second != .assign
    | identifier => !second.isWorded
    | _ => !first.leads || !second.isWorded || second.isValue

theorem not_quotation_of_admits {first second : Kind} (admitted : first.admits second = true) :
    second ≠ .quotation :=
  bne_iff_ne.1 (Bool.and_eq_true_iff.1 admitted).1

def Linked (kinds : List Kind) : Prop :=
  kinds.IsChain fun first second => first.admits second = true

theorem Linked.cons {first second : Kind} {rest : List Kind} (admitted : first.admits second = true)
    (linked : Linked (second :: rest)) : Linked (first :: second :: rest) :=
  List.IsChain.cons_cons admitted linked

/-- The ends of values and statements, behind which everything may follow. -/
def isFree : Kind → Bool
  | real | integer | semicolon | closeParen | openBrace | closeBrace => true
  | _ => false

theorem admits_of_isFree {first second : Kind} (free : first.isFree = true) :
    first.admits second = (second != .quotation) := by
  cases first <;> simp_all [isFree, admits, leads]

theorem admits_of_leads {first second : Kind} (leads : first.leads = true) :
    first.admits second = (second != .quotation && (!second.isWorded || second.isValue)) := by
  cases first <;> simp_all [Kind.leads, admits]

theorem Linked.free {first other : Kind} {rest : List Kind} (linked : Linked (first :: rest))
    (free : other.isFree = true) : Linked (other :: rest) := by
  cases rest with
  | nil => exact List.isChain_singleton other
  | cons second rest =>
    obtain ⟨admitted, linked⟩ := List.isChain_cons_cons.1 linked
    refine Linked.cons ?_ linked
    rw [admits_of_isFree free, bne_iff_ne]
    exact not_quotation_of_admits admitted

theorem Linked.missing {sign : Kind} {rest : List Kind} (linked : Linked (.identifier :: rest))
    (leads : sign.leads = true) : Linked (sign :: rest) := by
  cases rest with
  | nil => exact List.isChain_singleton sign
  | cons second rest =>
    obtain ⟨admitted, linked⟩ := List.isChain_cons_cons.1 linked
    refine Linked.cons ?_ linked
    rw [admits, Bool.and_eq_true] at admitted
    rw [admits_of_leads leads, admitted.1, show second.isWorded = false by simpa using admitted.2]
    rfl

theorem Linked.unquoted {first : Kind} {rest : List Kind} (linked : Linked (first :: rest)) :
    ∀ kind ∈ rest, kind ≠ .quotation := by
  induction rest generalizing first with
  | nil => simp
  | cons second rest ih =>
    obtain ⟨admitted, linked⟩ := List.isChain_cons_cons.1 linked
    exact List.forall_mem_cons.2 ⟨not_quotation_of_admits admitted, ih linked⟩

end Kind

namespace Grammar

open Kind (Linked)

theorem identifier_admits_of_isOperator {sign : Kind} (operator : sign.isOperator = true) :
    Kind.identifier.admits sign = true ∧ sign.leads = true := by
  cases sign <;> simp_all [Kind.isOperator] <;> decide

theorem identifier_admits_of_isComparison {sign : Kind} (comparison : sign.isComparison = true) :
    Kind.identifier.admits sign = true ∧ sign.leads = true := by
  cases sign <;> simp_all [Kind.isComparison] <;> decide

-- An expression may end in a name, so what follows it has to be something that may follow a name.
-- What stands before it is a sign.
mutual

theorem Factor.linked : {factor : List Kind} → Factor factor → {sign : Kind} → sign.leads = true →
    {rest : List Kind} →
    Linked (.identifier :: rest) → Linked (sign :: (factor ++ rest))
  | _, .integer, _, leads, _, linked =>
    (linked.free (by decide) : Linked (.integer :: _)).cons ((Kind.admits_of_leads leads).trans rfl)
  | _, .real, _, leads, _, linked =>
    (linked.free (by decide) : Linked (.real :: _)).cons ((Kind.admits_of_leads leads).trans rfl)
  | _, .name, _, leads, _, linked => linked.cons ((Kind.admits_of_leads leads).trans rfl)
  | _, .group valued, _, leads, rest, linked => by
    have closed : Linked (.identifier :: .closeParen :: rest) :=
      (linked.free (by decide) : Linked (.closeParen :: _)).cons (by decide)
    have inside : Linked (.openParen :: _) := valued.linked rfl closed
    simpa using inside.cons ((Kind.admits_of_leads leads).trans rfl)

theorem Operand.linked :
    {operand : List Kind} → Operand operand → {sign : Kind} → sign.leads = true →
    {rest : List Kind} → Linked (.identifier :: rest) → Linked (sign :: (operand ++ rest))
  | _, .missing, _, leads, _, linked => linked.missing leads
  | _, .given factor, _, leads, _, linked => factor.linked leads linked

theorem Tail.linked :
    {tail : List Kind} → Tail tail → {rest : List Kind} → Linked (.identifier :: rest) →
    Linked (.identifier :: (tail ++ rest))
  | _, .done, _, linked => linked
  | _, .more operator given following, _, linked => by
    obtain ⟨admitted, leads⟩ := identifier_admits_of_isOperator operator
    simpa using (given.linked leads (following.linked linked)).cons admitted

theorem Expression.linked :
    {value : List Kind} → Expression value → {sign : Kind} → sign.leads = true →
    {rest : List Kind} → Linked (.identifier :: rest) → Linked (sign :: (value ++ rest))
  | _, .mk given following, _, leads, _, linked => by
    simpa using given.linked leads (following.linked linked)

end

theorem Condition.linked {condition rest : List Kind} (tested : Condition condition)
    (linked : Linked (.identifier :: rest)) : Linked (.openParen :: (condition ++ rest)) := by
  cases tested with
  | mk left comparison right =>
    obtain ⟨admitted, leads⟩ := identifier_admits_of_isComparison comparison
    have second := (right.linked leads linked).cons admitted
    simpa using left.linked (by decide : Kind.openParen.leads = true) second

theorem Simple.linked {kinds rest : List Kind} (simple : Simple kinds)
    (linked : Linked (.semicolon :: rest)) :
    Linked (.semicolon :: (kinds ++ rest)) := by
  have closed : Linked (.identifier :: .semicolon :: rest) := linked.cons (by decide)
  have typed {word : Kind} (isWord : word.isTypeWord = true) : Kind.semicolon.admits word = true ∧
      word.admits .semicolon = true ∧ word.admits .identifier = true := by
    cases word <;> simp_all [Kind.isTypeWord] <;> decide
  -- Each statement is linked from its end: what follows it first, then its own tokens one by one.
  cases simple with
  | bare isWord =>
    obtain ⟨before, after, -⟩ := typed isWord
    exact (linked.cons after).cons before
  | declaration isWord =>
    obtain ⟨before, -, after⟩ := typed isWord
    exact (closed.cons after).cons before
  | initialized isWord valued =>
    obtain ⟨before, -, after⟩ := typed isWord
    have value := valued.linked (by decide : Kind.assign.leads = true) closed
    have named := value.cons (by decide : Kind.identifier.admits .assign = true)
    simpa using (named.cons after).cons before
  | assignment valued given =>
    have value := valued.linked (by decide : Kind.assign.leads = true) closed
    have named := value.cons (by decide : Kind.identifier.admits .assign = true)
    simpa using named.cons (by decide : Kind.semicolon.admits .identifier = true)
  | print valued =>
    have ended : Linked (.identifier :: .closeParen :: .semicolon :: rest) :=
      (linked.cons (by decide) : Linked (.closeParen :: _)).cons (by decide)
    have value := valued.linked (by decide : Kind.openParen.leads = true) ended
    have worded := value.cons (by decide : Kind.printWord.admits .openParen = true)
    simpa using worded.cons (by decide : Kind.semicolon.admits .printWord = true)

theorem Condition.linked_head {condition rest : List Kind} (tested : Condition condition)
    (linked : Linked (.semicolon :: rest)) :
    Linked (.semicolon :: .ifWord :: .openParen ::
      (condition ++ .closeParen :: .openBrace :: rest)) := by
  have opened : Linked (.openBrace :: rest) := linked.free (by decide)
  have closed : Linked (.identifier :: .closeParen :: .openBrace :: rest) :=
    (opened.cons (by decide) : Linked (.closeParen :: _)).cons (by decide)
  have worded := (tested.linked closed).cons (by decide : Kind.ifWord.admits .openParen = true)
  exact worded.cons (by decide)

mutual

theorem Statement.linked :
    {kinds : List Kind} → Statement kinds → {rest : List Kind} → Linked (.semicolon :: rest) →
    Linked (.semicolon :: (kinds ++ rest))
  | _, .simple simple, _, linked => simple.linked linked
  | _, .conditional tested body, rest, linked => by
    have closed : Linked (.semicolon :: .closeBrace :: rest) :=
      (linked.free (by decide) : Linked (.closeBrace :: _)).cons (by decide)
    simpa using tested.linked_head (body.linked closed)
  | _, .alternative tested body other, rest, linked => by
    have closed : Linked (.semicolon :: .closeBrace :: rest) :=
      (linked.free (by decide) : Linked (.closeBrace :: _)).cons (by decide)
    have opened := (other.linked closed).free (by decide : Kind.openBrace.isFree = true)
    have worded := opened.cons (by decide : Kind.elseWord.admits .openBrace = true)
    have between := worded.cons (by decide : Kind.closeBrace.admits .elseWord = true)
    simpa using tested.linked_head (body.linked (between.cons (by decide)))

theorem Statements.linked : {kinds : List Kind} → Statements kinds → {rest : List Kind} →
    Linked (.semicolon :: rest) → Linked (.semicolon :: (kinds ++ rest))
  | _, .none, _, linked => linked
  | _, .more first others, _, linked => by
    simpa using first.linked (others.linked linked)

end

theorem Unfinished.linked {kinds : List Kind} (unfinished : Unfinished kinds) :
    Linked (.semicolon :: kinds) := by
  cases unfinished with
  | assignment valued given =>
    have value := valued.linked (by decide : Kind.assign.leads = true) (List.isChain_singleton _)
    have named := value.cons (by decide : Kind.identifier.admits .assign = true)
    simpa using named.cons (by decide : Kind.semicolon.admits .identifier = true)
  | print valued =>
    have closed : Linked [.identifier, .closeParen] :=
      (List.isChain_singleton Kind.closeParen : Linked [.closeParen]).cons (by decide)
    have value := valued.linked (by decide : Kind.openParen.leads = true) closed
    have worded := value.cons (by decide : Kind.printWord.admits .openParen = true)
    simpa using worded.cons (by decide : Kind.semicolon.admits .printWord = true)

/-- In a program every token admits the next one, and the first could stand behind a semicolon. -/
theorem Program.linked {kinds : List Kind} (program : Program kinds) :
    Linked (.semicolon :: kinds) := by
  cases program with
  | finished statements => simpa using statements.linked (List.isChain_singleton Kind.semicolon)
  | unfinished statements last => exact statements.linked last.linked

end Grammar

/-! ## Characters -/

/-- A character of a text without quotations that the lexer knows: it is no dollar, and if it is a
word character, it starts a name or is a digit. -/
def isLegible (c : Char) : Bool :=
  c != '"' && c != '$' && (!Text.isWord c || Pattern.startsName c || Text.isDecimal c)

namespace Pattern

theorem isLegible_of_isDecimal {c : Char} (decimal : Text.isDecimal c = true) :
    isLegible c = true := by
  have known : c ≠ '"' ∧ c ≠ '$' := by
    constructor <;> rintro rfl <;> exact absurd decimal (by decide)
  simp [isLegible, known, decimal]

theorem isLegible_of_continuesName {c : Char} (continues : continuesName c = true) :
    isLegible c = true := by
  have known : c ≠ '"' ∧ c ≠ '$' := by
    constructor <;> rintro rfl <;> exact absurd continues (by decide)
  simp only [continuesName, Char.isAlphanum, Bool.or_eq_true] at continues
  rcases continues with (letter | digit) | line
  · simp [isLegible, known, startsName, letter]
  · exact isLegible_of_isDecimal (Text.isDecimal_of_isDigit digit)
  · simp [isLegible, known, startsName, line]

theorem isLegible_of_isSpace {c : Char} (space : isSpace c = true) : isLegible c = true := by
  rcases isSpace_cases space with rfl | rfl | rfl <;> decide

def spelledLegibly : Pattern → Bool
  | words spellings | signs spellings => spellings.all fun spelling => spelling.toList.all isLegible
  | blanks | identifier | real | integer | quotation => true

theorem isLegible_of_lexeme? {pattern : Pattern} (spelled : pattern.spelledLegibly = true)
    (unquoted : pattern ≠ quotation) {before : Option Char} {text lexeme : List Char} :
    pattern.lexeme? before text = some lexeme → ∀ c ∈ lexeme, isLegible c = true := by
  have digits {text : List Char} : ∀ c ∈ text.takeWhile Text.isDecimal, isLegible c = true :=
    fun c member => isLegible_of_isDecimal (List.mem_takeWhile_imp member)
  have chosen {spellings : List String} {accepts : String → Bool}
      (legible : (spellings.all fun spelling => spelling.toList.all isLegible) = true)
      (taken : (spellings.find? accepts).map (·.toList) = some lexeme) :
        ∀ c ∈ lexeme, isLegible c = true := by
    obtain ⟨spelling, found, rfl⟩ := Option.map_eq_some_iff.1 taken
    exact List.all_eq_true.1 (List.all_eq_true.1 legible spelling (List.mem_of_find?_eq_some found))
  -- The same cases as for prefixes of the text: only those count in which something is taken.
  fun_cases lexeme? before text pattern with
  | case1 spellings => exact chosen spelled
  | case2 spellings => exact chosen spelled
  | case4 _ some_blank =>
    intro taken
    obtain rfl := Option.some.inj taken
    exact fun c member => isLegible_of_isSpace (List.mem_takeWhile_imp member)
  | case6 c rest starts =>
    intro taken
    obtain rfl := Option.some.inj taken
    refine List.forall_mem_cons.2 ⟨isLegible_of_continuesName (continuesName_of_startsName starts),
      fun d member => ?_⟩
    exact isLegible_of_continuesName (List.mem_takeWhile_imp member)
  | case10 _ tail point some_digit some_place =>
    intro taken
    obtain rfl := Option.some.inj taken
    exact List.forall_mem_append.2 ⟨digits, List.forall_mem_cons.2 ⟨by decide, digits⟩⟩
  | case13 _ some_digit =>
    intro taken
    obtain rfl := Option.some.inj taken
    exact digits
  | case14 => exact absurd rfl unquoted
  | case3 | case5 | case7 | case8 | case9 | case11 | case12 | case15 =>
    rintro ⟨⟩

end Pattern

/-- A text without lexical errors and quotations is legible. -/
theorem isLegible_of_lex {source : String} (faultless : (lex source).errors = [])
    (unquoted : ∀ token ∈ (lex source).tokens, token.kind ≠ .quotation) :
    ∀ c ∈ source.toList, isLegible c = true := by
  have spelled : ∀ row ∈ Row.table, row.pattern.spelledLegibly = true := by decide
  have kinds : ∀ row ∈ Row.table, row.pattern = .quotation → row.kind = some .quotation := by decide
  intro c member
  have covered : Tiled source.toList 0 ((pieces none source.toList).map Piece.tile) :=
    @tiled_pieces [] source.toList fun outside => by cases outside
  have text : ((pieces none source.toList).map Piece.tile).flatMap Tile.text = source.toList :=
    covered.flatMap_text
  rw [← text] at member
  obtain ⟨tile, listed, inside⟩ := List.mem_flatMap.1 member
  obtain ⟨piece, tiled, rfl⟩ := List.mem_map.1 listed
  rw [piece.text_tile] at inside
  -- Every character belongs to a piece, and an unknown one would have been reported.
  cases piece with
  | unknown d =>
    have reported : LexicalError.unknown d ∈ (lex source).errors :=
      List.mem_filterMap.2 ⟨_, tiled, rfl⟩
    rw [faultless] at reported
    cases reported
  | taken index row lexeme =>
    obtain ⟨before, rest, found⟩ := first?_of_mem_pieces tiled
    have listed := Row.mem_of_first? found
    have plain : row.pattern ≠ .quotation := by
      intro quotation
      have made : (Piece.taken index row lexeme).token? =
          some ⟨String.ofList lexeme, .quotation, row.number⟩ := by
        rw [Piece.token?, kinds row listed quotation]
        rfl
      exact unquoted _ (List.mem_filterMap.2 ⟨_, tiled, made⟩) rfl
    exact Pattern.isLegible_of_lexeme? (spelled row listed) plain
      (Row.first?_eq_some.1 found).1 c inside

/-! ## The token at a word character -/

section
variable {before : Option Char} {c : Char} {rest : List Char}

theorem Row.first?_decimal (decimal : Text.isDecimal c = true)
    (unnamed : Pattern.startsName c = false) :
    ∃ index row lexeme kind, Row.first? before (c :: rest) = some (index, row, lexeme) ∧
      row.kind = some kind ∧
      kind.isWorded = true ∧ kind ≠ .identifier := by
  have wordless := Pattern.standsAlone_start Pattern.startsName (by decide) before
    (show ∀ d ∈ (c :: rest).head?, Pattern.startsName d = false by rintro _ ⟨⟩; exact unnamed)
  have inked : Pattern.blanks.lexeme? none (c :: rest) = none := by
    simp [Pattern.lexeme?, not_isSpace_of_isWord (Text.isWord_of_isDecimal decimal)]
  have unlike : Pattern.identifier.lexeme? none (c :: rest) = none := by
    simp [Pattern.lexeme?, unnamed]
  rw [Row.first?_wordless before wordless, Row.drop_words, Row.firstOf_passed inked,
    Row.firstOf_passed unlike]
  -- A point with digits behind it makes a real, and the digits alone an integer.
  cases point : Pattern.real.lexeme? none (c :: rest) with
  | some lexeme => exact ⟨8, _, lexeme, .real, Row.firstOf_taken point _, rfl, rfl, by decide⟩
  | none =>
    have digits : Pattern.integer.lexeme? none (c :: rest) =
        some (c :: rest.takeWhile Text.isDecimal) := by
      simp [Pattern.lexeme?, decimal]
    rw [Row.firstOf_passed point]
    exact ⟨9, _, _, .integer, Row.firstOf_taken digits _, rfl, rfl, by decide⟩

theorem Row.first?_legible (legible : isLegible c = true) (word : Text.isWord c = true) :
    (Pattern.startsName c = true ∧
      (∀ word ∈ reserved, Pattern.standsAlone before word (c :: rest) = false)) ∨
      ∃ index row lexeme kind, Row.first? before (c :: rest) = some (index, row, lexeme) ∧
        row.kind = some kind ∧
        kind.isWorded = true ∧ kind ≠ .identifier := by
  by_cases starts : Pattern.startsName c = true
  · by_cases wordless : ∀ word ∈ reserved, Pattern.standsAlone before word (c :: rest) = false
    · exact Or.inl ⟨starts, wordless⟩
    · simp only [not_forall, Bool.not_eq_false] at wordless
      obtain ⟨spelling, member, alone⟩ := wordless
      -- A reserved word is taken by a row of its own, before names are tried.
      have kinds : ∀ word ∈ reserved, (Row.first? none word).any (fun found =>
          found.2.1.kind.any fun kind => kind.isWorded && kind != .identifier) = true := by decide
      obtain ⟨⟨index, row, lexeme⟩, found, worded⟩ :=
        (Option.any_eq_true ..).1 (kinds spelling member)
      obtain ⟨kind, known, worded⟩ := (Option.any_eq_true ..).1 worded
      rw [Bool.and_eq_true, bne_iff_ne] at worded
      exact Or.inr ⟨index, row, lexeme, kind,
        (Row.first?_reserved member alone).trans found, known, worded⟩
  · have decimal : Text.isDecimal c = true := by
      simpa [isLegible, word, starts] using (Bool.and_eq_true_iff.1 legible).2
    exact Or.inr (Row.first?_decimal decimal (by simpa using starts))

theorem tokensFrom_first? {index : Nat} {row : Row} {lexeme : List Char} {kind : Kind}
    {text : List Char}
    (found : Row.first? before text = some (index, row, lexeme)) (known : row.kind = some kind) :
    ∃ more, text = lexeme ++ more ∧
      tokensFrom before text = ⟨String.ofList lexeme, kind, row.number⟩ ::
        tokensFrom lexeme.getLast? more := by
  obtain ⟨-, more, rfl⟩ := Row.first?_prefix found
  refine ⟨more, rfl, ?_⟩
  rw [tokensFrom_taken found, Piece.token?, known]
  rfl

theorem isWorded_head_tokensFrom (legible : isLegible c = true) (word : Text.isWord c = true) :
    ∃ token more, tokensFrom before (c :: rest) = token :: more ∧ token.kind.isWorded = true := by
  rcases @Row.first?_legible before c rest legible word with ⟨starts, wordless⟩ | other
  · obtain ⟨more, -, tokens⟩ := tokensFrom_first? (Row.first?_name starts wordless) rfl
    exact ⟨_, _, tokens, rfl⟩
  · obtain ⟨index, row, lexeme, kind, found, known, worded, -⟩ := other
    obtain ⟨more, -, tokens⟩ := tokensFrom_first? found known
    exact ⟨_, _, tokens, worded⟩

end

/-! ## Lines -/

namespace Line

theorem name?_eq_some {text name after : List Char} (read : name? text = some (name, after)) :
    Word name ∧ Ended after ∧ text = name ++ after := by
  rw [name?] at read
  split at read
  · cases read
  · next some_char =>
    obtain ⟨rfl, rfl⟩ := Prod.mk.inj (Option.some.inj read)
    refine ⟨⟨some_char, fun c => List.mem_takeWhile_imp⟩, fun c head => ?_,
      List.takeWhile_append_dropWhile.symm⟩
    simpa [Option.mem_def.1 head] using List.head?_dropWhile_not Text.isWord text

theorem typedName?_eq_some {text varType name after : List Char}
    (read : typedName? text = some (varType, name, after)) :
    ∃ gap, varType ∈ typeWords ∧ gap ≠ [] ∧ Blanks gap ∧ Word name ∧ Ended after ∧
      text = varType ++ (gap ++ (name ++ after)) := by
  simp only [typedName?, Option.bind_eq_bind, Option.bind_eq_some_iff] at read
  obtain ⟨word, found, read⟩ := read
  split at read
  case isFalse => cases read
  case isTrue apart =>
    obtain ⟨⟨found_name, rest⟩, named, same⟩ := Option.bind_eq_some_iff.1 read
    obtain ⟨rfl, rfl, rfl⟩ : word = varType ∧ found_name = name ∧ rest = after := by
      simpa using same
    obtain ⟨isWord, ended, split⟩ := name?_eq_some named
    have fits : word.isPrefixOf text = true := by simpa using List.find?_some found
    obtain ⟨tail, rfl⟩ := List.isPrefixOf_iff_prefix.1 fits
    rw [List.drop_left] at apart split
    refine ⟨tail.takeWhile Text.isBlank, List.mem_of_find?_eq_some found, ?_,
      fun c => List.mem_takeWhile_imp, isWord, ended, ?_⟩
    · cases tail with
      | nil => cases apart
      | cons c tail =>
        have blank : Text.isBlank c = true := apart
        simp [blank]
    · rw [← split, Text.trimStart, List.takeWhile_append_dropWhile]

theorem parse?_cases {text : List Char} {line : Line} (read : parse? text = some line) :
    (∃ varType name after expression, line = .initialized varType name expression ∧
        typedName? text = some (varType, name, after) ∧ value? after = some expression) ∨
      (∃ varType name after, line = .declared varType name ∧
        typedName? text = some (varType, name, after)) ∨
      (∃ name after expression, line = .assigned name expression ∧ name? text = some (name, after) ∧
        value? after = some expression) ∨
      ∃ name after, line = .printed name ∧ name? (text.drop 6) = some (name, after) := by
  simp only [parse?, Option.orElse_eq_orElse, Option.orElse_eq_or, Option.or_eq_some_iff] at read
  rcases read with initialized | ⟨-, declared | ⟨-, assigned | ⟨-, printed⟩⟩⟩
  · simp only [initialized?, Option.bind_eq_bind, Option.bind_eq_some_iff] at initialized
    obtain ⟨⟨varType, name, after⟩, typed, expression, valued, same⟩ := initialized
    exact Or.inl ⟨varType, name, after, expression, (Option.some.inj same).symm, typed, valued⟩
  · simp only [declared?, Option.bind_eq_bind, Option.bind_eq_some_iff] at declared
    obtain ⟨⟨varType, name, after⟩, typed, same⟩ := declared
    split at same
    · exact Or.inr (Or.inl ⟨varType, name, after, (Option.some.inj same).symm, typed⟩)
    · cases same
  · simp only [assigned?, Option.bind_eq_bind, Option.bind_eq_some_iff] at assigned
    obtain ⟨⟨name, after⟩, named, expression, valued, same⟩ := assigned
    exact Or.inr
      (Or.inr (Or.inl ⟨name, after, expression, (Option.some.inj same).symm, named, valued⟩))
  · simp only [printed?, Option.bind_eq_bind] at printed
    split at printed
    · obtain ⟨⟨name, after⟩, named, same⟩ := Option.bind_eq_some_iff.1 printed
      split at same
      · exact Or.inr (Or.inr (Or.inr ⟨name, after, (Option.some.inj same).symm, named⟩))
      · cases same
    · cases printed

/-- What the lines of an accepted text are like: all characters are legible, and each token admits
the next. -/
structure Orderly (text : List Char) : Prop where
  legible : ∀ c ∈ text, isLegible c = true
  linked : Kind.Linked ((tokensFrom none text).map Token.kind)

/-- A run of word characters whose first token is a name is one name. Otherwise the name would end
inside the run, and the next token would be written with word characters, too. -/
theorem isIdentifier_of_head {name rest : List Char} (named : Word name) (ended : Ended rest)
    (legible : ∀ c ∈ name, isLegible c = true)
    (linked : Kind.Linked ((tokensFrom none (name ++ rest)).map Token.kind))
    (first : (tokensFrom none (name ++ rest)).head?.map Token.kind = some .identifier) :
    isIdentifier name = true := by
  obtain ⟨c, more, rfl⟩ := List.exists_cons_of_ne_nil named.1
  obtain ⟨legible_first, legible⟩ := List.forall_mem_cons.1 legible
  have word := named.2 c (List.mem_cons_self ..)
  rw [List.cons_append] at linked first
  rcases @Row.first?_legible none c (more ++ rest) legible_first word with
    ⟨starts, wordless⟩ | other
  -- A name is taken here, and the question is only where it ends.
  · have found := Row.first?_name starts wordless
    have continues : ∀ d ∈ more, Pattern.continuesName d = true := by
      cases stop : more.dropWhile Pattern.continuesName with
      | nil => simpa using stop
      | cons d back =>
        exfalso
        have parts : more.takeWhile Pattern.continuesName ++ d :: back = more := by
          rw [← stop, List.takeWhile_append_dropWhile]
        have inside : d ∈ more := parts ▸ List.mem_append_right _ (List.mem_cons_self ..)
        have refused : Pattern.continuesName d = false := by
          simpa [stop] using List.head?_dropWhile_not Pattern.continuesName more
        -- The name ends before this character, at which another word or number starts.
        have taken : (more ++ rest).takeWhile Pattern.continuesName =
            more.takeWhile Pattern.continuesName := by
          conv_lhs => rw [← parts, List.append_assoc, List.cons_append]
          rw [Pattern.takeWhile_append_of_neg _ _ refused, List.takeWhile_idem]
        have text : c :: (more ++ rest) = (c :: more.takeWhile Pattern.continuesName) ++ d ::
            (back ++ rest) := by
          conv_lhs => rw [← parts]
          simp
        rw [taken] at found
        rw [text] at found linked
        obtain ⟨token, others, tokens, worded⟩ := isWorded_head_tokensFrom (legible d inside)
          (named.2 d (List.mem_cons_of_mem c inside))
        rw [tokensFrom_taken found, tokens] at linked
        obtain ⟨admitted, -⟩ := List.isChain_cons_cons.1 linked
        simp [Kind.admits, worded] at admitted
    refine isIdentifier_iff.2 ⟨c, more, rfl, starts, continues, fun member => ?_⟩
    have alone := Pattern.standsAlone_self named ended
    rw [List.cons_append, wordless _ member] at alone
    cases alone
  · obtain ⟨index, row, lexeme, kind, found, known, -, unnamed⟩ := other
    obtain ⟨after, -, tokens⟩ := tokensFrom_first? found known
    rw [tokens] at first
    exact absurd (Option.some.inj first) unnamed

section
variable {name rest : List Char} (named : Word name) (legible : ∀ c ∈ name, isLegible c = true)
include named legible

theorem isWorded_head_of_word :
    ∃ token others, tokensFrom none (name ++ rest) = token :: others ∧
      token.kind.isWorded = true := by
  obtain ⟨c, more, rfl⟩ := List.exists_cons_of_ne_nil named.1
  exact isWorded_head_tokensFrom (legible c (List.mem_cons_self ..))
    (named.2 c (List.mem_cons_self ..))

theorem isIdentifier_of_linked {kind : Kind} (isWord : kind.isTypeWord = true) (ended : Ended rest)
    (linked : Kind.Linked (kind :: (tokensFrom none (name ++ rest)).map Token.kind)) :
    isIdentifier name = true := by
  obtain ⟨token, others, tokens, worded⟩ := @isWorded_head_of_word name rest named legible
  have first : token.kind = .identifier := by
    rw [tokens] at linked
    obtain ⟨admitted, -⟩ := List.isChain_cons_cons.1 linked
    have only : token.kind = .identifier ∨ token.kind = .semicolon := by
      cases kind <;> simp_all [Kind.isTypeWord, Kind.admits]
    rcases only with name | semicolon
    · exact name
    · rw [semicolon] at worded
      cases worded
  exact isIdentifier_of_head named ended legible linked.tail
    (by rw [tokens, List.head?_cons, Option.map_some, first])

theorem not_linked_names :
    ¬ Kind.Linked (.identifier :: (tokensFrom none (name ++ rest)).map Token.kind) := by
  intro linked
  obtain ⟨token, others, tokens, worded⟩ := @isWorded_head_of_word name rest named legible
  rw [tokens] at linked
  obtain ⟨admitted, -⟩ := List.isChain_cons_cons.1 linked
  simp [Kind.admits, worded] at admitted

end

/-- A typed name on a line of an accepted text is a declaration: the word in front is `int` or
`float`, and a name of the language follows. -/
theorem Orderly.tokens_typedName {text varType name after : List Char} (orderly : Orderly text)
    (read : typedName? text = some (varType, name, after)) :
    isIdentifier name = true ∧ (varType = "int".toList ∨ varType = "float".toList) ∧
      ∃ word : Token, word.kind.isTypeWord = true ∧
        tokensFrom none text = word :: ⟨String.ofList name, .identifier, some 0⟩ ::
          tokensFrom none after := by
  obtain ⟨gap, typed, apart, blank, named, ended, rfl⟩ := typedName?_eq_some read
  have gapped : Ended (gap ++ (name ++ after)) := by
    obtain ⟨c, more, rfl⟩ := List.exists_cons_of_ne_nil apart
    rintro _ ⟨⟩
    exact Text.isWord_of_isBlank (blank c (List.mem_cons_self ..))
  have skipped : tokensFrom none (gap ++ (name ++ after)) = tokensFrom none (name ++ after) := by
    rw [← tokensFrom_trimStart, Text.trimStart, List.dropWhile_append_of_pos blank,
      (named.solid.append after).dropWhile]
  have legible : ∀ c ∈ name, isLegible c = true :=
    fun c member => orderly.legible c (by simp [member])
  have linked := orderly.linked
  have declared {kind : Kind} {number : Option Int} (member : (varType, kind, number) ∈ wordKinds)
      (isWord : kind.isTypeWord = true) : isIdentifier name = true ∧ ∃ word :
        Token, word.kind.isTypeWord = true ∧
        tokensFrom none (varType ++ (gap ++ (name ++ after))) =
          word :: ⟨String.ofList name, .identifier, some 0⟩ :: tokensFrom none after := by
    have first := tokens_word member gapped
    rw [skipped] at first
    rw [first] at linked
    have identifier := isIdentifier_of_linked named legible isWord ended linked
    exact ⟨identifier, _, isWord, by rw [first, tokens_identifier identifier ended]⟩
  -- Any other word that is taken for a type is a name itself.
  have other (identifier : isIdentifier varType = true) : False := by
    rw [tokens_identifier identifier gapped, skipped] at linked
    exact not_linked_names named legible linked
  simp only [typeWords, List.mem_cons, List.not_mem_nil, or_false] at typed
  rcases typed with rfl | rfl | rfl | rfl
  · obtain ⟨identifier, written⟩ := @declared .intWord (some 23) (by decide) rfl
    exact ⟨identifier, Or.inl rfl, written⟩
  · obtain ⟨identifier, written⟩ := @declared .floatWord (some 24) (by decide) rfl
    exact ⟨identifier, Or.inr rfl, written⟩
  · exact (other (by decide)).elim
  · exact (other (by decide)).elim

end Line

/-- The tokens of an accepted text are those of its lines, and its lines are orderly. -/
theorem orderly_of_accepted {source : String} (accepted : Accepted source) :
    (lex source).tokens = (Text.contentLines source.toList).flatMap (tokensFrom none) ∧
      ∀ line ∈ Text.contentLines source.toList, Line.Orderly line := by
  obtain ⟨faultless, clean, -⟩ := accepted
  have program := (Syntax.program_of_clean (Syntax.plain_of_kinds (kinds_of_lex source)) clean).1
  have unquoted : ∀ token ∈ (lex source).tokens, token.kind ≠ .quotation :=
    fun token member => program.linked.unquoted token.kind (List.mem_map_of_mem member)
  have legible := isLegible_of_lex faultless unquoted
  have tokens : (lex source).tokens = (Text.contentLines source.toList).flatMap (tokensFrom none) :=
    tokensFrom_contentLines fun quoted => absurd (legible _ quoted) (by decide)
  refine ⟨tokens, fun line member =>
    ⟨fun c inside => legible c (Text.mem_of_mem_contentLines member inside), ?_⟩⟩
  -- The tokens of a line stand together among those of the text.
  have linked := program.linked.tail
  obtain ⟨front, back, split⟩ := List.append_of_mem member
  rw [tokens, split, List.flatMap_append, List.flatMap_cons, List.map_append,
    List.map_append] at linked
  exact linked.right_of_append.left_of_append

/-! ## The names of accepted programs -/

theorem Text.not_isDecimal_of_isLetter {c : Char} (letter : isLetter c = true) :
    isDecimal c = false := by
  have apart : ∀ first ∈ letters, ∀ second ∈ decimals, first.2 < second.1 ∨ second.2 < first.1 := by
    decide +kernel
  cases ascii : isAscii c with
  | true =>
    simp only [isLetter, isDecimal, ascii, if_true] at letter ⊢
    refine Bool.eq_false_iff.2 fun digit => Arithmetic.not_startsWord_of_isDigit digit ?_
    simp [Formula.startsWord, isLetter, ascii, letter]
  | false =>
    simp only [isLetter, isDecimal, ascii, Bool.false_eq_true, if_false, Ranges.contains,
      Ranges.holds] at letter ⊢
    obtain ⟨first, listed, inside⟩ := List.any_eq_true.1 letter
    refine List.any_eq_false.2 fun second member within => ?_
    simp only [Bool.and_eq_true, decide_eq_true_eq] at inside within
    have := apart first listed second member
    omega

section
variable {rest : List Char}

theorem startsName_of_legible {c : Char} (legible : isLegible c = true)
    (starts : Formula.startsWord c = true) :
    Pattern.startsName c = true := by
  have word := Arithmetic.isWord_of_startsWord starts
  simp only [isLegible, word, Bool.not_true, Bool.false_or, Bool.and_eq_true,
    Bool.or_eq_true] at legible
  rcases legible.2 with named | decimal
  · exact named
  · simp only [Formula.startsWord, Bool.or_eq_true, beq_iff_eq] at starts
    rcases starts with letter | rfl
    · rw [Text.not_isDecimal_of_isLetter letter] at decimal
      cases decimal
    · rfl

theorem Arithmetic.Name.isIdentifier_or_reserved (name : Name)
    (legible : ∀ c ∈ name.chars, isLegible c = true)
    (ended : Line.Ended rest)
    (linked : Kind.Linked ((tokensFrom none (name.chars ++ rest)).map Token.kind)) :
    isIdentifier name.chars = true ∨ name.chars ∈ reserved := by
  have named := Program.word_of_name name
  obtain ⟨c, more, chars, starts, -⟩ := isName_iff.1 name.well
  by_cases wordless : ∀ word ∈ reserved, Pattern.standsAlone none word (name.chars ++ rest) = false
  · have starts := startsName_of_legible (legible c (chars ▸ List.mem_cons_self ..)) starts
    refine Or.inl (Line.isIdentifier_of_head named ended legible linked ?_)
    rw [chars, List.cons_append] at wordless ⊢
    obtain ⟨after, -, tokens⟩ := tokensFrom_first? (Row.first?_name starts wordless) rfl
    rw [tokens]
    rfl
  · simp only [not_forall, Bool.not_eq_false] at wordless
    obtain ⟨word, member, alone⟩ := wordless
    rw [Pattern.standsAlone_word (isWord_of_mem_reserved word member) named ended] at alone
    exact Or.inr (of_decide_eq_true alone ▸ member)

/-- No reserved word stands behind a sign that leads to a value, and none before an equals sign. -/
theorem tokens_reserved {word : List Char} (member : word ∈ reserved) (ended : Line.Ended rest) :
    ∃ token : Token, tokensFrom none (word ++ rest) = token :: tokensFrom none rest ∧
      (∀ sign : Kind, sign.leads = true → sign.admits token.kind = false) ∧
        token.kind.admits .assign = false := by
  have listed : ∀ word ∈ reserved, ∃ entry ∈ wordKinds, entry.1 = word := by decide
  have kinds : ∀ entry ∈ wordKinds, (!entry.2.1.isWorded || entry.2.1.isValue) = false ∧
      entry.2.1.admits .assign = false := by decide
  obtain ⟨⟨_, kind, number⟩, entered, rfl⟩ := listed word member
  obtain ⟨inner, before⟩ := kinds _ entered
  refine ⟨_, tokens_word entered ended, fun sign leads => ?_, before⟩
  rw [Kind.admits_of_leads leads, inner, Bool.and_false]

theorem Arithmetic.Name.isIdentifier_behind (name : Name)
    (legible : ∀ c ∈ name.chars, isLegible c = true)
    (ended : Line.Ended rest) {sign : Kind} (leads : sign.leads = true)
    (linked : Kind.Linked (sign :: (tokensFrom none (name.chars ++ rest)).map Token.kind)) :
    isIdentifier name.chars = true := by
  refine (name.isIdentifier_or_reserved legible ended linked.tail).resolve_right fun member => ?_
  obtain ⟨token, tokens, refused, -⟩ := tokens_reserved member ended
  rw [tokens, List.map_cons] at linked
  have admitted := (List.isChain_cons_cons.1 linked).1
  rw [refused sign leads] at admitted
  cases admitted

theorem Arithmetic.Name.isIdentifier_before (name : Name)
    (legible : ∀ c ∈ name.chars, isLegible c = true) (ended : Line.Ended rest) {others : List Token}
    (assigned : tokensFrom none rest = ⟨"=", .assign, some 18⟩ :: others)
    (linked : Kind.Linked ((tokensFrom none (name.chars ++ rest)).map Token.kind)) :
    isIdentifier name.chars = true := by
  refine (name.isIdentifier_or_reserved legible ended linked).resolve_right fun member => ?_
  obtain ⟨token, tokens, -, refused⟩ := tokens_reserved member ended
  rw [tokens, assigned, List.map_cons, List.map_cons] at linked
  have admitted := (List.isChain_cons_cons.1 linked).1
  rw [refused] at admitted
  cases admitted

end

namespace Arithmetic

-- What stands before an operand is a sign, and what stands before the rest of a chain does not
-- matter.
mutual

theorem Operand.identifiers (operand : Operand) {rest : List Char} (closed : Closed rest)
    (legible : ∀ c ∈ operand.text id, isLegible c = true) {sign : Kind} (leads : sign.leads = true)
    (linked : Kind.Linked (sign :: (tokensFrom none (operand.text id ++ rest)).map Token.kind)) :
    ∀ name ∈ operand.names, isIdentifier name.chars = true := by
  cases operand with
  | number literal after => exact List.forall_mem_nil _
  | name name after =>
    rw [Operand.text, List.append_assoc] at linked
    refine List.forall_mem_singleton.2
      (name.isIdentifier_behind ?_ (after.closed closed).ended leads linked)
    exact fun c member => legible c (List.mem_append_left _ member)
  | group before inside after =>
    have last : Closed (')' :: (after.chars ++ rest)) := closed_cons (by decide) _
    simp only [Operand.text, List.cons_append, List.append_assoc] at linked
    rw [tokens_open, tokens_gap] at linked
    refine inside.identifiers last (fun c member => legible c ?_)
      (by decide : Kind.openParen.leads = true) linked.tail
    simp [Operand.text, member]
  | signed minus after operand =>
    simp only [Operand.text, List.cons_append, List.append_assoc] at linked
    rw [tokens_signChar, tokens_gap] at linked
    refine operand.identifiers closed (fun c member => legible c ?_) ?_ linked.tail
    · simp [Operand.text, member]
    · cases minus <;> rfl

theorem Expression.identifiers (expression : Expression) {rest : List Char} (closed : Closed rest)
    (legible : ∀ c ∈ expression.text id, isLegible c = true) {sign : Kind}
    (leads : sign.leads = true)
    (linked : Kind.Linked (sign :: (tokensFrom none (expression.text id ++ rest)).map Token.kind)) :
    ∀ name ∈ expression.names, isIdentifier name.chars = true := by
  obtain ⟨first, chain⟩ := expression
  obtain ⟨legible_first, legible⟩ := List.forall_mem_append.1 legible
  rw [Expression.text, List.append_assoc] at linked
  have identifiers := first.identifiers (chain.closed closed) legible_first leads linked
  rw [first.lexed identifiers (chain.closed closed), List.map_append, ← List.cons_append] at linked
  exact List.forall_mem_append.2 ⟨identifiers,
    chain.identifiers closed legible linked.right_of_append⟩

theorem Chain.identifiers (chain : Chain) {rest : List Char} (closed : Closed rest)
    (legible : ∀ c ∈ chain.text id, isLegible c = true)
    (linked : Kind.Linked ((tokensFrom none (chain.text id ++ rest)).map Token.kind)) :
    ∀ name ∈ chain.names, isIdentifier name.chars = true := by
  cases chain with
  | done => exact List.forall_mem_nil _
  | more connective after operand chain =>
    simp only [Chain.text, List.forall_mem_cons, List.forall_mem_append] at legible
    simp only [Chain.text, List.cons_append, List.append_assoc] at linked
    rw [tokens_connective, tokens_gap, List.map_cons] at linked
    have leads : connective.token.kind.leads = true := by cases connective <;> rfl
    have identifiers := operand.identifiers (chain.closed closed) legible.2.2.1 leads linked
    rw [operand.lexed identifiers (chain.closed closed), List.map_append,
      ← List.cons_append] at linked
    exact List.forall_mem_append.2 ⟨identifiers,
      chain.identifiers closed legible.2.2.2 linked.right_of_append⟩

end

end Arithmetic

namespace Program

open Arithmetic

theorem identifiers_valueText {before after : Gap} {value : Expression}
    (legible : ∀ c ∈ valueText before after value, isLegible c = true)
    (linked : Kind.Linked ((tokensFrom none (valueText before after value)).map Token.kind)) :
    Identifiers value.names := by
  rw [tokens_equals, List.map_cons] at linked
  refine value.identifiers (closed_cons (by decide) []) (fun c member => legible c ?_)
    (by decide : Kind.assign.leads = true) linked
  simp [valueText, member]

section
variable {type : TypeWord} {space : Space} {name : Name} {rest : List Char}
    (ended : Line.Ended rest)
include ended

theorem TypeWord.identifier (legible : ∀ c ∈ name.chars, isLegible c = true)
    (linked : Kind.Linked
      ((tokensFrom none (type.chars ++ (space.gap.chars ++ (name.chars ++ rest)))).map
        Token.kind)) :
    isIdentifier name.chars = true ∧ Kind.Linked ((tokensFrom none rest).map Token.kind) := by
  have isWord : type.token.kind.isTypeWord = true := by cases type <;> rfl
  rw [type.lexed (space.ended _), tokens_gap, List.map_cons] at linked
  have identifier := Line.isIdentifier_of_linked (word_of_name name) legible isWord ended linked
  rw [tokens_identifier identifier ended] at linked
  exact ⟨identifier, linked.tail.tail⟩

end

theorem Simple.identifiers (simple : Simple) (orderly : Line.Orderly simple.text) :
    Identifiers simple.names := by
  obtain ⟨legible, linked⟩ := orderly
  cases simple with
  | declared type space name =>
    have ended : Line.Ended [';'] := (closed_cons (by decide) []).ended
    have named : ∀ c ∈ name.chars, isLegible c = true :=
      fun c member => legible c (by simp [text, member])
    exact List.forall_mem_singleton.2 (TypeWord.identifier ended named linked).1
  | initialized type space name before after value =>
    have ended := (valueText_closed before after value).ended
    simp only [text, List.forall_mem_append] at legible
    obtain ⟨identifier, linked⟩ := TypeWord.identifier ended legible.2.2.1 linked
    exact List.forall_mem_cons.2 ⟨identifier, identifiers_valueText legible.2.2.2 linked⟩
  | assigned name before after value =>
    have ended := (valueText_closed before after value).ended
    obtain ⟨named, valued⟩ := List.forall_mem_append.1 legible
    have identifier :=
      name.isIdentifier_before named ended (tokens_equals before after value) linked
    rw [text, tokens_identifier identifier ended] at linked
    exact List.forall_mem_cons.2 ⟨identifier, identifiers_valueText valued linked.tail⟩
  | printed name =>
    have opened : Line.Ended ('(' :: (name.chars ++ [')', ';'])) :=
      (closed_cons (by decide) _).ended
    have ended : Line.Ended [')', ';'] := (closed_cons (by decide) _).ended
    have named : ∀ c ∈ name.chars, isLegible c = true :=
      fun c member => legible c (by simp [text, member])
    have tokens : tokensFrom none (printed name).text =
      printToken :: openToken :: tokensFrom none (name.chars ++ [')', ';']) :=
      (tokens_print opened).trans (congrArg _ (tokens_open _))
    rw [tokens] at linked
    exact List.forall_mem_singleton.2
      (name.isIdentifier_behind named ended (by decide : Kind.openParen.leads = true) linked.tail)

theorem Test.identifiers (test : Test) (orderly : Line.Orderly test.text) :
    Identifiers test.names := by
  obtain ⟨legible, linked⟩ := orderly
  have opened : ∀ rest, Line.Ended (test.outer.chars ++ '(' :: rest) :=
    fun rest => (test.outer.closed (closed_cons (by decide) rest)).ended
  have middle : ∀ rest, Closed (test.comparison.chars ++ rest) := by
    intro rest
    cases test.comparison <;> exact closed_cons (by decide) _
  have leads : test.comparison.token.kind.leads = true := by cases test.comparison <;> rfl
  have legible_left : ∀ c ∈ test.left.text id, isLegible c = true :=
    fun c member => legible c (by simp [text, member])
  have legible_right : ∀ c ∈ test.right.text id, isLegible c = true :=
    fun c member => legible c (by simp [text, member])
  rw [Test.text, tokens_if (opened _), tokens_gap, tokens_open, tokens_gap, List.map_cons,
    List.map_cons] at linked
  have left :=
    test.left.identifiers (middle _) legible_left
      (by decide : Kind.openParen.leads = true) linked.tail
  rw [test.left.lexed left (middle _), test.comparison.lexed, tokens_gap, List.map_append,
    ← List.cons_append, ← List.cons_append] at linked
  have right :=
    test.right.identifiers (closed_cons (by decide) _) legible_right leads linked.right_of_append
  exact List.forall_mem_append.2 ⟨left, right⟩

mutual

theorem Statement.identifiers (statement : Statement)
    (orderly : ∀ line ∈ statement.lines, Line.Orderly line) :
    Identifiers statement.names := by
  cases statement with
  | simple simple => exact simple.identifiers (List.forall_mem_singleton.1 orderly)
  | whenever test body =>
    simp only [Statement.lines, List.forall_mem_cons, List.forall_mem_append] at orderly
    exact List.forall_mem_append.2 ⟨test.identifiers orderly.1, body.identifiers orderly.2.1⟩
  | either test body before after other =>
    simp only [Statement.lines, List.forall_mem_cons, List.forall_mem_append] at orderly
    obtain ⟨tested, inner, -, others, -⟩ := orderly
    exact List.forall_mem_append.2 ⟨test.identifiers tested,
      List.forall_mem_append.2 ⟨body.identifiers inner, other.identifiers others⟩⟩

theorem Block.identifiers (block : Block) (orderly : ∀ line ∈ block.lines, Line.Orderly line) :
    Identifiers block.names := by
  cases block with
  | done => exact List.forall_mem_nil _
  | more first rest =>
    obtain ⟨first_orderly, orderly⟩ := List.forall_mem_append.1 orderly
    exact List.forall_mem_append.2 ⟨first.identifiers first_orderly, rest.identifiers orderly⟩

end

/-- The names of an accepted program are names of the language. -/
theorem identifiers_of_accepted {source : String} {program : Block}
    (laid : Laid source program.lines) (accepted : Accepted source) : Identifiers program.names :=
  program.identifiers fun line listed => (orderly_of_accepted accepted).2 line (laid ▸ listed)

theorem enter_of_accepted {source : String} {program : Block} (laid : Laid source program.lines)
    (accepted : Accepted source) : (program.enter {}).undeclared = [] ∧
      (program.enter {}).redeclared = [] := by
  obtain ⟨ledger, scanned, undeclared, redeclared, -⟩ := scan_of_accepted accepted
  rw [tokens_laid laid (identifiers_of_accepted laid accepted)] at scanned
  -- The scan over the tokens and the one over the program end with the same ledger.
  have entered : program.enter {} = ledger :=
    (Scan.mk.inj ((program.scanned {}).symm.trans scanned)).1
  rw [entered]
  exact ⟨undeclared, redeclared⟩

theorem inScope_of_accepted {source : String} {program : Block} (laid : Laid source program.lines)
    (accepted : Accepted source) : inScope [] program.simples = true := by
  obtain ⟨undeclared, -⟩ := enter_of_accepted laid accepted
  have scope := program.inScope_append (fun _ listed => listed) undeclared fun _ _ =>
    (rfl : inScope _ [] = true)
  rwa [List.append_nil] at scope

/-- What is known of the names of an accepted program without conditionals. -/
theorem scope_of_accepted {source : String} {simples : List Simple}
    (laid : Laid source (simples.map Simple.text))
    (accepted : Accepted source) : Identifiers (simples.flatMap Simple.names) ∧
      inScope [] simples = true ∧
      declaredOnce [] simples = true := by
  rw [← Block.lines_ofSimples] at laid
  have identifiers := identifiers_of_accepted laid accepted
  have scope := inScope_of_accepted laid accepted
  obtain ⟨undeclared, redeclared⟩ := enter_of_accepted laid accepted
  rw [Block.names_ofSimples] at identifiers
  rw [Block.simples_ofSimples] at scope
  exact ⟨identifiers, scope, declaredOnce_of_enter (fun _ => Iff.rfl) undeclared redeclared⟩

end Program

end Workbench
