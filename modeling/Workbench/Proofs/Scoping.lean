import Workbench.Proofs.Acceptance
import Workbench.Proofs.Layout
import Workbench.Proofs.Tokens

/-! What the checks on names say about a program that is laid out.

Its tokens are those of its statements, line by line, and the scan for names goes through them
statement by statement. If it finds no fault, each name was declared on an earlier line than it is
used.
-/

set_option autoImplicit false

namespace Workbench

/-- No phase finds a fault. -/
def Accepted (source : String) : Prop :=
  (lex source).errors = [] ∧ Clean (lex source).tokens ∧
    (Syntax.program (.ofTokens (lex source).tokens)).next.analyser.errors = []

instance (source : String) : Decidable (Accepted source) := inferInstanceAs (Decidable (_ ∧ _ ∧ _))

/-- The scan of an accepted text ends with the ledger of the parser, in which no name is undeclared
or declared again. -/
theorem scan_of_accepted {source : String} (accepted : Accepted source) : ∃ ledger : Ledger,
    Scan.run (lex source).tokens {} = { ledger := ledger } ∧ ledger.undeclared = [] ∧
      ledger.redeclared = [] ∧
      ledger.names =
        (Syntax.program (.ofTokens (lex source).tokens)).next.analyser.symbols.names := by
  obtain ⟨-, clean, faultless⟩ := accepted
  have scanned := (Syntax.program_of_clean (Syntax.plain_of_kinds (kinds_of_lex source)) clean).2
  refine ⟨_, scanned, ?_, ?_, rfl⟩
  · change List.filterMap _ _ = []
    rw [faultless]
    rfl
  · change List.filterMap _ _ = []
    rw [faultless]
    rfl

namespace Program

open Arithmetic

/-! ## Tokens -/

def semicolonToken : Token := ⟨";", .semicolon, some 12⟩

def assignToken : Token := ⟨"=", .assign, some 18⟩

def printToken : Token := ⟨"print", .printWord, some 24⟩

def ifToken : Token := ⟨"if", .ifWord, some 19⟩

def elseToken : Token := ⟨"else", .elseWord, some 22⟩

def openBraceToken : Token := ⟨"\x7b", .openBrace, some 16⟩

def closeBraceToken : Token := ⟨"\x7d", .closeBrace, some 17⟩

def TypeWord.token : TypeWord → Token
  | int => ⟨"int", .intWord, some 23⟩
  | float => ⟨"float", .floatWord, some 24⟩

def Comparison.token : Comparison → Token
  | less => ⟨"<", .relation, some 7⟩
  | greater => ⟨">", .relation, some 7⟩
  | equal => ⟨"==", .equality, some 11⟩

def valueTokens (value : Expression) : List Token :=
  assignToken :: (value.tokens ++ [semicolonToken])

def Simple.tokens : Simple → List Token
  | declared type _ name => [type.token, name.token, semicolonToken]
  | initialized type _ name _ _ value => type.token :: name.token :: valueTokens value
  | assigned name _ _ value => name.token :: valueTokens value
  | printed name => [printToken, openToken, name.token, closeToken, semicolonToken]

def Test.names (test : Test) : List Name := test.left.names ++ test.right.names

def Test.tokens (test : Test) : List Token :=
  ifToken :: openToken ::
    (test.left.tokens ++ test.comparison.token ::
      (test.right.tokens ++ [closeToken, openBraceToken]))

mutual

def Statement.tokens : Statement → List Token
  | .simple simple => simple.tokens
  | .whenever test body => test.tokens ++ (body.tokens ++ [closeBraceToken])
  | .either test body _ _ other =>
    test.tokens ++
      (body.tokens ++ closeBraceToken :: elseToken :: openBraceToken ::
        (other.tokens ++ [closeBraceToken]))

def Block.tokens : Block → List Token
  | .done => []
  | .more first rest => first.tokens ++ rest.tokens

end

mutual

def Statement.names : Statement → List Name
  | .simple simple => simple.names
  | .whenever test body => test.names ++ body.names
  | .either test body _ _ other => test.names ++ (body.names ++ other.names)

def Block.names : Block → List Name
  | .done => []
  | .more first rest => first.names ++ rest.names

end

/-- Every name is one of the language. -/
def Identifiers (names : List Name) : Prop := ∀ name ∈ names, isIdentifier name.chars = true

instance (names : List Name) : Decidable (Identifiers names) :=
  inferInstanceAs (Decidable (∀ _ ∈ names, _))

theorem Identifiers.append {front back : List Name} (identifiers : Identifiers (front ++ back)) :
    Identifiers front ∧ Identifiers back := List.forall_mem_append.1 identifiers

theorem tokens_semicolon (rest : List Char) :
    tokensFrom none (';' :: rest) = semicolonToken :: tokensFrom none rest :=
  tokens_sign (by decide) rest

theorem tokens_openBrace (rest : List Char) :
    tokensFrom none ('\x7b' :: rest) = openBraceToken :: tokensFrom none rest :=
  tokens_sign (by decide) rest

theorem tokens_closeBrace (rest : List Char) :
    tokensFrom none ('\x7d' :: rest) = closeBraceToken :: tokensFrom none rest :=
  tokens_sign (by decide) rest

theorem tokens_print {rest : List Char} (ended : Line.Ended rest) :
    tokensFrom none ("print".toList ++ rest) = printToken :: tokensFrom none rest :=
  tokens_word (by decide) ended

theorem tokens_if {rest : List Char} (ended : Line.Ended rest) :
    tokensFrom none ("if".toList ++ rest) = ifToken :: tokensFrom none rest :=
  tokens_word (by decide) ended

theorem tokens_else {rest : List Char} (ended : Line.Ended rest) :
    tokensFrom none ("else".toList ++ rest) = elseToken :: tokensFrom none rest :=
  tokens_word (by decide) ended

theorem TypeWord.lexed (type : TypeWord) {rest : List Char} (ended : Line.Ended rest) :
    tokensFrom none (type.chars ++ rest) = type.token :: tokensFrom none rest := by
  cases type
  · exact tokens_word (by decide) ended
  · exact tokens_word (by decide) ended

theorem Comparison.lexed (comparison : Comparison) (rest : List Char) :
    tokensFrom none (comparison.chars ++ rest) = comparison.token :: tokensFrom none rest := by
  cases comparison
  · exact tokens_sign (by decide) rest
  · exact tokens_sign (by decide) rest
  · exact tokens_equal rest

theorem Space.ended (space : Space) (rest : List Char) : Line.Ended (space.gap.chars ++ rest) := by
  obtain ⟨c, more, chars⟩ := List.exists_cons_of_ne_nil space.wide
  have blank := blanks_of_gap space.gap c (chars ▸ List.mem_cons_self ..)
  rw [chars]
  rintro _ ⟨⟩
  exact Text.isWord_of_isBlank blank

theorem valueText_closed (before after : Gap) (value : Expression) :
    Closed (valueText before after value) := by
  have sign : Closed ('=' :: (after.chars ++ (value.text id ++ [';']))) := closed_cons (by decide) _
  exact before.closed sign

theorem not_mem_text {c : Char} (outside : c ∉ figureChars) (unworded : Text.isWord c = false)
    (value : Expression) :
    c ∉ value.text id := by
  have named : ∀ name ∈ value.names, ∀ d ∈ id name.chars, d ≠ c := by
    rintro name - d inside rfl
    rw [(word_of_name name).2 d inside] at unworded
    cases unworded
  have other : ∀ d ∈ value.text id, d ≠ c :=
    value.forall_text (fun d kept same => outside (same ▸ kept)) named
  exact fun member => other c member rfl

theorem tokens_equals (before after : Gap) (value : Expression) :
    tokensFrom none (valueText before after value) =
      assignToken :: tokensFrom none (value.text id ++ [';']) := by
  have single : (after.chars ++ (value.text id ++ [';'])).head? ≠ some '=' := by
    intro head
    rcases List.mem_append.1 (List.mem_of_mem_head? head) with blank | inside
    · exact absurd (after.figureChars _ blank) (by decide)
    · rcases List.mem_append.1 inside with inside | last
      · exact not_mem_text (by decide) (by decide) value inside
      · cases List.mem_singleton.1 last
  rw [valueText, tokens_gap, tokens_assign single, tokens_gap]
  rfl

theorem tokens_valueText (before after : Gap) {value : Expression}
    (identifiers : Identifiers value.names) :
    tokensFrom none (valueText before after value) = valueTokens value := by
  rw [tokens_equals, value.lexed identifiers (closed_cons (by decide) []),
    tokens_semicolon, tokensFrom_nil]
  rfl

theorem Simple.lexed (simple : Simple) (identifiers : Identifiers simple.names) :
    tokensFrom none simple.text = simple.tokens := by
  cases simple with
  | declared type space name =>
    obtain ⟨subject, -⟩ : isIdentifier name.chars = true ∧ Identifiers _ :=
      List.forall_mem_cons.1 identifiers
    have ended : Line.Ended [';'] := (closed_cons (by decide) []).ended
    refine (type.lexed (space.ended _)).trans ?_
    rw [tokens_gap, tokens_identifier subject ended, tokens_semicolon, tokensFrom_nil]
    rfl
  | initialized type space name before after value =>
    obtain ⟨subject, operands⟩ : isIdentifier name.chars = true ∧ Identifiers _ :=
      List.forall_mem_cons.1 identifiers
    have ended := (valueText_closed before after value).ended
    refine (type.lexed (space.ended _)).trans ?_
    rw [tokens_gap, tokens_identifier subject ended, tokens_valueText before after operands]
    rfl
  | assigned name before after value =>
    obtain ⟨subject, operands⟩ : isIdentifier name.chars = true ∧ Identifiers _ :=
      List.forall_mem_cons.1 identifiers
    have ended := (valueText_closed before after value).ended
    refine (tokens_identifier subject ended).trans ?_
    rw [tokens_valueText before after operands]
    rfl
  | printed name =>
    obtain ⟨subject, -⟩ : isIdentifier name.chars = true ∧ Identifiers _ :=
      List.forall_mem_cons.1 identifiers
    have opened : Line.Ended ('(' :: (name.chars ++ [')', ';'])) :=
      (closed_cons (by decide) _).ended
    have ended : Line.Ended [')', ';'] := (closed_cons (by decide) _).ended
    refine (tokens_print opened).trans ?_
    rw [tokens_open, tokens_identifier subject ended, tokens_close,
      tokens_semicolon, tokensFrom_nil]
    rfl

theorem Test.lexed (test : Test) (identifiers : Identifiers test.names) :
    tokensFrom none test.text = test.tokens := by
  obtain ⟨left, right⟩ := identifiers.append
  have opened : ∀ rest, Line.Ended (test.outer.chars ++ '(' :: rest) :=
    fun rest => (test.outer.closed (closed_cons (by decide) rest)).ended
  have middle : ∀ rest, Closed (test.comparison.chars ++ rest) := by
    intro rest
    cases test.comparison <;> exact closed_cons (by decide) _
  rw [Test.text, tokens_if (opened _), tokens_gap, tokens_open, tokens_gap,
    test.left.lexed left (middle _), test.comparison.lexed,
    tokens_gap, test.right.lexed right (closed_cons (by decide) _), tokens_close, tokens_gap,
      tokens_openBrace, tokensFrom_nil]
  rfl

theorem tokens_elseText (before after : Gap) :
    tokensFrom none (elseText before after) = [closeBraceToken, elseToken, openBraceToken] := by
  have opened : Line.Ended (after.chars ++ ['\x7b']) :=
    (after.closed (closed_cons (by decide) [])).ended
  rw [elseText, tokens_closeBrace, tokens_gap, tokens_else opened, tokens_gap,
    tokens_openBrace, tokensFrom_nil]

mutual

theorem Statement.lexed (statement : Statement) (identifiers : Identifiers statement.names) :
    statement.lines.flatMap (tokensFrom none) = statement.tokens := by
  have brace : [['\x7d']].flatMap (tokensFrom none) = [closeBraceToken] := by
    rw [List.flatMap_singleton, tokens_closeBrace, tokensFrom_nil]
  cases statement with
  | simple simple => exact (List.flatMap_singleton ..).trans (simple.lexed identifiers)
  | whenever test body =>
    obtain ⟨tested, inner⟩ := identifiers.append
    rw [Statement.lines, List.flatMap_cons, List.flatMap_append, test.lexed tested,
      body.lexed inner, brace]
    rfl
  | either test body before after other =>
    obtain ⟨tested, inner⟩ := identifiers.append
    obtain ⟨inner, others⟩ := inner.append
    rw [Statement.lines, List.flatMap_cons, List.flatMap_append, List.flatMap_cons,
      List.flatMap_append,
      test.lexed tested, body.lexed inner, tokens_elseText, other.lexed others, brace]
    rfl

theorem Block.lexed (block : Block) (identifiers : Identifiers block.names) :
    block.lines.flatMap (tokensFrom none) = block.tokens := by
  cases block with
  | done => rfl
  | more first rest =>
    obtain ⟨inner, others⟩ := identifiers.append
    rw [Block.lines, List.flatMap_append, first.lexed inner, rest.lexed others]
    rfl

end

/-! ## Quotations

A line may be read by itself, because no quotation goes on beyond its end.
-/

theorem unquoted_gap (gap : Gap) :
    '"' ∉ gap.chars := fun member => absurd (gap.figureChars _ member) (by decide)

theorem unquoted_name (name : Name) :
    '"' ∉ name.chars := fun member => absurd ((word_of_name name).2 _ member) (by decide)

theorem unquoted_value (value : Expression) : '"' ∉ value.text id :=
  not_mem_text (by decide) (by decide) value

theorem Simple.unquoted (simple : Simple) : '"' ∉ simple.text := by
  have typed : ∀ type : TypeWord, '"' ∉ type.chars := by
    rintro (_ | _) <;> decide
  have valued : ∀ (before after : Gap) (value : Expression),
      '"' ∉ valueText before after value := by
    simp [valueText, unquoted_gap, unquoted_value]
  cases simple with
  | declared type space name =>
    change '"' ∉ type.chars ++ (space.gap.chars ++ (name.chars ++ [';']))
    simp [typed, unquoted_gap, unquoted_name]
  | initialized type space name before after value =>
    change '"' ∉ type.chars ++ (space.gap.chars ++ (name.chars ++ valueText before after value))
    simp [typed, unquoted_gap, unquoted_name, valued]
  | assigned name before after value =>
    change '"' ∉ name.chars ++ valueText before after value
    simp [unquoted_name, valued]
  | printed name =>
    change '"' ∉ "print(".toList ++ (name.chars ++ ");".toList)
    simp [unquoted_name]

theorem Test.unquoted (test : Test) : '"' ∉ test.text := by
  have sign : '"' ∉ test.comparison.chars := by
    cases test.comparison <;> decide
  simp [text, sign, unquoted_gap, unquoted_value]

theorem unquoted_elseText (before after : Gap) : '"' ∉ elseText before after := by
  simp [elseText, unquoted_gap]

mutual

theorem Statement.unquoted (statement : Statement) : ∀ line ∈ statement.lines, '"' ∉ line := by
  cases statement with
  | simple simple => exact List.forall_mem_singleton.2 simple.unquoted
  | whenever test body =>
    simp only [Statement.lines, List.forall_mem_cons, List.forall_mem_append]
    exact ⟨test.unquoted, body.unquoted, by decide, List.forall_mem_nil _⟩
  | either test body before after other =>
    simp only [Statement.lines, List.forall_mem_cons, List.forall_mem_append]
    exact ⟨test.unquoted, body.unquoted, unquoted_elseText before after, other.unquoted, by decide,
      List.forall_mem_nil _⟩

theorem Block.unquoted (block : Block) : ∀ line ∈ block.lines, '"' ∉ line := by
  cases block with
  | done => exact List.forall_mem_nil _
  | more first rest => exact List.forall_mem_append.2 ⟨first.unquoted, rest.unquoted⟩

end

theorem tokens_laid {source : String} {program : Block} (laid : Laid source program.lines)
    (identifiers : Identifiers program.names) : (lex source).tokens = program.tokens := by
  -- A quotation mark would be on one of the lines, which have none.
  have unquoted : '"' ∉ source.toList := by
    intro member
    obtain ⟨line, listed, inside⟩ := Text.exists_mem_contentLines member (by decide)
    exact program.unquoted line (laid ▸ listed) inside
  calc (lex source).tokens = (Text.contentLines source.toList).flatMap (tokensFrom none) :=
        tokensFrom_contentLines unquoted
    _ = program.tokens := by rw [laid, program.lexed identifiers]

/-! ## The scan for names -/

end Program

namespace Ledger

open Arithmetic (Name)

def useAll (names : List Name) (ledger : Ledger) : Ledger :=
  names.foldl (fun ledger name => ledger.use name.string) ledger

theorem useAll_append (front back : List Name) (ledger : Ledger) :
    ledger.useAll (front ++ back) = (ledger.useAll front).useAll back := List.foldl_append ..

theorem undeclared_use (name : String) (ledger : Ledger) :
    (ledger.use name).undeclared = [] ↔ ledger.undeclared = [] ∧ name ∈ ledger.names := by
  unfold use
  split <;> simp [*]

@[simp] theorem names_useAll (names : List Name) (ledger : Ledger) :
    (ledger.useAll names).names = ledger.names := by
  induction names generalizing ledger with
  | nil => rfl
  | cons name rest ih => exact (ih (ledger.use name.string)).trans (names_use name.string ledger)

theorem undeclared_useAll (names : List Name) (ledger : Ledger) :
    (ledger.useAll names).undeclared = [] ↔ ledger.undeclared = [] ∧
      ∀ name ∈ names, name.string ∈ ledger.names := by
  induction names generalizing ledger with
  | nil => simp [useAll]
  | cons name rest ih =>
    refine (ih (ledger.use name.string)).trans ?_
    rw [undeclared_use, names_use, List.forall_mem_cons, and_assoc]

theorem mem_names_declare {key name : String} {ledger : Ledger} :
    key ∈ (ledger.declare name).names ↔ key = name ∨ key ∈ ledger.names := by
  unfold declare
  split
  case isTrue known => exact ⟨Or.inr, fun either => either.elim (fun same => same ▸ known) id⟩
  case isFalse => simp [or_comm]

theorem redeclared_useAll (names : List Name) (ledger : Ledger) :
    (ledger.useAll names).redeclared = ledger.redeclared := by
  induction names generalizing ledger with
  | nil => rfl
  | cons name rest ih =>
    refine (ih (ledger.use name.string)).trans ?_
    unfold use
    split <;> rfl

theorem redeclared_declare (name : String) (ledger : Ledger) :
    (ledger.declare name).redeclared = [] ↔ ledger.redeclared = [] ∧ name ∉ ledger.names := by
  unfold declare
  split <;> simp [*]

end Ledger

namespace Arithmetic

theorem Literal.scanned (literal : Literal) (ledger : Ledger) (pending : List String) :
    Scan.step ⟨ledger, false, pending⟩ literal.token = ⟨ledger, false, pending⟩ := by
  cases literal <;> rfl

theorem Connective.scanned (connective : Connective) (ledger : Ledger) (pending : List String) :
    Scan.step ⟨ledger, false, pending⟩ connective.token = ⟨ledger, false, pending⟩ := by
  cases connective <;> rfl

mutual

theorem Operand.scanned (operand : Operand) (ledger : Ledger) (pending : List String) :
    Scan.run operand.tokens ⟨ledger, false, pending⟩ =
      ⟨ledger.useAll operand.names, false, pending⟩ := by
  cases operand with
  | number literal after => exact literal.scanned ledger pending
  | name name after => rfl
  | group before inside after =>
    have opened : Scan.step ⟨ledger, false, pending⟩ openToken = ⟨ledger, false, pending⟩ := rfl
    rw [Operand.tokens, Scan.run_cons, opened, Scan.run_append, inside.scanned]
    rfl
  | signed minus after operand =>
    have sign : Scan.step ⟨ledger, false, pending⟩ (signToken minus) =
        ⟨ledger, false, pending⟩ := by
      cases minus <;> rfl
    rw [Operand.tokens, Scan.run_cons, sign, operand.scanned]
    rfl

theorem Expression.scanned (expression : Expression) (ledger : Ledger) (pending : List String) :
    Scan.run expression.tokens ⟨ledger, false, pending⟩ =
      ⟨ledger.useAll expression.names, false, pending⟩ := by
  obtain ⟨first, chain⟩ := expression
  rw [Expression.tokens, Scan.run_append, first.scanned, chain.scanned, Expression.names,
    Ledger.useAll_append]

theorem Chain.scanned (chain : Chain) (ledger : Ledger) (pending : List String) :
    Scan.run chain.tokens ⟨ledger, false, pending⟩ =
      ⟨ledger.useAll chain.names, false, pending⟩ := by
  cases chain with
  | done => rfl
  | more connective after operand rest =>
    rw [Chain.tokens, Scan.run_cons, connective.scanned, Scan.run_append, operand.scanned,
      rest.scanned, Chain.names, Ledger.useAll_append]

end

end Arithmetic

namespace Program

open Arithmetic

def Simple.enter (simple : Simple) (ledger : Ledger) : Ledger :=
  let used := ledger.useAll simple.uses
  match simple.type? with
  | some _ => used.declare simple.subject.string
  | none => used

mutual

def Statement.enter : Statement → Ledger → Ledger
  | .simple simple, ledger => simple.enter ledger
  | .whenever test body, ledger => body.enter (ledger.useAll test.names)
  | .either test body _ _ other, ledger => other.enter (body.enter (ledger.useAll test.names))

def Block.enter : Block → Ledger → Ledger
  | .done, ledger => ledger
  | .more first rest, ledger => rest.enter (first.enter ledger)

end

theorem Simple.scanned (simple : Simple) (ledger : Ledger) :
    Scan.run simple.tokens ⟨ledger, false, []⟩ = ⟨simple.enter ledger, false, []⟩ := by
  cases simple with
  | declared type space name => cases type <;> rfl
  | initialized type space name before after value =>
    -- The name waits for the end of its own value before it counts as declared.
    have begun : Scan.run [type.token, name.token, assignToken] ⟨ledger, false, []⟩ =
        ⟨ledger, false, [name.string]⟩ := by
      cases type <;> rfl
    change Scan.run ([type.token, name.token, assignToken] ++
      (value.tokens ++ [semicolonToken])) _ = _
    rw [Scan.run_append, begun, Scan.run_append, value.scanned]
    rfl
  | assigned name before after value =>
    have begun : Scan.run [name.token, assignToken] ⟨ledger, false, []⟩ =
      ⟨ledger.use name.string, false, []⟩ := rfl
    change Scan.run ([name.token, assignToken] ++ (value.tokens ++ [semicolonToken])) _ = _
    rw [Scan.run_append, begun, Scan.run_append, value.scanned]
    rfl
  | printed name => rfl

theorem Test.scanned (test : Test) (ledger : Ledger) :
    Scan.run test.tokens ⟨ledger, false, []⟩ = ⟨ledger.useAll test.names, false, []⟩ := by
  have begun : Scan.run [ifToken, openToken] ⟨ledger, false, []⟩ = ⟨ledger, false, []⟩ := rfl
  have sign : ∀ ledger, Scan.step ⟨ledger, false, []⟩ test.comparison.token =
      ⟨ledger, false, []⟩ := by
    intro ledger
    cases test.comparison <;> rfl
  change Scan.run ([ifToken, openToken] ++ (test.left.tokens ++ test.comparison.token ::
    (test.right.tokens ++ [closeToken, openBraceToken]))) _ = _
  rw [Scan.run_append, begun, Scan.run_append, test.left.scanned, Scan.run_cons, sign,
    Scan.run_append, test.right.scanned, names, Ledger.useAll_append]
  rfl

mutual

theorem Statement.scanned (statement : Statement) (ledger : Ledger) :
    Scan.run statement.tokens ⟨ledger, false, []⟩ = ⟨statement.enter ledger, false, []⟩ := by
  cases statement with
  | simple simple => exact simple.scanned ledger
  | whenever test body =>
    rw [Statement.tokens, Scan.run_append, test.scanned, Scan.run_append, body.scanned]
    rfl
  | either test body before after other =>
    have between : ∀ ledger, Scan.run [closeBraceToken, elseToken, openBraceToken]
      ⟨ledger, false, []⟩ =
        ⟨ledger, false, []⟩ := fun _ => rfl
    change Scan.run (test.tokens ++ (body.tokens ++ ([closeBraceToken, elseToken, openBraceToken] ++
      (other.tokens ++ [closeBraceToken])))) _ = _
    rw [Scan.run_append, test.scanned, Scan.run_append, body.scanned, Scan.run_append, between,
      Scan.run_append, other.scanned]
    rfl

theorem Block.scanned (block : Block) (ledger : Ledger) :
    Scan.run block.tokens ⟨ledger, false, []⟩ = ⟨block.enter ledger, false, []⟩ := by
  cases block with
  | done => rfl
  | more first rest => rw [Block.tokens, Scan.run_append, first.scanned, rest.scanned, Block.enter]

end

/-! ## Scope -/

theorem Simple.known_of_enter {simple : Simple} {ledger : Ledger}
    (faultless : (simple.enter ledger).undeclared = []) :
    ledger.undeclared = [] ∧ ∀ name ∈ simple.uses, name.string ∈ ledger.names := by
  have used : (ledger.useAll simple.uses).undeclared = [] := by
    unfold enter at faultless
    split at faultless
    · rwa [Ledger.undeclared_declare] at faultless
    · exact faultless
  exact (Ledger.undeclared_useAll ..).1 used

/-- After a statement its subject is known, whether it was declared or used. -/
theorem Simple.mem_names_enter {simple : Simple} {ledger : Ledger}
    (known : ∀ name ∈ simple.uses, name.string ∈ ledger.names) {key : String} :
    key ∈ (simple.enter ledger).names ↔ key = simple.subject.string ∨ key ∈ ledger.names := by
  cases simple with
  | declared | initialized =>
    exact Ledger.mem_names_declare.trans (or_congr_right (by rw [Ledger.names_useAll]))
  | assigned name | printed name =>
    refine (iff_of_eq (congrArg (key ∈ ·) (Ledger.names_useAll ..))).trans ⟨Or.inr, ?_⟩
    rintro (rfl | listed)
    · exact known name (List.mem_cons_self ..)
    · exact listed

mutual

theorem Statement.faultless_before {statement : Statement} {ledger : Ledger}
    (faultless : (statement.enter ledger).undeclared = []) : ledger.undeclared = [] := by
  cases statement with
  | simple simple => exact (Simple.known_of_enter faultless).1
  | whenever test body =>
    exact ((Ledger.undeclared_useAll ..).1 (Block.faultless_before faultless)).1
  | either test body before after other =>
    exact ((Ledger.undeclared_useAll ..).1
      (Block.faultless_before (Block.faultless_before faultless))).1

theorem Block.faultless_before {block : Block} {ledger : Ledger}
    (faultless : (block.enter ledger).undeclared = []) : ledger.undeclared = [] := by
  cases block with
  | done => exact faultless
  | more first rest => exact Statement.faultless_before (Block.faultless_before faultless)

end

def Covers (declared : List String) (ledger : Ledger) : Prop := ∀ key ∈ ledger.names, key ∈ declared

theorem Covers.useAll {declared : List String} {ledger : Ledger} (covers : Covers declared ledger)
    (names : List Name) :
    Covers declared (ledger.useAll names) := by
  rw [Covers, Ledger.names_useAll]
  exact covers

mutual

/-- If the scan finds no fault in a statement, nothing in it is out of scope, and what follows it
may rely on what is known then. -/
theorem Statement.inScope_append (statement : Statement) {ledger : Ledger} {declared : List String}
    {rest : List Simple}
    (covers : Covers declared ledger) (faultless : (statement.enter ledger).undeclared = [])
    (later : ∀ declared, Covers declared (statement.enter ledger) → inScope declared rest = true) :
    inScope declared (statement.simples ++ rest) = true := by
  cases statement with
  | simple simple =>
    obtain ⟨-, known⟩ := Simple.known_of_enter faultless
    refine inScope_cons.2 ⟨fun name member => covers _ (known name member),
      later _ fun key listed => ?_⟩
    exact List.mem_cons.2 (((Simple.mem_names_enter known).1 listed).imp_right (covers key))
  | whenever test body =>
    exact body.inScope_append (covers.useAll test.names) faultless later
  | either test body before after other =>
    rw [Statement.simples, List.append_assoc]
    exact body.inScope_append (covers.useAll test.names) (Block.faultless_before faultless)
      fun declared covers => other.inScope_append covers faultless later

theorem Block.inScope_append (block : Block) {ledger : Ledger} {declared : List String}
    {rest : List Simple}
    (covers : Covers declared ledger) (faultless : (block.enter ledger).undeclared = [])
    (later : ∀ declared, Covers declared (block.enter ledger) → inScope declared rest = true) :
    inScope declared (block.simples ++ rest) = true := by
  cases block with
  | done => exact later declared covers
  | more first others =>
    rw [Block.simples, List.append_assoc]
    exact first.inScope_append covers (Block.faultless_before faultless)
      fun declared covers => others.inScope_append covers faultless later

end

/-! ## Programs without conditionals -/

def Block.ofSimples : List Simple → Block
  | [] => .done
  | simple :: rest => .more (.simple simple) (ofSimples rest)

theorem Block.lines_ofSimples (simples : List Simple) :
    (ofSimples simples).lines = simples.map Simple.text := by
  induction simples with
  | nil => rfl
  | cons simple rest ih => exact congrArg (simple.text :: ·) ih

theorem Block.simples_ofSimples (simples : List Simple) :
    (ofSimples simples).simples = simples := by
  induction simples with
  | nil => rfl
  | cons simple rest ih => exact congrArg (simple :: ·) ih

theorem Block.names_ofSimples (simples : List Simple) :
    (ofSimples simples).names = simples.flatMap Simple.names := by
  induction simples with
  | nil => rfl
  | cons simple rest ih => rw [List.flatMap_cons, ← ih]; rfl

/-- No variable is declared that was declared before. -/
def declaredOnce (declared : List String) : List Simple → Bool
  | [] => true
  | simple :: rest =>
    (simple.type?.isNone || !declared.contains simple.subject.string) &&
      declaredOnce (simple.subject.string :: declared) rest

theorem declaredOnce_cons {declared : List String} {simple : Simple} {rest : List Simple} :
    declaredOnce declared (simple :: rest) = true ↔
      (simple.type?.isSome = true → simple.subject.string ∉ declared) ∧
        declaredOnce (simple.subject.string :: declared) rest = true := by
  cases typed : simple.type? <;> simp [declaredOnce, typed]

theorem Simple.once_of_enter {simple : Simple} {ledger : Ledger}
    (faultless : (simple.enter ledger).redeclared = []) :
    ledger.redeclared = [] ∧
      (simple.type?.isSome = true → simple.subject.string ∉ ledger.names) := by
  unfold enter at faultless
  split at faultless
  · rw [Ledger.redeclared_declare, Ledger.redeclared_useAll, Ledger.names_useAll] at faultless
    exact ⟨faultless.1, fun _ => faultless.2⟩
  case h_2 untyped =>
    rw [Ledger.redeclared_useAll] at faultless
    exact ⟨faultless, fun typed => by simp [untyped] at typed⟩

theorem Block.once_before {simples : List Simple} {ledger : Ledger}
    (faultless : ((ofSimples simples).enter ledger).redeclared = []) : ledger.redeclared = [] := by
  induction simples generalizing ledger with
  | nil => exact faultless
  | cons simple rest ih => exact (Simple.once_of_enter (ih faultless)).1

theorem declaredOnce_of_enter {simples : List Simple} {ledger : Ledger} {declared : List String}
    (same : ∀ key, key ∈ ledger.names ↔ key ∈ declared)
    (undeclared : ((Block.ofSimples simples).enter ledger).undeclared = [])
    (redeclared : ((Block.ofSimples simples).enter ledger).redeclared = []) :
    declaredOnce declared simples = true := by
  induction simples generalizing ledger declared with
  | nil => rfl
  | cons simple rest ih =>
    obtain ⟨-, once⟩ := Simple.once_of_enter (Block.once_before redeclared)
    obtain ⟨-, known⟩ := Simple.known_of_enter (Block.faultless_before undeclared)
    refine declaredOnce_cons.2 ⟨fun typed => mt (same _).2 (once typed),
      ih (fun key => ?_) undeclared redeclared⟩
    exact (Simple.mem_names_enter known).trans (by rw [List.mem_cons, same])

end Program

end Workbench
