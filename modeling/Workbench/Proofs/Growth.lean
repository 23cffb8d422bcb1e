import Workbench.Proofs.Checking

/-! What the parser never takes back.

Whatever is asked of the parser, in whatever order, it makes single moves: it says something, passes
a token, adds a fault or an entry, or sees to a name. None of them goes back or drops anything, and
the line is counted along with the tokens. Reading gives names no types but `int` and `float` as
long as the names before have no others, so it takes a declaration from outside to bring one in.
-/

set_option autoImplicit false

namespace Workbench

namespace Analyser

/-- Faults, entries and names are added at the end, if at all. -/
structure Extends (before after : Analyser) : Prop where
  errors : before.errors <+: after.errors
  entries : before.entries <+: after.entries
  symbols : before.symbols.entries <+: after.symbols.entries

namespace Extends

variable {first second third : Analyser}

theorem refl (analyser : Analyser) : Extends analyser analyser :=
  ⟨List.prefix_rfl, List.prefix_rfl, List.prefix_rfl⟩

theorem trans (left : Extends first second) (right : Extends second third) : Extends first third :=
  ⟨left.errors.trans right.errors, left.entries.trans right.entries,
    left.symbols.trans right.symbols⟩

theorem report (error : SemanticError) (analyser : Analyser) :
    Extends analyser (analyser.report error) :=
  ⟨List.prefix_append _ _, List.prefix_rfl, List.prefix_rfl⟩

theorem use (name : String) (analyser : Analyser) : Extends analyser (analyser.use name) := by
  unfold Analyser.use
  split
  · exact refl analyser
  · exact report _ analyser

theorem declare (name : String) (type : Option TypeName) (analyser : Analyser) :
    Extends analyser (analyser.declare name type) := by
  unfold Analyser.declare
  split
  · exact report _ analyser
  · exact ⟨List.prefix_rfl, List.prefix_rfl, List.prefix_append _ _⟩

theorem assign (name : String) (type : Option TypeName) (analyser : Analyser) :
    Extends analyser (analyser.assign name type) := by
  unfold Analyser.assign
  repeat' split
  all_goals first | exact refl analyser | exact report _ analyser

theorem get?_symbols (extended : Extends first second) {name : String} {type : Option TypeName}
    (recorded : first.symbols.get? name = some type) : second.symbols.get? name = some type := by
  obtain ⟨added, entries⟩ := extended.symbols
  rw [Table.get?, ← entries, List.lookup_append, ← Table.get?, recorded, Option.some_or]

end Extends

/-- Every name has been recorded with `int`, with `float` or without a type. -/
def IsPlain (analyser : Analyser) : Prop :=
  ∀ entry ∈ analyser.symbols.entries, TypeName.Plain entry.2

theorem IsPlain.of_symbols {before after : Analyser} (plain : before.IsPlain)
    (same : after.symbols = before.symbols) :
    after.IsPlain := by
  rw [IsPlain, same]
  exact plain

theorem IsPlain.declare {analyser : Analyser} (plain : analyser.IsPlain) (name : String)
    {type : Option TypeName}
    (new : TypeName.Plain type) : (analyser.declare name type).IsPlain := by
  unfold Analyser.declare
  split
  · exact plain
  · exact List.forall_mem_append.2 ⟨plain, List.forall_mem_singleton.2 new⟩

end Analyser

theorem TypeName.plain_iff {type : Option TypeName} :
    TypeName.Plain type ↔ type = none ∨ type = some .int ∨ type = some .float := by
  cases type <;> simp [Plain]

theorem Analyser.IsPlain.settled {analyser : Analyser} (plain : analyser.IsPlain) :
    Settled analyser.symbols.typeOf :=
  Settled.of_entries fun entry member => TypeName.plain_iff.1 (plain entry member)

namespace Syntax

/-! ## Moves -/

/-- What reading does to the state at once. The type of a declaration is plain where the types
before it are. -/
inductive Move (state : State) : State → Prop where
  | say (text : String) : Move state (state.say text)
  | fail (error : SyntaxError) : Move state (state.fail error)
  | advance : Move state state.advance
  | use (name : String) : Move state (state.use name)
  | record (entry : Entry) : Move state (state.record entry)
  | assign (name : String) (type : Option TypeName) : Move state (state.assign name type)
  | declare (name : String) {type : Option TypeName} : (state.analyser.IsPlain → TypeName.Plain type) →
      Move state (state.declare name type)

def Moves (start next : State) : Prop := Relation.ReflTransGen Move start next

namespace Moves

variable {start middle next : State}

theorem refl (state : State) : Moves state state := Relation.ReflTransGen.refl

theorem trans (left : Moves start middle) (right : Moves middle next) : Moves start next :=
  Relation.ReflTransGen.trans left right

theorem move (moves : Moves start middle) (last : Move middle next) : Moves start next :=
  Relation.ReflTransGen.tail moves last

theorem say (moves : Moves start next) (text : String) : Moves start (next.say text) :=
  moves.move (.say text)

theorem fail (moves : Moves start next) (error : SyntaxError) : Moves start (next.fail error) :=
  moves.move (.fail error)

theorem advance (moves : Moves start next) : Moves start next.advance := moves.move .advance

theorem expect (moves : Moves start next) (wanted : Kind) : Moves start (next.expect wanted) := by
  unfold State.expect
  extract_lets asked
  have asking : Moves start asked := moves.say _
  split
  · split
    · exact (asking.say _).advance
    · exact ((asking.say _).say _).fail _
  · split
    · exact asking.fail _
    · exact asking

theorem noteWiden (moves : Moves start next) (left right : Option TypeName) :
    Moves start (noteWiden left right next) := by
  unfold Syntax.noteWiden
  split
  · exact moves
  · split
    · exact moves.say _
    · exact (moves.say _).say _

theorem andThen {first : Ending} {following : State → Ending} (left : Moves start first.2)
    (right : Moves first.2 (following first.2).2) : Moves start (first.andThen following).2 :=
  @Ending.andThen_related Moves (fun _ _ _ => .trans) start first following left right

theorem noted (moves : Moves start middle) (noted : Noted middle next) : Moves start next := by
  induction noted with
  | still => exact moves
  | say _ text ih => exact ih.say text

theorem wrapped {reader : State → Ending} {ending : Ending} (read : Wrapped start reader ending)
    (inside : ∀ entered, Alike start entered → Moves entered (reader entered).2) :
    Moves start ending.2 := by
  obtain ⟨entered, leave, before, after, rfl⟩ := read
  have entering := (Moves.refl start).noted before
  exact (entering.trans (inside entered before.alike)).andThen ((Moves.refl _).noted (after _))

end Moves

/-! ## Every reader moves -/

theorem moves_factor_alone {state : State}
    (alone : ∀ token ∈ state.rest.head?, token.kind ≠ .openParen) :
    Moves state (factor state).next := by
  have still := Moves.refl state
  by_cases missing : ∀ token ∈ state.rest.head?, startsFactor token.kind = false
  · rw [next_factor_missing missing]
    exact still
  · obtain ⟨token, rest, first, starts⟩ : ∃ token rest, state.rest = token :: rest ∧
        startsFactor token.kind = true := by
      cases remaining : state.rest with
      | nil => simp [remaining] at missing
      | cons token rest => exact ⟨token, rest, rfl, by simpa [remaining] using missing⟩
    have noGroup : token.kind ≠ .openParen := alone token (by simp [first])
    by_cases name : token.kind = .identifier
    · obtain ⟨text, next⟩ := next_factor_name first name
      rw [next]
      exact ((still.move (.use token.lexeme)).say text).advance
    · have number : token.kind = .integer ∨ token.kind = .real := by
        cases kind : token.kind <;> simp_all [startsFactor]
      rw [next_factor_number first number]
      exact still.advance

theorem expression_readers_move :
    (∀ state, Moves state (factor state).next) ∧ (∀ state, Moves state (expression state).next) ∧
      (∀ state, Moves state (expressionTail state).next) ∧
        (∀ state, Moves state (term state).next) ∧
      (∀ state, Moves state (termTail state).next) := by
  apply reader_induction
  case factor_alone => exact fun state => moves_factor_alone
  case factor_group =>
    intro state token rest first opening inner
    rw [next_factor_group first opening]
    exact ((Moves.refl state).advance.trans inner).expect _
  case termTail_still =>
    intro state still
    rw [next_termTail_still still]
    exact .refl state
  case termTail_step =>
    intro state token rest first operator operand tail
    obtain ⟨left, right, next⟩ := next_termTail_step first operator
    rw [next]
    exact (((Moves.refl state).advance.trans operand).trans tail).noteWiden left right
  case term_read =>
    intro state operand tail
    rw [next_term]
    exact operand.trans tail
  case expressionTail_still =>
    intro state still
    rw [next_expressionTail_still still]
    exact .refl state
  case expressionTail_step =>
    intro state token rest first operator operand tail
    obtain ⟨left, right, next⟩ := next_expressionTail_step first operator
    rw [next]
    exact (((Moves.refl state).advance.trans operand).trans tail).noteWiden left right
  case expression_read =>
    intro state operand tail
    rw [next_expression]
    exact operand.trans tail

theorem Moves.expression {start next : State} (moves : Moves start next) :
    Moves start (expression next).next :=
  moves.trans (expression_readers_move.2.1 next)

theorem moves_initializer (state : State) : Moves state (initializer state).next := by
  unfold initializer
  split
  · exact .refl state
  · exact (Moves.refl state).advance.expression.say _

theorem symbols_initializer (state : State) :
    (initializer state).next.analyser.symbols = state.analyser.symbols := by
  cases signed : state.meets .assign with
  | none => rw [next_initializer_still signed]
  | some sign =>
    obtain ⟨taken, consumed, -⟩ := expression_reads state.advance
    rw [(next_initializer_step signed).analyser, consumed.analyser, Analyser.symbols_useAll,
      State.analyser_advance]

theorem moves_declarator (state : State) : Moves state (declarator state).next := by
  unfold declarator
  split
  · exact .refl state
  · have read := (Moves.refl state).advance.trans (moves_initializer _)
    -- The value is typed by the names before it, which it has left as they were.
    refine ((read.say _).say _).move (.declare _ fun plain => plain_initializer ?_)
    exact (plain.of_symbols (symbols_initializer state.advance).symm).settled

theorem moves_variableDeclaration (state : State) :
    Moves state (variableDeclaration state).ending.2 := by
  have advanced := (Moves.refl state).advance
  by_cases empty : state.advance.rest = []
  · rw [ending_variableDeclaration_end empty]
    exact advanced
  · have closed := (advanced.trans (moves_declarator _)).expect .semicolon
    rw [ending_variableDeclaration empty]
    dsimp only
    split
    · exact closed
    · exact closed.fail _

theorem moves_assigned (target : Option String) (state : State) :
    Moves state (assigned target state).ending.2 := by
  unfold assigned
  split
  · exact (Moves.refl state).fail _
  · have read := (Moves.refl state).expression
    cases target with
    | none => exact read
    | some name => exact (((read.say _).move (.record _)).say _).move (.assign _ _)

theorem moves_assignmentTail (target : Option String) (state : State) :
    Moves state (assignmentTail target state).ending.2 := by
  rw [ending_assignmentTail]
  exact (((Moves.refl state).expect _).trans (moves_assigned target _)).andThen
    ((Moves.refl _).expect _)

theorem moves_assignment (state : State) : Moves state (assignment state).ending.2 := by
  unfold assignment
  split
  · exact .refl state
  · split
    · exact (((Moves.refl state).say _).move (.use _)).advance.trans (moves_assignmentTail _ _)
    · exact ((Moves.refl state).fail _).advance.trans (moves_assignmentTail _ _)

theorem moves_comparison (state : State) : Moves state (comparison state).next := by
  have read := (Moves.refl state).expression
  have signed : Moves state (passComparison (expression state).next) := by
    unfold passComparison
    split
    · exact read.advance
    · exact read.fail _
  exact signed.expression

theorem moves_printTail (state : State) : Moves state (printTail state).ending.2 :=
  (((Moves.refl state).expect _).expression.expect _).expect _

theorem moves_conditionalHead (state : State) : Moves state (conditionalHead state) := by
  unfold conditionalHead
  extract_lets opened entered compared
  have entering : Moves state entered := ((((Moves.refl state).say _).expect _).say _).say _
  have comparing : Moves state compared := (entering.trans (moves_comparison entered)).say _
  exact (((comparing.expect _).say _).expect _).say _

section
variable {state : State}

theorem moves_conditionalBody
    (inside : ∀ shorter : State, shorter.rest.length ≤ state.rest.length →
      Moves shorter (block shorter).ending.2) :
    Moves state (conditionalBody state).ending.2 := by
  rw [ending_conditionalBody]
  refine (inside state le_rfl).andThen ?_
  have closed := (Moves.refl (block state).ending.2).expect .closeBrace
  unfold alternative
  split
  · exact closed
  · have other := inside _ (length_rest_alternative state)
    exact ((closed.advance.expect _).trans other).andThen ((Moves.refl _).expect _)

theorem moves_statement
    (inside : ∀ shorter : State, shorter.rest.length < state.rest.length →
      Moves shorter (block shorter).ending.2) :
    Moves state (statement state).ending.2 := by
  cases remaining : state.rest with
  | nil =>
    obtain ⟨last, noted, ending⟩ := ending_statement_end remaining
    rw [ending]
    exact (Moves.refl state).noted noted
  | cons token rest =>
    rcases statement_cases remaining with
      ⟨-, declared⟩ | ⟨-, assigned⟩ | ⟨word, conditional⟩ | ⟨-, printed⟩ | ⟨-, faulty⟩
    · exact .wrapped declared fun entered _ => moves_variableDeclaration entered
    · exact .wrapped assigned fun entered _ => moves_assignment entered
    · refine .wrapped conditional fun entered alike => ?_
      have head := ((Moves.refl entered).expect .ifWord).trans (moves_conditionalHead _)
      refine head.trans (moves_conditionalBody fun shorter bound => inside shorter ?_)
      exact bound.trans_lt (length_rest_conditional alike remaining word)
    · exact .wrapped printed fun entered _ =>
        ((Moves.refl entered).expect _).trans (moves_printTail _)
    · exact .wrapped faulty fun entered _ => ((Moves.refl entered).fail _).advance

theorem moves_block (first : Moves state (statement state).ending.2)
    (inside : ∀ shorter : State, shorter.rest.length < state.rest.length →
      Moves shorter (block shorter).ending.2) :
    Moves state (block state).ending.2 := by
  rcases block_cases state with still | ⟨token, rest, remaining, step⟩
  · rw [still]
    exact .refl state
  · rw [step]
    exact first.andThen (inside _ (length_rest_statement remaining))

end

theorem statement_and_block_move :
    (∀ state, Moves state (statement state).ending.2) ∧
      (∀ state, Moves state (block state).ending.2) :=
  statement_induction _ _ (fun _ => moves_statement) (fun _ => moves_block)

theorem moves_conditional (state : State) : Moves state (conditional state).ending.2 := by
  have headed :=
    (((Moves.refl state).say "Procesando if").expect .ifWord).trans (moves_conditionalHead _)
  exact headed.trans (moves_conditionalBody fun shorter _ => statement_and_block_move.2 shorter)

theorem moves_program (state : State) : Moves state (program state).ending.2 := by
  induction state using program_induction with
  | ended state remaining =>
    obtain ⟨last, noted, ending⟩ := ending_program_end remaining
    rw [ending]
    exact (Moves.refl state).noted noted
  | step state token rest remaining ih =>
    rw [ending_program_step remaining]
    exact (statement_and_block_move.1 state).andThen ih

/-! ## What moves keep -/

structure Grows (before after : State) : Prop where
  position : before.position ≤ after.position
  errors : before.errors <+: after.errors
  analyser : before.analyser.Extends after.analyser

namespace Grows

variable {first second third : State}

theorem refl (state : State) : Grows state state := ⟨le_rfl, List.prefix_rfl, .refl _⟩

theorem trans (left : Grows first second) (right : Grows second third) : Grows first third :=
  ⟨left.position.trans right.position, left.errors.trans right.errors,
    left.analyser.trans right.analyser⟩

theorem of_analyser {state : State} {analyser : Analyser}
    (extended : state.analyser.Extends analyser)
    (notes : Array String) : Grows state { state with analyser := analyser, notes := notes } :=
  ⟨le_rfl, List.prefix_rfl, extended⟩

theorem advance (state : State) : Grows state state.advance := by
  unfold State.advance
  split
  · exact refl state
  · exact ⟨Nat.le_succ _, List.prefix_rfl, .refl _⟩

end Grows

theorem Move.grows {state next : State} (move : Move state next) : Grows state next := by
  cases move with
  | say text => exact .of_analyser (.refl _) _
  | fail error => exact ⟨le_rfl, List.prefix_append _ _, .refl _⟩
  | advance => exact .advance state
  | use name => exact .of_analyser (.use name _) _
  | record entry =>
    exact ⟨le_rfl, List.prefix_rfl, List.prefix_rfl, List.prefix_append _ _, List.prefix_rfl⟩
  | assign name type => exact .of_analyser (.assign name type _) _
  | declare name _ => exact .of_analyser (.declare name _ _) _

theorem Moves.grows {state next : State} (moves : Moves state next) : Grows state next := by
  induction moves with
  | refl => exact .refl state
  | tail _ last ih => exact ih.trans last.grows

theorem Move.isPlain {state next : State} (move : Move state next)
    (plain : state.analyser.IsPlain) :
    next.analyser.IsPlain := by
  cases move with
  | say text => exact plain
  | fail error => exact plain
  | advance => exact plain.of_symbols (by rw [State.analyser_advance])
  | use name => exact plain.of_symbols (Analyser.symbols_use name _)
  | record entry => exact plain
  | assign name type => exact plain.of_symbols (Analyser.symbols_assign name type _)
  | declare name typed => exact plain.declare name (typed plain)

theorem Moves.isPlain {state next : State} (moves : Moves state next)
    (plain : state.analyser.IsPlain) :
    next.analyser.IsPlain := by
  induction moves with
  | refl => exact plain
  | tail _ last ih => exact last.isPlain ih

def neighbours (chars : List Char) : List (Char × Char) := chars.zip chars.tail

theorem spelledNewlines_eq (chars : List Char) :
    spelledNewlines chars = (neighbours chars).count ('\\', 'n') := by
  fun_induction spelledNewlines chars with
  | case1 rest ih =>
    rw [ih]
    cases rest <;> simp [neighbours]
  | case2 first rest other ih =>
    rw [ih]
    cases rest with
    | nil => rfl
    | cons second rest =>
      have apart : (first, second) ≠ ('\\', 'n') := by
        rintro ⟨rfl, rfl⟩
        exact other rest rfl rfl
      simp [neighbours, apart]
  | case3 => rfl

/-- The line that a parser is on after some tokens. -/
def lineAfter (tokens : List Token) : Nat :=
  1 + (tokens.flatMap fun token => neighbours token.lexeme.toList).count ('\\', 'n')

theorem lineAfter_concat (tokens : List Token) (token : Token) :
    lineAfter (tokens ++ [token]) = lineAfter tokens + spelledNewlines token.lexeme.toList := by
  simp [lineAfter, spelledNewlines_eq, Nat.add_assoc]

/-- The state is at a place among the tokens: it has what follows it to read, and is on the line
that they come to. -/
structure At (tokens : List Token) (state : State) : Prop where
  position : state.position ≤ tokens.length
  rest : state.rest = tokens.drop state.position
  line : state.line = lineAfter (tokens.take state.position)

namespace At

variable {tokens : List Token} {state : State}

theorem initial (tokens : List Token) : At tokens (.ofTokens tokens) := ⟨Nat.zero_le _, rfl, rfl⟩

theorem advance (place : At tokens state) : At tokens state.advance := by
  unfold State.advance
  split
  · exact place
  · next token rest first =>
    have drop := place.rest.symm.trans first
    have inside : state.position < tokens.length := by
      rw [← not_le, ← List.drop_eq_nil_iff, drop]
      exact List.cons_ne_nil _ _
    rw [List.drop_eq_getElem_cons inside, List.cons.injEq] at drop
    obtain ⟨rfl, rfl⟩ := drop
    refine ⟨inside, rfl, ?_⟩
    dsimp only
    rw [place.line, ← List.take_append_getElem inside, lineAfter_concat]

theorem move {next : State} (place : At tokens state) (move : Move state next) :
    At tokens next := by
  cases move with
  | advance => exact place.advance
  | _ => exact ⟨place.position, place.rest, place.line⟩

theorem moves {next : State} (place : At tokens state) (moves : Moves state next) :
    At tokens next := by
  induction moves with
  | refl => exact place
  | tail _ last ih => exact ih.move last

end At

/-! ## Whatever is asked -/

/-- What can be asked of the parser: to go to the next token, to show it or to take one of a kind,
to settle a type, to read a piece of the grammar, or to declare a name without reading it. -/
inductive Request where
  | advance
  | peek
  | expect (wanted : Kind)
  | settle (type : Option TypeName)
  | program
  | statement
  | variableDeclaration
  | assignment
  | expression
  | expressionTail
  | term
  | termTail
  | factor
  | conditional
  | comparison
  | printStatement
  | declare (name : String) (type : Option TypeName)

namespace Request

def ending (state : State) : Request → Ending
  | advance => (.ok (), state.advance)
  | peek => (.ok (), state)
  | expect wanted => (.ok (), state.expect wanted)
  | settle type => (.ok (), state.noteSettle type)
  | program => (Syntax.program state).ending
  | statement => (Syntax.statement state).ending
  | variableDeclaration => (Syntax.variableDeclaration state).ending
  | assignment => (Syntax.assignment state).ending
  | expression => (.ok (), (Syntax.expression state).next)
  | expressionTail => (.ok (), (Syntax.expressionTail state).next)
  | term => (.ok (), (Syntax.term state).next)
  | termTail => (.ok (), (Syntax.termTail state).next)
  | factor => (.ok (), (Syntax.factor state).next)
  | conditional => (Syntax.conditional state).ending
  | comparison => (.ok (), (Syntax.comparison state).next)
  | printStatement => (Syntax.printStatement state).ending
  | declare name type => (.ok (), state.declare name type)

/-- One request after the other, each from where the last one ended, even if that one halted. -/
def run (state : State) (requests : List Request) : State :=
  requests.foldl (fun state request => (request.ending state).2) state

section
variable (request : Request) (state : State)

theorem moves_or_declares :
    Moves state (request.ending state).2 ∨ ∃ name type, request = .declare name type := by
  have still := Moves.refl state
  obtain ⟨factors, expressions, expressionTails, terms, termTails⟩ := expression_readers_move
  cases request with
  | advance => exact .inl still.advance
  | peek => exact .inl still
  | expect wanted => exact .inl (still.expect wanted)
  | settle type => exact .inl (still.say _)
  | program => exact .inl (moves_program state)
  | statement => exact .inl (statement_and_block_move.1 state)
  | variableDeclaration => exact .inl (moves_variableDeclaration state)
  | assignment => exact .inl (moves_assignment state)
  | expression => exact .inl (expressions state)
  | expressionTail => exact .inl (expressionTails state)
  | term => exact .inl (terms state)
  | termTail => exact .inl (termTails state)
  | factor => exact .inl (factors state)
  | conditional => exact .inl (moves_conditional state)
  | comparison => exact .inl (moves_comparison state)
  | printStatement => exact .inl ((still.expect _).trans (moves_printTail _))
  | declare name type => exact .inr ⟨name, type, rfl⟩

theorem grows : Grows state (request.ending state).2 := by
  rcases request.moves_or_declares state with moves | ⟨name, type, rfl⟩
  · exact moves.grows
  · exact .of_analyser (.declare name type _) _

theorem at_ending {tokens : List Token} (place : At tokens state) :
    At tokens (request.ending state).2 := by
  rcases request.moves_or_declares state with moves | ⟨name, type, rfl⟩
  · exact place.moves moves
  · exact ⟨place.position, place.rest, place.line⟩

theorem isPlain_ending (plain : state.analyser.IsPlain)
    (reading : ∀ name type, request ≠ .declare name type) :
    (request.ending state).2.analyser.IsPlain := by
  rcases request.moves_or_declares state with moves | ⟨name, type, same⟩
  · exact moves.isPlain plain
  · exact absurd same (reading name type)

end

theorem at_run {tokens : List Token} (requests : List Request) {state : State}
    (place : At tokens state) :
    At tokens (run state requests) := by
  induction requests generalizing state with
  | nil => exact place
  | cons request requests ih => exact ih (request.at_ending state place)

theorem isPlain_run {requests : List Request}
    (reading : ∀ name type, Request.declare name type ∉ requests)
    {state : State} (plain : state.analyser.IsPlain) : (run state requests).analyser.IsPlain := by
  induction requests generalizing state with
  | nil => exact plain
  | cons request requests ih =>
    refine ih (fun name type member => reading name type (List.mem_cons_of_mem _ member)) ?_
    exact request.isPlain_ending state plain fun name type same =>
      reading name type (by simp [same])

/-- Whatever has been asked before, a request never goes back and takes nothing back, whether it
halts or not: faults, entries and names stay in their places, and the line is that of the tokens
passed. Unless a name was declared from outside, the names have no types but `int` and `float`. -/
theorem nothing_taken_back (tokens : List Token) (requests : List Request) (request : Request) :
    let before := run (.ofTokens tokens) requests
    let after := (request.ending before).2
    (before.position ≤ after.position ∧ after.position ≤ tokens.length ∧
        after.rest = tokens.drop after.position) ∧
      (before.errors <+: after.errors ∧ before.analyser.errors <+: after.analyser.errors ∧
        before.analyser.entries <+: after.analyser.entries) ∧
      (before.analyser.symbols.entries <+: after.analyser.symbols.entries ∧
        ∀ name type, before.analyser.symbols.get? name = some type →
          after.analyser.symbols.get? name = some type) ∧
      after.line = 1 + ((tokens.take after.position).flatMap fun token =>
        neighbours token.lexeme.toList).count ('\\', 'n') ∧
      ((∀ name type, Request.declare name type ∉ requests ++ [request]) →
        ∀ entry ∈ after.analyser.symbols.entries,
          entry.2 = none ∨ entry.2 = some .int ∨ entry.2 = some .float) := by
  intro before after
  have grows : Grows before after := request.grows before
  have place : At tokens after := request.at_ending before (at_run requests (.initial tokens))
  refine ⟨⟨grows.position, place.position, place.rest⟩,
    ⟨grows.errors, grows.analyser.errors, grows.analyser.entries⟩,
    ⟨grows.analyser.symbols, fun name type => grows.analyser.get?_symbols⟩, place.line,
      fun reading entry member => ?_⟩
  -- Only a request could declare another type, and none of these does.
  have plain : before.analyser.IsPlain := by
    refine isPlain_run (fun name type asked => reading name type (List.mem_append_left _ asked)) ?_
    simp [State.ofTokens, Analyser.IsPlain]
  have plainAfter :=
    request.isPlain_ending before plain fun name type same => reading name type (by simp [same])
  exact TypeName.plain_iff.1 (plainAfter entry member)

-- A declaration that halts at the end of the input has passed the word for its type, and its
-- newline is counted.
example :
    let halted := Request.variableDeclaration.ending (.ofTokens [⟨"int\\n", .intWord, some 23⟩])
    halted.1 = .error .missingToken ∧ halted.2.position = 1 ∧ halted.2.line = 2 := ⟨rfl, rfl, rfl⟩

end Request

end Syntax

end Workbench
