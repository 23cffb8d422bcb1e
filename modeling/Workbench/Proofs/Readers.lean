import Mathlib.Data.List.Infix
import Workbench.Syntax.Statement

/-! The readers as equations between states.

Each reader returns its next state together with a bound. What follows forgets the bounds: a reader
is the next state it gives, told by the kind of the first token, and an induction over the readers
of expressions has one case for each way of going on.
-/

set_option autoImplicit false

namespace Workbench.Syntax

namespace State

section
variable (state : State)

@[simp] theorem errors_say (text : String) : (state.say text).errors = state.errors := rfl

@[simp] theorem errors_fail (error : SyntaxError) :
    (state.fail error).errors = state.errors ++ [error] := rfl

@[simp] theorem errors_noteSettle (type : Option TypeName) :
    (state.noteSettle type).errors = state.errors := rfl

@[simp] theorem errors_use (name : String) : (state.use name).errors = state.errors := rfl

@[simp] theorem errors_declare (name : String) (type : Option TypeName) :
    (state.declare name type).errors = state.errors := rfl

@[simp] theorem errors_assign (name : String) (type : Option TypeName) :
    (state.assign name type).errors = state.errors := rfl

@[simp] theorem errors_record (entry : Entry) : (state.record entry).errors = state.errors := rfl

@[simp] theorem errors_advance : state.advance.errors = state.errors := by
  unfold advance
  split <;> rfl

@[simp] theorem analyser_say (text : String) : (state.say text).analyser = state.analyser := rfl

@[simp] theorem analyser_fail (error : SyntaxError) :
    (state.fail error).analyser = state.analyser := rfl

@[simp] theorem analyser_noteSettle (type : Option TypeName) :
    (state.noteSettle type).analyser = state.analyser := rfl

@[simp] theorem analyser_use (name : String) :
    (state.use name).analyser = state.analyser.use name := rfl

@[simp] theorem analyser_declare (name : String) (type : Option TypeName) :
    (state.declare name type).analyser = state.analyser.declare name type := rfl

@[simp] theorem analyser_assign (name : String) (type : Option TypeName) :
    (state.assign name type).analyser = state.analyser.assign name type := rfl

@[simp] theorem analyser_record (entry : Entry) :
    (state.record entry).analyser =
      { state.analyser with entries := state.analyser.entries ++ [entry] } := rfl

@[simp] theorem analyser_advance : state.advance.analyser = state.analyser := by
  unfold advance
  split <;> rfl

@[simp] theorem analyser_expect (wanted : Kind) :
    (state.expect wanted).analyser = state.analyser := by
  simp only [expect]
  split
  · split <;> simp
  · split <;> simp

end

theorem meets_eq_some {state : State} {wanted : Kind} {token : Token} :
    state.meets wanted = some token ↔ token.kind = wanted ∧ ∃ rest, state.rest = token :: rest := by
  unfold meets peek
  cases state.rest with
  | nil => simp
  | cons first rest =>
    simp only [List.head?_cons, Option.filter_eq_some_iff, Option.some.injEq, beq_iff_eq,
      List.cons.injEq, exists_and_left, exists_eq', and_true]
    rw [and_comm]

theorem meets_eq_none {state : State} {wanted : Kind} :
    state.meets wanted = none ↔ ∀ token ∈ state.rest.head?, token.kind ≠ wanted := by
  simp [meets, peek, Option.filter_eq_none_iff]

theorem expect_found {state : State} {wanted : Kind} {token : Token} {rest : List Token}
    (first : state.rest = token :: rest) (found : token.kind = wanted) :
    (state.expect wanted).rest = rest ∧ (state.expect wanted).errors = state.errors := by
  simp [expect, peek, first, found]

theorem expect_other {state : State} {wanted : Kind} {token : Token} {rest : List Token}
    (first : state.rest = token :: rest) (other : token.kind ≠ wanted) :
    (state.expect wanted).rest = state.rest ∧
      (state.expect wanted).errors = state.errors ++ [.expected wanted token.kind] := by
  simp [expect, peek, first, other]

theorem expect_end {state : State} (wanted : Kind) (empty : state.rest = []) :
    (state.expect wanted).rest = [] ∧
      (state.expect wanted).errors =
        if missedAtEnd wanted then state.errors ++ [.absent wanted] else state.errors := by
  simp only [expect, peek, rest_say, empty, List.head?_nil]
  split <;> simp [empty]

theorem errors_expect (wanted : Kind) (state : State) :
    state.errors <+: (state.expect wanted).errors := by
  cases remaining : state.rest with
  | nil =>
    rw [(expect_end wanted remaining).2]
    split
    · exact List.prefix_append _ _
    · exact List.prefix_rfl
  | cons token rest =>
    by_cases found : token.kind = wanted
    · rw [(expect_found remaining found).2]
    · rw [(expect_other remaining found).2]
      exact List.prefix_append _ _

/-- Unless something is reported, the wanted token is passed, or a semicolon or the like is not
missed at the end. -/
theorem expect_quiet {state : State} {wanted : Kind}
    (quiet : (state.expect wanted).errors = state.errors) :
    (∃ token, token.kind = wanted ∧ state.rest = token :: (state.expect wanted).rest) ∨
      (state.rest = [] ∧ missedAtEnd wanted = false ∧ (state.expect wanted).rest = []) := by
  cases remaining : state.rest with
  | nil =>
    obtain ⟨still, errors⟩ := expect_end wanted remaining
    refine Or.inr ⟨rfl, ?_, still⟩
    cases missed : missedAtEnd wanted with
    | false => rfl
    | true => simp [errors, missed] at quiet
  | cons token rest =>
    by_cases found : token.kind = wanted
    · exact Or.inl ⟨token, found, by rw [(expect_found remaining found).1]⟩
    · rw [(expect_other remaining found).2] at quiet
      simp at quiet

end State

@[simp] theorem position_noteWiden (first tail : Option TypeName) (state : State) :
    (noteWiden first tail state).position = state.position := by
  unfold noteWiden
  split
  · rfl
  · split <;> rfl

@[simp] theorem errors_noteWiden (first tail : Option TypeName) (state : State) :
    (noteWiden first tail state).errors = state.errors := by
  unfold noteWiden
  split
  · rfl
  · split <;> rfl

@[simp] theorem analyser_noteWiden (first tail : Option TypeName) (state : State) :
    (noteWiden first tail state).analyser = state.analyser := by
  unfold noteWiden
  split
  · rfl
  · split <;> rfl

/-- States that differ in what has been said at most. -/
structure Alike (first second : State) : Prop where
  rest : second.rest = first.rest
  position : second.position = first.position
  errors : second.errors = first.errors
  analyser : second.analyser = first.analyser

namespace Alike

theorem refl (state : State) : Alike state state := ⟨rfl, rfl, rfl, rfl⟩

theorem say {first second : State} (alike : Alike first second) (text : String) :
    Alike first (second.say text) := ⟨alike.rest, alike.position, alike.errors, alike.analyser⟩

theorem noteWiden (left right : Option TypeName) (state : State) :
    Alike state (noteWiden left right state) :=
  ⟨by simp, by simp, by simp, by simp⟩

end Alike

/-- Nothing has been done between two states but to say something. -/
inductive Noted (start : State) : State → Prop where
  | still : Noted start start
  | say {next : State} (noted : Noted start next) (text : String) : Noted start (next.say text)

theorem Noted.alike {start next : State} (noted : Noted start next) : Alike start next := by
  induction noted with
  | still => exact .refl start
  | say _ text ih => exact ih.say text

/-! ## Expressions -/

def startsFactor : Kind → Bool
  | .integer | .real | .identifier | .openParen => true
  | _ => false

section
variable {state : State} {token : Token} {rest : List Token}

theorem next_factor_missing
    (missing : ∀ token ∈ state.rest.head?, startsFactor token.kind = false) :
    (factor state).next = state := by
  rw [factor]
  split
  · rfl
  · next token _ remaining =>
    have noFactor := missing token (by simp [remaining])
    split <;> simp_all [startsFactor, Typed.still]

theorem next_factor_number (first : state.rest = token :: rest)
    (number : token.kind = .integer ∨ token.kind = .real) :
    (factor state).next = state.advance := by
  rw [factor]
  split
  · next remaining => simp [first] at remaining
  · next other _ remaining =>
    obtain ⟨rfl, -⟩ := List.cons.inj (first.symm.trans remaining)
    rcases number with kind | kind <;> simp [kind]

theorem next_factor_name (first : state.rest = token :: rest) (name : token.kind = .identifier) :
    ∃ text, (factor state).next = ((state.use token.lexeme).say text).advance := by
  rw [factor]
  split
  · next remaining => simp [first] at remaining
  · next other _ remaining =>
    obtain ⟨rfl, -⟩ := List.cons.inj (first.symm.trans remaining)
    simp only [name]
    exact ⟨_, rfl⟩

theorem next_factor_group (first : state.rest = token :: rest) (opening : token.kind = .openParen) :
    (factor state).next = (expression state.advance).next.expect .closeParen := by
  rw [factor]
  split
  · next remaining => simp [first] at remaining
  · next other _ remaining =>
    obtain ⟨rfl, -⟩ := List.cons.inj (first.symm.trans remaining)
    simp only [opening]

theorem next_termTail_still
    (still : ∀ token ∈ state.rest.head?, token.kind.isFactorOperator = false) :
    (termTail state).next = state := by
  rw [termTail]
  split
  · rfl
  · next token _ remaining =>
    have noOperator := still token (by simp [remaining])
    simp [noOperator, Typed.still]

theorem next_termTail_step (first : state.rest = token :: rest)
    (operator : token.kind.isFactorOperator = true) :
    ∃ left right, (termTail state).next =
      noteWiden left right (termTail (factor state.advance).next).next := by
  rw [termTail]
  split
  · next remaining => simp [first] at remaining
  · next other _ remaining =>
    obtain ⟨rfl, -⟩ := List.cons.inj (first.symm.trans remaining)
    simp only [operator, if_true]
    exact ⟨_, _, rfl⟩

theorem next_term (state : State) : (term state).next = (termTail (factor state).next).next := by
  rw [term]

theorem next_expressionTail_still
    (still : ∀ token ∈ state.rest.head?, token.kind.isOperator = false) :
    (expressionTail state).next = state := by
  rw [expressionTail]
  split
  · rfl
  · next token _ remaining =>
    have noOperator := still token (by simp [remaining])
    simp [noOperator, Typed.still]

theorem next_expressionTail_step (first : state.rest = token :: rest)
    (operator : token.kind.isOperator = true) :
    ∃ left right, (expressionTail state).next =
      noteWiden left right (expressionTail (term state.advance).next).next := by
  rw [expressionTail]
  split
  · next remaining => simp [first] at remaining
  · next other _ remaining =>
    obtain ⟨rfl, -⟩ := List.cons.inj (first.symm.trans remaining)
    simp only [operator, if_true]
    exact ⟨_, _, rfl⟩

theorem next_expression (state : State) :
    (expression state).next = (expressionTail (term state).next).next := by
  rw [expression]

end

section
variable (Factor TermTail Term ExpressionTail Expression : State → Prop)
  (factor_alone : ∀ state, (∀ token ∈ state.rest.head?, token.kind ≠ .openParen) → Factor state)
  (factor_group : ∀ state token rest, state.rest = token :: rest → token.kind = .openParen →
    Expression state.advance → Factor state)
  (termTail_still : ∀ state,
    (∀ token ∈ state.rest.head?, token.kind.isFactorOperator = false) → TermTail state)
  (termTail_step : ∀ state token rest, state.rest = token :: rest →
    token.kind.isFactorOperator = true → Factor state.advance →
    TermTail (factor state.advance).next → TermTail state)
  (term_read : ∀ state, Factor state → TermTail (factor state).next → Term state)
  (expressionTail_still : ∀ state,
    (∀ token ∈ state.rest.head?, token.kind.isOperator = false) → ExpressionTail state)
  (expressionTail_step : ∀ state token rest, state.rest = token :: rest →
    token.kind.isOperator = true → Term state.advance →
    ExpressionTail (term state.advance).next → ExpressionTail state)
  (expression_read : ∀ state, Term state → ExpressionTail (term state).next → Expression state)
include factor_alone factor_group termTail_still termTail_step term_read expressionTail_still
  expressionTail_step
  expression_read

/-- Induction over the readers of expressions: a property of each reader holds where it stops, and
where it goes on it follows from the properties of what it goes on with. -/
theorem reader_induction :
    (∀ state, Factor state) ∧ (∀ state, Expression state) ∧ (∀ state, ExpressionTail state) ∧
      (∀ state, Term state) ∧ (∀ state, TermTail state) := by
  have all := factor.mutual_induct Factor Expression ExpressionTail Term TermTail
  exact all
    (fun state empty => factor_alone state (by simp [empty]))
    (fun state token rest first kind => factor_alone state (by simp [first, kind]))
    (fun state token rest first kind => factor_alone state (by simp [first, kind]))
    (fun state token rest first kind => factor_alone state (by simp [first, kind]))
    (fun state token rest first kind _ _ _ _ inner =>
      factor_group state token rest first kind inner)
    (fun state token rest first _ _ _ other => factor_alone state (by
      intro found member kind
      obtain rfl : token = found := by simpa [first] using member
      exact other kind))
    (fun state _ next _ read _ _ _ _ whole tail =>
      expression_read state whole (by rw [read]; exact tail))
    (fun state empty => expressionTail_still state (by simp [empty]))
    (fun state token rest first operator _ next _ read _ _ _ _ operand tail =>
      expressionTail_step state token rest first operator operand (by rw [read]; exact tail))
    (fun state token rest first other => expressionTail_still state (by simpa [first] using other))
    (fun state _ next _ read _ _ _ _ whole tail => term_read state whole (by rw [read]; exact tail))
    (fun state empty => termTail_still state (by simp [empty]))
    (fun state token rest first operator _ next _ read _ _ _ _ operand tail =>
      termTail_step state token rest first operator operand (by rw [read]; exact tail))
    (fun state token rest first other => termTail_still state (by simpa [first] using other))

theorem expression_induction : (∀ state, Factor state) ∧ (∀ state, Expression state) := by
  obtain ⟨factors, expressions, -⟩ :=
    reader_induction Factor TermTail Term ExpressionTail Expression factor_alone
    factor_group termTail_still termTail_step term_read expressionTail_still
      expressionTail_step expression_read
  exact ⟨factors, expressions⟩

end

/-! ## Statements

A reader that may halt is the pair of its result and the state it ends in.
-/

abbrev Ending := Except Halt Unit × State

def Outcome.ending {start : State} (outcome : Outcome start) : Ending :=
  (outcome.result, outcome.next)

def Progress.ending {start : State} (progress : Progress start) : Ending :=
  (progress.result, progress.next)

/-- Goes on from where a reader ended, unless it halted. -/
def Ending.andThen (first : Ending) (following : State → Ending) : Ending :=
  match first.1 with
  | .error halt => (.error halt, first.2)
  | .ok () => following first.2

@[simp] theorem Ending.andThen_ok (state : State) (following : State → Ending) :
    Ending.andThen (.ok (), state) following = following state := rfl

@[simp] theorem Ending.andThen_error (halt : Halt) (state : State) (following : State → Ending) :
    Ending.andThen (.error halt, state) following = (.error halt, state) := rfl

section
variable {state : State} {token : Token} {rest : List Token}

theorem ending_block_still (still : ∀ token ∈ state.rest.head?, token.kind = .closeBrace) :
    (block state).ending = (.ok (), state) := by
  rw [block]
  split
  · rfl
  · next token _ remaining =>
    have closing := still token (by simp [remaining])
    simp [closing, Outcome.still, Outcome.ending]

theorem ending_block_step (first : state.rest = token :: rest) (other : token.kind ≠ .closeBrace) :
    (block state).ending = (statement state).ending.andThen fun next => (block next).ending := by
  rw [block]
  split
  · next remaining => simp [first] at remaining
  · next found _ remaining =>
    obtain ⟨rfl, -⟩ := List.cons.inj (first.symm.trans remaining)
    simp only [beq_iff_eq, other, if_false]
    rcases statement state with ⟨result, next, bound⟩
    cases result <;> rfl

def alternative (closed : State) : Ending :=
  match closed.meets .elseWord with
  | none => (.ok (), closed)
  | some _ => (block (closed.advance.expect .openBrace)).ending.andThen fun next =>
      (.ok (), next.expect .closeBrace)

theorem ending_conditionalBody (state : State) :
    (conditionalBody state).ending =
      (block state).ending.andThen fun next => alternative (next.expect .closeBrace) := by
  rw [conditionalBody]
  rcases block state with ⟨⟨halt⟩ | ⟨⟨⟩⟩, next, bound⟩
  · rfl
  · simp only [Outcome.ending, Ending.andThen_ok, alternative]
    split
    · next absent => simp only [absent]
    · next _ present =>
      simp only [present]
      rcases block ((next.expect .closeBrace).advance.expect .openBrace) with
        ⟨result, final, bound'⟩
      cases result <;> rfl

theorem ending_program_end (empty : state.rest = []) :
    ∃ last, Noted state last ∧ (program state).ending = (.ok (), last) := by
  rw [program]
  split
  · exact ⟨_, Noted.still.say _, rfl⟩
  · next remaining => simp [empty] at remaining

theorem ending_program_step (first : state.rest = token :: rest) :
    (program state).ending = (statement state).ending.andThen fun next =>
      (program next).ending := by
  rw [program]
  split
  · next remaining => simp [first] at remaining
  · rcases statement state with ⟨result, next, bound⟩
    cases result <;> rfl

def State.seen (state : State) : State :=
  state.say ("Parse: token en declaracion -> " ++ orNone (state.peek.map Token.describe))

theorem ending_statement_end (empty : state.rest = []) :
    ∃ last, Noted state last ∧ (statement state).ending = (.error .missingToken, last) := by
  rw [statement]
  split
  · exact ⟨_, Noted.still.say _, rfl⟩
  · next remaining => simp [empty] at remaining

theorem ending_statement (first : state.rest = token :: rest) :
    (statement state).ending =
      match token.kind with
      | .intWord | .floatWord =>
        (variableDeclaration
          (state.seen.say "entro a palabra reservada int o float")).ending.andThen
          fun next =>
            (.ok (), (next.say "Termino de entrar a palabra reservada int o float").say "termino")
      | .identifier =>
        (assignment (state.seen.say "entro a identificador")).ending.andThen fun next =>
          (.ok (), next.say "termino")
      | .ifWord =>
        (conditionalBody (conditionalHead (((state.seen.say "entro a palabra reservada").say
          "Procesando if").expect .ifWord))).ending.andThen fun next => (.ok (), next.say "termino")
      | .printWord =>
        (printTail
          ((state.seen.say "entro a palabra reservada print").expect .printWord)).ending.andThen
          fun next => (.ok (), next.say "termino")
      | _ =>
        (.ok (), ((((state.seen.say "entro a error").say "entro a cargar").fail
          .invalidStatement).advance).say "termino") := by
  -- What a branch says after its reader is said only if the reader did not halt.
  rw [statement]
  split
  · next remaining => simp [first] at remaining
  · next found _ remaining =>
    obtain ⟨rfl, -⟩ := List.cons.inj (first.symm.trans remaining)
    split
    · next kind =>
      simp only [kind, State.seen]
      rcases variableDeclaration _ with ⟨result, next, bound⟩
      cases result <;> rfl
    · next kind =>
      simp only [kind, State.seen]
      rcases variableDeclaration _ with ⟨result, next, bound⟩
      cases result <;> rfl
    · next kind =>
      simp only [kind, State.seen]
      rcases assignment _ with ⟨result, next, bound⟩
      cases result <;> rfl
    · next kind =>
      simp only [kind, State.seen]
      rcases conditionalBody _ with ⟨result, next, bound⟩
      cases result <;> rfl
    · next kind =>
      simp only [kind, State.seen]
      rfl
    · next notInt notFloat notName notIf notPrint =>
      split <;> first | contradiction | rfl

/-- A reader is run, with something said before it and after it. -/
def Wrapped (state : State) (reader : State → Ending) (ending : Ending) : Prop :=
  ∃ (entered : State) (leave : State → State), Noted state entered ∧
    (∀ next, Noted next (leave next)) ∧
    ending = (reader entered).andThen fun next => (.ok (), leave next)

theorem noted_seen (state : State) : Noted state state.seen := Noted.still.say _

theorem wrapped_declaration (first : state.rest = token :: rest)
    (word : token.kind.isTypeWord = true) :
    Wrapped state (fun entered => (variableDeclaration entered).ending)
    (statement state).ending := by
  rw [ending_statement first]
  cases kind : token.kind with
  | intWord | floatWord =>
    exact ⟨_, _, (noted_seen state).say _, fun _ => (Noted.still.say _).say _, rfl⟩
  | _ => simp [kind, Kind.isTypeWord] at word

theorem wrapped_assignment (first : state.rest = token :: rest) (name : token.kind = .identifier) :
    Wrapped state (fun entered => (assignment entered).ending) (statement state).ending := by
  rw [ending_statement first, name]
  exact ⟨_, _, (noted_seen state).say _, fun _ => Noted.still.say _, rfl⟩

theorem wrapped_conditional (first : state.rest = token :: rest) (word : token.kind = .ifWord) :
    Wrapped state (fun entered =>
      (conditionalBody (conditionalHead (entered.expect .ifWord))).ending)
      (statement state).ending := by
  rw [ending_statement first, word]
  exact ⟨_, _, ((noted_seen state).say _).say _, fun _ => Noted.still.say _, rfl⟩

theorem wrapped_print (first : state.rest = token :: rest) (word : token.kind = .printWord) :
    Wrapped state (fun entered => (printTail (entered.expect .printWord)).ending)
    (statement state).ending := by
  rw [ending_statement first, word]
  exact ⟨_, _, (noted_seen state).say _, fun _ => Noted.still.say _, rfl⟩

/-- All that a statement can be, by its first token. -/
theorem statement_cases (first : state.rest = token :: rest) :
    token.kind.isTypeWord = true ∧
        Wrapped state (fun entered => (variableDeclaration entered).ending)
        (statement state).ending ∨
      token.kind = .identifier ∧
        Wrapped state (fun entered => (assignment entered).ending) (statement state).ending ∨
      token.kind = .ifWord ∧
        Wrapped state (fun entered =>
          (conditionalBody (conditionalHead (entered.expect .ifWord))).ending)
          (statement state).ending ∨
      token.kind = .printWord ∧
        Wrapped state (fun entered => (printTail (entered.expect .printWord)).ending)
        (statement state).ending ∨
      token.kind.isTypeWord = false ∧
        Wrapped state (fun entered => (.ok (), (entered.fail .invalidStatement).advance))
        (statement state).ending := by
  by_cases word : token.kind.isTypeWord = true
  · exact Or.inl ⟨word, wrapped_declaration first word⟩
  by_cases name : token.kind = .identifier
  · exact Or.inr (Or.inl ⟨name, wrapped_assignment first name⟩)
  by_cases condition : token.kind = .ifWord
  · exact Or.inr (Or.inr (Or.inl ⟨condition, wrapped_conditional first condition⟩))
  by_cases print : token.kind = .printWord
  · exact Or.inr (Or.inr (Or.inr (Or.inl ⟨print, wrapped_print first print⟩)))
  refine Or.inr (Or.inr (Or.inr (Or.inr ⟨Bool.eq_false_iff.2 word, ?_⟩)))
  rw [ending_statement first]
  cases kind : token.kind with
  | intWord | floatWord => simp [kind, Kind.isTypeWord] at word
  | identifier => exact absurd kind name
  | ifWord => exact absurd kind condition
  | printWord => exact absurd kind print
  | _ => exact ⟨_, _, ((noted_seen state).say _).say _, fun _ => Noted.still.say _, rfl⟩

/-! The statements without blocks never halt once their first token is there, a type word at the
very end apart. -/

theorem next_initializer_still (still : state.meets .assign = none) :
    (initializer state).next = state := by
  unfold initializer
  simp only [still]
  rfl

theorem next_initializer_step {sign : Token} (sign_next : state.meets .assign = some sign) :
    Alike (expression state.advance).next (initializer state).next := by
  unfold initializer
  simp only [sign_next]
  exact (Alike.refl _).say _

theorem next_declarator_still (still : state.meets .identifier = none) :
    (declarator state).next = state := by
  unfold declarator
  simp only [still]
  rfl

theorem next_declarator_step {name : Token} (named : state.meets .identifier = some name) :
    ∃ before type, Alike (initializer state.advance).next before ∧
      (declarator state).next = before.declare name.lexeme type := by
  unfold declarator
  simp only [named]
  exact ⟨_, _, ((Alike.refl _).say _).say _, rfl⟩

theorem ending_variableDeclaration_end (empty : state.advance.rest = []) :
    (variableDeclaration state).ending = (.error .missingToken, state.advance) := by
  have absent : state.advance.peek = none := by rw [State.peek, empty, List.head?_nil]
  unfold variableDeclaration
  split
  · rfl
  · next present => simp [absent] at present

theorem ending_variableDeclaration (more : state.advance.rest ≠ []) :
    (variableDeclaration state).ending =
      (.ok (), if ((declarator state.advance).next.meets .semicolon).isSome then
        (declarator state.advance).next.expect .semicolon
      else ((declarator state.advance).next.expect .semicolon).fail .missingSemicolon) := by
  unfold variableDeclaration
  split
  · next absent => exact absurd (List.head?_eq_none_iff.1 absent) more
  · rfl

theorem ending_assigned_missing (name : String)
    (missing : ∀ token ∈ state.rest.head?, token.kind = .semicolon) :
    (assigned (some name) state).ending = (.ok (), state.fail .missingExpression) := by
  unfold assigned
  split
  · rfl
  · next token present =>
    simp only [State.peek, Option.filter_eq_some_iff] at present
    simp [missing token present.1] at present

theorem ending_assigned (name : String) (first : state.rest = token :: rest)
    (other : token.kind ≠ .semicolon) :
    ∃ before entry type after, Alike (expression state).next before ∧
      Alike (before.record entry) after ∧
      (assigned (some name) state).ending = (.ok (), after.assign name type) := by
  unfold assigned
  split
  · next absent => simp [State.peek, first, other] at absent
  · exact ⟨_, _, _, _, (Alike.refl _).say _, (Alike.refl _).say _, rfl⟩

theorem ending_assignmentTail (target : Option String) (state : State) :
    (assignmentTail target state).ending =
      (assigned target (state.expect .assign)).ending.andThen fun next =>
        (.ok (), next.expect .semicolon) := by
  unfold assignmentTail
  rcases assigned target (state.expect .assign) with ⟨result, next, bound⟩
  cases result <;> rfl

theorem ending_assignment (first : state.rest = token :: rest) (name : token.kind = .identifier) :
    ∃ before, Alike state before ∧ (assignment state).ending =
      (assigned (some token.lexeme)
        ((before.use token.lexeme).advance.expect .assign)).ending.andThen
        fun next => (.ok (), next.expect .semicolon) := by
  unfold assignment
  split
  · next remaining => simp [first] at remaining
  · next found _ remaining =>
    obtain ⟨rfl, -⟩ := List.cons.inj (first.symm.trans remaining)
    refine ⟨_, (Alike.refl state).say state.describeSymbols, ?_⟩
    rw [← ending_assignmentTail]
    simp only [name, beq_self_eq_true, if_true]
    rfl

theorem ending_printTail (state : State) :
    (printTail state).ending =
      (.ok (),
        ((expression (state.expect .openParen)).next.expect .closeParen).expect .semicolon) := rfl

end

/-- Induction over statements and blocks: a statement may use what holds of the shorter blocks, and
a block what holds of its first statement and of the rest. -/
theorem statement_induction (Statement Block : State → Prop)
    (statement_step : ∀ state,
      (∀ shorter : State, shorter.rest.length < state.rest.length → Block shorter) →
        Statement state)
    (block_step : ∀ state, Statement state →
      (∀ shorter : State, shorter.rest.length < state.rest.length → Block shorter) → Block state) :
    (∀ state, Statement state) ∧ (∀ state, Block state) := by
  have blocks : ∀ length, ∀ state : State, state.rest.length < length → Block state := by
    intro length
    induction length with
    | zero => exact fun _ none => absurd none (Nat.not_lt_zero _)
    | succ length ih =>
      intro state bound
      have shorter : ∀ other : State, other.rest.length < state.rest.length → Block other :=
        fun other less => ih other (by omega)
      exact block_step state (statement_step state shorter) shorter
  have every : ∀ state, Block state := fun state => blocks _ state (Nat.lt_succ_self _)
  exact ⟨fun state => statement_step state fun shorter _ => every shorter, every⟩

theorem length_rest_statement {state : State} {token : Token} {rest : List Token}
    (first : state.rest = token :: rest) :
    (statement state).ending.2.rest.length < state.rest.length := by
  have bound := (statement state).bound
  rw [first, List.length_cons] at bound ⊢
  exact Nat.lt_succ_of_le bound

/-- The word of a conditional has been passed, so its blocks have less to read than the
statement. -/
theorem length_rest_conditional {state entered : State} {token : Token} {rest : List Token}
    (alike : Alike state entered) (first : state.rest = token :: rest)
    (word : token.kind = .ifWord) :
    (conditionalHead (entered.expect .ifWord)).rest.length < state.rest.length := by
  have bound := length_rest_conditionalHead (entered.expect .ifWord)
  rw [(State.expect_found (alike.rest.trans first) word).1] at bound
  rw [first, List.length_cons]
  exact Nat.lt_succ_of_le bound

theorem length_rest_alternative (state : State) :
    (((block state).ending.2.expect .closeBrace).advance.expect .openBrace).rest.length ≤
      state.rest.length := by
  calc
    _ ≤ ((block state).ending.2.expect .closeBrace).advance.rest.length :=
      State.length_rest_expect _ _
    _ ≤ ((block state).ending.2.expect .closeBrace).rest.length := State.length_rest_advance _
    _ ≤ (block state).ending.2.rest.length := State.length_rest_expect _ _
    _ ≤ state.rest.length := (block state).bound

theorem block_cases (state : State) :
    (block state).ending = (.ok (), state) ∨ ∃ token rest, state.rest = token :: rest ∧
      (block state).ending = (statement state).ending.andThen fun next => (block next).ending := by
  cases remaining : state.rest with
  | nil => exact Or.inl (ending_block_still (by simp [remaining]))
  | cons token rest =>
    by_cases closing : token.kind = .closeBrace
    · exact Or.inl (ending_block_still (by simpa [remaining] using closing))
    · exact Or.inr ⟨token, rest, rfl, ending_block_step remaining closing⟩

/-- Induction over programs: what holds at the end, and of a program if it holds after its first
statement. -/
theorem program_induction (Program : State → Prop)
    (ended : ∀ state : State, state.rest = [] → Program state)
    (step : ∀ (state : State) token rest, state.rest = token :: rest →
      Program (statement state).ending.2 →
      Program state) (state : State) : Program state := by
  induction length : state.rest.length using Nat.strong_induction_on generalizing state with
  | _ length ih =>
    cases remaining : state.rest with
    | nil => exact ended state remaining
    | cons token rest =>
      have shorter := length_rest_statement remaining
      exact step state token rest remaining (ih _ (by omega) _ rfl)

end Workbench.Syntax
