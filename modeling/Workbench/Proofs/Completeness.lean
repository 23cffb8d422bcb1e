import Workbench.Proofs.Grammar
import Workbench.Proofs.Readers

/-! What is in the grammar is read without a fault.

A reader takes from the input exactly what the grammar says, provided that what follows cannot go on
with it: after an expression no operator and no factor may follow, and after a conditional no
`else`.
-/

set_option autoImplicit false

namespace Workbench.Syntax

def State.kinds (state : State) : List Kind := state.rest.map Token.kind

theorem State.kinds_eq_cons {state : State} {kind : Kind} {kinds : List Kind} :
    state.kinds = kind :: kinds ↔
      ∃ token rest, state.rest = token :: rest ∧ token.kind = kind ∧ rest.map Token.kind = kinds :=
  List.map_eq_cons_iff

theorem State.kinds_eq_nil {state : State} : state.kinds = [] ↔ state.rest = [] :=
  List.map_eq_nil_iff

theorem State.kinds_of_rest {state : State} {token : Token} {rest : List Token}
    (first : state.rest = token :: rest) : state.kinds = token.kind :: state.advance.kinds := by
  simp [kinds, first]

theorem Alike.kinds {first second : State} (alike : Alike first second) :
    second.kinds = first.kinds := by
  rw [State.kinds, alike.rest, State.kinds]

/-- No fault is found on the way to `next`, and these kinds are left. -/
structure Leaves (start next : State) (kinds : List Kind) : Prop where
  kinds : next.kinds = kinds
  errors : next.errors = start.errors

namespace Leaves

variable {start middle next : State} {kinds others : List Kind}

theorem trans (left : Leaves start middle others) (right : Leaves middle next kinds) :
    Leaves start next kinds :=
  ⟨right.kinds, right.errors.trans left.errors⟩

theorem alike (left : Leaves start middle kinds) (alike : Alike middle next) :
    Leaves start next kinds :=
  ⟨alike.kinds.trans left.kinds, alike.errors.trans left.errors⟩

theorem advance {kind : Kind} (first : start.kinds = kind :: kinds) :
    Leaves start start.advance kinds := by
  obtain ⟨token, rest, remaining, -, same⟩ := State.kinds_eq_cons.1 first
  exact ⟨by simp [State.kinds, remaining, same], by simp⟩

theorem expect {wanted : Kind} (first : start.kinds = wanted :: kinds) :
    Leaves start (start.expect wanted) kinds := by
  obtain ⟨token, rest, remaining, found, same⟩ := State.kinds_eq_cons.1 first
  obtain ⟨after, errors⟩ := State.expect_found remaining found
  exact ⟨by rw [State.kinds, after, same], errors⟩

end Leaves

/-! ## Expressions -/

/-- Nothing that follows can go on with an expression. -/
def Ends (kinds : List Kind) : Prop :=
  ∀ kind ∈ kinds.head?, startsFactor kind = false ∧ kind.isOperator = false ∧
    kind.isFactorOperator = false

/-- An operator takes the place of a missing factor, but starts none. -/
theorem startsFactor_of_isOperator {sign : Kind} (operator : sign.isOperator = true) :
    startsFactor sign = false := by
  cases sign <;> simp_all [Kind.isOperator, startsFactor]

theorem not_startsFactor_after_operand {tail rest : List Kind} (following : Grammar.Tail tail)
    (ends : Ends rest) :
    ∀ kind ∈ (tail ++ rest).head?, startsFactor kind = false := by
  cases following with
  | done => exact fun kind member => (ends kind member).1
  | more operator given others =>
    intro kind member
    obtain rfl : _ = kind := by simpa using member
    exact startsFactor_of_isOperator operator

theorem next_factor_missing_of_kinds {state : State}
    (missing : ∀ kind ∈ state.kinds.head?, startsFactor kind = false) :
    (factor state).next = state := by
  apply next_factor_missing
  intro token member
  exact missing token.kind (by
    rw [State.kinds, List.head?_map]
    exact Option.mem_map_of_mem _ member)

theorem factor_leaves_alone (state : State)
    (alone : ∀ token ∈ state.rest.head?, token.kind ≠ .openParen)
    (operand tail rest : List Kind) (given : Grammar.Operand operand)
    (following : Grammar.Tail tail)
    (ends : Ends rest) (kinds : state.kinds = operand ++ (tail ++ rest)) :
    Leaves state (factor state).next (tail ++ rest) := by
  cases given with
  | missing =>
    have missing := not_startsFactor_after_operand following ends
    rw [next_factor_missing_of_kinds (by rwa [kinds])]
    exact ⟨kinds, rfl⟩
  | given factor =>
    cases factor with
    | integer =>
      obtain ⟨token, _, remaining, kind, -⟩ := State.kinds_eq_cons.1 kinds
      rw [next_factor_number remaining (Or.inl kind)]
      exact .advance kinds
    | real =>
      obtain ⟨token, _, remaining, kind, -⟩ := State.kinds_eq_cons.1 kinds
      rw [next_factor_number remaining (Or.inr kind)]
      exact .advance kinds
    | name =>
      obtain ⟨token, _, remaining, kind, same⟩ := State.kinds_eq_cons.1 kinds
      obtain ⟨text, next⟩ := next_factor_name remaining kind
      rw [next]
      exact ⟨by simp [State.kinds, remaining, same], by simp⟩
    | group valued =>
      obtain ⟨token, _, remaining, kind, -⟩ := State.kinds_eq_cons.1 kinds
      exact absurd kind (alone token (by simp [remaining]))

theorem factor_leaves_group {state : State} {token : Token} {others : List Token}
    (first : state.rest = token :: others) (opening : token.kind = .openParen)
    (inner : ∀ value rest, Grammar.Expression value → Ends rest →
      state.advance.kinds = value ++ rest →
      Leaves state.advance (expression state.advance).next rest)
    (operand tail rest : List Kind) (given : Grammar.Operand operand)
    (following : Grammar.Tail tail)
    (ends : Ends rest) (kinds : state.kinds = operand ++ (tail ++ rest)) :
    Leaves state (factor state).next (tail ++ rest) := by
  have head : state.kinds = .openParen :: state.advance.kinds := opening ▸ State.kinds_of_rest first
  rw [next_factor_group first opening]
  cases given with
  | missing =>
    -- A parenthesis starts a factor, so that none can be missing.
    have none := not_startsFactor_after_operand following ends .openParen
    rw [List.nil_append] at kinds
    simp [← kinds, head, startsFactor] at none
  | given factor =>
    cases factor with
    | group valued =>
      rw [head] at kinds
      have closing : Ends (.closeParen :: (tail ++ rest)) := by
        simp [Ends, startsFactor, Kind.isOperator, Kind.isFactorOperator]
      have read := inner _ _ valued closing (by simpa using kinds)
      exact ((Leaves.advance head).trans read).trans (.expect read.kinds)
    | _ => simp [head] at kinds

theorem tail_of_operator {tail rest others : List Kind} {sign : Kind}
    (following : Grammar.Tail tail) (ends : Ends rest) (kinds : tail ++ rest = sign :: others)
    (operator : sign.isOperator = true ∨ sign.isFactorOperator = true) :
    ∃ operand inner, Grammar.Operand operand ∧ Grammar.Tail inner ∧
      others = operand ++ (inner ++ rest) := by
  cases following with
  | done =>
    have stop := ends sign (by simp only [List.nil_append] at kinds; simp [kinds])
    simp [stop.2.1, stop.2.2] at operator
  | @more _ operand inner _ given following =>
    rw [List.cons_append, List.cons_append, List.append_assoc, List.cons.injEq] at kinds
    exact ⟨operand, inner, given, following, kinds.2.symm⟩

/-- The readers of expressions leave what the grammar leaves. Terms take part of the operators only;
the rest of them is left to the expression. -/
theorem factor_leaves_and_expression_leaves :
    (∀ state, ∀ operand tail rest, Grammar.Operand operand → Grammar.Tail tail → Ends rest →
        state.kinds = operand ++ (tail ++ rest) → Leaves state (factor state).next (tail ++ rest)) ∧
      (∀ state, ∀ value rest, Grammar.Expression value → Ends rest → state.kinds = value ++ rest →
        Leaves state (expression state).next rest) := by
  apply expression_induction _
    (fun state => ∀ tail rest, Grammar.Tail tail → Ends rest → state.kinds = tail ++ rest →
      ∃ others, Grammar.Tail others ∧ Leaves state (termTail state).next (others ++ rest))
    (fun state => ∀ value rest, Grammar.Expression value → Ends rest → state.kinds = value ++ rest →
      ∃ others, Grammar.Tail others ∧ Leaves state (term state).next (others ++ rest))
    (fun state => ∀ tail rest, Grammar.Tail tail → Ends rest → state.kinds = tail ++ rest →
      Leaves state (expressionTail state).next rest)
  case factor_alone => exact factor_leaves_alone
  case factor_group => exact fun state token others => factor_leaves_group
  case termTail_still =>
    intro state still tail rest following ends kinds
    rw [next_termTail_still still]
    exact ⟨tail, following, kinds, rfl⟩
  case termTail_step =>
    intro state token others first operator operand inner tail rest following ends kinds
    have head := State.kinds_of_rest first
    obtain ⟨left, right, next⟩ := next_termTail_step first operator
    obtain ⟨factor, remaining, given, tailed, same⟩ :=
      tail_of_operator following ends (kinds.symm.trans head) (Or.inr operator)
    have read := operand factor remaining rest given tailed ends same
    obtain ⟨others, left', tail_read⟩ := inner remaining rest tailed ends read.kinds
    -- The tail stops at the first sign of a sum, and what it leaves is a tail again.
    refine ⟨others, left', ?_⟩
    rw [next]
    exact (((Leaves.advance head).trans read).trans tail_read).alike (.noteWiden _ _ _)
  case term_read =>
    rintro state operand tail _ rest ⟨given, following⟩ ends kinds
    rw [List.append_assoc] at kinds
    have read := operand _ _ rest given following ends kinds
    obtain ⟨others, left, tail_read⟩ := tail _ rest following ends read.kinds
    rw [next_term]
    exact ⟨others, left, read.trans tail_read⟩
  case expressionTail_still =>
    intro state still tail rest following ends kinds
    rw [next_expressionTail_still still]
    cases following with
    | done => exact ⟨kinds, rfl⟩
    | more operator given following =>
      obtain ⟨token, _, remaining, kind, -⟩ := State.kinds_eq_cons.1 kinds
      simp [← kind, still token (by simp [remaining])] at operator
  case expressionTail_step =>
    intro state token others first operator operand inner tail rest following ends kinds
    have head := State.kinds_of_rest first
    obtain ⟨left, right, next⟩ := next_expressionTail_step first operator
    obtain ⟨factor, remaining, given, tailed, same⟩ :=
      tail_of_operator following ends (kinds.symm.trans head) (Or.inl operator)
    obtain ⟨others, left', read⟩ :=
      operand (factor ++ remaining) rest (.mk given tailed) ends (by rw [same, List.append_assoc])
    have tail_read := inner others rest left' ends read.kinds
    rw [next]
    exact (((Leaves.advance head).trans read).trans tail_read).alike (.noteWiden _ _ _)
  case expression_read =>
    intro state operand tail value rest valued ends kinds
    obtain ⟨others, left, read⟩ := operand value rest valued ends kinds
    rw [next_expression]
    exact read.trans (tail others rest left ends read.kinds)

theorem expression_leaves {state : State} {value rest : List Kind}
    (valued : Grammar.Expression value)
    (ends : Ends rest) (kinds : state.kinds = value ++ rest) :
    Leaves state (expression state).next rest :=
  factor_leaves_and_expression_leaves.2 state value rest valued ends kinds

/-! ## Statements -/

/-- A reader runs through without a fault, and these kinds are left. -/
structure Goes (start : State) (ending : Ending) (kinds : List Kind) : Prop where
  ok : ending.1 = .ok ()
  leaves : Leaves start ending.2 kinds

namespace Goes

variable {start : State} {first : Ending} {kinds others : List Kind}

theorem andThen {following : State → Ending} (left : Goes start first others)
    (right : Goes first.2 (following first.2) kinds) :
    Goes start (first.andThen following) kinds := by
  obtain ⟨⟨halt⟩ | ⟨⟨⟩⟩, middle⟩ := first
  · exact absurd left.ok (by simp)
  · exact ⟨right.ok, left.leaves.trans right.leaves⟩

theorem wrapped {reader : State → Ending} {ending : Ending} (read : Wrapped start reader ending)
    (inside : ∀ entered, Alike start entered → Goes entered (reader entered) kinds) :
    Goes start ending kinds := by
  obtain ⟨entered, leave, before, after, rfl⟩ := read
  have gone := inside entered before.alike
  have whole : Goes entered ((reader entered).andThen fun next => (.ok (), leave next)) kinds :=
    gone.andThen ⟨rfl, (after _).alike.kinds.trans gone.leaves.kinds, (after _).alike.errors⟩
  exact ⟨whole.ok, whole.leaves.kinds, whole.leaves.errors.trans before.alike.errors⟩

end Goes

/-- A semicolon follows, or the input ends where one is not missed. -/
def Closes (kinds rest : List Kind) : Prop := kinds = .semicolon :: rest ∨ kinds = [] ∧ rest = []

theorem Closes.ends {kinds rest : List Kind} (closes : Closes kinds rest) : Ends kinds := by
  rcases closes with
    rfl | ⟨rfl, -⟩ <;> simp [Ends, startsFactor, Kind.isOperator, Kind.isFactorOperator]

theorem Closes.leaves {state : State} {rest : List Kind} (closes : Closes state.kinds rest) :
    Leaves state (state.expect .semicolon) rest := by
  rcases closes with first | ⟨empty, rfl⟩
  · exact .expect first
  · obtain ⟨still, errors⟩ := State.expect_end .semicolon (State.kinds_eq_nil.1 empty)
    exact ⟨State.kinds_eq_nil.2 still, errors⟩

theorem printTail_goes {state : State} {value kinds rest : List Kind}
    (valued : Grammar.Expression value)
    (closes : Closes kinds rest)
    (same : state.kinds = .openParen :: value ++ .closeParen :: kinds) :
    Goes state (printTail state).ending rest := by
  rw [ending_printTail]
  have opened : Leaves state (state.expect .openParen) (value ++ .closeParen :: kinds) :=
    .expect (by simpa using same)
  have read :=
    expression_leaves valued (by simp [Ends, startsFactor, Kind.isOperator, Kind.isFactorOperator])
    opened.kinds
  have closed := Leaves.expect read.kinds
  have ended := Closes.leaves (closed.kinds ▸ closes)
  exact ⟨rfl, ((opened.trans read).trans closed).trans ended⟩

theorem assigned_goes {state : State} {value kinds rest : List Kind} (name : String)
    (valued : Grammar.Expression value) (given : value ≠ []) (closes : Closes kinds rest)
    (same : state.kinds = value ++ kinds) :
    Goes state (assigned (some name) state).ending kinds := by
  obtain ⟨kind, others, rfl⟩ := List.exists_cons_of_ne_nil given
  obtain ⟨token, remaining, first, isKind, -⟩ := State.kinds_eq_cons.1 same
  have other : token.kind ≠ .semicolon := by
    intro semicolon
    have inside := valued.kinds kind (by simp)
    simp [← isKind, semicolon, Grammar.inExpression] at inside
  obtain ⟨before, entry, type, after, told, recorded, ending⟩ := ending_assigned name first other
  have read := expression_leaves valued closes.ends same
  rw [ending]
  refine ⟨rfl, ?_, ?_⟩
  · exact (Alike.kinds recorded).trans ((Alike.kinds told).trans read.kinds)
  · exact recorded.errors.trans (told.errors.trans read.errors)

theorem assignment_goes {state : State} {value kinds rest : List Kind}
    (valued : Grammar.Expression value) (given : value ≠ []) (closes : Closes kinds rest)
    (same : state.kinds = .identifier :: .assign :: value ++ kinds) :
    Goes state (assignment state).ending rest := by
  obtain ⟨token, remaining, first, name, others⟩ := State.kinds_eq_cons.1 same
  obtain ⟨before, alike, ending⟩ := ending_assignment first name
  have target : Leaves state (before.use token.lexeme).advance (.assign :: value ++ kinds) :=
    ⟨by simp [State.kinds, alike.rest, first, others], by simp [alike.errors]⟩
  have signed :=
    Leaves.expect (show (before.use token.lexeme).advance.kinds = .assign :: (value ++ kinds) from
    target.kinds)
  have read := assigned_goes token.lexeme valued given closes signed.kinds
  rw [ending]
  have whole : Goes state
      (assigned (some token.lexeme) ((before.use token.lexeme).advance.expect .assign)).ending
        kinds :=
    ⟨read.ok, (target.trans signed).trans read.leaves⟩
  exact whole.andThen ⟨rfl, Closes.leaves (read.leaves.kinds ▸ closes)⟩

theorem State.meets_of_kinds {state : State} {wanted kind : Kind} {kinds : List Kind}
    (first : state.kinds = kind :: kinds) :
    (kind ≠ wanted → state.meets wanted = none) ∧
      (kind = wanted → ∃ token, state.meets wanted = some token) := by
  obtain ⟨token, rest, remaining, rfl, -⟩ := State.kinds_eq_cons.1 first
  refine ⟨fun other => ?_, fun same => ⟨token, ?_⟩⟩
  · exact State.meets_eq_none.2 (by simpa [remaining] using other)
  · exact State.meets_eq_some.2 ⟨same, rest, remaining⟩

inductive Declarator : List Kind → Prop where
  | none : Declarator []
  | name : Declarator [.identifier]
  | initialized {value : List Kind} : Grammar.Expression value → Declarator (.identifier :: .assign :: value)

theorem declarator_leaves {state : State} {inner rest : List Kind} (declares : Declarator inner)
    (kinds : state.kinds = inner ++ .semicolon :: rest) :
    Leaves state (declarator state).next (.semicolon :: rest) := by
  cases declares with
  | none =>
    rw [next_declarator_still ((State.meets_of_kinds kinds).1 (by simp))]
    exact ⟨kinds, rfl⟩
  | name =>
    obtain ⟨name, named⟩ := (State.meets_of_kinds kinds).2 rfl
    obtain ⟨before, type, told, next⟩ := next_declarator_step named
    have advanced := Leaves.advance kinds
    rw [next_initializer_still ((State.meets_of_kinds advanced.kinds).1 (by simp))] at told
    rw [next]
    exact ⟨told.kinds.trans advanced.kinds, told.errors.trans advanced.errors⟩
  | initialized valued =>
    obtain ⟨name, named⟩ := (State.meets_of_kinds kinds).2 rfl
    obtain ⟨before, type, told, next⟩ := next_declarator_step named
    have advanced := Leaves.advance kinds
    obtain ⟨sign, signed⟩ := (State.meets_of_kinds advanced.kinds).2 rfl
    have ahead := Leaves.advance advanced.kinds
    have read := expression_leaves valued (Closes.ends (Or.inl rfl)) ahead.kinds
    have whole :=
      (((advanced.trans ahead).trans read).alike (next_initializer_step signed)).alike told
    rw [next]
    exact ⟨whole.kinds, whole.errors⟩

theorem variableDeclaration_goes {state : State} {word : Kind} {inner rest : List Kind}
    (declares : Declarator inner) (kinds : state.kinds = word :: inner ++ .semicolon :: rest) :
    Goes state (variableDeclaration state).ending rest := by
  have advanced :=
    Leaves.advance (show state.kinds = word :: (inner ++ .semicolon :: rest) from kinds)
  have more : state.advance.rest ≠ [] := by
    intro empty
    have nothing := State.kinds_eq_nil.2 empty
    simp [advanced.kinds] at nothing
  have read := declarator_leaves declares advanced.kinds
  obtain ⟨semicolon, closing⟩ := (State.meets_of_kinds read.kinds).2 rfl
  rw [ending_variableDeclaration more, closing]
  exact ⟨rfl, (advanced.trans read).trans (.expect read.kinds)⟩

theorem statement_goes_declaration {state : State} {word : Kind} {inner rest : List Kind}
    (isWord : word.isTypeWord = true) (declares : Declarator inner)
    (kinds : state.kinds = word :: inner ++ .semicolon :: rest) :
    Goes state (statement state).ending rest := by
  obtain ⟨token, remaining, first, rfl, -⟩ := State.kinds_eq_cons.1 kinds
  refine .wrapped (wrapped_declaration first isWord) fun entered alike => ?_
  exact variableDeclaration_goes declares (alike.kinds.trans kinds)

theorem statement_goes_assignment {state : State} {value kinds rest : List Kind}
    (valued : Grammar.Expression value) (given : value ≠ []) (closes : Closes kinds rest)
    (same : state.kinds = .identifier :: .assign :: value ++ kinds) :
    Goes state (statement state).ending rest := by
  obtain ⟨token, remaining, first, name, -⟩ := State.kinds_eq_cons.1 same
  refine .wrapped (wrapped_assignment first name) fun entered alike => ?_
  exact assignment_goes valued given closes (alike.kinds.trans same)

theorem statement_goes_print {state : State} {value kinds rest : List Kind}
    (valued : Grammar.Expression value) (closes : Closes kinds rest)
    (same : state.kinds = .printWord :: .openParen :: value ++ .closeParen :: kinds) :
    Goes state (statement state).ending rest := by
  obtain ⟨token, remaining, first, isPrint, -⟩ := State.kinds_eq_cons.1 same
  refine .wrapped (wrapped_print first isPrint) fun entered alike => ?_
  have word := Leaves.expect (alike.kinds.trans same)
  have read := printTail_goes valued closes word.kinds
  exact ⟨read.ok, word.trans read.leaves⟩

theorem statement_goes_simple {state : State} {simple rest : List Kind}
    (is_simple : Grammar.Simple simple)
    (kinds : state.kinds = simple ++ rest) : Goes state (statement state).ending rest := by
  cases is_simple with
  | bare word => exact statement_goes_declaration word .none kinds
  | declaration word => exact statement_goes_declaration word .name kinds
  | initialized word valued =>
    exact statement_goes_declaration word (.initialized valued) (by simpa using kinds)
  | assignment valued given =>
    exact statement_goes_assignment valued given (Or.inl rfl) (by simpa using kinds)
  | print valued => exact statement_goes_print valued (Or.inl rfl) (by simpa using kinds)

theorem statement_goes_unfinished {state : State} (unfinished : Grammar.Unfinished state.kinds) :
    Goes state (statement state).ending [] := by
  generalize same : state.kinds = kinds at unfinished
  cases unfinished with
  | assignment valued given =>
    exact statement_goes_assignment valued given (Or.inr ⟨rfl, rfl⟩) (by simpa using same)
  | print valued => exact statement_goes_print valued (Or.inr ⟨rfl, rfl⟩) (by simpa using same)

/-! ## Blocks and programs -/

theorem ends_of_head {kind : Kind} {kinds : List Kind} (other : Grammar.inExpression kind = false)
    (plain : kind ≠ .quotient) : Ends (kind :: kinds) := by
  intro found member
  obtain rfl : kind = found := by simpa using member
  cases kind <;>
    simp_all [Grammar.inExpression, startsFactor, Kind.isOperator, Kind.isFactorOperator]

theorem comparison_leaves {state : State} {condition rest : List Kind}
    (compared : Grammar.Condition condition)
    (ends : Ends rest) (kinds : state.kinds = condition ++ rest) :
    Leaves state (comparison state).next rest := by
  cases compared with
  | @mk left right sign valued isComparison valuedRight =>
    have stops : Ends (sign :: (right ++ rest)) := by
      refine ends_of_head ?_ ?_ <;> cases sign <;>
        simp_all [Kind.isComparison, Grammar.inExpression]
    have first := expression_leaves valued stops (by simpa using kinds)
    obtain ⟨token, _, remaining, kind, -⟩ := State.kinds_eq_cons.1 first.kinds
    have passed : passComparison (expression state).next = (expression state).next.advance := by
      unfold passComparison
      rw [if_pos (by simp [State.peek, remaining, kind, isComparison])]
    have second := Leaves.advance first.kinds
    rw [← passed] at second
    exact (first.trans second).trans (expression_leaves valuedRight ends second.kinds)

theorem conditionalHead_leaves {state : State} {condition rest : List Kind}
    (compared : Grammar.Condition condition)
    (kinds : state.kinds = .openParen :: condition ++ .closeParen :: .openBrace :: rest) :
    Leaves state (conditionalHead state) rest := by
  have stops : Ends (.closeParen :: .openBrace :: rest) := by
    simp [Ends, startsFactor, Kind.isOperator, Kind.isFactorOperator]
  have opened : Leaves (state.say "paso if") ((state.say "paso if").expect .openParen)
      (condition ++ .closeParen :: .openBrace :: rest) := .expect kinds
  have entered :=
    opened.alike (((Alike.refl _).say "paso pa").say "Entro prueba expresion relacional")
  have read := (entered.trans (comparison_leaves compared stops entered.kinds)).alike
    ((Alike.refl _).say "paso prueba expresion relacional")
  have closed := (read.trans (.expect read.kinds)).alike ((Alike.refl _).say "paso pc")
  have braced := (closed.trans (.expect closed.kinds)).alike ((Alike.refl _).say "paso la")
  exact ⟨braced.kinds, braced.errors⟩

theorem statement_head {kinds : List Kind} (statement : Grammar.Statement kinds) :
    ∃ kind others, kinds = kind :: others ∧ kind ≠ .closeBrace ∧ kind ≠ .elseWord := by
  have of_word : ∀ word : Kind, word.isTypeWord = true → word ≠ .closeBrace ∧ word ≠ .elseWord := by
    intro word isWord
    cases word <;> simp_all [Kind.isTypeWord]
  cases statement with
  | simple simple =>
    cases simple with
    | bare word => exact ⟨_, _, rfl, of_word _ word⟩
    | declaration word => exact ⟨_, _, rfl, of_word _ word⟩
    | initialized word => exact ⟨_, _, rfl, of_word _ word⟩
    | assignment => exact ⟨_, _, rfl, by simp⟩
    | print => exact ⟨_, _, rfl, by simp⟩
  | conditional => exact ⟨_, _, rfl, by simp⟩
  | alternative => exact ⟨_, _, rfl, by simp⟩

theorem statement_first {state : State} {kinds rest : List Kind}
    (statement : Grammar.Statement kinds) (same : state.kinds = kinds ++ rest) :
    ∃ token others, state.rest = token :: others ∧ token.kind ≠ .closeBrace := by
  obtain ⟨kind, tail, rfl, notBrace, -⟩ := statement_head statement
  obtain ⟨token, others, remaining, rfl, -⟩ := State.kinds_eq_cons.1 same
  exact ⟨token, others, remaining, notBrace⟩

theorem head_ne_else {kinds rest : List Kind} (statements : Grammar.Statements kinds)
    (rest_head : rest.head? ≠ some .elseWord) : (kinds ++ rest).head? ≠ some .elseWord := by
  cases statements with
  | none => exact rest_head
  | more first others =>
    obtain ⟨kind, tail, rfl, -, notElse⟩ := statement_head first
    simpa using notElse

/-- The conditional after its word and head, given how its blocks are read. -/
theorem conditional_goes {state : State} {condition kinds rest : List Kind}
    (compared : Grammar.Condition condition)
    (same : state.kinds = .ifWord :: .openParen :: condition ++ .closeParen :: .openBrace :: kinds)
    (body : ∀ opened : State, opened.kinds = kinds →
      Goes opened (conditionalBody opened).ending rest) :
    Goes state (statement state).ending rest := by
  obtain ⟨token, remaining, first, isIf, -⟩ := State.kinds_eq_cons.1 same
  refine .wrapped (wrapped_conditional first isIf) fun entered alike => ?_
  have word := Leaves.expect (alike.kinds.trans same)
  have head := word.trans (conditionalHead_leaves compared word.kinds)
  have read := body _ head.kinds
  exact ⟨read.ok, head.trans read.leaves⟩

theorem meets_none_of_head {state : State} {wanted : Kind}
    (other : state.kinds.head? ≠ some wanted) :
    state.meets wanted = none := by
  refine State.meets_eq_none.2 fun token member kind => other ?_
  rw [State.kinds, List.head?_map, Option.mem_def.1 member, ← kind]
  rfl

mutual

theorem statement_goes : {kinds : List Kind} → Grammar.Statement kinds → (state : State) →
    (rest : List Kind) →
    rest.head? ≠ some .elseWord → state.kinds = kinds ++ rest →
      Goes state (statement state).ending rest
  | _, .simple is_simple, _, _, _, same => statement_goes_simple is_simple same
  | _, .conditional compared inside, state, rest, notElse, same => by
    refine conditional_goes compared (by simpa using same) ?_
    intro opened kinds
    have body := block_goes inside opened (.closeBrace :: rest) (by simp) kinds
    have closed := Leaves.expect body.leaves.kinds
    rw [ending_conditionalBody]
    refine body.andThen ?_
    unfold alternative
    rw [meets_none_of_head (by rwa [closed.kinds])]
    exact ⟨rfl, closed⟩
  | _, .alternative compared inside other, state, rest, _, same => by
    refine conditional_goes compared (by simpa using same) ?_
    intro opened kinds
    have body := block_goes inside opened _ (by simp) kinds
    have closed := Leaves.expect body.leaves.kinds
    obtain ⟨token, otherwise⟩ := (State.meets_of_kinds closed.kinds).2 rfl
    have passed := Leaves.advance closed.kinds
    have braced := Leaves.expect passed.kinds
    have inside := block_goes other _ (.closeBrace :: rest) (by simp) (by simpa using braced.kinds)
    have ended := Leaves.expect inside.leaves.kinds
    rw [ending_conditionalBody]
    refine body.andThen ?_
    unfold alternative
    rw [otherwise]
    refine Goes.andThen ⟨inside.ok, ((closed.trans passed).trans braced).trans inside.leaves⟩ ?_
    exact ⟨rfl, ended⟩

theorem block_goes : {kinds : List Kind} → Grammar.Statements kinds → (state : State) →
    (rest : List Kind) →
    (∀ kind ∈ rest.head?, kind = .closeBrace) → state.kinds = kinds ++ rest →
      Goes state (block state).ending rest
  | _, .none, state, rest, closing, same => by
    rw [ending_block_still]
    · exact ⟨rfl, same, rfl⟩
    · intro token member
      apply closing token.kind
      rw [← List.nil_append rest, ← same, State.kinds, List.head?_map]
      exact Option.mem_map_of_mem _ member
  | _, .more first others, state, rest, closing, same => by
    obtain ⟨token, _, remaining, notBrace⟩ := statement_first first (by simpa using same)
    have notElse : rest.head? ≠ some .elseWord := by
      intro isElse
      simpa using closing .elseWord isElse
    have read := statement_goes first state _ (head_ne_else others notElse) (by simpa using same)
    rw [ending_block_step remaining notBrace]
    exact read.andThen (block_goes others _ rest closing read.leaves.kinds)

end

theorem program_goes_statements {rest : List Kind} (notElse : rest.head? ≠ some .elseWord)
    (last_goes : ∀ state : State, state.kinds = rest → Goes state (program state).ending []) :
    {kinds : List Kind} → Grammar.Statements kinds → (state : State) → state.kinds = kinds ++ rest →
      Goes state (program state).ending []
  | _, .none, state, same => last_goes state same
  | _, .more first others, state, same => by
    obtain ⟨token, _, remaining, -⟩ := statement_first first (by simpa using same)
    have read := statement_goes first state _ (head_ne_else others notElse) (by simpa using same)
    rw [ending_program_step remaining]
    exact read.andThen (program_goes_statements notElse last_goes others _ read.leaves.kinds)

theorem program_goes_end {state : State} (ended : state.kinds = []) :
    Goes state (program state).ending [] := by
  obtain ⟨last, noted, ending⟩ := ending_program_end (State.kinds_eq_nil.1 ended)
  rw [ending]
  exact ⟨rfl, noted.alike.kinds.trans ended, noted.alike.errors⟩

theorem program_goes_unfinished {state : State} (unfinished : Grammar.Unfinished state.kinds) :
    Goes state (program state).ending [] := by
  have read := statement_goes_unfinished unfinished
  have given : state.kinds ≠ [] := by
    intro empty
    rw [empty] at unfinished
    cases unfinished
  obtain ⟨kind, others, same⟩ := List.exists_cons_of_ne_nil given
  obtain ⟨token, _, remaining, -⟩ := State.kinds_eq_cons.1 same
  rw [ending_program_step remaining]
  exact read.andThen (program_goes_end read.leaves.kinds)

/-- A program of the grammar is read to its end without a fault. -/
theorem program_goes {state : State} (program : Grammar.Program state.kinds) :
    Goes state (Syntax.program state).ending [] := by
  generalize same : state.kinds = kinds at program
  cases program with
  | finished statements =>
    exact program_goes_statements (by simp) (fun _ => program_goes_end) statements state
      (by simpa using same)
  | unfinished statements last =>
    refine program_goes_statements ?_ ?_ statements state same
    · cases last <;> simp
    · rintro state rfl
      exact program_goes_unfinished last

end Workbench.Syntax
