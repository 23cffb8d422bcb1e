import Workbench.Proofs.Readers

/-! Every token is passed exactly once.

A reader takes tokens off the front of the rest and counts each of them. Only a declaration passes
the word for a type, and it halts if nothing follows that word; so a reader halts at the very end of
the input or not at all, and what decides is the last token.
-/

set_option autoImplicit false

namespace Workbench.Syntax

def EndsInType (tokens : List Token) : Prop :=
  ∃ token ∈ tokens.getLast?, token.kind.isTypeWord = true

theorem not_endsInType_nil : ¬ EndsInType [] := by
  rintro ⟨token, ⟨⟩, -⟩

theorem endsInType_of_suffix {rest tokens : List Token} (suffix : rest <:+ tokens)
    (more : rest ≠ []) :
    EndsInType tokens ↔ EndsInType rest := by
  obtain ⟨front, rfl⟩ := suffix
  rw [EndsInType, EndsInType, List.getLast?_append_of_ne_nil _ more]

namespace State

theorem counted_advance (state : State) :
    state.advance.position + state.advance.rest.length = state.position + state.rest.length := by
  unfold advance
  split
  · rfl
  · next remaining =>
    rw [remaining, List.length_cons]
    exact Nat.succ_add_eq_add_succ _ _

theorem counted_expect (wanted : Kind) (state : State) :
    (state.expect wanted).position + (state.expect wanted).rest.length =
      state.position + state.rest.length := by
  simp only [expect]
  split
  · split
    · exact counted_advance _
    · rfl
  · split <;> rfl

end State

/-- How the tokens are dealt with between a state and the end of a reader. -/
structure Counts (start : State) (ending : Ending) : Prop where
  suffix : ending.2.rest <:+ start.rest
  counted : ending.2.position + ending.2.rest.length = start.position + start.rest.length
  halted : ∀ halt, ending.1 = .error halt → halt = .missingToken ∧ ending.2.rest = [] ∧
    EndsInType start.rest
  closed : ending.1 = .ok () → ending.2.rest = [] → ¬ EndsInType start.rest

namespace Counts

variable {start middle next : State} {ending : Ending}

theorem of_same (rest : next.rest = start.rest) (position : next.position = start.position) :
    Counts start (.ok (), next) where
  suffix := rest ▸ List.suffix_rfl
  counted := by rw [rest, position]
  halted := by rintro halt ⟨⟩
  closed := by
    intro _ empty
    rw [← rest, empty]
    exact not_endsInType_nil

theorem of_alike (alike : Alike start next) : Counts start (.ok (), next) :=
  of_same alike.rest alike.position

theorem still (state : State) : Counts state (.ok (), state) := of_same rfl rfl

/-- Readers in sequence. If the first leaves nothing it has passed the last token, and that was not
the word for a type. -/
theorem trans (left : Counts start (.ok (), middle)) (right : Counts middle ending) :
    Counts start ending where
  suffix := right.suffix.trans left.suffix
  counted := right.counted.trans left.counted
  halted := by
    intro halt error
    obtain ⟨missing, empty, ends⟩ := right.halted halt error
    have more : middle.rest ≠ [] := by
      intro none
      rw [none] at ends
      exact not_endsInType_nil ends
    exact ⟨missing, empty, (endsInType_of_suffix left.suffix more).2 ends⟩
  closed := by
    intro ok empty
    by_cases more : middle.rest = []
    · exact left.closed rfl more
    · rw [endsInType_of_suffix left.suffix more]
      exact right.closed ok empty

theorem andThen {first : Ending} {following : State → Ending} (left : Counts start first)
    (right : Counts first.2 (following first.2)) : Counts start (first.andThen following) := by
  obtain ⟨⟨halt⟩ | ⟨⟨⟩⟩, middle⟩ := first
  · exact left
  · exact left.trans right

theorem wrapped {reader : State → Ending} {ending : Ending} (read : Wrapped start reader ending)
    (inside : ∀ entered, Alike start entered → Counts entered (reader entered)) :
    Counts start ending := by
  obtain ⟨entered, leave, before, after, rfl⟩ := read
  exact ((of_alike before.alike).trans (inside entered before.alike)).andThen
    (of_alike (after _).alike)

theorem advance {token : Token} {rest : List Token} (first : start.rest = token :: rest)
    (other : token.kind.isTypeWord = false) : Counts start (.ok (), start.advance) where
  suffix := by
    rw [State.rest_advance]
    exact List.tail_suffix _
  counted := start.counted_advance
  halted := by rintro halt ⟨⟩
  closed := by
    intro _ empty
    rw [State.rest_advance, first, List.tail_cons] at empty
    rw [first, empty]
    rintro ⟨_, ⟨⟩, word⟩
    exact Bool.noConfusion (other.symm.trans word)

theorem expect (wanted : Kind) (other : wanted.isTypeWord = false) (state : State) :
    Counts state (.ok (), state.expect wanted) := by
  cases found : state.meets wanted with
  | none =>
    have rest : (state.expect wanted).rest = state.rest := by
      rw [State.rest_expect, found]
      rfl
    refine .of_same rest ?_
    have counted := state.counted_expect wanted
    rw [rest] at counted
    exact Nat.add_right_cancel counted
  | some token =>
    obtain ⟨rfl, rest, first⟩ := State.meets_eq_some.1 found
    have after : (state.expect token.kind).rest = state.advance.rest := by
      rw [State.rest_expect, found, State.rest_advance]
      rfl
    have passed := advance first other
    refine ⟨?_, state.counted_expect _, by rintro halt ⟨⟩, ?_⟩
    · rw [after]
      exact passed.suffix
    · rw [after]
      exact passed.closed

end Counts

/-! ## Expressions -/

theorem isTypeWord_of_startsFactor {kind : Kind} (starts : startsFactor kind = true) :
    kind.isTypeWord = false := by
  cases kind <;> first | rfl | cases starts

theorem isTypeWord_of_isOperator {kind : Kind} (operator : kind.isOperator = true) :
    kind.isTypeWord = false := by
  cases kind <;> first | rfl | cases operator

theorem isTypeWord_of_isFactorOperator {kind : Kind} (operator : kind.isFactorOperator = true) :
    kind.isTypeWord = false := by
  cases kind <;> first | rfl | cases operator

theorem isTypeWord_of_isComparison {kind : Kind} (sign : kind.isComparison = true) :
    kind.isTypeWord = false := by
  cases kind <;> first | rfl | cases sign

theorem factor_counts_alone (state : State)
    (alone : ∀ token ∈ state.rest.head?, token.kind ≠ .openParen) :
    Counts state (.ok (), (factor state).next) := by
  by_cases missing : ∀ token ∈ state.rest.head?, startsFactor token.kind = false
  · rw [next_factor_missing missing]
    exact .still state
  · push Not at missing
    obtain ⟨token, member, starts⟩ := missing
    obtain ⟨rest, first⟩ := List.head?_eq_some_iff.1 member
    have starts : startsFactor token.kind = true := by simpa using starts
    have passed := Counts.advance first (isTypeWord_of_startsFactor starts)
    by_cases name : token.kind = .identifier
    · obtain ⟨text, next⟩ := next_factor_name first name
      rw [next]
      have used : Counts state (.ok (), (state.use token.lexeme).say text) := .of_same rfl rfl
      exact used.trans (.advance first (isTypeWord_of_startsFactor starts))
    · have number : token.kind = .integer ∨ token.kind = .real := by
        have noGroup := alone token member
        cases kind : token.kind <;> simp_all [startsFactor]
      rw [next_factor_number first number]
      exact passed

theorem factor_counts_and_expression_counts :
    (∀ state, Counts state (.ok (), (factor state).next)) ∧
      (∀ state, Counts state (.ok (), (expression state).next)) := by
  apply expression_induction _
    (fun state => Counts state (.ok (), (termTail state).next))
    (fun state => Counts state (.ok (), (term state).next))
    (fun state => Counts state (.ok (), (expressionTail state).next))
  case factor_alone => exact factor_counts_alone
  case factor_group =>
    intro state token rest first opening inner
    rw [next_factor_group first opening]
    have opened := Counts.advance first (by rw [opening]; rfl)
    exact (opened.trans inner).trans (.expect _ rfl _)
  case termTail_still =>
    intro state still
    rw [next_termTail_still still]
    exact .still state
  case termTail_step =>
    intro state token rest first operator operand tail
    obtain ⟨left, right, next⟩ := next_termTail_step first operator
    have passed := Counts.advance first (isTypeWord_of_isFactorOperator operator)
    rw [next]
    exact ((passed.trans operand).trans tail).trans (.of_alike (.noteWiden left right _))
  case term_read =>
    intro state operand tail
    rw [next_term]
    exact operand.trans tail
  case expressionTail_still =>
    intro state still
    rw [next_expressionTail_still still]
    exact .still state
  case expressionTail_step =>
    intro state token rest first operator operand tail
    obtain ⟨left, right, next⟩ := next_expressionTail_step first operator
    have passed := Counts.advance first (isTypeWord_of_isOperator operator)
    rw [next]
    exact ((passed.trans operand).trans tail).trans (.of_alike (.noteWiden left right _))
  case expression_read =>
    intro state operand tail
    rw [next_expression]
    exact operand.trans tail

theorem expression_counts (state : State) : Counts state (.ok (), (expression state).next) :=
  factor_counts_and_expression_counts.2 state

/-! ## Statements without blocks -/

theorem initializer_counts (state : State) : Counts state (.ok (), (initializer state).next) := by
  cases sign : state.meets .assign with
  | none =>
    rw [next_initializer_still sign]
    exact .still state
  | some token =>
    obtain ⟨isAssign, rest, first⟩ := State.meets_eq_some.1 sign
    have passed := Counts.advance first (by rw [isAssign]; rfl)
    exact (passed.trans (expression_counts _)).trans (.of_alike (next_initializer_step sign))

theorem declarator_counts (state : State) : Counts state (.ok (), (declarator state).next) := by
  cases named : state.meets .identifier with
  | none =>
    rw [next_declarator_still named]
    exact .still state
  | some token =>
    obtain ⟨isName, rest, first⟩ := State.meets_eq_some.1 named
    obtain ⟨before, type, told, next⟩ := next_declarator_step named
    have passed := Counts.advance first (by rw [isName]; rfl)
    rw [next]
    exact ((passed.trans (initializer_counts _)).trans (.of_alike told)).trans (.of_same rfl rfl)

/-- The one place where the word for a type is passed: nothing may follow it only if it is the last
token. -/
theorem variableDeclaration_counts {state : State} {token : Token} {rest : List Token}
    (first : state.rest = token :: rest) (word : token.kind.isTypeWord = true) :
    Counts state (variableDeclaration state).ending := by
  have passed : state.advance.rest = rest := by rw [State.rest_advance, first, List.tail_cons]
  by_cases empty : state.advance.rest = []
  · rw [ending_variableDeclaration_end empty]
    refine ⟨?_, state.counted_advance, ?_, by rintro ⟨⟩⟩
    · rw [empty]
      exact List.nil_suffix
    · rintro halt ⟨⟩
      have only : state.rest = [token] := by rw [first, ← passed, empty]
      exact ⟨rfl, empty, token, by rw [only]; rfl, word⟩
  -- Past the word there are tokens, so the last token is among those that are left.
  · rw [ending_variableDeclaration empty]
    have declared := declarator_counts state.advance
    have closed : Counts state.advance (.ok (),
      (declarator state.advance).next.expect .semicolon) :=
      declared.trans (.expect _ rfl _)
    have reported : Counts state.advance (.ok (),
        if ((declarator state.advance).next.meets .semicolon).isSome then
          (declarator state.advance).next.expect .semicolon
        else ((declarator state.advance).next.expect .semicolon).fail .missingSemicolon) := by
      split
      · exact closed
      · exact closed.trans (.of_same rfl rfl)
    have suffix : state.advance.rest <:+ state.rest := by
      rw [State.rest_advance]
      exact List.tail_suffix _
    refine ⟨reported.suffix.trans suffix,
      reported.counted.trans state.counted_advance, by rintro halt ⟨⟩, ?_⟩
    intro ok none
    rw [endsInType_of_suffix suffix empty]
    exact reported.closed ok none

theorem assigned_counts (name : String) (state : State) :
    Counts state (assigned (some name) state).ending := by
  by_cases missing : ∀ token ∈ state.rest.head?, token.kind = .semicolon
  · rw [ending_assigned_missing name missing]
    exact .of_same rfl rfl
  · push Not at missing
    obtain ⟨token, member, other⟩ := missing
    obtain ⟨rest, first⟩ := List.head?_eq_some_iff.1 member
    obtain ⟨before, entry, type, after, told, recorded, ending⟩ := ending_assigned name first other
    have noted : Counts before (.ok (), after) :=
      (Counts.of_same rfl rfl : Counts before (.ok (), before.record entry)).trans
        (.of_alike recorded)
    rw [ending]
    exact (((expression_counts state).trans (.of_alike told)).trans noted).trans (.of_same rfl rfl)

theorem assignment_counts {state : State} {token : Token} {rest : List Token}
    (first : state.rest = token :: rest) (name : token.kind = .identifier) :
    Counts state (assignment state).ending := by
  obtain ⟨before, alike, ending⟩ := ending_assignment first name
  have used : Counts state (.ok (), before.use token.lexeme) :=
    (Counts.of_alike alike).trans (.of_same rfl rfl)
  have target : Counts state (.ok (), (before.use token.lexeme).advance) :=
    used.trans (.advance (alike.rest.trans first) (by rw [name]; rfl))
  have signed := target.trans (.expect .assign rfl _)
  rw [ending]
  exact (signed.trans (assigned_counts token.lexeme _)).andThen (.expect _ rfl _)

theorem printTail_counts (state : State) : Counts state (printTail state).ending := by
  rw [ending_printTail]
  have opened := Counts.expect .openParen rfl state
  exact ((opened.trans (expression_counts _)).trans (.expect _ rfl _)).trans (.expect _ rfl _)

/-! ## Blocks and programs -/

theorem passComparison_counts (state : State) : Counts state (.ok (), passComparison state) := by
  unfold passComparison
  split
  · next sign =>
    obtain ⟨token, found⟩ := Option.isSome_iff_exists.1 sign
    obtain ⟨member, compares⟩ := Option.filter_eq_some_iff.1 found
    obtain ⟨rest, first⟩ := List.head?_eq_some_iff.1 member
    exact .advance first (isTypeWord_of_isComparison compares)
  · exact .of_same rfl rfl

theorem comparison_counts (state : State) : Counts state (.ok (), (comparison state).next) :=
  ((expression_counts state).trans (passComparison_counts _)).trans (expression_counts _)

theorem conditionalHead_counts (state : State) : Counts state (.ok (), conditionalHead state) := by
  have said : ∀ (state : State) (text : String), Counts state (.ok (), state.say text) :=
    fun _ _ => .of_same rfl rfl
  have opened := (said state "paso if").trans (.expect .openParen rfl _)
  have entered :=
    (opened.trans (said _ "paso pa")).trans (said _ "Entro prueba expresion relacional")
  have compared :=
    (entered.trans (comparison_counts _)).trans (said _ "paso prueba expresion relacional")
  have closed := (compared.trans (.expect .closeParen rfl _)).trans (said _ "paso pc")
  exact (closed.trans (.expect .openBrace rfl _)).trans (said _ "paso la")

theorem alternative_counts {closed : State}
    (inside : ∀ shorter : State, shorter.rest.length < closed.rest.length →
      Counts shorter (block shorter).ending) :
    Counts closed (alternative closed) := by
  unfold alternative
  split
  · exact .still closed
  · next token otherwise =>
    obtain ⟨isElse, rest, first⟩ := State.meets_eq_some.1 otherwise
    have passed := Counts.advance first (by rw [isElse]; rfl)
    have opened := passed.trans (.expect .openBrace rfl _)
    have shorter : (closed.advance.expect .openBrace).rest.length < closed.rest.length := by
      have bound := State.length_rest_expect .openBrace closed.advance
      rw [State.rest_advance, first, List.tail_cons] at bound
      rw [first, List.length_cons]
      exact Nat.lt_succ_of_le bound
    exact opened.trans ((inside _ shorter).andThen (.expect _ rfl _))

theorem conditionalBody_counts {state : State}
    (inside : ∀ shorter : State, shorter.rest.length ≤ state.rest.length →
      Counts shorter (block shorter).ending) :
    Counts state (conditionalBody state).ending := by
  rw [ending_conditionalBody]
  have first := inside state (Nat.le_refl _)
  refine first.andThen ((Counts.expect .closeBrace rfl _).trans (alternative_counts ?_))
  intro shorter less
  have bound :=
    (State.length_rest_expect .closeBrace (block state).ending.2).trans first.suffix.length_le
  exact inside shorter (less.le.trans bound)

theorem statement_counts {state : State}
    (inside : ∀ shorter : State, shorter.rest.length < state.rest.length →
      Counts shorter (block shorter).ending)
    (some_token : state.rest ≠ []) : Counts state (statement state).ending := by
  obtain ⟨token, rest, first⟩ := List.exists_cons_of_ne_nil some_token
  rcases statement_cases first with
    ⟨word, declared⟩ | ⟨name, assigned⟩ | ⟨word, conditional⟩ | ⟨-, printed⟩ | ⟨other, faulty⟩
  · exact .wrapped declared fun entered alike =>
      variableDeclaration_counts (alike.rest.trans first) word
  · exact .wrapped assigned fun entered alike => assignment_counts (alike.rest.trans first) name
  · refine .wrapped conditional fun entered alike => ?_
    have head := (Counts.expect .ifWord rfl entered).trans (conditionalHead_counts _)
    refine head.trans (conditionalBody_counts fun shorter bound => inside shorter ?_)
    exact bound.trans_lt (length_rest_conditional alike first word)
  · exact .wrapped printed fun entered _ =>
      (Counts.expect .printWord rfl entered).trans (printTail_counts _)
  · refine .wrapped faulty fun entered alike => ?_
    have failed : Counts entered (.ok (), entered.fail .invalidStatement) := .of_same rfl rfl
    exact failed.trans (.advance (alike.rest.trans first) other)

theorem block_counts {state : State}
    (single : state.rest ≠ [] → Counts state (statement state).ending)
    (inside : ∀ shorter : State, shorter.rest.length < state.rest.length →
      Counts shorter (block shorter).ending) :
    Counts state (block state).ending := by
  rcases block_cases state with still | ⟨token, rest, remaining, step⟩
  · rw [still]
    exact .still state
  · rw [step]
    exact (single (by simp [remaining])).andThen (inside _ (length_rest_statement remaining))

theorem statement_and_block_counts :
    (∀ state : State, state.rest ≠ [] → Counts state (statement state).ending) ∧
      (∀ state, Counts state (block state).ending) :=
  statement_induction (fun state => state.rest ≠ [] → Counts state (statement state).ending) _
    (fun _ => statement_counts) (fun _ => block_counts)

theorem program_counts (state : State) :
    Counts state (program state).ending ∧ (program state).ending.2.rest = [] := by
  induction state using program_induction with
  | ended state remaining =>
    obtain ⟨last, noted, ending⟩ := ending_program_end remaining
    rw [ending]
    exact ⟨.of_alike noted.alike, noted.alike.rest.trans remaining⟩
  | step state token rest remaining ih =>
    have first := statement_and_block_counts.1 state (by simp [remaining])
    obtain ⟨others, ended⟩ := ih
    rw [ending_program_step remaining]
    refine ⟨first.andThen others, ?_⟩
    -- A statement that halts has passed everything.
    revert first ended
    generalize (statement state).ending = single
    obtain ⟨⟨halt⟩ | ⟨⟨⟩⟩, next⟩ := single
    · exact fun first _ => (first.halted halt rfl).2.1
    · exact fun _ ended => ended

end Syntax

open Syntax in
/-- Whatever the tokens are, all of them are passed, each of them once. The parser halts for want of
a token if the last one is the word for a type, and otherwise it runs through. -/
theorem program_passes_all (tokens : List Token) :
    let outcome := program (.ofTokens tokens)
    (outcome.result = .error .missingToken ↔
      ∃ token ∈ tokens.getLast?, token.kind.isTypeWord = true) ∧
      (outcome.result = .error .missingToken ∨ outcome.result = .ok ()) ∧
      outcome.next.position = tokens.length ∧ outcome.next.rest = [] := by
  intro outcome
  obtain ⟨counts, ended⟩ := program_counts (.ofTokens tokens)
  have position : outcome.next.position = tokens.length := by
    have counted := counts.counted
    rw [ended, List.length_nil, Nat.add_zero] at counted
    exact counted.trans (Nat.zero_add _)
  cases result : outcome.result with
  | error halt =>
    obtain ⟨rfl, -, ends⟩ := counts.halted halt result
    exact ⟨⟨fun _ => ends, fun _ => rfl⟩, Or.inl rfl, position, ended⟩
  | ok done =>
    refine ⟨⟨by rintro ⟨⟩, fun ends => absurd ends (counts.closed result ended)⟩, Or.inr rfl,
      position, ended⟩

end Workbench
