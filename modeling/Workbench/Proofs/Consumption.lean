import Workbench.Proofs.Grammar
import Workbench.Proofs.Readers

/-! What the readers take from the input.

A reader takes a run of tokens off the front of the rest, lets the analyser follow the names in it,
and only ever adds to the faults found. If it adds none, the kinds of the tokens it took are
generated by the grammar. Readers in sequence take runs in sequence, and that is all the proofs
below use.
-/

set_option autoImplicit false

namespace Workbench

def Analyser.useAll (tokens : List Token) (analyser : Analyser) : Analyser :=
  tokens.foldl (fun analyser token =>
    if token.kind = .identifier then analyser.use token.lexeme else analyser) analyser

@[simp] theorem Analyser.useAll_nil (analyser : Analyser) : analyser.useAll [] = analyser := rfl

@[simp] theorem Analyser.useAll_append (first rest : List Token) (analyser : Analyser) :
    analyser.useAll (first ++ rest) = (analyser.useAll first).useAll rest := by
  simp only [useAll, List.foldl_append]

@[simp] theorem Analyser.symbols_use (name : String) (analyser : Analyser) :
    (analyser.use name).symbols = analyser.symbols := by
  unfold use
  split <;> rfl

@[simp] theorem Analyser.symbols_useAll (tokens : List Token) (analyser : Analyser) :
    (analyser.useAll tokens).symbols = analyser.symbols := by
  induction tokens generalizing analyser with
  | nil => rfl
  | cons token rest ih =>
    rw [useAll, List.foldl_cons]
    refine (ih _).trans ?_
    split
    · exact symbols_use ..
    · rfl

namespace Syntax

/-- No token is a sign that the table does not have but terms accept. -/
def Plain (tokens : List Token) : Prop := ∀ token ∈ tokens, token.kind ≠ .quotient

/-- From `start` to `next` a run of tokens has been taken, and the names in it have been used. -/
structure Consumes (start next : State) (taken : List Token) : Prop where
  rest : start.rest = taken ++ next.rest
  analyser : next.analyser = start.analyser.useAll taken
  errors : start.errors <+: next.errors

namespace Consumes

theorem of_alike {start next : State} (alike : Alike start next) : Consumes start next [] :=
  ⟨by rw [alike.rest, List.nil_append], by rw [alike.analyser, Analyser.useAll_nil],
    by rw [alike.errors]⟩

theorem trans {start middle next : State} {first second : List Token}
    (left : Consumes start middle first) (right : Consumes middle next second) :
    Consumes start next (first ++ second) where
  rest := by rw [left.rest, right.rest, List.append_assoc]
  analyser := by rw [right.analyser, left.analyser, Analyser.useAll_append]
  errors := left.errors.trans right.errors

end Consumes

theorem quiet_between {start middle next : State} (left : start.errors <+: middle.errors)
    (right : middle.errors <+: next.errors) (quiet : next.errors = start.errors) :
    middle.errors = start.errors ∧ next.errors = middle.errors := by
  have back : middle.errors <+: start.errors := quiet ▸ right
  have same : middle.errors = start.errors := back.eq_of_length_le left.length_le
  exact ⟨same, quiet.trans same.symm⟩

def Reads (Form : List Kind → Prop) (start next : State) : Prop :=
  ∃ taken, Consumes start next taken ∧
    (Plain taken → next.errors = start.errors → Form (taken.map Token.kind))

theorem Plain.left {first second : List Token} (plain : Plain (first ++ second)) : Plain first :=
  fun token member => plain token (List.mem_append_left _ member)

theorem Plain.right {first second : List Token} (plain : Plain (first ++ second)) : Plain second :=
  fun token member => plain token (List.mem_append_right _ member)

namespace Reads

variable {Form First Second : List Kind → Prop} {start middle next : State}

theorem sequence (left : Reads First start middle) (right : Reads Second middle next)
    (joined : ∀ first second, First first → Second second → Form (first ++ second)) :
    Reads Form start next := by
  obtain ⟨first, firstTaken, firstForm⟩ := left
  obtain ⟨second, secondTaken, secondForm⟩ := right
  refine ⟨first ++ second, firstTaken.trans secondTaken, ?_⟩
  intro plain quiet
  obtain ⟨before, after⟩ := quiet_between firstTaken.errors secondTaken.errors quiet
  rw [List.map_append]
  exact joined _ _ (firstForm plain.left before) (secondForm plain.right after)

theorem weaken (read : Reads First start next) (implied : ∀ kinds, First kinds → Form kinds) :
    Reads Form start next := by
  obtain ⟨taken, consumed, form⟩ := read
  exact ⟨taken, consumed, fun plain quiet => implied _ (form plain quiet)⟩

theorem still (empty : Form []) : Reads Form start start :=
  ⟨[], .of_alike (.refl start), fun _ _ => empty⟩

theorem alike (read : Reads Form start next) {said : State} (alike : Alike next said) :
    Reads Form start said := by
  obtain ⟨taken, consumed, form⟩ := read
  refine ⟨taken, ⟨?_, ?_, ?_⟩, ?_⟩
  · rw [alike.rest, consumed.rest]
  · rw [alike.analyser, consumed.analyser]
  · rw [alike.errors]
    exact consumed.errors
  · rwa [alike.errors]

theorem entered {said : State} (read : Reads Form said next) (alike : Alike start said) :
    Reads Form start next := by
  obtain ⟨taken, consumed, form⟩ := read
  refine ⟨taken, ⟨alike.rest ▸ consumed.rest, ?_, alike.errors ▸ consumed.errors⟩, ?_⟩
  · rw [consumed.analyser, alike.analyser]
  · rwa [alike.errors] at form

theorem advance {token : Token} {rest : List Token} (first : start.rest = token :: rest)
    (form : token.kind ≠ .quotient → Form [token.kind]) (nameless : token.kind ≠ .identifier) :
    Reads Form start start.advance := by
  refine ⟨[token], ⟨by simp [first], ?_, by simp⟩, fun plain _ => form (plain token (by simp))⟩
  simp [Analyser.useAll, nameless]

theorem expect_found (wanted : Kind) {token : Token} {rest : List Token}
    (first : start.rest = token :: rest)
    (found : token.kind = wanted) (nameless : wanted ≠ .identifier) :
    Reads (· = [wanted]) start (start.expect wanted) := by
  obtain ⟨after, -⟩ := State.expect_found first found
  refine ⟨[token], ⟨by simp [after, first], ?_, State.errors_expect _ _⟩, fun _ _ => by
    simp [found]⟩
  simp [Analyser.useAll, found, nameless]

theorem expect (wanted : Kind) (missed : State.missedAtEnd wanted = true)
    (nameless : wanted ≠ .identifier) : Reads (· = [wanted]) start (start.expect wanted) := by
  cases remaining : start.rest with
  | nil =>
    obtain ⟨rest, errors⟩ := State.expect_end wanted remaining
    refine ⟨[], ⟨by simp [rest, remaining], by simp, State.errors_expect _ _⟩, ?_⟩
    intro _ quiet
    simp [errors, missed] at quiet
  | cons token rest =>
    by_cases found : token.kind = wanted
    · exact expect_found wanted remaining found nameless
    · obtain ⟨after, errors⟩ := State.expect_other remaining found
      refine ⟨[], ⟨by simp [after], by simp, State.errors_expect _ _⟩, ?_⟩
      intro _ quiet
      simp [errors] at quiet

theorem thenExpect (wanted : Kind) (read : Reads First start middle)
    (missed : State.missedAtEnd wanted = true) (nameless : wanted ≠ .identifier) :
    Reads (fun kinds => ∃ before, First before ∧
      kinds = before ++ [wanted]) start (middle.expect wanted) :=
  read.sequence (.expect wanted missed nameless) fun before _ form bracket =>
    ⟨before, form, by rw [bracket]⟩

end Reads

/-! ## Expressions -/

theorem factor_reads_alone (state : State)
    (alone : ∀ token ∈ state.rest.head?, token.kind ≠ .openParen) :
    Reads Grammar.Operand state (factor state).next := by
  cases remaining : state.rest with
  | nil =>
    rw [next_factor_missing (by simp [remaining])]
    exact .still .missing
  | cons token rest =>
    by_cases number : token.kind = .integer ∨ token.kind = .real
    · rw [next_factor_number remaining number]
      refine .advance remaining ?_ (by rcases number with kind | kind <;> simp [kind])
      rcases number with kind | kind <;> rw [kind]
      · exact fun _ => .given .integer
      · exact fun _ => .given .real
    · by_cases name : token.kind = .identifier
      · obtain ⟨text, next⟩ := next_factor_name remaining name
        rw [next]
        refine ⟨[token], ⟨by simp [remaining], ?_, by simp⟩, fun _ _ => ?_⟩
        · simp [Analyser.useAll, name]
        · simpa [name] using Grammar.Operand.given .name
      · rw [next_factor_missing]
        · exact .still .missing
        · have noGroup : token.kind ≠ .openParen := alone token (by simp [remaining])
          intro found member
          obtain rfl : token = found := by simpa [remaining] using member
          cases kind : token.kind <;> simp_all [startsFactor]

/-- Of the signs that go on in a term, only one is in the table. -/
theorem times_of_isFactorOperator {kind : Kind} (operator : kind.isFactorOperator = true)
    (plain : kind ≠ .quotient) : kind = .times := by
  cases kind <;> simp_all [Kind.isFactorOperator]

/-- What the readers of expressions take: a factor is an operand, and operators with their operands
follow it. -/
theorem factor_reads_and_expression_reads :
    (∀ state, Reads Grammar.Operand state (factor state).next) ∧
      (∀ state, Reads Grammar.Expression state (expression state).next) := by
  apply expression_induction _
    (fun state => Reads Grammar.Tail state (termTail state).next)
    (fun state => Reads Grammar.Expression state (term state).next)
    (fun state => Reads Grammar.Tail state (expressionTail state).next)
  case factor_alone => exact factor_reads_alone
  case factor_group =>
    intro state token rest first opening inner
    rw [next_factor_group first opening]
    have opened : Reads (· = [.openParen]) state state.advance :=
      .advance first (fun _ => by rw [opening]) (by simp [opening])
    refine opened.sequence (inner.thenExpect .closeParen rfl (by simp)) ?_
    rintro _ _ rfl ⟨value, valued, rfl⟩
    exact .given (.group valued)
  case termTail_still =>
    intro state still
    rw [next_termTail_still still]
    exact .still .done
  case termTail_step =>
    intro state token rest first operator operand tail
    obtain ⟨left, right, next⟩ := next_termTail_step first operator
    have opened : Reads (· = [.times]) state state.advance :=
      .advance first (fun plain => by rw [times_of_isFactorOperator operator plain])
        (by rintro kind; simp [kind, Kind.isFactorOperator] at operator)
    have tailed : Reads (fun kinds => Grammar.Tail (.times :: kinds)) state.advance
        (termTail (factor state.advance).next).next :=
      operand.sequence tail fun _ _ => .more rfl
    rw [next]
    exact (opened.sequence tailed (by rintro _ _ rfl; exact id)).alike (.noteWiden left right _)
  case term_read =>
    intro state operand tail
    rw [next_term]
    exact operand.sequence tail fun _ _ => .mk
  case expressionTail_still =>
    intro state still
    rw [next_expressionTail_still still]
    exact .still .done
  case expressionTail_step =>
    intro state token rest first operator operand tail
    obtain ⟨left, right, next⟩ := next_expressionTail_step first operator
    have opened : Reads (· = [token.kind]) state state.advance :=
      .advance first (fun _ => rfl) (by rintro kind; simp [kind, Kind.isOperator] at operator)
    have tailed : Reads (fun kinds => Grammar.Tail (token.kind :: kinds)) state.advance
        (expressionTail (term state.advance).next).next :=
      operand.sequence tail fun _ _ => .of_expression operator
    rw [next]
    exact (opened.sequence tailed (by rintro _ _ rfl; exact id)).alike (.noteWiden left right _)
  case expression_read =>
    intro state operand tail
    rw [next_expression]
    refine operand.sequence tail ?_
    rintro _ _ ⟨given, inner⟩ following
    -- The operators that the term took and those behind it make one tail.
    rw [List.append_assoc]
    exact .mk given (inner.append following)

theorem expression_reads (state : State) : Reads Grammar.Expression state (expression state).next :=
  factor_reads_and_expression_reads.2 state

end Syntax

end Workbench
