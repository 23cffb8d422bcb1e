import Workbench.Proofs.Consumption
import Workbench.Proofs.Symbols

/-! What is read without a fault is in the grammar.

For statements, and for sequences and blocks of them, the run that was taken is a word of the
grammar, and what the analyser has found out about names is what a scan of the same run finds. The
symbols are those that the tokens tell.
-/

set_option autoImplicit false

namespace Workbench

namespace Scan

theorem run_useAll (tokens : List Token) (analyser : Analyser) (pending : List String)
    (inner : ∀ token ∈ tokens, token.kind.isInner = true) :
    Scan.run tokens { ledger := analyser.ledger, pending := pending } =
      { ledger := (analyser.useAll tokens).ledger, pending := pending } := by
  induction tokens generalizing analyser with
  | nil => rfl
  | cons token rest ih =>
    have first := inner token (by simp)
    have others := fun token member => inner token (List.mem_cons_of_mem _ member)
    by_cases name : token.kind = .identifier
    · simpa [step, Kind.isTypeWord, name, Analyser.useAll] using ih
        (analyser.use token.lexeme) others
    · simp only [Kind.isInner, Bool.and_eq_true, Bool.not_eq_true', bne_iff_ne] at first
      simpa [step, first, name, Analyser.useAll] using ih analyser others

end Scan

namespace Syntax

/-- From `start` to `next` a run of tokens has been taken, and the analyser knows of names what a
scan of the run tells, and has recorded its declarations. -/
structure Passes (start next : State) (taken : List Token) : Prop where
  rest : start.rest = taken ++ next.rest
  scan : Scan.run taken { ledger := start.analyser.ledger } = { ledger := next.analyser.ledger }
  symbols : Follows start next

theorem Passes.trans {start middle next : State} {first second : List Token}
    (left : Passes start middle first) (right : Passes middle next second) :
    Passes start next (first ++ second) where
  rest := by rw [left.rest, right.rest, List.append_assoc]
  scan := by rw [Scan.run_append, left.scan, right.scan]
  symbols := left.symbols.trans right.symbols

/-- Reading adds to the faults, and if it runs through without any, what it took has a property,
which may also tell where it ended. -/
structure Accepts (Form : List Kind → State → Prop) (start : State) (ending : Ending) : Prop where
  errors : start.errors <+: ending.2.errors
  accepted : Plain start.rest → ending.1 = .ok () → ending.2.errors = start.errors →
    ∃ taken, Passes start ending.2 taken ∧ Form (taken.map Token.kind) ending.2

namespace Accepts

variable {Form First Second : List Kind → State → Prop} {start : State} {first : Ending}

theorem andThen (following : State → Ending) (left : Accepts First start first)
    (right : Accepts Second first.2 (following first.2))
    (joined : ∀ kinds others middle last, First kinds middle → Second others last →
      middle.rest.map Token.kind = others ++ last.rest.map Token.kind →
        Form (kinds ++ others) last) :
    Accepts Form start (first.andThen following) := by
  obtain ⟨⟨halt⟩ | ⟨⟨⟩⟩, middle⟩ := first
  · exact ⟨left.errors, by simp⟩
  · rw [Ending.andThen_ok]
    refine ⟨left.errors.trans right.errors, ?_⟩
    intro plain ok quiet
    obtain ⟨before, after⟩ := quiet_between left.errors right.errors quiet
    obtain ⟨taken, passed, form⟩ := left.accepted plain rfl before
    rw [passed.rest] at plain
    obtain ⟨others, passedOthers, othersForm⟩ := right.accepted plain.right ok after
    refine ⟨taken ++ others, passed.trans passedOthers, ?_⟩
    rw [List.map_append]
    refine joined _ _ _ _ form othersForm ?_
    rw [passedOthers.rest, List.map_append]

theorem weaken {ending : Ending} (read : Accepts First start ending)
    (implied : ∀ kinds last, First kinds last → Form kinds last) : Accepts Form start ending := by
  refine ⟨read.errors, ?_⟩
  intro plain ok quiet
  obtain ⟨taken, passed, form⟩ := read.accepted plain ok quiet
  exact ⟨taken, passed, implied _ _ form⟩

theorem still (empty : Form [] start) : Accepts Form start (.ok (), start) :=
  ⟨List.prefix_rfl, fun _ _ _ => ⟨[], ⟨rfl, rfl, .of_alike (.refl start)⟩, empty⟩⟩

theorem halted {halt : Halt} {last : State} (errors : start.errors <+: last.errors) :
    Accepts Form start (.error halt, last) :=
  ⟨errors, by simp⟩

theorem entered {ending : Ending} {said : State} (read : Accepts Form said ending)
    (alike : Alike start said) :
    Accepts Form start ending := by
  refine ⟨alike.errors ▸ read.errors, ?_⟩
  intro plain ok quiet
  obtain ⟨taken, passed, form⟩ :=
    read.accepted (alike.rest ▸ plain) ok (quiet.trans alike.errors.symm)
  exact ⟨taken,
    ⟨alike.rest ▸ passed.rest, alike.analyser ▸ passed.scan,
      (Follows.of_alike alike).trans passed.symbols⟩,
    form⟩

theorem of_reads {Taken : List Kind → Prop} {next : State} (read : Reads Taken start next)
    (inner : ∀ kinds, Taken kinds → ∀ kind ∈ kinds, kind.isInner = true) :
    Accepts (fun kinds _ => Taken kinds) start (.ok (), next) := by
  obtain ⟨taken, consumed, form⟩ := read
  refine ⟨consumed.errors, ?_⟩
  intro plain _ quiet
  rw [consumed.rest] at plain
  have taken_form := form plain.left quiet
  have innerTaken : ∀ token ∈ taken, token.kind.isInner = true :=
    fun token member => inner _ taken_form token.kind (List.mem_map_of_mem member)
  refine ⟨taken, ⟨consumed.rest, ?_, ?_⟩, taken_form⟩
  · rw [Scan.run_useAll taken start.analyser [] innerTaken, consumed.analyser]
  · refine .of_plain consumed.rest (by rw [consumed.analyser, Analyser.symbols_useAll])
      fun token member => ?_
    exact Kind.not_isTypeWord_of_isInner (innerTaken token member)

theorem expect {wanted : Kind} (start : State) (notWord : wanted.isTypeWord = false)
    (nameless : wanted ≠ .identifier) :
    Accepts (fun kinds last => kinds = [wanted] ∨ kinds = [] ∧ last.rest = []) start
      (.ok (), start.expect wanted) := by
  refine ⟨State.errors_expect _ _, ?_⟩
  intro _ _ quiet
  rcases State.expect_quiet quiet with ⟨token, kind, rest⟩ | ⟨empty, -, still⟩
  · have passed : start.rest = [token] ++ (start.expect wanted).rest := rest
    refine ⟨[token], ⟨passed, ?_, .of_plain passed (by simp) (by simpa [kind] using notWord)⟩,
      Or.inl (by simp [kind])⟩
    simp [Scan.step, kind, notWord, nameless]
  · have nothing : start.rest = [] ++ (start.expect wanted).rest := by rw [empty, still]; rfl
    exact ⟨[], ⟨nothing, by simp, .of_plain nothing (by simp) (by simp)⟩, Or.inr ⟨rfl, still⟩⟩

end Accepts

/-! ## Statements without blocks -/

theorem isInner_of_expression {kinds : List Kind} (valued : Grammar.Expression kinds) :
    ∀ kind ∈ kinds, kind.isInner = true :=
  fun kind member => Kind.isInner_of_inExpression (valued.kinds kind member)

theorem printTail_accepts (start : State) :
    Accepts (fun kinds last => ∃ value, Grammar.Expression value ∧
        (kinds = .openParen :: value ++ [.closeParen, .semicolon] ∨
          kinds = .openParen :: value ++ [.closeParen] ∧ last.rest = []))
      start (printTail start).ending := by
  have bracketed : Reads (fun kinds => ∃ value, Grammar.Expression value ∧
      kinds = .openParen :: value ++ [.closeParen]) start
      ((expression (start.expect .openParen)).next.expect .closeParen) := by
    refine Reads.sequence (.expect .openParen rfl (by simp))
      ((expression_reads _).thenExpect .closeParen rfl (by simp)) ?_
    rintro _ _ rfl ⟨value, valued, rfl⟩
    exact ⟨value, valued, rfl⟩
  rw [ending_printTail]
  have inside : Accepts (fun kinds _ => ∃ value, Grammar.Expression value ∧
      kinds = .openParen :: value ++ [.closeParen]) start
      (.ok (), (expression (start.expect .openParen)).next.expect .closeParen) := by
    refine .of_reads bracketed ?_
    rintro _ ⟨value, valued, rfl⟩
    have inner := isInner_of_expression valued
    simpa [Kind.isInner, Kind.isTypeWord, or_imp, forall_and] using inner
  refine inside.andThen (fun next => (.ok (), next.expect .semicolon)) (.expect _ rfl (by simp)) ?_
  rintro _ _ middle last ⟨value, valued, rfl⟩ (rfl | ⟨rfl, empty⟩) -
  · exact ⟨value, valued, Or.inl (by simp)⟩
  · exact ⟨value, valued, Or.inr ⟨by simp, empty⟩⟩

/-- The right side of an assignment. It is empty only where something else than a semicolon
follows. -/
theorem assigned_accepts (name : String) (start : State) :
    Accepts (fun kinds last => Grammar.Expression kinds ∧
        (kinds = [] → ∃ token rest, last.rest = token :: rest ∧ token.kind ≠ .semicolon))
      start (assigned (some name) start).ending := by
  -- Without a value the assignment is reported; with one, recording it moves nothing.
  by_cases missing : ∀ token ∈ start.rest.head?, token.kind = .semicolon
  · rw [ending_assigned_missing name missing]
    refine ⟨by simp, ?_⟩
    intro _ _ quiet
    simp at quiet
  · obtain ⟨token, rest, first, other⟩ : ∃ token rest, start.rest = token :: rest ∧
        token.kind ≠ .semicolon := by
      cases remaining : start.rest with
      | nil => simp [remaining] at missing
      | cons token rest => exact ⟨token, rest, rfl, by simpa [remaining] using missing⟩
    obtain ⟨before, entry, type, after, told, recorded, ending⟩ := ending_assigned name first other
    have read := Accepts.of_reads (expression_reads start) fun _ => isInner_of_expression
    rw [ending]
    have sameRest : (after.assign name type).rest = (expression start).next.rest :=
      recorded.rest.trans told.rest
    have sameErrors : (after.assign name type).errors = (expression start).next.errors :=
      recorded.errors.trans told.errors
    have sameLedger : (after.assign name type).analyser.ledger =
        (expression start).next.analyser.ledger := by
      rw [State.analyser_assign, Analyser.ledger_assign, recorded.analyser, ← told.analyser]
      rfl
    refine ⟨sameErrors ▸ read.errors, ?_⟩
    intro plain _ quiet
    obtain ⟨taken, passed, valued⟩ := read.accepted plain rfl (sameErrors ▸ quiet)
    have sameSymbols : (after.assign name type).analyser.symbols =
        (expression start).next.analyser.symbols := by
      rw [State.analyser_assign, Analyser.symbols_assign, recorded.analyser, ← told.analyser]
      rfl
    have unchanged : Follows (expression start).next (after.assign name type) :=
      .of_plain (show (expression start).next.rest = [] ++ _ from sameRest.symm) sameSymbols
        (by simp)
    refine ⟨taken,
      ⟨sameRest ▸ passed.rest, sameLedger ▸ passed.scan, passed.symbols.trans unchanged⟩, valued,
        ?_⟩
    -- Where nothing was taken, the token that stood there still does.
    intro empty
    refine ⟨token, rest, ?_, other⟩
    have nothing : taken = [] := by simpa using empty
    rw [sameRest, ← first, passed.rest, nothing, List.nil_append]

theorem assignment_accepts {start : State} {token : Token} {rest : List Token}
    (first : start.rest = token :: rest) (name : token.kind = .identifier) :
    Accepts (fun kinds last => Grammar.Simple kinds ∨ Grammar.Unfinished kinds ∧ last.rest = [])
      start (assignment start).ending := by
  obtain ⟨before, alike, ending⟩ := ending_assignment first name
  rw [ending]
  have target : Accepts (fun kinds _ => kinds = [.identifier]) before
      (.ok (), (before.use token.lexeme).advance) := by
    have taken : before.rest = [token] ++ (before.use token.lexeme).advance.rest := by
      simp [alike.rest, first]
    refine ⟨by simp, fun _ _ _ => ⟨[token], ⟨taken, ?_, ?_⟩, by simp [name]⟩⟩
    · simp [Scan.step, name, Kind.isTypeWord]
    · exact .of_plain taken (by simp) (by simp [name, Kind.isTypeWord])
  have signed : Accepts (fun kinds last => kinds = [.identifier, .assign] ∨ last.rest = []) before
      (.ok (), (before.use token.lexeme).advance.expect .assign) := by
    refine target.andThen (fun next => (.ok (), next.expect .assign)) (.expect _ rfl (by simp)) ?_
    rintro _ _ middle last rfl (rfl | ⟨rfl, empty⟩) -
    · exact Or.inl rfl
    · exact Or.inr empty
  have valued : Accepts (fun kinds last => ∃ value, Grammar.Expression value ∧
        kinds = .identifier :: .assign :: value ∧
        (value = [] → ∃ token rest, last.rest = token :: rest ∧ token.kind ≠ .semicolon)) before
      (assigned (some token.lexeme) ((before.use token.lexeme).advance.expect .assign)).ending := by
    refine signed.andThen (fun next => (assigned (some token.lexeme) next).ending)
      (assigned_accepts _ _) ?_
    rintro _ value middle last (rfl | ended) ⟨valued, missing⟩ remaining
    · exact ⟨value, valued, rfl, missing⟩
    · -- at the end there is neither a value nor anything else that follows
      exfalso
      rw [ended, List.map_nil, eq_comm, List.append_eq_nil_iff] at remaining
      obtain ⟨token, rest, next, -⟩ := missing remaining.1
      simp [next] at remaining
  refine (valued.andThen _ (.expect _ rfl (by simp)) ?_).entered alike
  rintro _ closing middle last ⟨value, valued, rfl, missing⟩ closed remaining
  have given : value ≠ [] := by
    intro empty
    obtain ⟨token, rest, next, other⟩ := missing empty
    rcases closed with rfl | ⟨rfl, ended⟩
    · simp [next, other] at remaining
    · simp [next, ended] at remaining
  rcases closed with rfl | ⟨rfl, ended⟩
  · exact Or.inl (.assignment valued given)
  · exact Or.inr ⟨by simpa using .assignment valued given, ended⟩

structure Declares (start next : State) (taken : List Token) : Prop where
  rest : start.rest = taken ++ next.rest
  errors : start.errors <+: next.errors
  accepted : Plain taken → next.errors = start.errors →
    (∃ after pending, Scan.run taken { ledger := start.analyser.ledger, afterWord := true } =
        ⟨after, taken.isEmpty, pending⟩ ∧ after.declareAll pending = next.analyser.ledger) ∧
      (taken.map Token.kind = [] ∨ taken.map Token.kind = [.identifier] ∨
        ∃ value, Grammar.Expression value ∧ taken.map Token.kind = .identifier :: .assign :: value)

theorem declarator_declares (start : State) :
    ∃ taken, Declares start (declarator start).next taken := by
  cases named : start.meets .identifier with
  | none =>
    rw [next_declarator_still named]
    refine ⟨[], rfl, List.prefix_rfl, fun _ _ => ⟨⟨_, [], rfl, rfl⟩, Or.inl rfl⟩⟩
  | some name =>
    obtain ⟨isName, others, first⟩ := State.meets_eq_some.1 named
    obtain ⟨before, type, told, next⟩ := next_declarator_step named
    rw [next]
    cases sign : start.advance.meets .assign with
    | none =>
      rw [next_initializer_still sign] at told
      refine ⟨[name], ?_, ?_, fun _ _ => ⟨⟨start.analyser.ledger, [name.lexeme], ?_, ?_⟩, ?_⟩⟩
      · simp [told.rest, first]
      · simp [told.errors]
      · simp [Scan.step, isName, Kind.isTypeWord]
      · simp [told.analyser, Ledger.declareAll]
      · simp [isName]
    | some sign' =>
      obtain ⟨isAssign, rest, second⟩ := State.meets_eq_some.1 sign
      have read := next_initializer_step sign
      obtain ⟨taken, consumed, valued⟩ := expression_reads start.advance.advance
      have sameErrors : before.errors = (expression start.advance.advance).next.errors :=
        told.errors.trans read.errors
      have sameAnalyser : before.analyser = (start.analyser.useAll taken) := by
        rw [told.analyser, read.analyser, consumed.analyser, State.analyser_advance,
          State.analyser_advance]
      -- The name waits for the semicolon while the names in its value are used.
      refine ⟨name :: sign' :: taken, ?_, ?_, fun plain quiet => ?_⟩
      · have remaining := consumed.rest
        rw [State.rest_advance, second, List.tail_cons] at remaining
        rw [State.rest_advance, first, List.tail_cons] at second
        rw [first, second, remaining, State.rest_declare, told.rest, read.rest]
        rfl
      · simpa [sameErrors] using consumed.errors
      · have kinds :=
          valued (fun token member => plain token (by simp [member]))
            (by simpa [sameErrors] using quiet)
        refine ⟨⟨(start.analyser.useAll taken).ledger, [name.lexeme], ?_, ?_⟩,
          Or.inr (Or.inr ⟨_, kinds, by simp [isName, isAssign]⟩)⟩
        · have inner : ∀ token ∈ taken, token.kind.isInner = true :=
            fun token member => isInner_of_expression kinds _ (List.mem_map_of_mem member)
          simpa [Scan.step, isName, isAssign, Kind.isTypeWord] using
            Scan.run_useAll taken start.analyser [name.lexeme] inner
        · simp [sameAnalyser, Ledger.declareAll]

theorem variableDeclaration_accepts {start : State} {token : Token} {rest : List Token}
    (first : start.rest = token :: rest) (word : token.kind.isTypeWord = true) :
    Accepts (fun kinds _ => Grammar.Simple kinds) start (variableDeclaration start).ending := by
  by_cases empty : start.advance.rest = []
  · rw [ending_variableDeclaration_end empty]
    exact .halted (by simp)
  · rw [ending_variableDeclaration empty]
    obtain ⟨taken, declares⟩ := declarator_declares start.advance
    have before : start.errors <+: (declarator start.advance).next.errors := by
      simpa using declares.errors
    have after := before.trans (State.errors_expect .semicolon _)
    cases closing : (declarator start.advance).next.meets .semicolon with
    | none =>
      refine ⟨after.trans (by simp), ?_⟩
      intro _ _ quiet
      have longer := congrArg List.length quiet
      have := after.length_le
      simp at longer
      omega
    | some semicolon =>
      obtain ⟨isSemicolon, others, last⟩ := State.meets_eq_some.1 closing
      obtain ⟨next, sameErrors⟩ := State.expect_found last isSemicolon
      refine ⟨after, ?_⟩
      intro plain _ quiet
      have remaining : rest = taken ++ semicolon :: others := by
        have := declares.rest
        rwa [State.rest_advance, first, last] at this
      have plainTaken : Plain taken :=
        fun token member => plain token (by simp [first, remaining, member])
      obtain ⟨⟨ledger, pending, scanned, declared⟩, form⟩ :=
        declares.accepted plainTaken (by simpa [sameErrors] using quiet)
      refine ⟨token :: taken ++ [semicolon], ⟨?_, ?_, .declaration first word last isSemicolon⟩, ?_⟩
      · simp [first, remaining, next]
      · rw [State.analyser_advance] at scanned
        simp only [Scan.run_append, Scan.run_cons, Scan.run_nil, Scan.step_word _ word, scanned,
          Scan.step_semicolon _ isSemicolon, declared]
        simp
      · rcases form with none | name | ⟨value, valued, named⟩
        · simpa [none, isSemicolon] using Grammar.Simple.bare word
        · simpa [name, isSemicolon] using Grammar.Simple.declaration word
        · simpa [named, isSemicolon] using Grammar.Simple.initialized word valued

/-! ## Blocks and programs -/

theorem passComparison_reads (start : State) :
    Reads (fun kinds => ∃ sign, Kind.isComparison sign = true ∧
      kinds = [sign]) start (passComparison start) := by
  unfold passComparison
  cases remaining : start.rest with
  | nil =>
    rw [if_neg (by simp [State.peek, remaining])]
    exact ⟨[], ⟨by simp, rfl, by simp⟩, fun _ quiet => by simp at quiet⟩
  | cons token rest =>
    by_cases sign : token.kind.isComparison = true
    · rw [if_pos (by simp [State.peek, remaining, sign])]
      exact .advance remaining (fun _ => ⟨token.kind, sign, rfl⟩)
        (by rintro kind; simp [kind, Kind.isComparison] at sign)
    · rw [if_neg (by simp [State.peek, remaining, sign])]
      exact ⟨[], ⟨by simp, rfl, by simp⟩, fun _ quiet => by simp at quiet⟩

theorem comparison_reads (start : State) :
    Reads Grammar.Condition start (comparison start).next := by
  have signed : Reads (fun kinds => ∃ left sign, Grammar.Expression left ∧
    Kind.isComparison sign = true ∧
      kinds = left ++ [sign]) start (passComparison (expression start).next) := by
    refine (expression_reads start).sequence (passComparison_reads _) ?_
    rintro left _ valued ⟨sign, compared, rfl⟩
    exact ⟨left, sign, valued, compared, rfl⟩
  refine signed.sequence (expression_reads _) ?_
  rintro _ right ⟨left, sign, valued, compared, rfl⟩ valuedRight
  simpa using Grammar.Condition.mk valued compared valuedRight

theorem comparison_reads_after {start opened : State}
    (bracket : Reads (· = [.openParen]) start opened) :
    Reads (fun kinds => ∃ condition, Grammar.Condition condition ∧
      kinds = .openParen :: condition) start
      (comparison opened).next := by
  refine bracket.sequence (comparison_reads opened) ?_
  rintro _ condition rfl compared
  exact ⟨condition, compared, rfl⟩

theorem conditionalHead_reads (start : State) :
    Reads (fun kinds => ∃ condition, Grammar.Condition condition ∧
        kinds = .openParen :: condition ++ [.closeParen, .openBrace]) start
          (conditionalHead start) := by
  have opened : Reads (· = [.openParen]) start ((start.say "paso if").expect .openParen) :=
    (Reads.expect .openParen rfl (by simp)).entered ((Alike.refl start).say _)
  have compared := comparison_reads_after
    (opened.alike (((Alike.refl _).say "paso pa").say "Entro prueba expresion relacional"))
  have closed := (compared.alike ((Alike.refl _).say "paso prueba expresion relacional")).thenExpect
    .closeParen rfl (by simp)
  have braced := (closed.alike ((Alike.refl _).say "paso pc")).thenExpect .openBrace rfl (by simp)
  refine (braced.alike ((Alike.refl _).say "paso la")).weaken ?_
  rintro _ ⟨_, ⟨_, ⟨condition, compared, rfl⟩, rfl⟩, rfl⟩
  exact ⟨condition, compared, by simp⟩

/-- What a block takes: statements, unless it ends with the input. -/
def BlockForm (kinds : List Kind) (last : State) : Prop := Grammar.Statements kinds ∨ last.rest = []

/-- What one statement takes: only at the end of the input may it be unfinished. -/
def StatementForm (kinds : List Kind) (last : State) : Prop :=
  Grammar.Statement kinds ∨ Grammar.Unfinished kinds ∧ last.rest = []

theorem block_closed {start : State} (inside : Accepts BlockForm start (block start).ending) :
    Accepts (fun kinds _ => ∃ body, Grammar.Statements body ∧ kinds = body ++ [.closeBrace]) start
      ((block start).ending.andThen fun next => (.ok (), next.expect .closeBrace)) := by
  have closing : ∀ state : State,
      Accepts (fun kinds _ => kinds = [.closeBrace]) state (.ok (), state.expect .closeBrace) := by
    refine fun state => .of_reads (.expect .closeBrace rfl (by simp)) ?_
    rintro _ rfl
    simp [Kind.isInner, Kind.isTypeWord]
  refine inside.andThen _ (closing _) ?_
  rintro body _ middle last (statements | ended) rfl remaining
  · exact ⟨body, statements, rfl⟩
  · simp [ended] at remaining

theorem alternative_accepts {closed : State}
    (inside : ∀ shorter : State, shorter.rest.length < closed.rest.length →
      Accepts BlockForm shorter (block shorter).ending) :
    Accepts (fun kinds _ => kinds = [] ∨ ∃ other, Grammar.Statements other ∧
      kinds = .elseWord :: .openBrace :: other ++ [.closeBrace]) closed (alternative closed) := by
  unfold alternative
  split
  · exact .still (Or.inl rfl)
  · next token otherwise =>
    obtain ⟨isElse, rest, first⟩ := State.meets_eq_some.1 otherwise
    have opened : Reads (fun kinds => ∃ before, before = [.elseWord] ∧
      kinds = before ++ [.openBrace]) closed
        (closed.advance.expect .openBrace) :=
      (Reads.advance first (fun _ => by
        rw [isElse]) (by simp [isElse])).thenExpect .openBrace rfl (by simp)
    have shorter : (closed.advance.expect .openBrace).rest.length < closed.rest.length := by
      have bound := State.length_rest_expect .openBrace closed.advance
      rw [State.rest_advance, first, List.tail_cons] at bound
      rw [first, List.length_cons]
      exact Nat.lt_succ_of_le bound
    have braced : Accepts (fun kinds _ => ∃ before, before = [.elseWord] ∧
      kinds = before ++ [.openBrace]) closed
        (.ok (), closed.advance.expect .openBrace) := by
      refine .of_reads opened ?_
      rintro _ ⟨_, rfl, rfl⟩
      simp [Kind.isInner, Kind.isTypeWord]
    refine braced.andThen
      (fun next => (block next).ending.andThen fun next => (.ok (), next.expect .closeBrace))
      (block_closed (inside _ shorter)) ?_
    rintro _ _ _ _ ⟨_, rfl, rfl⟩ ⟨other, statements, rfl⟩ -
    exact Or.inr ⟨other, statements, rfl⟩

theorem conditionalBody_accepts {start : State}
    (inside : ∀ shorter : State, shorter.rest.length ≤ start.rest.length →
      Accepts BlockForm shorter (block shorter).ending) :
    Accepts (fun kinds _ => ∃ body, Grammar.Statements body ∧ (kinds = body ++ [.closeBrace] ∨
      ∃ other, Grammar.Statements other ∧
        kinds = body ++ .closeBrace :: .elseWord :: .openBrace :: other ++ [.closeBrace]))
      start (conditionalBody start).ending := by
  have regroup : (conditionalBody start).ending = ((block start).ending.andThen fun next =>
      (.ok (), next.expect .closeBrace)).andThen alternative := by
    rw [ending_conditionalBody]
    rcases (block start).ending with ⟨⟨halt⟩ | ⟨⟨⟩⟩, next⟩ <;> rfl
  have shorter : ((block start).ending.andThen fun next =>
      (.ok (), next.expect .closeBrace)).2.rest.length ≤ start.rest.length := by
    have bound := (block start).bound
    rcases block start with ⟨⟨halt⟩ | ⟨⟨⟩⟩, next, bound⟩
    · exact bound
    · exact (State.length_rest_expect _ _).trans bound
  rw [regroup]
  refine (block_closed (inside start (Nat.le_refl _))).andThen _
    (alternative_accepts fun state less => inside state (less.le.trans shorter)) ?_
  rintro _ _ middle last ⟨body, statements, rfl⟩ (rfl | ⟨other, others, rfl⟩) -
  · exact ⟨body, statements, Or.inl (by simp)⟩
  · exact ⟨body, statements, Or.inr ⟨other, others, by simp⟩⟩

theorem Accepts.afterWord {Form After : List Kind → State → Prop} (wanted : Kind) {start : State}
    {token : Token} {rest : List Token} (following : State → Ending)
    (first : start.rest = token :: rest) (found : token.kind = wanted)
    (inner : wanted.isInner = true) (nameless : wanted ≠ .identifier)
    (after : Accepts After (start.expect wanted) (following (start.expect wanted)))
    (joined : ∀ kinds last, After kinds last → Form (wanted :: kinds) last) :
    Accepts Form start (following (start.expect wanted)) := by
  have word : Accepts (fun kinds _ => kinds = [wanted]) start (.ok (), start.expect wanted) := by
    refine .of_reads (.expect_found wanted first found nameless) ?_
    rintro _ rfl
    simpa using inner
  refine word.andThen following after ?_
  rintro _ kinds _ last rfl form -
  exact joined kinds last form

theorem Accepts.wrapped {start : State} {reader : State → Ending} {ending : Ending}
    (read : Wrapped start reader ending)
    (inside : ∀ entered, Alike start entered → Accepts StatementForm entered (reader entered)) :
    Accepts StatementForm start ending := by
  obtain ⟨entered, leave, before, after, rfl⟩ := read
  have left : Accepts (fun kinds _ => kinds = []) (reader entered).2 (.ok (),
    leave (reader entered).2) :=
    (Accepts.still rfl).entered (after _).alike
  refine ((inside entered before.alike).andThen _ left ?_).entered before.alike
  rintro kinds _ middle last form rfl same
  rw [List.append_nil]
  refine form.imp_right fun unfinished => ⟨unfinished.1, ?_⟩
  simpa [unfinished.2] using same

theorem conditional_accepts {start entered : State} {token : Token} {rest : List Token}
    (alike : Alike start entered) (first : start.rest = token :: rest) (word : token.kind = .ifWord)
    (inside : ∀ shorter : State, shorter.rest.length < start.rest.length →
      Accepts BlockForm shorter (block shorter).ending) :
    Accepts StatementForm entered
      (conditionalBody (conditionalHead (entered.expect .ifWord))).ending := by
  have head : Accepts (fun kinds _ => ∃ condition, Grammar.Condition condition ∧
      kinds = .openParen :: condition ++ [.closeParen, .openBrace]) (entered.expect .ifWord)
      (.ok (), conditionalHead (entered.expect .ifWord)) := by
    refine .of_reads (conditionalHead_reads _) ?_
    rintro _ ⟨_, ⟨left, compared, right⟩, rfl⟩
    have leftInner := isInner_of_expression left
    have rightInner := isInner_of_expression right
    intro kind member
    simp only [List.cons_append, List.append_assoc, List.mem_cons, List.mem_append,
      List.not_mem_nil, or_false] at member
    rcases member with rfl | member | rfl | member | rfl | rfl
    · rfl
    · exact leftInner kind member
    · cases kind <;> simp_all [Kind.isComparison, Kind.isInner, Kind.isTypeWord]
    · exact rightInner kind member
    · rfl
    · rfl
  -- The condition and its signs were consumed, so that the blocks are shorter.
  have shorter := length_rest_conditional alike first word
  have body := conditionalBody_accepts fun state bound => inside state (bound.trans_lt shorter)
  refine Accepts.afterWord .ifWord (fun state => (conditionalBody (conditionalHead state)).ending)
    (alike.rest.trans first) word rfl (by simp)
      (head.andThen (fun state => (conditionalBody state).ending) body ?_)
    (fun _ _ statement => statement)
  rintro _ _ middle last ⟨condition, compared, rfl⟩ ⟨body, statements, rfl | ⟨other, others, rfl⟩⟩ -
  · refine Or.inl ?_
    simpa using Grammar.Statement.conditional compared statements
  · refine Or.inl ?_
    simpa using Grammar.Statement.alternative compared statements others

theorem statement_accepts {start : State}
    (inside : ∀ shorter : State, shorter.rest.length < start.rest.length →
      Accepts BlockForm shorter (block shorter).ending) :
    Accepts StatementForm start (statement start).ending := by
  cases remaining : start.rest with
  | nil =>
    obtain ⟨last, noted, ending⟩ := ending_statement_end remaining
    rw [ending]
    exact .halted (by rw [noted.alike.errors])
  | cons token rest =>
    rcases statement_cases remaining with
      ⟨word, declared⟩ | ⟨name, assigned⟩ | ⟨word, conditional⟩ | ⟨word, printed⟩ | ⟨-, faulty⟩
    · refine .wrapped declared fun entered alike => ?_
      exact (variableDeclaration_accepts (alike.rest.trans remaining) word).weaken fun _ _ form =>
        Or.inl (.simple form)
    · refine .wrapped assigned fun entered alike => ?_
      exact (assignment_accepts (alike.rest.trans remaining) name).weaken fun _ _ form =>
        form.imp_left .simple
    · exact .wrapped conditional fun entered alike =>
        conditional_accepts alike remaining word inside
    · refine .wrapped printed fun entered alike => ?_
      refine Accepts.afterWord .printWord (fun state => (printTail state).ending)
        (alike.rest.trans remaining) word rfl
        (by simp) (printTail_accepts _) ?_
      rintro _ last ⟨value, valued, rfl | ⟨rfl, ended⟩⟩
      · exact Or.inl (.simple (.print valued))
      · exact Or.inr ⟨.print valued, ended⟩
    · -- a token that starts no statement is a fault
      refine .wrapped faulty fun entered _ => ⟨by simp, ?_⟩
      intro _ _ quiet
      simp at quiet

theorem block_accepts {start : State} (first : Accepts StatementForm start (statement start).ending)
    (inside : ∀ shorter : State, shorter.rest.length < start.rest.length →
      Accepts BlockForm shorter (block shorter).ending) :
    Accepts BlockForm start (block start).ending := by
  rcases block_cases start with still | ⟨token, rest, remaining, step⟩
  · rw [still]
    exact .still (Or.inl .none)
  · rw [step]
    refine first.andThen _ (inside _ (length_rest_statement remaining)) ?_
    rintro kinds others middle last (statement | ⟨-, ended⟩) (statements | ended') rest
    · exact Or.inl (.more statement statements)
    · exact Or.inr ended'
    · rw [ended, List.map_nil, eq_comm, List.append_eq_nil_iff] at rest
      exact Or.inr (by simpa using rest.2)
    · exact Or.inr ended'

theorem statement_and_block_accepts :
    (∀ state, Accepts StatementForm state (statement state).ending) ∧
      (∀ state, Accepts BlockForm state (block state).ending) :=
  statement_induction _ _ (fun _ => statement_accepts) (fun _ => block_accepts)

/-- A program that is read without a fault is one of the grammar, and is read to its end. -/
theorem program_accepts (start : State) :
    Accepts (fun kinds last => Grammar.Program kinds ∧
      last.rest = []) start (program start).ending := by
  induction start using program_induction with
  | ended start remaining =>
    obtain ⟨last, noted, ending⟩ := ending_program_end remaining
    rw [ending]
    exact (Accepts.still ⟨.finished .none, noted.alike.rest.trans remaining⟩).entered noted.alike
  | step start token rest remaining ih =>
    rw [ending_program_step remaining]
    refine (statement_and_block_accepts.1 start).andThen _ ih ?_
    rintro kinds others middle last (statement | ⟨unfinished, ended⟩) ⟨program, done⟩ rest
    · exact ⟨program.cons statement, done⟩
    · rw [ended, List.map_nil, eq_comm, List.append_eq_nil_iff] at rest
      rw [rest.1, List.append_nil]
      exact ⟨.unfinished .none unfinished, done⟩

end Syntax

end Workbench
