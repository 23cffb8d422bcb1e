import Workbench.Proofs.Completeness
import Workbench.Proofs.Cutting
import Workbench.Proofs.Soundness

/-! Which token lists are accepted, and what is then known of the names in them. -/

set_option autoImplicit false

namespace Workbench

theorem kinds_of_lex (source : String) : ∀ token ∈ (lex source).tokens, token.kind ∈ Row.kinds := by
  intro token member
  obtain ⟨piece, tiled, made⟩ := List.mem_filterMap.1 member
  cases piece with
  | taken index row lexeme =>
    obtain ⟨before, rest, found⟩ := first?_of_mem_pieces tiled
    obtain ⟨kind, row_kind, rfl⟩ := Option.map_eq_some_iff.1 made
    exact List.mem_filterMap.2 ⟨row, Row.mem_of_first? found, row_kind⟩
  | unknown c => cases made

def Clean (tokens : List Token) : Prop :=
  (Syntax.program (.ofTokens tokens)).result = .ok () ∧
    (Syntax.program (.ofTokens tokens)).next.errors = []

instance (tokens : List Token) : Decidable (Clean tokens) := inferInstanceAs (Decidable (_ ∧ _))

namespace Syntax

theorem plain_of_kinds {tokens : List Token} (listed : ∀ token ∈ tokens, token.kind ∈ Row.kinds) :
    Plain tokens := by
  intro token member quotient
  have row := listed token member
  rw [quotient] at row
  exact absurd row (by decide)

theorem passes_of_clean {tokens : List Token} (plain : Plain tokens) (clean : Clean tokens) :
    Passes (.ofTokens tokens) (program (.ofTokens tokens)).next tokens ∧
      Grammar.Program (tokens.map Token.kind) ∧
      (program (.ofTokens tokens)).next.rest = [] := by
  obtain ⟨taken, passed, generated, ended⟩ :=
    (program_accepts (.ofTokens tokens)).accepted plain clean.1 clean.2
  obtain rfl : tokens = taken := by
    have rest := passed.rest
    rwa [ended, List.append_nil] at rest
  exact ⟨passed, generated, ended⟩

theorem program_of_clean {tokens : List Token} (plain : Plain tokens) (clean : Clean tokens) :
    Grammar.Program (tokens.map Token.kind) ∧
      Scan.run tokens {} = { ledger := (program (.ofTokens tokens)).next.analyser.ledger } := by
  obtain ⟨passed, generated, -⟩ := passes_of_clean plain clean
  exact ⟨generated, passed.scan⟩

theorem symbols_of_clean {tokens : List Token} (plain : Plain tokens) (clean : Clean tokens) :
    (program (.ofTokens tokens)).next.analyser.symbols = recorded tokens {} := by
  obtain ⟨passed, -, ended⟩ := passes_of_clean plain clean
  have settled : Settled (State.ofTokens tokens).analyser.symbols.typeOf := by
    intro name type typed
    cases typed
  obtain ⟨-, same⟩ := passed.symbols settled
  rw [State.outlook, ended] at same
  exact same

theorem clean_of_program {tokens : List Token}
    (generated : Grammar.Program (tokens.map Token.kind)) :
    Clean tokens := by
  have read : Goes (.ofTokens tokens) _ [] := program_goes generated
  exact ⟨read.ok, read.leaves.errors⟩

end Syntax

/-- Exactly the programs of the grammar are accepted. -/
theorem clean_iff_program (tokens : List Token)
    (listed : ∀ token ∈ tokens, token.kind ∈ Row.kinds) :
    ((Syntax.program (.ofTokens tokens)).result = .ok () ∧
        (Syntax.program (.ofTokens tokens)).next.errors = []) ↔
      Grammar.Program (tokens.map Token.kind) :=
  ⟨fun clean => (Syntax.program_of_clean (Syntax.plain_of_kinds listed) clean).1,
    Syntax.clean_of_program⟩

theorem clean_iff_program_nested :
    Grammar.Program
      ((lex "if (a < (1)) \x7b print(a +); \x7d else \x7b int b = a; \x7d b = -1").tokens.map
        Token.kind) ∧
      ¬ Grammar.Program ((lex "if (a == 1) \x7b \x7d int b").tokens.map Token.kind) :=
  ⟨(clean_iff_program _ (kinds_of_lex _)).1 (by decide +kernel),
    fun program => absurd ((clean_iff_program _ (kinds_of_lex _)).2 program) (by decide +kernel)⟩

/-- What is known of names after an accepted program is told by the places of its tokens. -/
theorem ledger_of_clean {tokens : List Token} (listed : ∀ token ∈ tokens, token.kind ∈ Row.kinds)
    (clean : Clean tokens) :
    (Syntax.program (.ofTokens tokens)).next.analyser.ledger =
      ⟨Places.firstDeclarations tokens tokens.length, Places.earlyUses tokens tokens.length,
        Places.laterDeclarations tokens tokens.length⟩ :=
  Places.ledger_of_scan tokens (Syntax.program_of_clean (Syntax.plain_of_kinds listed) clean).2

/-- Names are checked exactly: the symbols are the declared names in the order of their first
declarations, and those reported are the names used before a declaration is closed and the names
declared again. -/
theorem names_checked (tokens : List Token) (listed : ∀ token ∈ tokens, token.kind ∈ Row.kinds)
    (returned : (Syntax.program (.ofTokens tokens)).result = .ok ())
    (faultless : (Syntax.program (.ofTokens tokens)).next.errors = []) :
    let analyser := (Syntax.program (.ofTokens tokens)).next.analyser
    analyser.symbols.names = Places.firstDeclarations tokens tokens.length ∧
      analyser.errors.filterMap SemanticError.undeclaredName =
        Places.earlyUses tokens tokens.length ∧
      analyser.errors.filterMap SemanticError.redeclaredName =
        Places.laterDeclarations tokens tokens.length := by
  have told := ledger_of_clean listed ⟨returned, faultless⟩
  exact ⟨congrArg Ledger.names told, congrArg Ledger.undeclared told,
    congrArg Ledger.redeclared told⟩

theorem names_checked_self_reference :
    let tokens :=
      (lex "int a = a + b; float b; if (a == b) \x7b int a; print(c); \x7d int a = a;").tokens
    Clean tokens ∧ (Syntax.program (.ofTokens tokens)).next.analyser.symbols.names = ["a", "b"] ∧
      (Syntax.program (.ofTokens tokens)).next.analyser.errors.filterMap
        SemanticError.undeclaredName =
        ["a", "b", "c"] ∧
      (Syntax.program (.ofTokens tokens)).next.analyser.errors.filterMap
        SemanticError.redeclaredName =
        ["a", "a"] := by
  intro tokens
  have clean : Clean tokens := by decide +kernel
  obtain ⟨names, undeclared, redeclared⟩ := names_checked tokens (kinds_of_lex _) clean.1 clean.2
  refine ⟨clean, ?_, ?_, ?_⟩
  · rw [names]
    decide +kernel
  · rw [undeclared]
    decide +kernel
  · rw [redeclared]
    decide +kernel

/-- A declared name is recorded with the type of its initial value, whatever type the word in front
of it names. In the value a name has the type it was declared with before, and none if it was
not. -/
theorem declared_with_type_of_value (tokens : List Token)
    (listed : ∀ token ∈ tokens, token.kind ∈ Row.kinds)
    (returned : (Syntax.program (.ofTokens tokens)).result = .ok ())
    (faultless : (Syntax.program (.ofTokens tokens)).next.errors = []) (name : String) (index : Nat)
    (declared : Places.declaredAt tokens index = some name)
    (first : ¬ Places.DeclaredBefore tokens name index) :
    let symbols := (Syntax.program (.ofTokens tokens)).next.analyser.symbols
    symbols.get? name = some (valueType
      (fun other => if Places.DeclaredBefore tokens other index then symbols.typeOf other else none)
      (Places.valueAt tokens index)) := by
  intro symbols
  have told : symbols = recorded tokens {} :=
    Syntax.symbols_of_clean (Syntax.plain_of_kinds listed) ⟨returned, faultless⟩
  rw [told]
  exact Places.get?_recorded declared first

theorem declared_with_type_of_value_float :
    let tokens := (lex "float a = 0.5; int b = 2 * (1 + a);").tokens
    Clean tokens ∧ Places.declaredAt tokens 6 = some "b" ∧ ¬ Places.DeclaredBefore tokens "b" 6 ∧
      (Syntax.program (.ofTokens tokens)).next.analyser.symbols.get? "b" = some (some .float) := by
  intro tokens
  have clean : Clean tokens := by decide +kernel
  have declared : Places.declaredAt tokens 6 = some "b" := by decide +kernel
  have first : ¬ Places.DeclaredBefore tokens "b" 6 := by decide +kernel
  refine ⟨clean, declared, first, ?_⟩
  rw [declared_with_type_of_value tokens (kinds_of_lex _) clean.1 clean.2 "b" 6 declared first]
  decide +kernel

/-- The words for the types of variables do not count: without a value there is no type, and an
`int` makes a variable declared as `float` an `int`. -/
theorem declared_type_not_recorded :
    let tokens := (lex "int a; float b = 1;").tokens
    Clean tokens ∧
      tokens.map Token.kind =
        [.intWord, .identifier, .semicolon, .floatWord, .identifier, .assign,
          .integer, .semicolon] ∧
      (Syntax.program (.ofTokens tokens)).next.analyser.symbols.entries =
        [("a", none), ("b", some .int)] := by
  decide +kernel

end Workbench
