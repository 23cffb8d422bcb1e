import Workbench.Proofs.Adjacency
import Workbench.Proofs.Listing

/-! The labels of the data section are variables of the program, each once and in their order.

The lines are read for declarations a second time, apart from the tokens. What is read there is
declared among the tokens as well, at the same place, and the scan for names finds no name declared
again in an accepted text.
-/

set_option autoImplicit false

namespace Workbench

open scoped List

/-! ## Names declared among tokens -/

/-- The names that are declared among some tokens, given whether the word for a type stands before
them. -/
def declaredFrom : Bool → List Token → List String
  | _, [] => []
  | afterWord, token :: rest =>
    (if afterWord = true ∧ token.kind = .identifier then [token.lexeme] else []) ++
      declaredFrom token.kind.isTypeWord rest

theorem declaredFrom_append (afterWord : Bool) (front : List Token) : ∃ afterFront, ∀ back,
    declaredFrom afterWord (front ++ back) = declaredFrom afterWord front ++
      declaredFrom afterFront back := by
  induction front generalizing afterWord with
  | nil => exact ⟨afterWord, fun _ => rfl⟩
  | cons token front ih =>
    obtain ⟨afterFront, split⟩ := ih token.kind.isTypeWord
    exact ⟨afterFront, fun back => by
      rw [List.cons_append, declaredFrom, split, declaredFrom, List.append_assoc]⟩

theorem Ledger.nodup_declareAll {ledger : Ledger} (nodup : ledger.names.Nodup)
    (pending : List String) :
    (ledger.declareAll pending).names.Nodup := by
  induction pending generalizing ledger with
  | nil => exact nodup
  | cons name pending ih =>
    refine @ih (ledger.declare name) ?_
    unfold declare
    split
    · exact nodup
    · next new =>
        simpa [List.nodup_append] using ⟨nodup, fun other member same => new (same ▸ member)⟩

theorem Ledger.names_declareAll {pending : List String} {ledger : Ledger}
    (once : (ledger.declareAll pending).redeclared = []) :
    ledger.redeclared = [] ∧ (ledger.declareAll pending).names = ledger.names ++ pending := by
  induction pending generalizing ledger with
  | nil => exact ⟨once, (List.append_nil _).symm⟩
  | cons name pending ih =>
    obtain ⟨redeclared, names⟩ := @ih (ledger.declare name) once
    change _ ∧ ((ledger.declare name).declareAll pending).names = _
    unfold declare at redeclared names
    by_cases known : name ∈ ledger.names
    -- A known name would have been noted, and notes are never taken back.
    · simp [known] at redeclared
    · rw [if_neg known] at redeclared names
      refine ⟨redeclared, ?_⟩
      unfold declare
      rw [if_neg known, names, List.append_assoc]
      rfl

namespace Scan

def Faultless (scan : Scan) : Prop := scan.ledger.undeclared = [] ∧ scan.ledger.redeclared = []

def announced (scan : Scan) : List String := scan.ledger.names ++ scan.pending

theorem afterWord_step (scan : Scan) (token : Token) :
    (scan.step token).afterWord = token.kind.isTypeWord := by
  unfold step
  repeat' split
  all_goals simp_all [Kind.isTypeWord]

/-- What one token does to a scan that stays without fault: only a name behind the word for a type
is added, and any other name is there already. -/
theorem Faultless.of_step {scan : Scan} {token : Token} (faultless : (scan.step token).Faultless) :
    scan.Faultless ∧ (scan.step token).announced =
        scan.announced ++ (if scan.afterWord = true ∧
          token.kind = .identifier then [token.lexeme] else []) ∧
      (token.kind = .identifier → token.lexeme ∈ (scan.step token).announced) := by
  by_cases isWord : token.kind.isTypeWord = true
  · have unnamed : token.kind ≠ .identifier := by
      rintro same
      rw [same] at isWord
      cases isWord
    rw [step_word scan isWord] at faultless ⊢
    exact ⟨faultless, by simp [announced, unnamed], fun named => absurd named unnamed⟩
  by_cases named : token.kind = .identifier
  · cases after : scan.afterWord with
    | true =>
      have stepped : scan.step token =
          { scan with afterWord := false, pending := scan.pending ++ [token.lexeme] } := by
        simp [step, named, after, Kind.isTypeWord]
      rw [stepped] at faultless ⊢
      exact ⟨faultless, by simp [announced, named], fun _ => by simp [announced]⟩
    | false =>
      have stepped : scan.step token = { scan with ledger := scan.ledger.use token.lexeme } := by
        simp [step, named, after, Kind.isTypeWord]
      rw [stepped] at faultless ⊢
      -- A name that is not declared would have been reported.
      by_cases known : token.lexeme ∈ scan.ledger.names
      · have same : scan.ledger.use token.lexeme = scan.ledger := by rw [Ledger.use, if_pos known]
        rw [same] at faultless ⊢
        exact ⟨faultless, by simp [announced], fun _ => List.mem_append_left _ known⟩
      · have reported := faultless.1
        simp [Ledger.use, known] at reported
  by_cases closing : token.kind = .semicolon
  · rw [step_semicolon scan closing] at faultless ⊢
    obtain ⟨undeclared, redeclared⟩ := faultless
    obtain ⟨once, names⟩ := Ledger.names_declareAll redeclared
    rw [Ledger.undeclared_declareAll] at undeclared
    exact ⟨⟨undeclared, once⟩, by simp [announced, names, closing], fun same => absurd same named⟩
  · have stepped : scan.step token = { scan with afterWord := false } := by
      simp [step, isWord, named, closing]
    rw [stepped] at faultless ⊢
    exact ⟨faultless, by simp [announced, named], fun same => absurd same named⟩

theorem Faultless.of_run {scan : Scan} {tokens : List Token}
    (faultless : (scan.run tokens).Faultless) :
    scan.Faultless ∧
      (scan.run tokens).announced = scan.announced ++ declaredFrom scan.afterWord tokens := by
  -- From the end: a scan without fault had none before its last step.
  induction tokens generalizing scan with
  | nil => exact ⟨faultless, (List.append_nil _).symm⟩
  | cons token tokens ih =>
    obtain ⟨stepped, others⟩ := @ih (scan.step token) faultless
    obtain ⟨before, first, -⟩ := stepped.of_step
    exact ⟨before, by rw [run_cons, others, first, afterWord_step, declaredFrom, List.append_assoc]⟩

theorem not_mem_declaredFrom {front back : List Token} {token : Token}
    (faultless : (run (front ++ token :: back) {}).Faultless)
    (once : (run (front ++ token :: back) {}).announced.Nodup)
    (named : token.kind = .identifier) :
    token.lexeme ∉ declaredFrom token.kind.isTypeWord back := by
  rw [run_append, run_cons] at faultless once
  obtain ⟨stepped, announced⟩ := faultless.of_run
  obtain ⟨-, -, present⟩ := stepped.of_step
  rw [announced, afterWord_step] at once
  exact fun later => (List.nodup_append.1 once).2.2 _ (present named) _ later rfl

theorem nodup_run {scan : Scan} (nodup : scan.ledger.names.Nodup) (tokens : List Token) :
    (scan.run tokens).ledger.names.Nodup := by
  induction tokens generalizing scan with
  | nil => exact nodup
  | cons token tokens ih =>
    refine @ih (scan.step token) ?_
    unfold step
    repeat' split
    · exact nodup
    · exact nodup
    · simpa using nodup
    · exact Ledger.nodup_declareAll nodup _
    · exact nodup

end Scan

/-- All names of an accepted text are declared, none of them twice, and they are the symbols of the
parser. -/
theorem announced_of_accepted {source : String} (accepted : Accepted source) :
    (Scan.run (lex source).tokens {}).Faultless ∧
      (Scan.run (lex source).tokens {}).announced.Nodup ∧
      (Scan.run (lex source).tokens {}).announced =
        (Syntax.program (.ofTokens (lex source).tokens)).next.analyser.symbols.names := by
  have once : (Scan.run (lex source).tokens {}).ledger.names.Nodup :=
    Scan.nodup_run List.nodup_nil _
  obtain ⟨ledger, scanned, undeclared, redeclared, names⟩ := scan_of_accepted accepted
  rw [scanned] at once ⊢
  rw [Scan.announced, List.append_nil]
  exact ⟨⟨undeclared, redeclared⟩, once, names⟩

/-! ## Names defined by lines -/

namespace Line

theorem typedName?_of_definition? {text : List Char} {line : Line}
    (read : parse? text = some line) {name : String}
    {precision : Mips.Precision} (defined : line.definition? = some (name, precision)) :
    ∃ varType chars after, typedName? text = some (varType, chars, after) ∧
      String.ofList chars = name := by
  rcases parse?_cases read with ⟨varType, chars, after, expression, rfl, typed, -⟩ |
    ⟨varType, chars, after, rfl, typed⟩ | ⟨chars, after, expression, rfl, -,
      -⟩ | ⟨chars, after, rfl, -⟩
  · obtain ⟨_, -, same⟩ := Option.map_eq_some_iff.1 defined
    exact ⟨varType, chars, after, typed, (Prod.mk.inj same).1⟩
  · obtain ⟨_, -, same⟩ := Option.map_eq_some_iff.1 defined
    exact ⟨varType, chars, after, typed, (Prod.mk.inj same).1⟩
  · cases defined
  · cases defined

theorem Orderly.definition_sublist {text : List Char} (orderly : Orderly text) (afterWord : Bool) :
    (((parse? text).bind definition?).map Prod.fst).toList <+ declaredFrom afterWord
      (tokensFrom none text) := by
  cases defined : (parse? text).bind definition? with
  | none => exact List.nil_sublist _
  | some definition =>
    obtain ⟨line, read, defined⟩ := Option.bind_eq_some_iff.1 defined
    obtain ⟨varType, chars, after, typed, named⟩ := typedName?_of_definition? read defined
    obtain ⟨-, -, word, isWord, tokens⟩ := orderly.tokens_typedName typed
    rw [tokens, declaredFrom, declaredFrom, isWord]
    refine List.Sublist.trans ?_ (List.sublist_append_right ..)
    simp [named]

theorem definitions_sublist {texts : List (List Char)} (orderly : ∀ text ∈ texts, Orderly text)
    (afterWord : Bool) :
    ((texts.filterMap parse?).filterMap definition?).map Prod.fst <+
      declaredFrom afterWord (texts.flatMap (tokensFrom none)) := by
  -- For both values of `afterWord`, since a line may end in the word for a type.
  induction texts generalizing afterWord with
  | nil => exact List.nil_sublist _
  | cons text texts ih =>
    obtain ⟨first, orderly⟩ := List.forall_mem_cons.1 orderly
    obtain ⟨afterFront, split⟩ := declaredFrom_append afterWord (tokensFrom none text)
    have both := (first.definition_sublist afterWord).append (ih orderly afterFront)
    rw [List.flatMap_cons, split]
    rw [List.filterMap_filterMap] at both ⊢
    rw [List.filterMap_cons]
    cases defined : (parse? text).bind definition? <;> simpa [defined] using both

end Line

theorem definitions_of_accepted {source : String} (accepted : Accepted source) :
    ((Line.ofSource source).filterMap Line.definition?).map Prod.fst <+
        (Syntax.program (.ofTokens (lex source).tokens)).next.analyser.symbols.names ∧
      (((Line.ofSource source).filterMap Line.definition?).map Prod.fst).Nodup := by
  obtain ⟨tokens, orderly⟩ := orderly_of_accepted accepted
  obtain ⟨faultless, once, names⟩ := announced_of_accepted accepted
  have ordered : ((Line.ofSource source).filterMap Line.definition?).map Prod.fst <+
      declaredFrom false (lex source).tokens := tokens ▸ Line.definitions_sublist orderly false
  have announced := faultless.of_run.2
  rw [← names]
  rw [announced] at once ⊢
  exact ⟨ordered, ordered.nodup once⟩

/-- The labels of the data section are symbols of the program, in the order in which these were
recorded, and no label stands there twice. -/
theorem labels_are_symbols (source : String) (accepted : Accepted source) :
    (Mips.ofSource source).error = none ∧
      (Mips.data (Mips.ofSource source).items).map Prod.fst <+
        (Syntax.program (.ofTokens (lex source).tokens)).next.analyser.symbols.names ∧
      ((Mips.data (Mips.ofSource source).items).map Prod.fst).Nodup := by
  obtain ⟨ok, data, -⟩ := Mips.ofSource_generated source
  rw [data]
  exact ⟨ok, definitions_of_accepted accepted⟩

theorem labels_are_symbols_nested :
    let source := "int a = 1;\n\tfloat b ; int c;\nif (a < 2) \x7b\n  float d = 0.5; \x7d\nint\te;"
    Accepted source ∧ (Mips.data (Mips.ofSource source).items).map Prod.fst = ["a", "d", "e"] ∧
      ["a", "d",
        "e"] <+ (Syntax.program (.ofTokens (lex source).tokens)).next.analyser.symbols.names ∧
      (Syntax.program (.ofTokens (lex source).tokens)).next.analyser.symbols.names =
        ["a", "b", "c", "d", "e"] := by
  intro source
  obtain ⟨accepted, labels, names⟩ : Accepted source ∧
      (Mips.data (Mips.ofSource source).items).map Prod.fst = ["a", "d", "e"] ∧
      (Syntax.program (.ofTokens (lex source).tokens)).next.analyser.symbols.names =
        ["a", "b", "c", "d", "e"] := by
    decide +kernel
  obtain ⟨-, ordered, -⟩ := labels_are_symbols source accepted
  exact ⟨accepted, labels, labels ▸ ordered, names⟩

end Workbench
