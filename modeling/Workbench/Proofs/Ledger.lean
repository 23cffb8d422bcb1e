import Mathlib.Data.List.Infix
import Workbench.Check

/-! Declarations and uses of names, read off the tokens alone.

A name is declared where it directly follows the word for a type, and used wherever else it stands.
It counts as declared from the next semicolon on, so that a use in its own initial value is too
early. The scan below goes through the tokens once; what it has found after any number of them is
told by their places.
-/

set_option autoImplicit false

namespace Workbench

/-- The names that are declared, those used without being so, and those declared again. -/
structure Ledger where
  names : List String := []
  undeclared : List String := []
  redeclared : List String := []
  deriving DecidableEq, Repr

namespace Ledger

def declare (name : String) (ledger : Ledger) : Ledger :=
  if name ∈ ledger.names then { ledger with redeclared := ledger.redeclared ++ [name] }
  else { ledger with names := ledger.names ++ [name] }

def use (name : String) (ledger : Ledger) : Ledger :=
  if name ∈ ledger.names then ledger else { ledger with undeclared := ledger.undeclared ++ [name] }

def declareAll (pending : List String) (ledger : Ledger) : Ledger :=
  pending.foldl (fun ledger name => ledger.declare name) ledger

@[simp] theorem declareAll_nil (ledger : Ledger) : ledger.declareAll [] = ledger := rfl

theorem declareAll_concat (pending : List String) (name : String) (ledger : Ledger) :
    ledger.declareAll (pending ++ [name]) = (ledger.declareAll pending).declare name := by
  simp only [declareAll, List.foldl_append, List.foldl_cons, List.foldl_nil]

@[simp] theorem undeclared_declare (name : String) (ledger : Ledger) :
    (ledger.declare name).undeclared = ledger.undeclared := by
  unfold declare
  split <;> rfl

@[simp] theorem undeclared_declareAll (pending : List String) (ledger : Ledger) :
    (ledger.declareAll pending).undeclared = ledger.undeclared := by
  induction pending generalizing ledger with
  | nil => rfl
  | cons name rest ih => exact (ih (ledger.declare name)).trans (undeclared_declare name ledger)

@[simp] theorem names_use (name : String) (ledger : Ledger) :
    (ledger.use name).names = ledger.names := by
  unfold use
  split <;> rfl

/-- Uses neither declare nor are they told by what was redeclared. -/
theorem declareAll_use (pending : List String) (name : String) (ledger : Ledger) :
    ((ledger.use name).declareAll pending).names = (ledger.declareAll pending).names ∧
      ((ledger.use name).declareAll pending).redeclared =
        (ledger.declareAll pending).redeclared := by
  have same : ∀ first second : Ledger, first.names = second.names → first.redeclared =
    second.redeclared →
      (first.declareAll pending).names = (second.declareAll pending).names ∧
        (first.declareAll pending).redeclared = (second.declareAll pending).redeclared := by
    induction pending with
    | nil => exact fun _ _ names redeclared => ⟨names, redeclared⟩
    | cons declared rest ih =>
      intro first second names redeclared
      apply ih
      · simp only [declare, names]; split <;> simp only
      · simp only [declare, names]; split <;> simp [redeclared]
  refine same _ _ (names_use name ledger) ?_
  unfold use
  split <;> rfl

end Ledger

def SemanticError.undeclaredName : SemanticError → Option String
  | .undeclared name => some name
  | _ => none

def SemanticError.redeclaredName : SemanticError → Option String
  | .redeclared name => some name
  | _ => none

theorem Table.contains_iff {α : Type} (table : Table α) (name : String) :
    table.contains name = true ↔ name ∈ table.names := by
  simp only [contains, get?, names]
  induction table.entries with
  | nil => simp
  | cons entry rest ih =>
    obtain ⟨key, value⟩ := entry
    by_cases same : name = key
    · simp [same]
    · simp [List.lookup_cons, beq_eq_false_iff_ne.2 same, ih, same]

namespace Analyser

def ledger (analyser : Analyser) : Ledger where
  names := analyser.symbols.names
  undeclared := analyser.errors.filterMap SemanticError.undeclaredName
  redeclared := analyser.errors.filterMap SemanticError.redeclaredName

@[simp] theorem ledger_declare (name : String) (type : Option TypeName) (analyser : Analyser) :
    (analyser.declare name type).ledger = analyser.ledger.declare name := by
  unfold declare Ledger.declare
  by_cases known : name ∈ analyser.ledger.names
  · rw [if_pos ((Table.contains_iff _ _).2 known), if_pos known]
    simp [ledger, report, SemanticError.undeclaredName, SemanticError.redeclaredName]
  · rw [if_neg (mt (Table.contains_iff _ _).1 known), if_neg known]
    simp [ledger, Table.add, Table.names]

@[simp] theorem ledger_use (name : String) (analyser : Analyser) :
    (analyser.use name).ledger = analyser.ledger.use name := by
  unfold use Ledger.use
  by_cases known : name ∈ analyser.ledger.names
  · rw [if_pos ((Table.contains_iff _ _).2 known), if_pos known]
  · rw [if_neg (mt (Table.contains_iff _ _).1 known), if_neg known]
    simp [ledger, report, SemanticError.undeclaredName, SemanticError.redeclaredName]

@[simp] theorem ledger_assign (name : String) (type : Option TypeName) (analyser : Analyser) :
    (analyser.assign name type).ledger = analyser.ledger := by
  unfold assign
  split
  · rfl
  · split
    · rfl
    · split
      · simp [ledger, report, SemanticError.undeclaredName, SemanticError.redeclaredName]
      · split
        · rfl
        · simp [ledger, report, SemanticError.undeclaredName, SemanticError.redeclaredName]

end Analyser

/-! ## The scan -/

structure Scan where
  ledger : Ledger := {}
  /-- Whether the token before was the word for a type. -/
  afterWord : Bool := false
  /-- Names declared since the last semicolon. -/
  pending : List String := []
  deriving DecidableEq, Repr

namespace Scan

def step (scan : Scan) (token : Token) : Scan :=
  if token.kind.isTypeWord then { scan with afterWord := true }
  else if token.kind = .identifier then
    if scan.afterWord then
      { scan with afterWord := false, pending := scan.pending ++ [token.lexeme] }
    else { scan with ledger := scan.ledger.use token.lexeme }
  else if token.kind = .semicolon then
    { ledger := scan.ledger.declareAll scan.pending }
  else { scan with afterWord := false }

theorem step_word {token : Token} (scan : Scan) (word : token.kind.isTypeWord = true) :
    scan.step token = { scan with afterWord := true } := by
  simp only [step, word, if_true]

theorem step_semicolon {token : Token} (scan : Scan) (semicolon : token.kind = .semicolon) :
    scan.step token = { ledger := scan.ledger.declareAll scan.pending } := by
  simp [step, semicolon, Kind.isTypeWord]

def run (tokens : List Token) (scan : Scan) : Scan := tokens.foldl step scan

@[simp] theorem run_nil (scan : Scan) : scan.run [] = scan := rfl

@[simp] theorem run_cons (token : Token) (tokens : List Token) (scan : Scan) :
    scan.run (token :: tokens) = (scan.step token).run tokens := rfl

@[simp] theorem run_append (first rest : List Token) (scan : Scan) :
    scan.run (first ++ rest) = (scan.run first).run rest := by
  simp only [run, List.foldl_append]

end Scan

/-! ## Places

The same by the places of the tokens.
-/

namespace Places

variable (tokens : List Token)

def wordAt (index : Nat) : Bool := tokens[index]?.any (·.kind.isTypeWord)

def semicolonAt (index : Nat) : Bool := tokens[index]?.any (·.kind == .semicolon)

def nameAt (index : Nat) : Option String :=
  (tokens[index]?.filter (·.kind == .identifier)).map Token.lexeme

def afterWordAt : Nat → Bool
  | 0 => false
  | index + 1 => wordAt tokens index

def declaredAt (index : Nat) : Option String :=
  if afterWordAt tokens index then nameAt tokens index else none

def usedAt (index : Nat) : Option String :=
  if afterWordAt tokens index then none else nameAt tokens index

/-- A declaration of the name stands before the place. -/
def DeclaredBefore (name : String) (index : Nat) : Prop :=
  ∃ earlier < index, declaredAt tokens earlier = some name

/-- A declaration of the name and a semicolon after it stand before the place. -/
def SettledBefore (name : String) (index : Nat) : Prop :=
  ∃ closing < index, semicolonAt tokens closing = true ∧
    ∃ word < closing, wordAt tokens word = true ∧ nameAt tokens (word + 1) = some name

instance (name : String) (index : Nat) : Decidable (DeclaredBefore tokens name index) :=
  inferInstanceAs (Decidable (∃ earlier < index, _))

instance (name : String) (index : Nat) : Decidable (SettledBefore tokens name index) :=
  inferInstanceAs (Decidable (∃ closing < index, _))

def firstDeclarations (count : Nat) : List String :=
  (List.range count).filterMap fun index =>
    (declaredAt tokens index).filter fun name => ¬ DeclaredBefore tokens name index

def laterDeclarations (count : Nat) : List String :=
  (List.range count).filterMap fun index =>
    (declaredAt tokens index).filter fun name => DeclaredBefore tokens name index

/-- The names among the first tokens that are used too early. -/
def earlyUses (count : Nat) : List String :=
  (List.range count).filterMap fun index =>
    (usedAt tokens index).filter fun name => ¬ SettledBefore tokens name index

section
variable {tokens}

theorem declaredBefore_succ {name : String} {index : Nat} :
    DeclaredBefore tokens name (index + 1) ↔
      DeclaredBefore tokens name index ∨ declaredAt tokens index = some name := by
  constructor
  · rintro ⟨earlier, bound, declared⟩
    rcases Nat.lt_succ_iff_lt_or_eq.1 bound with before | rfl
    · exact Or.inl ⟨earlier, before, declared⟩
    · exact Or.inr declared
  · rintro (⟨earlier, bound, declared⟩ | declared)
    · exact ⟨earlier, Nat.lt_succ_of_lt bound, declared⟩
    · exact ⟨index, Nat.lt_succ_self index, declared⟩

theorem declaredAt_eq_some {name : String} {index : Nat} :
    declaredAt tokens index = some name ↔
      ∃ word, index = word + 1 ∧ wordAt tokens word = true ∧ nameAt tokens index = some name := by
  cases index with
  | zero => simp [declaredAt, afterWordAt]
  | succ word =>
    unfold declaredAt afterWordAt
    split <;> simp_all

/-- A semicolon is no name, so that the name of a declaration stands before it. -/
theorem settledBefore_iff {name : String} {index : Nat} :
    SettledBefore tokens name index ↔
      ∃ closing < index, semicolonAt tokens closing = true ∧
        DeclaredBefore tokens name closing := by
  constructor
  · rintro ⟨closing, bound, semicolon, word, before, isWord, named⟩
    refine ⟨closing, bound, semicolon, word + 1, ?_,
      declaredAt_eq_some.2 ⟨word, rfl, isWord, named⟩⟩
    rcases Nat.lt_or_eq_of_le (Nat.succ_le_of_lt before) with less | same
    · exact less
    · exfalso
      subst same
      cases found : tokens[word + 1]? with
      | none => simp [nameAt, found] at named
      | some token =>
        have isSemicolon : token.kind = .semicolon := by simpa [semicolonAt, found] using semicolon
        simp [nameAt, found, isSemicolon] at named
  · rintro ⟨closing, bound, semicolon, earlier, before, declared⟩
    obtain ⟨word, rfl, isWord, named⟩ := declaredAt_eq_some.1 declared
    exact ⟨closing, bound, semicolon, word, Nat.lt_of_succ_lt before, isWord, named⟩

theorem settledBefore_succ {name : String} {index : Nat} :
    SettledBefore tokens name (index + 1) ↔ SettledBefore tokens name index ∨
      semicolonAt tokens index = true ∧ DeclaredBefore tokens name index := by
  simp only [settledBefore_iff]
  constructor
  · rintro ⟨closing, bound, settled⟩
    rcases Nat.lt_succ_iff_lt_or_eq.1 bound with before | rfl
    · exact Or.inl ⟨closing, before, settled⟩
    · exact Or.inr settled
  · rintro (⟨closing, bound, settled⟩ | settled)
    · exact ⟨closing, Nat.lt_succ_of_lt bound, settled⟩
    · exact ⟨index, Nat.lt_succ_self index, settled⟩

theorem SettledBefore.declared {name : String} {index : Nat}
    (settled : SettledBefore tokens name index) :
    DeclaredBefore tokens name index := by
  obtain ⟨closing, bound, -, earlier, before, declared⟩ := settledBefore_iff.1 settled
  exact ⟨earlier, before.trans bound, declared⟩

theorem firstDeclarations_succ (count : Nat) :
    firstDeclarations tokens (count + 1) = firstDeclarations tokens count ++
      ((declaredAt tokens count).filter fun name => ¬ DeclaredBefore tokens name count).toList := by
  simp only [firstDeclarations, List.range_succ, List.filterMap_append, List.filterMap_cons,
    List.filterMap_nil]
  cases Option.filter _ (declaredAt tokens count) <;> rfl

theorem laterDeclarations_succ (count : Nat) :
    laterDeclarations tokens (count + 1) = laterDeclarations tokens count ++
      ((declaredAt tokens count).filter fun name => DeclaredBefore tokens name count).toList := by
  simp only [laterDeclarations, List.range_succ, List.filterMap_append, List.filterMap_cons,
    List.filterMap_nil]
  cases Option.filter _ (declaredAt tokens count) <;> rfl

theorem earlyUses_succ (count : Nat) :
    earlyUses tokens (count + 1) = earlyUses tokens count ++
      ((usedAt tokens count).filter fun name => ¬ SettledBefore tokens name count).toList := by
  simp only [earlyUses, List.range_succ, List.filterMap_append, List.filterMap_cons,
    List.filterMap_nil]
  cases Option.filter _ (usedAt tokens count) <;> rfl

theorem mem_firstDeclarations {name : String} {count : Nat} :
    name ∈ firstDeclarations tokens count ↔ DeclaredBefore tokens name count := by
  induction count with
  | zero => simp [firstDeclarations, DeclaredBefore]
  | succ count ih =>
    rw [firstDeclarations_succ, List.mem_append, ih, declaredBefore_succ]
    simp only [Option.mem_toList, Option.filter_eq_some_iff, decide_eq_true_eq]
    tauto

end

/-- What a scan has found after the first tokens. The names still pending count as declared for
later declarations, but not for uses. -/
structure Found (count : Nat) (scan : Scan) : Prop where
  afterWord : scan.afterWord = afterWordAt tokens count
  names : (scan.ledger.declareAll scan.pending).names = firstDeclarations tokens count
  redeclared : (scan.ledger.declareAll scan.pending).redeclared = laterDeclarations tokens count
  undeclared : scan.ledger.undeclared = earlyUses tokens count
  settled : ∀ name, name ∈ scan.ledger.names ↔ SettledBefore tokens name count

namespace Found

variable {tokens} {count : Nat} {scan : Scan} {token : Token}

theorem pass (found : Found tokens count scan) (here : tokens[count]? = some token)
    (notName : token.kind ≠ .identifier) (notSemicolon : token.kind ≠ .semicolon) :
    Found tokens (count + 1) { scan with afterWord := token.kind.isTypeWord } where
  afterWord := by simp [afterWordAt, wordAt, here]
  names := by simp [firstDeclarations_succ, declaredAt, nameAt, here, notName, found.names]
  redeclared := by
    simp [laterDeclarations_succ, declaredAt, nameAt, here, notName, found.redeclared]
  undeclared := by simp [earlyUses_succ, usedAt, nameAt, here, notName, found.undeclared]
  settled := by simp [settledBefore_succ, semicolonAt, here, notSemicolon, found.settled]

theorem declaration (found : Found tokens count scan) (here : tokens[count]? = some token)
    (isName : token.kind = .identifier) (after : scan.afterWord = true) :
    Found tokens (count + 1)
      { scan with afterWord := false, pending := scan.pending ++ [token.lexeme] } := by
  have declared : declaredAt tokens count = some token.lexeme := by
    simp [declaredAt, ← found.afterWord, after, nameAt, here, isName]
  have unused : usedAt tokens count = none := by simp [usedAt, ← found.afterWord, after]
  have known : token.lexeme ∈ (scan.ledger.declareAll scan.pending).names ↔
      DeclaredBefore tokens token.lexeme count := by rw [found.names, mem_firstDeclarations]
  refine ⟨?_, ?_, ?_, ?_, ?_⟩
  · simp [afterWordAt, wordAt, here, isName, Kind.isTypeWord]
  · rw [Ledger.declareAll_concat, firstDeclarations_succ, declared, Ledger.declare]
    by_cases again : DeclaredBefore tokens token.lexeme count
    · rw [if_pos (known.2 again)]
      simp [Option.filter, again, found.names]
    · rw [if_neg (mt known.1 again)]
      simp [Option.filter, again, found.names]
  · rw [Ledger.declareAll_concat, laterDeclarations_succ, declared, Ledger.declare]
    by_cases again : DeclaredBefore tokens token.lexeme count
    · rw [if_pos (known.2 again)]
      simp [Option.filter, again, found.redeclared]
    · rw [if_neg (mt known.1 again)]
      simp [Option.filter, again, found.redeclared]
  · simp [earlyUses_succ, unused, found.undeclared]
  · simp [settledBefore_succ, semicolonAt, here, isName, found.settled]

theorem usage (found : Found tokens count scan) (here : tokens[count]? = some token)
    (isName : token.kind = .identifier) (after : scan.afterWord = false) :
    Found tokens (count + 1) { scan with ledger := scan.ledger.use token.lexeme } := by
  have undeclared : declaredAt tokens count = none := by simp [declaredAt, ← found.afterWord, after]
  have used : usedAt tokens count = some token.lexeme := by
    simp [usedAt, ← found.afterWord, after, nameAt, here, isName]
  obtain ⟨sameNames, sameRedeclared⟩ := scan.ledger.declareAll_use scan.pending token.lexeme
  refine ⟨?_, ?_, ?_, ?_, ?_⟩
  · simp [afterWordAt, wordAt, here, isName, Kind.isTypeWord, after]
  · simp [sameNames, firstDeclarations_succ, undeclared, found.names]
  · simp [sameRedeclared, laterDeclarations_succ, undeclared, found.redeclared]
  · rw [earlyUses_succ, used, Ledger.use]
    by_cases settled : SettledBefore tokens token.lexeme count
    · rw [if_pos ((found.settled _).2 settled)]
      simp [Option.filter, settled, found.undeclared]
    · rw [if_neg (mt (found.settled _).1 settled)]
      simp [Option.filter, settled, found.undeclared]
  · simp [settledBefore_succ, semicolonAt, here, isName, found.settled]

theorem semicolon (found : Found tokens count scan) (here : tokens[count]? = some token)
    (isSemicolon : token.kind = .semicolon) :
    Found tokens (count + 1) { ledger := scan.ledger.declareAll scan.pending } where
  afterWord := by simp [afterWordAt, wordAt, here, isSemicolon, Kind.isTypeWord]
  names := by simp [firstDeclarations_succ, declaredAt, nameAt, here, isSemicolon, found.names]
  redeclared := by
    simp [laterDeclarations_succ, declaredAt, nameAt, here, isSemicolon, found.redeclared]
  undeclared := by simp [earlyUses_succ, usedAt, nameAt, here, isSemicolon, found.undeclared]
  settled := by
    intro name
    rw [settledBefore_succ, found.names, mem_firstDeclarations]
    have closing : semicolonAt tokens count = true := by simp [semicolonAt, here, isSemicolon]
    simp only [closing, true_and]
    exact ⟨Or.inr, fun either => either.elim SettledBefore.declared id⟩

theorem step (found : Found tokens count scan) (here : tokens[count]? = some token) :
    Found tokens (count + 1) (scan.step token) := by
  unfold Scan.step
  split
  · next isWord =>
    have passed := found.pass here (by rintro kind; simp [kind, Kind.isTypeWord] at isWord)
      (by rintro kind; simp [kind, Kind.isTypeWord] at isWord)
    rwa [isWord] at passed
  · next notWord =>
    split
    · next isName =>
      split
      · next after => exact found.declaration here isName after
      · next before => exact found.usage here isName (by simpa using before)
    · next notName =>
      split
      · next isSemicolon => exact found.semicolon here isSemicolon
      · next notSemicolon =>
        have passed := found.pass here notName notSemicolon
        rwa [Bool.eq_false_iff.2 notWord] at passed

theorem run (tokens : List Token) {count : Nat} (bound : count ≤ tokens.length) :
    Found tokens count (Scan.run (tokens.take count) {}) := by
  induction count with
  | zero =>
    refine ⟨rfl, rfl, rfl, rfl, ?_⟩
    simp [SettledBefore]
  | succ count ih =>
    have here : tokens[count]? = some tokens[count] := List.getElem?_eq_getElem bound
    rw [List.take_add_one, here, Scan.run_append]
    exact (ih (Nat.le_of_succ_le bound)).step here

end Found

/-- Once no name waits for its semicolon, the ledger of a scan is told by the places. -/
theorem ledger_of_scan (tokens : List Token) {ledger : Ledger}
    (scanned : Scan.run tokens {} = { ledger := ledger }) :
    ledger = ⟨firstDeclarations tokens tokens.length, earlyUses tokens tokens.length,
      laterDeclarations tokens tokens.length⟩ := by
  have found := Found.run tokens (Nat.le_refl _)
  rw [List.take_length, scanned] at found
  obtain ⟨names, undeclared, redeclared⟩ := ledger
  obtain ⟨-, sameNames, sameRedeclared, sameUndeclared, -⟩ := found
  simp only [Ledger.declareAll_nil] at sameNames sameRedeclared sameUndeclared
  rw [sameNames, sameRedeclared, sameUndeclared]

end Places

end Workbench
