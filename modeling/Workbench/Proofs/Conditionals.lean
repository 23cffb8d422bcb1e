import Workbench.Proofs.Adjacency

/-! Programs over integers, and what becomes of their conditionals.

A program of integers has a meaning of its own, with exact integers in the place of texts. It is met
line by line: a comparison is never looked at, and the blocks of a conditional are run one after the
other.
-/

set_option autoImplicit false

namespace Workbench.Program

open Arithmetic

/-- Integer variables, and what has been printed. -/
structure Tally where
  values : Table Int := {}
  output : List String := []

namespace Tally

def valueOf (tally : Tally) (chars : List Char) : Int :=
  (tally.values.get? (String.ofList chars)).getD 0

def isShort (n : Int) : Bool := n.natAbs < Number.tenTo Formula.digitLimit

def begin (name : Name) (tally : Tally) : Tally :=
  { tally with values := tally.values.put name.string 0 }

/-- All variables are written out whenever something is evaluated. -/
def assign (name : Name) (value : Expression) (tally : Tally) : Except RunError Tally :=
  if tally.values.entries.all fun entry => isShort entry.2 then
    pure { tally with values := tally.values.put name.string (value.value tally.valueOf) }
  else throw .tooLong

def report (name : Name) (tally : Tally) : Except RunError Tally :=
  match tally.values.get? name.string with
  | none => throw (.undefinedVariable name.string)
  | some n =>
    if isShort n then
      pure { tally with output := tally.output ++ [Store.line name.string (toString n)] }
    else throw .tooLong

def exec (tally : Tally) : Simple → Except RunError Tally
  | .declared _ _ name => pure (tally.begin name)
  | .initialized _ _ name _ _ value => (tally.begin name).assign name value
  | .assigned name _ _ value => tally.assign name value
  | .printed name => tally.report name

def store (tally : Tally) : Store where
  symbols := tally.values.map .int
  output := tally.output

theorem intOf_store (tally : Tally) : tally.store.intOf = tally.valueOf := by
  funext chars
  rw [Store.intOf, store, Table.get?_map, valueOf]
  cases tally.values.get? (String.ofList chars) <;> rfl

theorem text?_int (n : Int) :
    (Number.int n).text? = if isShort n then some (toString n) else none := by
  simp only [Number.text?, isShort, decide_eq_true_eq]
  split
  · rw [if_neg (by omega)]
  · rw [if_pos (by omega)]

theorem short_store_iff (tally : Tally) :
    tally.store.Short ↔ (tally.values.entries.all fun entry => isShort entry.2) = true := by
  simp only [Store.Short, store, Table.map, List.forall_mem_map, List.all_eq_true, text?_int]
  refine forall₂_congr fun entry _ => ?_
  split <;> simp_all

end Tally

def Simple.isIntegral (simple : Simple) : Bool :=
  simple.type? != some .float && simple.value?.all fun value =>
    value.isWhole && value.fits .standard

theorem Simple.int_of_isIntegral {simple : Simple} (integral : simple.isIntegral = true)
    {type : TypeWord} (typed : simple.type? = some type) : type = .int := by
  cases type with
  | int => rfl
  | float =>
    rw [Simple.isIntegral, typed] at integral
    cases integral

theorem Simple.whole_of_isIntegral {simple : Simple} (integral : simple.isIntegral = true)
    {value : Expression}
    (valued : simple.value? = some value) : value.isWhole = true ∧ value.fits .standard = true := by
  have both := (Option.all_eq_true ..).1 (Bool.and_eq_true_iff.1 integral).2 value valued
  exact Bool.and_eq_true_iff.1 both

section
variable {names : List Name} {declared : List String} {tally : Tally}

theorem Bounded.named_store (bounded : Bounded names declared tally.values.names) :
    Named tally.store.symbols.entries := by
  have named := bounded.named
  rw [← tally.values.names_map Number.int] at named
  exact List.forall_mem_map.1 named

theorem set_store (bounded : Bounded names declared tally.values.names) (apart : Apart names)
    {value : Expression}
    (whole : value.isWhole = true) (fits : value.fits .standard = true)
    (inside : ∀ name ∈ value.names, name ∈ names)
    (known : ∀ name ∈ value.names, name.string ∈ declared) (name : Name) (records : List Record) :
    tally.store.set .standard records name.chars (value.text id) =
      (tally.assign name value).map Tally.store := by
  have named := bounded.named_store
  by_cases short : tally.store.Short
  · have clear : value.Clear tally.store.symbols.names := by
      rw [Tally.store, Table.names_map]
      exact bounded.clear apart inside
    have held : ∀ name ∈ value.names, ∃ n, tally.store.symbols.get? name.string =
        some (.int n) := by
      intro name member
      have listed := bounded.covers name.string (known name member)
      obtain ⟨n, found⟩ :=
        Option.isSome_iff_exists.1 ((tally.values.get?_isSome_iff name.string).2 listed)
      exact ⟨n, by rw [Tally.store, Table.get?_map, found]; rfl⟩
    rw [Store.set, Evaluator.standard, Store.evaluate_whole fits whole named short clear held,
      tally.intOf_store, Tally.assign, if_pos (tally.short_store_iff.1 short)]
    simp only [bind, Except.bind, pure, Except.pure, Except.map, Tally.store, Table.map_put]
    rfl
  · rw [Store.set, Store.evaluate_long .standard records named short, Tally.assign,
      if_neg (mt tally.short_store_iff.2 short)]
    rfl

theorem report_store (name : Name) :
    tally.store.report name.chars = (tally.report name).map Tally.store := by
  rw [Store.report, Tally.report, ← Name.string, Tally.store, Table.get?_map]
  cases tally.values.get? name.string with
  | none => rfl
  | some n =>
    simp only [Option.map_some, Store.textOf, Tally.text?_int]
    split <;> rfl

theorem begin_store (name : Name) :
    tally.store.begin TypeWord.int.chars name.chars = (tally.begin name).store := by
  rw [Store.begin, Tally.begin, Tally.store, Tally.store, Table.map_put]
  rfl

theorem exec_store (bounded : Bounded names declared tally.values.names) (apart : Apart names)
    {simple : Simple}
    (integral : simple.isIntegral = true) (inside : ∀ name ∈ simple.names, name ∈ names)
    (known : ∀ name ∈ simple.uses, name.string ∈ declared) (records : List Record) :
    simple.exec records tally.store = (tally.exec simple).map Tally.store := by
  obtain ⟨subject, operands⟩ := List.forall_mem_cons.1 inside
  cases simple with
  | declared type space name =>
    obtain rfl : type = .int := Simple.int_of_isIntegral integral rfl
    exact congrArg Except.ok (begin_store name)
  | initialized type space name before after value =>
    obtain rfl : type = .int := Simple.int_of_isIntegral integral rfl
    obtain ⟨whole, fits⟩ := Simple.whole_of_isIntegral integral rfl
    rw [Simple.exec, Simple.line, Line.exec, begin_store name]
    exact set_store (bounded.put subject 0) apart whole fits operands
      (fun name member => List.mem_cons_of_mem _ (known name member)) name records
  | assigned name before after value =>
    obtain ⟨whole, fits⟩ := Simple.whole_of_isIntegral integral rfl
    exact set_store bounded apart whole fits operands (fun name member =>
      known name (List.mem_cons_of_mem _ member)) name
      records
  | printed name => exact report_store name

theorem Tally.assign_values {name : Name} {value : Expression} {next : Tally}
    (assigned : tally.assign name value = .ok next) :
    ∃ n, next.values = tally.values.put name.string n := by
  unfold Tally.assign at assigned
  split at assigned
  · obtain rfl := Except.ok.inj assigned
    exact ⟨_, rfl⟩
  · cases assigned

theorem Tally.report_values {name : Name} {next : Tally} (reported : tally.report name = .ok next) :
    next.values = tally.values := by
  unfold Tally.report at reported
  split at reported
  · cases reported
  · split at reported
    · obtain rfl := Except.ok.inj reported
      rfl
    · cases reported

/-- Each step keeps the variables within the names of the program. -/
theorem Bounded.exec (bounded : Bounded names declared tally.values.names) {simple : Simple}
    (inside : simple.subject ∈ names)
    (known : ∀ name ∈ simple.uses, name.string ∈ declared) {next : Tally}
    (stepped : tally.exec simple = .ok next) :
    Bounded names (simple.subject.string :: declared) next.values.names := by
  cases simple with
  | declared type space name =>
    obtain rfl := Except.ok.inj stepped
    exact bounded.put inside 0
  | initialized type space name before after value =>
    obtain ⟨n, values⟩ := Tally.assign_values stepped
    rw [values]
    have again := (bounded.put inside 0).put inside n
    exact ⟨again.within, fun key listed => again.covers key (List.mem_cons_of_mem _ listed)⟩
  | assigned name before after value =>
    obtain ⟨n, values⟩ := Tally.assign_values stepped
    rw [values]
    exact bounded.put inside n
  | printed name =>
    rw [Tally.report_values stepped]
    exact bounded.keep (known name (List.mem_singleton_self name))

end

theorem run_store {names : List Name} (apart : Apart names) (records : List Record)
    (simples : List Simple) (integral : ∀ simple ∈ simples, simple.isIntegral = true)
    (inside : ∀ simple ∈ simples, ∀ name ∈ simple.names, name ∈ names) :
    ∀ (declared : List String) (tally : Tally), inScope declared simples = true →
      Bounded names declared tally.values.names →
      simples.foldlM (Simple.exec records) tally.store =
        (simples.foldlM Tally.exec tally).map Tally.store := by
  induction simples with
  | nil => exact fun _ _ _ _ => rfl
  | cons simple rest ih =>
    intro declared tally scope bounded
    obtain ⟨integral_first, integral⟩ := List.forall_mem_cons.1 integral
    obtain ⟨inside_first, inside⟩ := List.forall_mem_cons.1 inside
    obtain ⟨known, scope⟩ := inScope_cons.1 scope
    rw [List.foldlM_cons, exec_store bounded apart integral_first inside_first known records,
      List.foldlM_cons]
    cases stepped : tally.exec simple with
    | error error => rfl
    | ok next =>
      exact ih integral inside _ next scope
        (bounded.exec (inside_first _ (List.mem_cons_self ..)) known stepped)

/-! ## Conditionals -/

section
variable {σ : Type} (exec : σ → Simple → Except RunError σ)

mutual

def Statement.run : Statement → σ → Except RunError σ
  | .simple simple, state => exec state simple
  | .whenever _ body, state => body.run state
  | .either _ body _ _ other, state => do other.run (← body.run state)

def Block.run : Block → σ → Except RunError σ
  | .done, state => pure state
  | .more first rest, state => do rest.run (← first.run state)

end

mutual

theorem Statement.run_eq (statement : Statement) (state : σ) :
    statement.run exec state = statement.simples.foldlM exec state := by
  cases statement with
  | simple simple => exact (bind_pure _).symm
  | whenever test body => exact body.run_eq state
  | either test body before after other =>
    rw [Statement.run, Statement.simples, List.foldlM_append, body.run_eq state]
    exact congrArg _ (funext fun state => other.run_eq state)

theorem Block.run_eq (block : Block) (state : σ) :
    block.run exec state = block.simples.foldlM exec state := by
  cases block with
  | done => rfl
  | more first rest =>
    rw [Block.run, Block.simples, List.foldlM_append, first.run_eq state]
    exact congrArg _ (funext fun state => rest.run_eq state)

end

end

mutual

theorem Statement.names_of_simples (statement : Statement) :
    ∀ simple ∈ statement.simples, ∀ name ∈ simple.names, name ∈ statement.names := by
  cases statement with
  | simple simple => exact List.forall_mem_singleton.2 fun name member => member
  | whenever test body =>
    exact fun simple listed name member =>
      List.mem_append_right _ (body.names_of_simples simple listed name member)
  | either test body before after other =>
    refine List.forall_mem_append.2 ⟨fun simple listed name member => ?_,
      fun simple listed name member => ?_⟩
    · exact List.mem_append_right
        _ (List.mem_append_left _ (body.names_of_simples simple listed name member))
    · exact List.mem_append_right
        _ (List.mem_append_right _ (other.names_of_simples simple listed name member))

theorem Block.names_of_simples (block : Block) :
    ∀ simple ∈ block.simples, ∀ name ∈ simple.names, name ∈ block.names := by
  cases block with
  | done => exact List.forall_mem_nil _
  | more first rest =>
    refine List.forall_mem_append.2 ⟨fun simple listed name member => ?_,
      fun simple listed name member => ?_⟩
    · exact List.mem_append_left _ (first.names_of_simples simple listed name member)
    · exact List.mem_append_right _ (rest.names_of_simples simple listed name member)

end

/-- A conditional selects nothing: the statements of both its blocks run whatever its condition, in
the order of their lines. Over integers each of them does what it means. -/
theorem conditionals_run_both_blocks (source : String) (program : Block)
    (laid : Laid source program.lines) :
    interpret source = program.run (Simple.exec (Record.ofSource source)) {} ∧
      (Accepted source → Apart program.names →
        (∀ simple ∈ program.simples, simple.isIntegral = true) →
        interpret source = (program.run Tally.exec {}).map Tally.store) := by
  have flat := interpret_laid laid
  refine ⟨by rw [flat, program.run_eq], fun accepted apart integral => ?_⟩
  have nothing : Bounded program.names [] [] := ⟨List.forall_mem_nil _, List.forall_mem_nil _⟩
  rw [flat, program.run_eq]
  exact run_store apart _ program.simples integral program.names_of_simples [] {}
    (inScope_of_accepted laid accepted) nothing

theorem conditionals_run_both_blocks_else :
    let a : Name := ⟨['a'], rfl⟩
    let number (digits : List Char) (well : isInteger digits = true) : Expression :=
      ⟨.number (.integer digits well) .empty, .done⟩
    let test : Test :=
      ⟨⟨.name a .space, .done⟩, .less, number ['0'] rfl, .space, .empty, .space, .space⟩
    let first : Simple := .initialized .int ⟨.space, by decide⟩ a .space .space (number ['1'] rfl)
    let second : Simple := .assigned a .space .space (number ['2'] rfl)
    let program : Block := .more (.simple first)
      (.more
        (.either test (.more (.simple (.printed a)) .done) .space .space
          (.more (.simple second) .done))
        (.more (.simple (.printed a)) .done))
    let source :=
      "int a = 1;\nif (a < 0) \x7b\n  print(a);\n\x7d else \x7b\n  a = 2;\n\x7d\nprint(a);"
    Laid source program.lines ∧ Accepted source ∧
      (interpret source).map Store.result = .ok "a = 1\na = 2" := by
  intro a number test first second program source
  have laid : Laid source program.lines := by decide +kernel
  have accepted : Accepted source := by decide +kernel
  refine ⟨laid, accepted, ?_⟩
  have run :=
    (conditionals_run_both_blocks source program laid).2 accepted (by decide +kernel)
      (by decide +kernel)
  rw [run]
  decide +kernel

/-! ## Selection -/

def Comparison.holds : Comparison → Int → Int → Bool
  | less, left, right => left < right
  | greater, left, right => left > right
  | equal, left, right => left == right

def Test.holds (test : Test) (tally : Tally) : Bool :=
  test.comparison.holds (test.left.value tally.valueOf) (test.right.value tally.valueOf)

mutual

/-- One block of a conditional only, as its condition tells. -/
def Statement.select : Statement → Tally → Except RunError Tally
  | .simple simple, tally => tally.exec simple
  | .whenever test body, tally => if test.holds tally then body.select tally else pure tally
  | .either test body _ _ other, tally =>
    if test.holds tally then body.select tally else other.select tally

def Block.select : Block → Tally → Except RunError Tally
  | .done, tally => pure tally
  | .more first rest, tally => do rest.select (← first.select tally)

end

/-- The block runs although its condition does not hold. -/
theorem conditionals_select_nothing :
    let a : Name := ⟨['a'], rfl⟩
    let number (digits : List Char) (well : isInteger digits = true) : Expression :=
      ⟨.number (.integer digits well) .empty, .done⟩
    let test : Test :=
      ⟨⟨.name a .space, .done⟩, .less, number ['0'] rfl, .space, .empty, .space, .space⟩
    let first : Simple := .initialized .int ⟨.space, by decide⟩ a .space .space (number ['1'] rfl)
    let program : Block :=
      .more (.simple first) (.more (.whenever test (.more (.simple (.printed a)) .done)) .done)
    let source := "int a = 1;\nif (a < 0) \x7b\nprint(a);\n\x7d"
    Laid source program.lines ∧ Accepted source ∧ Apart program.names ∧
      (∀ simple ∈ program.simples, simple.isIntegral = true) ∧
      (program.select {}).map (fun tally => tally.store.result) = .ok "" ∧
      (interpret source).map Store.result = .ok "a = 1" := by
  intro a number test first program source
  decide +kernel

end Workbench.Program
