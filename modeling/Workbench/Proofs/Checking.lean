import Mathlib.Logic.Relation
import Workbench.Proofs.Soundness

/-! What reading does to the analyser, whatever is read.

The analyser takes three kinds of steps only: a name is used, a name is declared, and an assignment
to a name that was used before is recorded and checked. Every invariant of a run follows from these,
whether the run finds faults or halts. The recorded assignments are gone through once more when the
program has been read.
-/

set_option autoImplicit false

namespace Workbench

/-- At most one of the two types that variables have. -/
def TypeName.Plain (type : Option TypeName) : Prop :=
  ∀ found, type = some found → found = .int ∨ found = .float

def Table.clash (symbols : Table (Option TypeName)) (name : String) (found : Option TypeName) :
    Option SemanticError :=
  match symbols.typeOf name with
  | none => none
  | some declared =>
    if some declared = found then none
    else if declared = .int ∧ found = some .float then some (.narrowing name)
    else if declared = .float ∧ found = some .int then none
    else some (.mismatch name declared found)

def Entry.clash (symbols : Table (Option TypeName)) (entry : Entry) : Option SemanticError :=
  entry.name.bind fun name => entry.assigned.bind (symbols.clash name)

@[simp] theorem Entry.clash_assignment (symbols : Table (Option TypeName)) (name : String)
    (found : Option TypeName) :
    (Entry.assignment name found).clash symbols = symbols.clash name found := rfl

def SemanticError.isClash : SemanticError → Bool
  | .narrowing .. | .mismatch .. => true
  | .redeclared _ | .undeclared _ | .unexpected .. | .remark _ => false

theorem Table.isClash_clash {symbols : Table (Option TypeName)} {name : String}
    {found : Option TypeName}
    {error : SemanticError} (clash : symbols.clash name found = some error) :
    error.isClash = true := by
  unfold Table.clash at clash
  repeat' split at clash
  all_goals first | cases clash; rfl | cases clash

namespace Analyser

def enter (name : String) (type : Option TypeName) (analyser : Analyser) : Analyser :=
  assign name type { analyser with entries := analyser.entries ++ [.assignment name type] }

/-- A use of the name has been seen to. -/
def Known (name : String) (analyser : Analyser) : Prop :=
  analyser.symbols.contains name = true ∨ .undeclared name ∈ analyser.errors

/-- What reading can do to the analyser at once. -/
inductive Step (start : Analyser) : Analyser → Prop where
  | use (name : String) : Step start (start.use name)
  | declare (name : String) {type : Option TypeName} : TypeName.Plain type → Step start (start.declare name type)
  | enter {name : String} {type : Option TypeName} : TypeName.Plain type → start.Known name →
      Step start (start.enter name type)

abbrev Steps : Analyser → Analyser → Prop := Relation.ReflTransGen Step

theorem known_use (name : String) (analyser : Analyser) : (analyser.use name).Known name := by
  unfold use
  split
  · next declared => exact Or.inl declared
  · exact Or.inr (by simp [report])

theorem Known.useAll {name : String} {analyser : Analyser} (known : analyser.Known name)
    (tokens : List Token) :
    (analyser.useAll tokens).Known name := by
  induction tokens generalizing analyser with
  | nil => exact known
  | cons token rest ih =>
    rw [Analyser.useAll, List.foldl_cons]
    refine ih ?_
    split
    · unfold Analyser.use
      split
      · exact known
      · exact known.imp_right (List.mem_append_left _)
    · exact known

theorem steps_useAll (tokens : List Token) (analyser : Analyser) :
    Steps analyser (analyser.useAll tokens) := by
  induction tokens generalizing analyser with
  | nil => exact .refl
  | cons token rest ih =>
    rw [useAll, List.foldl_cons]
    split
    · exact .head (.use token.lexeme) (ih _)
    · exact ih _

theorem assign_eq {analyser : Analyser} (settled : Settled analyser.symbols.typeOf) (name : String)
    (found : Option TypeName) :
    analyser.assign name found =
      { analyser with
        errors := analyser.errors ++ (analyser.symbols.clash name found).toList } := by
  cases typed : analyser.symbols.typeOf name with
  | none =>
    have untyped : analyser.typeOf name = none := typed
    simp [assign, untyped, Table.clash, typed]
  | some declared =>
    have held : analyser.typeOf name = some declared := typed
    have given : TypeName.isGiven (some declared) = true := by
      rcases settled name declared typed with rfl | rfl <;> rfl
    simp only [assign, held, given, Table.clash, typed, Bool.not_true, Bool.false_or, beq_iff_eq,
      Bool.and_eq_true]
    split
    · simp
    · split
      · rfl
      · split
        · simp
        · rfl

theorem enter_eq {analyser : Analyser} (settled : Settled analyser.symbols.typeOf) (name : String)
    (found : Option TypeName) :
    analyser.enter name found =
      { symbols := analyser.symbols
        errors := analyser.errors ++ (analyser.symbols.clash name found).toList
        entries := analyser.entries ++ [.assignment name found] } := by
  have unchanged :
    Settled ({ analyser with entries := analyser.entries ++ [.assignment name found] } :
      Analyser).symbols.typeOf := settled
  exact assign_eq unchanged name found

/-! ## One step -/

/-- What holds of the analyser at any time. Unless a name was used too early, the assignments at
fault are those that do not fit the symbols there are now. -/
structure Tracked (analyser : Analyser) : Prop where
  settled : Settled analyser.symbols.typeOf
  entries : ∀ entry ∈ analyser.entries,
    ∃ name type, entry = .assignment name type ∧ TypeName.Plain type ∧ analyser.Known name
  errors : ∀ error ∈ analyser.errors,
    error.isClash = true ∨ error.undeclaredName.isSome = true ∨ error.redeclaredName.isSome = true
  clashes : analyser.errors.filterMap SemanticError.undeclaredName = [] →
    analyser.errors.filter SemanticError.isClash =
      analyser.entries.filterMap (Entry.clash analyser.symbols)

theorem Tracked.initial : Tracked {} where
  settled := fun _ _ typed => by cases typed
  entries := by simp
  errors := by simp
  clashes := fun _ => rfl

/-- A name that was seen to is declared if no name was used too early. -/
theorem Known.declared {name : String} {analyser : Analyser} (known : analyser.Known name)
    (early : analyser.errors.filterMap SemanticError.undeclaredName = []) :
    analyser.symbols.contains name = true := by
  rcases known with declared | reported
  · exact declared
  · have absent := List.filterMap_eq_nil_iff.1 early _ reported
    cases absent

theorem Tracked.report {analyser : Analyser} (tracked : Tracked analyser) {error : SemanticError}
    (naming : error.undeclaredName.isSome = true ∨ error.redeclaredName.isSome = true) :
    Tracked (analyser.report error) where
  settled := tracked.settled
  entries := by
    intro entry member
    obtain ⟨name, type, same, plain, known⟩ := tracked.entries entry member
    exact ⟨name, type, same, plain, known.imp_right (List.mem_append_left _)⟩
  errors := by
    intro other member
    rcases List.mem_append.1 member with before | last
    · exact tracked.errors other before
    · obtain rfl := List.mem_singleton.1 last
      exact Or.inr naming
  clashes := by
    intro early
    rw [Analyser.report, List.filterMap_append, List.append_eq_nil_iff] at early
    have plain : error.isClash = false := by cases error <;> simp_all [SemanticError.isClash,
      SemanticError.undeclaredName, SemanticError.redeclaredName]
    simpa [Analyser.report, plain] using tracked.clashes early.1

theorem clash_declare {symbols : Table (Option TypeName)} {name : String}
    (declared : symbols.contains name = true) (other : String) (type found : Option TypeName) :
    (symbols.declare other type).clash name found = symbols.clash name found := by
  obtain ⟨held, there⟩ := Option.isSome_iff_exists.1 declared
  have same : (symbols.declare other type).typeOf name = symbols.typeOf name := by
    rw [Table.typeOf, Table.get?_declare, there, Option.some_or, Table.typeOf, there]
  rw [Table.clash, same, Table.clash]

theorem Tracked.declare {analyser : Analyser} (tracked : Tracked analyser) (name : String)
    {type : Option TypeName}
    (plain : TypeName.Plain type) : Tracked (analyser.declare name type) := by
  have symbols := analyser.symbols_declare name type
  by_cases again : analyser.symbols.contains name = true
  · rw [Analyser.declare, if_pos again]
    exact tracked.report (Or.inr rfl)
  · have errors : (analyser.declare name type).errors = analyser.errors := by
      rw [Analyser.declare, if_neg again]
    have entries : (analyser.declare name type).entries = analyser.entries := by
      rw [Analyser.declare, if_neg again]
    have kept : ∀ {other : String}, analyser.symbols.contains other = true →
        (analyser.declare name type).symbols.contains other = true := by
      intro other declared
      rw [symbols, Table.contains, Table.get?_declare, Option.isSome_or]
      exact Bool.or_eq_true_iff.2 (Or.inl declared)
    constructor
    · exact symbols ▸ Table.settled_declare name tracked.settled plain
    · intro entry member
      obtain ⟨target, found, same, fits, known⟩ := tracked.entries entry (entries ▸ member)
      exact ⟨target, found, same, fits, known.imp kept (errors ▸ ·)⟩
    · exact errors ▸ tracked.errors
    · intro early
      rw [errors] at early
      rw [errors, entries, symbols, tracked.clashes early]
      -- Every entry was about a declared variable, and its type is not replaced.
      refine List.filterMap_congr fun entry member => ?_
      obtain ⟨target, found, rfl, -, known⟩ := tracked.entries entry member
      exact (clash_declare (known.declared early) name type found).symm

theorem Tracked.enter {analyser : Analyser} (tracked : Tracked analyser) {name : String}
    {type : Option TypeName}
    (plain : TypeName.Plain type) (known : analyser.Known name) :
    Tracked (analyser.enter name type) := by
  have clashing : ∀ error ∈ (analyser.symbols.clash name type).toList, error.isClash = true :=
    fun error member => Table.isClash_clash (Option.mem_toList.1 member)
  rw [enter_eq tracked.settled]
  refine ⟨tracked.settled, ?_, ?_, fun early => ?_⟩
  · intro entry member
    rcases List.mem_append.1 member with before | last
    · obtain ⟨target, found, same, fits, known⟩ := tracked.entries entry before
      exact ⟨target, found, same, fits, known.imp_right (List.mem_append_left _)⟩
    · exact ⟨name, type, List.mem_singleton.1 last, plain, known.imp_right (List.mem_append_left _)⟩
  · intro error member
    rcases List.mem_append.1 member with before | last
    · exact tracked.errors error before
    · exact Or.inl (clashing error last)
  · rw [List.filterMap_append, List.append_eq_nil_iff] at early
    rw [List.filter_append, List.filter_eq_self.2 clashing, tracked.clashes early.1,
      List.filterMap_append]
    cases clash : analyser.symbols.clash name type <;> simp [clash]

theorem Tracked.step {start next : Analyser} (tracked : Tracked start) (step : Step start next) :
    Tracked next := by
  cases step with
  | use name =>
    unfold use
    split
    · exact tracked
    · exact tracked.report (Or.inl rfl)
  | declare name plain => exact tracked.declare name plain
  | enter plain known => exact tracked.enter plain known

theorem Tracked.steps {start next : Analyser} (tracked : Tracked start) (steps : Steps start next) :
    Tracked next := by
  induction steps with
  | refl => exact tracked
  | tail _ step ih => exact ih.step step

end Analyser

/-! ## Every reader -/

namespace Syntax

open Analyser (Steps Step Tracked Known)

/-- What is transitive holds from before one reader to after the next, also if the first one gives
up. -/
theorem Ending.andThen_related {Related : State → State → Prop}
    (trans : ∀ start middle next, Related start middle → Related middle next → Related start next)
    {start : State} {first : Ending} {following : State → Ending} (left : Related start first.2)
    (right : Related first.2 (following first.2).2) :
    Related start (first.andThen following).2 := by
  obtain ⟨⟨halt⟩ | ⟨⟨⟩⟩, middle⟩ := first
  · exact left
  · exact trans _ _ _ left right

/-- From `start` to `next` the analyser takes steps only. -/
def Tracks (start next : State) : Prop :=
  Tracked start.analyser → Steps start.analyser next.analyser

namespace Tracks

variable {start middle next : State}

theorem trans (left : Tracks start middle) (right : Tracks middle next) : Tracks start next := by
  intro tracked
  have steps := left tracked
  exact steps.trans (right (tracked.steps steps))

theorem of_eq (same : next.analyser = start.analyser) : Tracks start next := fun _ => same ▸ .refl

theorem of_reads {Form : List Kind → Prop} (read : Reads Form start next) : Tracks start next := by
  obtain ⟨taken, consumed, -⟩ := read
  exact fun _ => consumed.analyser ▸ Analyser.steps_useAll taken start.analyser

theorem andThen {first : Ending} {following : State → Ending} (left : Tracks start first.2)
    (right : Tracks first.2 (following first.2).2) : Tracks start (first.andThen following).2 :=
  @Ending.andThen_related Tracks (fun _ _ _ => trans) start first following left right

theorem wrapped {reader : State → Ending} {ending : Ending} (read : Wrapped start reader ending)
    (inside : ∀ entered, Alike start entered → Tracks entered (reader entered).2) :
    Tracks start ending.2 := by
  obtain ⟨entered, leave, before, after, rfl⟩ := read
  have entering : Tracks start entered := .of_eq before.alike.analyser
  exact (entering.trans (inside entered before.alike)).andThen (.of_eq (after _).alike.analyser)

end Tracks

theorem plain_expression {state : State} (settled : Settled state.analyser.symbols.typeOf) :
    TypeName.Plain ((expression state).type.map TypeName.settle) := by
  obtain ⟨taken, -, type⟩ := expression_type settled
  rw [type]
  intro found typed
  split at typed
  · exact Or.inr (Option.some.inj typed).symm
  · exact settled.leadingType typed

theorem analyser_declarator {state : State} {name : Token}
    (named : state.meets .identifier = some name) :
    (declarator state).next.analyser = (initializer state.advance).next.analyser.declare name.lexeme
      ((initializer state.advance).type.map TypeName.settle) := by
  unfold declarator
  simp only [named]
  rfl

theorem initializer_tracks (state : State) : Tracks state (initializer state).next := by
  cases signed : state.meets .assign with
  | none =>
    rw [next_initializer_still signed]
    exact .of_eq rfl
  | some sign =>
    have advanced : Tracks state state.advance := .of_eq state.analyser_advance
    exact (advanced.trans (.of_reads (expression_reads _))).trans
      (.of_eq (next_initializer_step signed).analyser)

theorem plain_initializer {state : State} (settled : Settled state.analyser.symbols.typeOf) :
    TypeName.Plain ((initializer state).type.map TypeName.settle) := by
  cases signed : state.meets .assign with
  | none =>
    rw [type_initializer_still signed]
    intro found typed
    cases typed
  | some sign =>
    rw [type_initializer_step signed]
    exact plain_expression (by simpa using settled)

theorem declarator_tracks (state : State) : Tracks state (declarator state).next := by
  cases named : state.meets .identifier with
  | none =>
    rw [next_declarator_still named]
    exact .of_eq rfl
  | some name =>
    intro tracked
    have advanced : Tracks state state.advance := .of_eq state.analyser_advance
    have read := (advanced.trans (initializer_tracks _)) tracked
    have plain : TypeName.Plain ((initializer state.advance).type.map TypeName.settle) :=
      plain_initializer (by simpa using tracked.settled)
    rw [analyser_declarator named]
    exact read.tail (.declare name.lexeme plain)

theorem variableDeclaration_tracks (state : State) :
    Tracks state (variableDeclaration state).ending.2 := by
  have advanced : Tracks state state.advance := .of_eq state.analyser_advance
  by_cases empty : state.advance.rest = []
  · rw [ending_variableDeclaration_end empty]
    exact advanced
  · rw [ending_variableDeclaration empty]
    refine (advanced.trans (declarator_tracks _)).trans (.of_eq ?_)
    dsimp only
    split <;> simp

theorem analyser_assigned {state : State} {token : Token} {rest : List Token} (name : String)
    (first : state.rest = token :: rest) (other : token.kind ≠ .semicolon) :
    (assigned (some name) state).ending.2.analyser =
      (expression state).next.analyser.enter name
        ((expression state).type.map TypeName.settle) := by
  unfold assigned
  split
  · next absent => simp [State.peek, first, other] at absent
  · rfl

theorem assigned_tracks {name : String} {state : State} (known : Known name state.analyser) :
    Tracks state (assigned (some name) state).ending.2 := by
  by_cases missing : ∀ token ∈ state.rest.head?, token.kind = .semicolon
  · rw [ending_assigned_missing name missing]
    exact .of_eq rfl
  · obtain ⟨token, rest, first, other⟩ : ∃ token rest, state.rest = token :: rest ∧
        token.kind ≠ .semicolon := by
      cases remaining : state.rest with
      | nil => simp [remaining] at missing
      | cons token rest => exact ⟨token, rest, rfl, by simpa [remaining] using missing⟩
    intro tracked
    obtain ⟨taken, consumed, -⟩ := expression_reads state
    rw [analyser_assigned name first other, consumed.analyser]
    exact (Analyser.steps_useAll taken state.analyser).tail
      (.enter (plain_expression tracked.settled) (known.useAll taken))

theorem assignment_tracks {state : State} {token : Token} {rest : List Token}
    (first : state.rest = token :: rest)
    (name : token.kind = .identifier) : Tracks state (assignment state).ending.2 := by
  obtain ⟨before, alike, ending⟩ := ending_assignment first name
  have used : Tracks state ((before.use token.lexeme).advance.expect .assign) := by
    intro _
    rw [State.analyser_expect, State.analyser_advance, State.analyser_use, alike.analyser]
    exact .single (.use token.lexeme)
  have known : Known token.lexeme ((before.use token.lexeme).advance.expect .assign).analyser := by
    rw [State.analyser_expect, State.analyser_advance, State.analyser_use]
    exact Analyser.known_use token.lexeme before.analyser
  rw [ending]
  exact (used.trans (assigned_tracks known)).andThen (.of_eq (State.analyser_expect _ _))

theorem printTail_tracks (state : State) : Tracks state (printTail state).ending.2 := by
  have opened : Tracks state (state.expect .openParen) := .of_eq (State.analyser_expect _ _)
  rw [ending_printTail]
  exact (opened.trans (.of_reads (expression_reads _))).trans (.of_eq (by simp))

theorem conditionalBody_tracks {state : State}
    (inside : ∀ shorter : State, shorter.rest.length ≤ state.rest.length →
      Tracks shorter (block shorter).ending.2) :
    Tracks state (conditionalBody state).ending.2 := by
  rw [ending_conditionalBody]
  refine (inside state le_rfl).andThen ?_
  have closed : Tracks (block state).ending.2 ((block state).ending.2.expect .closeBrace) :=
    .of_eq (State.analyser_expect _ _)
  refine closed.trans ?_
  unfold alternative
  split
  · exact .of_eq rfl
  · have opened : Tracks ((block state).ending.2.expect .closeBrace)
        (((block state).ending.2.expect .closeBrace).advance.expect .openBrace) := .of_eq (by simp)
    exact (opened.trans (inside _ (length_rest_alternative state))).andThen
      (.of_eq (State.analyser_expect _ _))

theorem conditional_tracks {state entered : State} {token : Token} {rest : List Token}
    (alike : Alike state entered) (first : state.rest = token :: rest) (word : token.kind = .ifWord)
    (inside : ∀ shorter : State, shorter.rest.length < state.rest.length →
      Tracks shorter (block shorter).ending.2) :
    Tracks entered (conditionalBody (conditionalHead (entered.expect .ifWord))).ending.2 := by
  have passed : Tracks entered (entered.expect .ifWord) := .of_eq (State.analyser_expect _ _)
  have head := passed.trans (.of_reads (conditionalHead_reads _))
  refine head.trans (conditionalBody_tracks fun shorter bound => inside shorter ?_)
  exact bound.trans_lt (length_rest_conditional alike first word)

theorem statement_tracks {state : State}
    (inside : ∀ shorter : State, shorter.rest.length < state.rest.length →
      Tracks shorter (block shorter).ending.2) :
    Tracks state (statement state).ending.2 := by
  cases remaining : state.rest with
  | nil =>
    obtain ⟨last, noted, ending⟩ := ending_statement_end remaining
    rw [ending]
    exact .of_eq noted.alike.analyser
  | cons token rest =>
    rcases statement_cases remaining with
      ⟨-, declared⟩ | ⟨name, assigned⟩ | ⟨word, conditional⟩ | ⟨-, printed⟩ | ⟨-, faulty⟩
    · exact .wrapped declared fun entered _ => variableDeclaration_tracks entered
    · exact .wrapped assigned fun entered alike =>
        assignment_tracks (alike.rest.trans remaining) name
    · exact .wrapped conditional fun entered alike => conditional_tracks alike remaining word inside
    · refine .wrapped printed fun entered _ => ?_
      have passed : Tracks entered (entered.expect .printWord) := .of_eq (State.analyser_expect _ _)
      exact passed.trans (printTail_tracks _)
    · exact .wrapped faulty fun entered _ => .of_eq (by simp)

theorem block_tracks {state : State} (first : Tracks state (statement state).ending.2)
    (inside : ∀ shorter : State, shorter.rest.length < state.rest.length →
      Tracks shorter (block shorter).ending.2) :
    Tracks state (block state).ending.2 := by
  rcases block_cases state with still | ⟨token, rest, remaining, step⟩
  · rw [still]
    exact .of_eq rfl
  · rw [step]
    exact first.andThen (inside _ (length_rest_statement remaining))

theorem statement_and_block_track :
    (∀ state, Tracks state (statement state).ending.2) ∧
      (∀ state, Tracks state (block state).ending.2) :=
  statement_induction _ _ (fun _ => statement_tracks) (fun _ => block_tracks)

theorem program_tracks (state : State) : Tracks state (program state).ending.2 := by
  induction state using program_induction with
  | ended state remaining =>
    obtain ⟨last, noted, ending⟩ := ending_program_end remaining
    rw [ending]
    exact .of_eq noted.alike.analyser
  | step state token rest remaining ih =>
    rw [ending_program_step remaining]
    exact (statement_and_block_track.1 state).andThen ih

theorem tracked_program (tokens : List Token) :
    Tracked (program (.ofTokens tokens)).next.analyser :=
  Tracked.initial.steps (program_tracks (.ofTokens tokens) .initial)

end Syntax

/-! ## Going through the recorded assignments -/

/-- The fault that is reported once more of a recorded assignment: an `int` where a `float` was
declared. -/
def Entry.widening (symbols : Table (Option TypeName)) (entry : Entry) : Option SemanticError :=
  entry.name.bind fun name =>
    if symbols.get? name = some (some .float) ∧ entry.assigned = some (some .int) then
      some (.unexpected name .float (some .int))
    else none

theorem Table.fits_of_clash {symbols : Table (Option TypeName)} {name : String}
    {declared found : Option TypeName}
    (there : symbols.get? name = some declared) (fits : symbols.clash name found = none) :
    declared = none ∨ declared = found ∨ declared = some .float ∧ found = some .int := by
  have typed : symbols.typeOf name = declared := by rw [typeOf, there, Option.join_some]
  rw [clash, typed] at fits
  cases declared with
  | none => exact Or.inl rfl
  | some declared =>
    dsimp only at fits
    split at fits
    · next same => exact Or.inr (Or.inl same)
    · split at fits
      · cases fits
      · split at fits
        · next widened => exact Or.inr (Or.inr ⟨congrArg some widened.1, widened.2⟩)
        · cases fits

namespace Analyser

theorem analyseEntry_fitting {analyser : Analyser} {name : String}
    {declared found : Option TypeName} (there : analyser.symbols.get? name = some declared)
    (fits : declared = none ∨ declared = found ∨ declared = some .float ∧ found = some .int) :
    (analyser.analyseEntry (.assignment name found)).outcome = .ok () ∧
      (analyser.analyseEntry (.assignment name found)).analyser = { analyser with
        errors :=
  analyser.errors ++ ((Entry.assignment name found).widening analyser.symbols).toList } := by
  have used : analyser.use name = analyser := by
    rw [use, if_pos (by rw [Table.contains, there, Option.isSome_some])]
  have typed : analyser.typeOf name = declared := by rw [typeOf, there, Option.join_some]
  refine ⟨rfl, ?_⟩
  have expected : (analyser.analyseEntry (.assignment name found)).analyser =
      if TypeName.isGiven found then analyser.expect name found else analyser := by
    conv_rhs => rw [← used]
    rfl
  rw [expected, expect, typed]
  rcases fits with rfl | rfl | ⟨rfl, rfl⟩
  · simp [Entry.widening, Entry.assignment, there]
  · cases declared with
    | none => simp [Entry.widening, Entry.assignment]
    | some type =>
      have same : ¬ (type = .float ∧ type = .int) := by rintro ⟨rfl, other⟩; cases other
      simp [Entry.widening, Entry.assignment, there, same]
  · simp [Entry.widening, Entry.assignment, there, report, TypeName.isGiven, TypeName.label]

theorem analyseAll_fitting {entries : List Entry} {analyser : Analyser}
    (fitting : ∀ entry ∈ entries, ∃ name found declared, entry = .assignment name found ∧
      analyser.symbols.get? name = some declared ∧
      (declared = none ∨ declared = found ∨ declared = some .float ∧ found = some .int)) :
    (analyser.analyseAll entries).outcome = .ok () ∧
      (analyser.analyseAll entries).analyser = { analyser with
        errors := analyser.errors ++ entries.filterMap (Entry.widening analyser.symbols) } := by
  induction entries generalizing analyser with
  | nil => simp [analyseAll]
  | cons entry rest ih =>
    obtain ⟨⟨name, found, declared, rfl, there, fits⟩, others⟩ := List.forall_mem_cons.1 fitting
    obtain ⟨ok, left⟩ := analyseEntry_fitting there fits
    have kept : (analyser.analyseEntry (.assignment name found)).analyser.symbols =
      analyser.symbols := by rw [left]
    rw [← kept] at others
    obtain ⟨ok', left'⟩ := ih others
    rw [analyseAll, ok]
    refine ⟨ok', left'.trans ?_⟩
    rw [left, List.filterMap_cons]
    cases (Entry.assignment name found).widening analyser.symbols <;> simp

end Analyser

/-- Reading without a fault in names or types leaves assignments only, each to a declared variable
of no type, of the type assigned, or of type `float` where an `int` is assigned. Going through them
changes no symbol and no record, and reports exactly the last sort, in order. -/
theorem recorded_assignments_fit (tokens : List Token)
    (sound : (Syntax.program (.ofTokens tokens)).next.analyser.errors = []) :
    let analyser := (Syntax.program (.ofTokens tokens)).next.analyser
    (∀ entry ∈ analyser.entries, ∃ name found declared, entry = .assignment name found ∧
        analyser.symbols.get? name = some declared ∧
        (declared = none ∨ declared = found ∨ declared = some .float ∧ found = some .int)) ∧
      analyser.analyse.outcome = .ok () ∧
      analyser.analyse.analyser = { analyser with
        errors :=
          analyser.errors ++ analyser.entries.filterMap (Entry.widening analyser.symbols) } := by
  intro analyser
  have tracked : Analyser.Tracked analyser := Syntax.tracked_program tokens
  have early : analyser.errors.filterMap SemanticError.undeclaredName = [] := by
    rw [sound, List.filterMap_nil]
  have clashes := tracked.clashes early
  rw [sound, List.filter_nil, eq_comm, List.filterMap_eq_nil_iff] at clashes
  have fitting : ∀ entry ∈ analyser.entries, ∃ name found declared, entry = .assignment name found ∧
      analyser.symbols.get? name = some declared ∧
      (declared = none ∨ declared = found ∨ declared = some .float ∧ found = some .int) := by
    intro entry member
    obtain ⟨name, found, rfl, -, known⟩ := tracked.entries entry member
    obtain ⟨declared, there⟩ := Option.isSome_iff_exists.1 (known.declared early)
    exact ⟨name, found, declared, rfl, there, Table.fits_of_clash there (clashes _ member)⟩
  exact ⟨fitting, Analyser.analyseAll_fitting fitting⟩

theorem recorded_assignments_fit_widening :
    let tokens := (lex "float a = 0.5; int b = 1; a = b; ) a = a * 2; b = b").tokens
    let analyser := (Syntax.program (.ofTokens tokens)).next.analyser
    analyser.errors = [] ∧ analyser.entries.length = 3 ∧ analyser.analyse.outcome = .ok () ∧
      analyser.analyse.analyser.errors = [.unexpected "a" .float (some .int)] := by
  intro tokens analyser
  -- What the parser leaves is evaluated once, and the rest follows from it.
  have parsed : analyser = ⟨⟨[("a", some .float), ("b", some .int)]⟩, [],
      [.assignment "a" (some .int), .assignment "a" (some .float),
        .assignment "b" (some .int)]⟩ := by decide +kernel
  have sound : analyser.errors = [] := by rw [parsed]
  obtain ⟨-, ok, left⟩ := recorded_assignments_fit tokens sound
  refine ⟨sound, by rw [parsed]; rfl, ok, ?_⟩
  rw [left]
  change analyser.errors ++ analyser.entries.filterMap (Entry.widening analyser.symbols) = _
  rw [parsed]
  rfl

end Workbench
