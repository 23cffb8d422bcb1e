import Workbench.Proofs.Acceptance
import Workbench.Proofs.Checking

/-! The assignments of an accepted program, read off its tokens alone.

An assignment is a name that an equals sign follows and no word for a type precedes. Each is
recorded with the type of its value, in which names have the types they were declared with before.
Which of them are at fault is then told by the places of the tokens as well.
-/

set_option autoImplicit false

namespace Workbench

/-! ## Assignments among tokens -/

/-- The assignment that starts with a token: its target and its value. -/
def assignment? (afterWord : Bool) (target : Token) (rest : List Token) :
    Option (String × List Token) :=
  if afterWord = false ∧ target.kind = .identifier ∧
    (rest.head?.any fun sign => sign.kind == .assign) = true then
    some (target.lexeme, initialValue rest)
  else none

def enteredFirst (afterWord : Bool) (target : Token) (rest : List Token)
    (symbols : Table (Option TypeName)) :
    Option Entry :=
  (assignment? afterWord target rest).map fun found =>
    .assignment found.1 (valueType symbols.typeOf found.2)

def entered (afterWord : Bool) : List Token → Table (Option TypeName) → List Entry
  | [], _ => []
  | token :: rest, symbols => (enteredFirst afterWord token rest symbols).toList ++
      entered token.kind.isTypeWord rest (recordFirst token rest symbols)

/-- A token that neither declares nor assigns. -/
def Kind.isIdle (kind : Kind) : Bool := !kind.isTypeWord && kind != .assign

theorem Kind.isIdle_of_inExpression {kind : Kind} (inside : Grammar.inExpression kind = true) :
    kind.isIdle = true := by
  cases kind <;> simp_all [Grammar.inExpression, isIdle, isTypeWord]

section
variable {token : Token} {symbols : Table (Option TypeName)}

theorem enteredFirst_of_ne {afterWord : Bool} (other : token.kind ≠ .identifier)
    (rest : List Token) :
    enteredFirst afterWord token rest symbols = none := by
  simp [enteredFirst, assignment?, other]

theorem enteredFirst_afterWord (rest : List Token) :
    enteredFirst true token rest symbols = none := by
  simp [enteredFirst, assignment?]

theorem entered_sign {afterWord : Bool} (other : token.kind ≠ .identifier)
    (notWord : token.kind.isTypeWord = false)
    (rest : List Token) :
    entered afterWord (token :: rest) symbols = entered false rest symbols := by
  rw [entered, enteredFirst_of_ne other, notWord, recordFirst_plain notWord, Option.toList_none,
    List.nil_append]

theorem entered_idle {tokens rest : List Token} (idle : ∀ token ∈ tokens, token.kind.isIdle = true)
    (apart : ∀ token ∈ rest.head?, token.kind ≠ .assign) :
    entered false (tokens ++ rest) symbols = entered false rest symbols := by
  induction tokens with
  | nil => rfl
  | cons token tokens ih =>
    obtain ⟨first, others⟩ := List.forall_mem_cons.1 idle
    have notWord : token.kind.isTypeWord = false := by simpa using (Bool.and_eq_true_iff.1 first).1
    have unsigned : ((tokens ++ rest).head?.any fun sign => sign.kind == .assign) = false := by
      cases tokens with
      | nil => cases rest <;> simp_all
      | cons next _ =>
        have second := others next (by simp)
        simpa using (Bool.and_eq_true_iff.1 second).2
    have nothing : enteredFirst false token (tokens ++ rest) symbols = none := by
      rw [enteredFirst, assignment?, unsigned, if_neg (by simp), Option.map_none]
    rw [List.cons_append, entered, nothing, notWord, recordFirst_plain notWord, Option.toList_none,
      List.nil_append, ih others]

theorem entered_closed {tokens rest : List Token}
    (idle : ∀ token ∈ tokens, token.kind.isIdle = true)
    (closing : token.kind.isIdle = true) (other : token.kind ≠ .identifier) :
    entered false (tokens ++ token :: rest) symbols = entered false rest symbols := by
  obtain ⟨notWord, notAssign⟩ := Bool.and_eq_true_iff.1 closing
  rw [entered_idle idle (by simpa using notAssign), entered_sign other (by simpa using notWord)]

end

/-! ## Places -/

namespace Places

variable (tokens : List Token)

def assignedAt (index : Nat) : Option String :=
  if tokens[index + 1]?.any (·.kind == .assign) then usedAt tokens index else none

/-- The assignment at a place, as it is recorded. -/
def entryAt (index : Nat) : Option Entry :=
  (assignedAt tokens index).map fun name =>
    .assignment name (valueType (symbolsBefore tokens index).typeOf (valueAt tokens index))

variable {tokens}

theorem usedAt_of_assignedAt {index : Nat} {name : String}
    (assigned : assignedAt tokens index = some name) :
    usedAt tokens index = some name := by
  unfold assignedAt at assigned
  split at assigned
  · exact assigned
  · cases assigned

theorem symbolsBefore_of_usedAt {index : Nat} {name : String}
    (used : usedAt tokens index = some name) :
    symbolsBefore tokens (index + 1) = symbolsBefore tokens index := by
  have undeclared : declaredAt tokens index = none := by
    unfold usedAt at used
    unfold declaredAt
    split at used
    · cases used
    · next notAfter => rw [if_neg notAfter]
  rw [symbolsBefore, undeclared]

theorem enteredFirst_eq {index : Nat} {token : Token} {rest : List Token}
    (here : tokens.drop index = token :: rest) :
    enteredFirst (afterWordAt tokens index) token rest (symbolsBefore tokens (index + 1)) =
      entryAt tokens index := by
  have behind : tokens.drop (index + 1) = rest := by rw [← List.tail_drop, here, List.tail_cons]
  have found : tokens[index]? = some token := by rw [← List.head?_drop, here, List.head?_cons]
  have next : tokens[index + 1]? = rest.head? := by rw [← List.head?_drop, behind]
  have starts : assignment? (afterWordAt tokens index) token rest =
      (assignedAt tokens index).map fun name => (name, valueAt tokens index) := by
    rw [assignment?, assignedAt, usedAt, nameAt, found, next, valueAt, behind]
    cases afterWordAt tokens index <;> by_cases isName : token.kind = .identifier <;>
      by_cases signed : (rest.head?.any fun sign => sign.kind == .assign) = true <;>
      simp [isName, signed, Option.filter]
  rw [enteredFirst, starts, entryAt]
  cases assigned : assignedAt tokens index with
  | none => rfl
  | some name => rw [symbolsBefore_of_usedAt (usedAt_of_assignedAt assigned)]; rfl

theorem entered_drop (index : Nat) :
    entered false tokens {} = (List.range index).filterMap (entryAt tokens) ++
      entered (afterWordAt tokens index) (tokens.drop index)
      (symbolsBefore tokens (index + 1)) := by
  induction index with
  | zero => rfl
  | succ index ih =>
    rw [ih, ← List.tail_drop, List.range_succ, List.filterMap_append, List.append_assoc]
    congr 1
    cases here : tokens.drop index with
    | nil =>
      have outside : tokens.length ≤ index := List.drop_eq_nil_iff.1 here
      have absent : entryAt tokens index = none := by
        simp [entryAt, assignedAt, List.getElem?_eq_none (Nat.le_succ_of_le outside)]
      simp [entered, absent]
    | cons token rest =>
      have word : token.kind.isTypeWord = afterWordAt tokens (index + 1) := by
        rw [afterWordAt, wordAt, ← List.head?_drop, here, List.head?_cons, Option.any_some]
      rw [entered, enteredFirst_eq here, word, recordFirst_eq here, List.tail_cons]
      cases entry : entryAt tokens index <;> simp [entry]

theorem entered_eq :
    entered false tokens {} = (List.range tokens.length).filterMap (entryAt tokens) := by
  rw [entered_drop tokens.length, List.drop_length, entered, List.append_nil]

end Places

/-! ## Every statement -/

namespace Analyser

theorem entries_use (name : String) (analyser : Analyser) :
    (analyser.use name).entries = analyser.entries := by
  unfold use
  split <;> rfl

theorem entries_useAll (tokens : List Token) (analyser : Analyser) :
    (analyser.useAll tokens).entries = analyser.entries := by
  induction tokens generalizing analyser with
  | nil => rfl
  | cons token rest ih =>
    rw [useAll, List.foldl_cons]
    refine (ih _).trans ?_
    split
    · exact entries_use ..
    · rfl

theorem entries_declare (name : String) (type : Option TypeName) (analyser : Analyser) :
    (analyser.declare name type).entries = analyser.entries := by
  unfold declare
  split <;> rfl

end Analyser

namespace Syntax

/-- The records there will be, once the assignments still to come are entered. -/
def State.account (state : State) : List Entry :=
  state.analyser.entries ++ entered false state.rest state.analyser.symbols

/-- Between two states every assignment was entered. -/
def Accounts (start next : State) : Prop :=
  Settled start.analyser.symbols.typeOf → Settled next.analyser.symbols.typeOf ∧
    next.account = start.account

namespace Accounts

variable {start middle next : State}

theorem trans (left : Accounts start middle) (right : Accounts middle next) :
    Accounts start next := by
  intro settled
  obtain ⟨settled, same⟩ := left settled
  obtain ⟨settled, same'⟩ := right settled
  exact ⟨settled, same'.trans same⟩

theorem of_alike (alike : Alike start next) : Accounts start next := by
  intro settled
  rw [State.account, State.account, alike.analyser, alike.rest]
  exact ⟨settled, rfl⟩

theorem andThen {first : Ending} {following : State → Ending} (left : Accounts start first.2)
    (right : Accounts first.2 (following first.2).2) : Accounts start (first.andThen following).2 :=
  @Ending.andThen_related Accounts (fun _ _ _ => trans) start first following left right

theorem wrapped {reader : State → Ending} {ending : Ending} (read : Wrapped start reader ending)
    (inside : ∀ entered, Alike start entered → Accounts entered (reader entered).2) :
    Accounts start ending.2 := by
  obtain ⟨entered, leave, before, after, rfl⟩ := read
  exact ((of_alike before.alike).trans (inside entered before.alike)).andThen
    (.of_alike (after _).alike)

end Accounts

theorem Consumes.kinds {start next : State} {taken : List Token}
    (consumed : Consumes start next taken)
    {front rest : List Kind} (kinds : start.kinds = front ++ rest) (left : next.kinds = rest) :
    taken.map Token.kind = front := by
  rw [State.kinds, consumed.rest, List.map_append] at kinds
  rw [State.kinds] at left
  rw [left] at kinds
  exact List.append_cancel_right kinds

theorem Consumes.accounts {start next : State} {taken : List Token}
    (consumed : Consumes start next taken)
    {front : List Kind} {last : Kind} (kinds : taken.map Token.kind = front ++ [last])
    (idle : ∀ kind ∈ front, kind.isIdle = true) (closing : last.isIdle = true)
    (other : last ≠ .identifier) :
    Accounts start next := by
  obtain ⟨inner, ended, rfl, rfl, sign⟩ := List.map_eq_append_iff.1 kinds
  obtain ⟨token, rfl, rfl⟩ := List.map_eq_singleton_iff.1 sign
  intro settled
  have symbols : next.analyser.symbols = start.analyser.symbols := by
    rw [consumed.analyser, Analyser.symbols_useAll]
  refine ⟨symbols ▸ settled, ?_⟩
  have rest : start.rest = inner ++ token :: next.rest := by simpa using consumed.rest
  rw [State.account, State.account, rest, symbols, consumed.analyser, Analyser.entries_useAll,
    entered_closed (fun token member => idle token.kind (List.mem_map_of_mem member)) closing other]

theorem expect_consumes (wanted : Kind) (nameless : wanted ≠ .identifier) (state : State) :
    ∃ taken, Consumes state (state.expect wanted) taken := by
  have errors := State.errors_expect wanted state
  cases met : state.meets wanted with
  | none =>
    refine ⟨[], ?_, by simp, errors⟩
    rw [State.rest_expect, met]
    rfl
  | some token =>
    obtain ⟨found, rest, first⟩ := State.meets_eq_some.1 met
    obtain ⟨taken, consumed, -⟩ := Reads.expect_found wanted first found nameless
    exact ⟨taken, consumed⟩

theorem entered_declarator {taken : List Token} (declares : Declarator (taken.map Token.kind))
    {semicolon : Token}
    (closing : semicolon.kind = .semicolon) (others : List Token)
    (symbols : Table (Option TypeName)) :
    entered true (taken ++ semicolon :: others) symbols = entered false others symbols := by
  have isIdle : semicolon.kind.isIdle = true := by rw [closing]; rfl
  have notName : semicolon.kind ≠ .identifier := by simp [closing]
  have notWord : semicolon.kind.isTypeWord = false := by rw [closing]; rfl
  cases taken with
  | nil => exact entered_sign notName notWord others
  | cons name taken =>
    generalize kinds : (name :: taken).map Token.kind = inner at declares
    -- The name behind the type word enters nothing itself.
    have afterName : name.kind.isTypeWord = false →
        entered true (name :: taken ++ semicolon :: others) symbols =
          entered false (taken ++ semicolon :: others) symbols := by
      intro plainName
      rw [List.cons_append, entered, enteredFirst_afterWord, plainName, recordFirst_plain plainName,
        Option.toList_none, List.nil_append]
    cases declares with
    | none => cases kinds
    | name =>
      obtain ⟨isName, nothing⟩ := List.cons.inj kinds
      obtain rfl := List.map_eq_nil_iff.1 nothing
      rw [afterName (by rw [isName]; rfl), List.nil_append, entered_sign notName notWord]
    | initialized valued =>
      obtain ⟨isName, signed⟩ := List.cons.inj kinds
      obtain ⟨sign, value, rfl, isAssign, rfl⟩ := List.map_eq_cons_iff.1 signed
      rw [afterName (by rw [isName]; rfl), List.cons_append,
        entered_sign (by simp [isAssign]) (by rw [isAssign]; rfl)]
      refine entered_closed (fun token member => ?_) isIdle notName
      exact Kind.isIdle_of_inExpression (valued.kinds _ (List.mem_map_of_mem member))

theorem entries_declarator (state : State) :
    (declarator state).next.analyser.entries = state.analyser.entries := by
  cases named : state.meets .identifier with
  | none => rw [next_declarator_still named]
  | some name =>
    rw [analyser_declarator named, Analyser.entries_declare]
    cases signed : state.advance.meets .assign with
    | none => rw [next_initializer_still signed, State.analyser_advance]
    | some sign =>
      obtain ⟨taken, consumed, -⟩ := expression_reads state.advance.advance
      rw [(next_initializer_step signed).analyser, consumed.analyser, Analyser.entries_useAll,
        State.analyser_advance, State.analyser_advance]

theorem variableDeclaration_accounts {state : State} {word : Kind} {inner rest : List Kind}
    (isWord : word.isTypeWord = true) (declares : Declarator inner)
    (kinds : state.kinds = word :: inner ++ .semicolon :: rest) :
    Accounts state (variableDeclaration state).ending.2 := by
  intro settled
  obtain ⟨token, remaining, first, rfl, -⟩ := State.kinds_eq_cons.1 kinds
  have advanced :=
    Leaves.advance (show state.kinds = token.kind :: (inner ++ .semicolon :: rest) from kinds)
  have read := declarator_leaves declares advanced.kinds
  obtain ⟨semicolon, others, closed, closing, left⟩ := State.kinds_eq_cons.1 read.kinds
  obtain ⟨taken, split, plain, symbols⟩ :=
    declarator_records (by simpa using settled) isWord closed closing
  have more : state.advance.rest ≠ [] := by rw [split]; simp
  have found : (declarator state.advance).next.meets .semicolon = some semicolon :=
    State.meets_eq_some.2 ⟨closing, others, closed⟩
  rw [ending_variableDeclaration more, found]
  refine ⟨(Follows.declaration first isWord closed closing settled).1, ?_⟩
  -- the tokens taken are those of the declarator
  have declared : Declarator (taken.map Token.kind) := by
    have same : state.advance.kinds = taken.map Token.kind ++ .semicolon :: rest := by
      rw [State.kinds, split, List.map_append, List.map_cons, closing, left]
    rw [advanced.kinds] at same
    exact List.append_cancel_right same ▸ declares
  have notName : token.kind ≠ .identifier := by
    rintro isName; simp [isName, Kind.isTypeWord] at isWord
  rw [State.rest_advance, first, List.tail_cons] at split
  dsimp only [Option.isSome_some, if_true]
  rw [if_pos rfl, State.account, State.account, (State.expect_found closed closing).1,
    State.analyser_expect, symbols,
    entries_declarator, State.analyser_advance, State.rest_advance, first, List.tail_cons, entered,
    enteredFirst_of_ne notName, isWord, Option.toList_none, List.nil_append]
  nth_rewrite 2 [split]
  rw [entered_declarator declared closing]

theorem rest_assigned {state : State} {token : Token} {rest : List Token} (name : String)
    (first : state.rest = token :: rest) (other : token.kind ≠ .semicolon) :
    (assigned (some name) state).ending.2.rest = (expression state).next.rest := by
  obtain ⟨before, entry, type, after, told, recorded, ending⟩ := ending_assigned name first other
  rw [ending]
  exact recorded.rest.trans told.rest

theorem assigned_accounts {state : State} {target sign : Token} {others : List Token}
    {value kinds rest : List Kind}
    (first : state.rest = target :: sign :: others) (isName : target.kind = .identifier)
    (isAssign : sign.kind = .assign)
    (valued : Grammar.Expression value) (given : value ≠ []) (closes : Closes kinds rest)
    (same : others.map Token.kind = value ++ kinds) {signed : State} (left : signed.rest = others)
    (used : signed.analyser = state.analyser.use target.lexeme) :
    Accounts state (assigned (some target.lexeme) signed).ending.2 := by
  intro settled
  have symbols : signed.analyser.symbols = state.analyser.symbols := by
    rw [used, Analyser.symbols_use]
  have read :=
    expression_leaves valued closes.ends (show signed.kinds =
      value ++ kinds by rw [State.kinds, left, same])
  have ended : ∀ token ∈ (expression signed).next.rest.head?, token.kind = .semicolon := by
    intro token member
    have head : token.kind ∈ kinds.head? := by
      rw [← read.kinds, State.kinds, List.head?_map]
      exact Option.mem_map_of_mem _ member
    rcases closes with rfl | ⟨rfl, -⟩
    · simpa using head.symm
    · cases head
  obtain ⟨taken, split, inner, kept, type⟩ := expression_valued (symbols ▸ settled) ended
  have idle : ∀ token ∈ taken, token.kind.isIdle = true := by
    have kindsTaken : taken.map Token.kind = value := by
      rw [left] at split
      rw [split, List.map_append] at same
      rw [show (expression signed).next.rest.map Token.kind = kinds from read.kinds] at same
      exact List.append_cancel_right same
    intro token member
    exact Kind.isIdle_of_inExpression (valued.kinds _ (kindsTaken ▸ List.mem_map_of_mem member))
  obtain ⟨token, following, firstOther, other⟩ :
      ∃ token following, signed.rest = token :: following ∧ token.kind ≠ .semicolon := by
    obtain ⟨kind, tail, rfl⟩ := List.exists_cons_of_ne_nil given
    obtain ⟨token, following, rfl, rfl, -⟩ := List.map_eq_cons_iff.1 same
    refine ⟨token, following, left, fun semicolon => ?_⟩
    have inside := valued.kinds token.kind (by simp)
    simp [semicolon, Grammar.inExpression] at inside
  -- the record that is made is the one that the target and its value tell
  have told : enteredFirst false target (sign :: others) state.analyser.symbols =
      some (.assignment target.lexeme (valueType state.analyser.symbols.typeOf taken)) := by
    rw [← left, split]
    simp [enteredFirst, assignment?, isName, isAssign, initialValue_of_taken isAssign inner ended]
  have settledAfter : Settled (expression signed).next.analyser.symbols.typeOf := by
    rw [kept, symbols]; exact settled
  have entries : (expression signed).next.analyser.entries = state.analyser.entries := by
    obtain ⟨_, consumed, -⟩ := expression_reads signed
    rw [consumed.analyser, Analyser.entries_useAll, used, Analyser.entries_use]
  have plainName : target.kind.isTypeWord = false := by rw [isName]; rfl
  rw [State.account, State.account, rest_assigned _ firstOther other,
    analyser_assigned _ firstOther other, Analyser.enter_eq settledAfter]
  refine ⟨settledAfter, ?_⟩
  rw [first, entered, told, plainName, recordFirst_plain plainName,
    entered_sign (by simp [isAssign]) (by rw [isAssign]; rfl),
    ← left, split, entered_idle idle (fun token member => by simp [ended token member]), entries,
      kept, type, symbols]
  simp

theorem Accounts.of_same {start next : State} (rest : next.rest = start.rest)
    (analyser : next.analyser = start.analyser) : Accounts start next := by
  intro settled
  rw [State.account, State.account, rest, analyser]
  exact ⟨settled, rfl⟩

theorem Accounts.sign {start next : State} {token : Token} (rest : start.rest = token :: next.rest)
    (analyser : next.analyser = start.analyser) (other : token.kind ≠ .identifier)
    (notWord : token.kind.isTypeWord = false) : Accounts start next := by
  intro settled
  rw [State.account, State.account, rest, analyser, entered_sign other notWord]
  exact ⟨settled, rfl⟩

theorem Accounts.expect {state : State} {wanted : Kind} {rest : List Kind}
    (kinds : state.kinds = wanted :: rest)
    (other : wanted ≠ .identifier) (notWord : wanted.isTypeWord = false) :
    Accounts state (state.expect wanted) := by
  obtain ⟨token, _, first, rfl, -⟩ := State.kinds_eq_cons.1 kinds
  exact .sign (by rw [(State.expect_found first rfl).1, first])
    (State.analyser_expect _ _) other notWord

theorem Accounts.closing {state : State} {rest : List Kind} (closes : Closes state.kinds rest) :
    Accounts state (state.expect .semicolon) := by
  rcases closes with first | ⟨empty, -⟩
  · exact .expect first (by simp) rfl
  · have nothing := State.kinds_eq_nil.1 empty
    exact .of_same (by rw [(State.expect_end .semicolon nothing).1, nothing])
      (State.analyser_expect _ _)

theorem assignment_accounts {state : State} {value kinds rest : List Kind}
    (valued : Grammar.Expression value) (given : value ≠ []) (closes : Closes kinds rest)
    (same : state.kinds = .identifier :: .assign :: value ++ kinds) :
    Accounts state (assignment state).ending.2 := by
  obtain ⟨target, remaining, first, isName, signed⟩ := State.kinds_eq_cons.1 same
  obtain ⟨sign, others, rfl, isAssign, left⟩ := List.map_eq_cons_iff.1 signed
  obtain ⟨before, alike, ending⟩ := ending_assignment first isName
  have atSign : (before.use target.lexeme).advance.rest = sign :: others := by
    simp [alike.rest, first]
  have behind : ((before.use target.lexeme).advance.expect .assign).rest = others :=
    (State.expect_found atSign isAssign).1
  have used : ((before.use target.lexeme).advance.expect .assign).analyser =
      state.analyser.use target.lexeme := by
    simp [alike.analyser]
  have read := assigned_goes target.lexeme valued given closes
    (show State.kinds _ = value ++ kinds by rw [State.kinds, behind]; exact left)
  have ended : Closes (State.kinds _) rest := read.leaves.kinds.symm ▸ closes
  rw [ending]
  exact (assigned_accounts first isName isAssign valued given closes left behind used).andThen
    (.closing ended)

theorem printTail_accounts {state : State} {value kinds rest : List Kind}
    (valued : Grammar.Expression value)
    (closes : Closes kinds rest)
    (same : state.kinds = .printWord :: .openParen :: value ++ .closeParen :: kinds) :
    Accounts state (printTail (state.expect .printWord)).ending.2 := by
  obtain ⟨_, word⟩ := expect_consumes .printWord (by simp) state
  obtain ⟨_, opened⟩ := expect_consumes .openParen (by simp) (state.expect .printWord)
  obtain ⟨_, read, -⟩ := expression_reads ((state.expect .printWord).expect .openParen)
  obtain ⟨_, closed⟩ := expect_consumes .closeParen (by simp)
    (expression ((state.expect .printWord).expect .openParen)).next
  have whole := ((word.trans opened).trans read).trans closed
  have found := Leaves.expect same
  have entered :=
    Leaves.expect (show (state.expect .printWord).kinds =
      .openParen :: (value ++ .closeParen :: kinds) from
    found.kinds)
  have valueLeft := expression_leaves valued
    (by simp [Ends, startsFactor, Kind.isOperator, Kind.isFactorOperator]) entered.kinds
  have ended := Leaves.expect valueLeft.kinds
  have taken :=
      whole.kinds (show state.kinds =
        (.printWord :: .openParen :: value ++ [.closeParen]) ++ kinds by
    simpa using same) ended.kinds
  rw [ending_printTail]
  refine (whole.accounts taken ?_ rfl (by simp)).trans (.closing (ended.kinds ▸ closes))
  intro kind member
  simp only [List.mem_cons] at member
  rcases member with rfl | rfl | member
  · rfl
  · rfl
  · exact Kind.isIdle_of_inExpression (valued.kinds kind member)

theorem conditionalHead_accounts {state : State} {condition kinds : List Kind}
    (compared : Grammar.Condition condition)
    (same : state.kinds = .ifWord :: .openParen :: condition ++ .closeParen ::
      .openBrace :: kinds) :
    Accounts state (conditionalHead (state.expect .ifWord)) := by
  obtain ⟨_, word⟩ := expect_consumes .ifWord (by simp) state
  obtain ⟨_, head, -⟩ := conditionalHead_reads (state.expect .ifWord)
  have left := conditionalHead_leaves compared (Leaves.expect same).kinds
  have taken := (word.trans head).kinds
    (show state.kinds =
      (.ifWord :: .openParen :: condition ++ [.closeParen] ++ [.openBrace]) ++ kinds by
      simpa using same) left.kinds
  refine (word.trans head).accounts taken ?_ rfl (by simp)
  cases compared with
  | @mk left right sign valued isComparison valuedRight =>
    have comparing : sign.isIdle = true := by
      cases sign <;> simp_all [Kind.isComparison, Kind.isIdle, Kind.isTypeWord]
    intro kind member
    simp only [List.cons_append, List.append_assoc, List.mem_cons, List.mem_append,
      List.not_mem_nil, or_false] at member
    rcases member with rfl | rfl | member | rfl | member | rfl
    · rfl
    · rfl
    · exact Kind.isIdle_of_inExpression (valued.kinds kind member)
    · exact comparing
    · exact Kind.isIdle_of_inExpression (valuedRight.kinds kind member)
    · rfl

/-! ## Blocks and programs -/

theorem statement_accounts_declaration {state : State} {word : Kind} {inner rest : List Kind}
    (isWord : word.isTypeWord = true) (declares : Declarator inner)
    (kinds : state.kinds = word :: inner ++ .semicolon :: rest) :
    Accounts state (statement state).ending.2 := by
  obtain ⟨token, remaining, first, rfl, -⟩ := State.kinds_eq_cons.1 kinds
  refine .wrapped (wrapped_declaration first isWord) fun entered alike => ?_
  exact variableDeclaration_accounts isWord declares (alike.kinds.trans kinds)

theorem statement_accounts_assignment {state : State} {value kinds rest : List Kind}
    (valued : Grammar.Expression value) (given : value ≠ []) (closes : Closes kinds rest)
    (same : state.kinds = .identifier :: .assign :: value ++ kinds) :
    Accounts state (statement state).ending.2 := by
  obtain ⟨token, remaining, first, name, -⟩ := State.kinds_eq_cons.1 same
  refine .wrapped (wrapped_assignment first name) fun entered alike => ?_
  exact assignment_accounts valued given closes (alike.kinds.trans same)

theorem statement_accounts_print {state : State} {value kinds rest : List Kind}
    (valued : Grammar.Expression value)
    (closes : Closes kinds rest)
    (same : state.kinds = .printWord :: .openParen :: value ++ .closeParen :: kinds) :
    Accounts state (statement state).ending.2 := by
  obtain ⟨token, remaining, first, isPrint, -⟩ := State.kinds_eq_cons.1 same
  refine .wrapped (wrapped_print first isPrint) fun entered alike => ?_
  exact printTail_accounts valued closes (alike.kinds.trans same)

theorem statement_accounts_simple {state : State} {simple rest : List Kind}
    (is_simple : Grammar.Simple simple)
    (kinds : state.kinds = simple ++ rest) : Accounts state (statement state).ending.2 := by
  cases is_simple with
  | bare word => exact statement_accounts_declaration word .none kinds
  | declaration word => exact statement_accounts_declaration word .name kinds
  | initialized word valued =>
    exact statement_accounts_declaration word (.initialized valued) (by simpa using kinds)
  | assignment valued given =>
    exact statement_accounts_assignment valued given (Or.inl rfl) (by simpa using kinds)
  | print valued => exact statement_accounts_print valued (Or.inl rfl) (by simpa using kinds)

theorem statement_accounts_conditional {state : State} {condition kinds : List Kind}
    (compared : Grammar.Condition condition)
    (same : state.kinds = .ifWord :: .openParen :: condition ++ .closeParen :: .openBrace :: kinds)
    (body : ∀ opened : State, opened.kinds = kinds →
      Accounts opened (conditionalBody opened).ending.2) :
    Accounts state (statement state).ending.2 := by
  obtain ⟨token, remaining, first, isIf, -⟩ := State.kinds_eq_cons.1 same
  refine .wrapped (wrapped_conditional first isIf) fun entered alike => ?_
  have head := conditionalHead_accounts compared (alike.kinds.trans same)
  have left := conditionalHead_leaves compared (Leaves.expect (alike.kinds.trans same)).kinds
  exact head.trans (body _ left.kinds)

mutual

theorem statement_accounts : {kinds : List Kind} → Grammar.Statement kinds → (state : State) →
    (rest : List Kind) →
    rest.head? ≠ some .elseWord → state.kinds = kinds ++ rest →
      Accounts state (statement state).ending.2
  | _, .simple is_simple, _, _, _, same => statement_accounts_simple is_simple same
  | _, .conditional compared inside, state, rest, notElse, same => by
    refine statement_accounts_conditional compared (by simpa using same) ?_
    intro opened kinds
    have body := block_goes inside opened (.closeBrace :: rest) (by simp) kinds
    have closed := Leaves.expect body.leaves.kinds
    have brace := Accounts.expect body.leaves.kinds (by simp) rfl
    rw [ending_conditionalBody]
    refine (block_accounts inside opened (.closeBrace :: rest) (by simp) kinds).andThen
      (brace.trans ?_)
    unfold alternative
    rw [meets_none_of_head (by rwa [closed.kinds])]
    exact .of_alike (.refl _)
  | _, .alternative compared inside other, state, rest, _, same => by
    refine statement_accounts_conditional compared (by simpa using same) ?_
    intro opened kinds
    have body := block_goes inside opened _ (by simp) kinds
    have closed := Leaves.expect body.leaves.kinds
    have brace := Accounts.expect body.leaves.kinds (by simp) rfl
    obtain ⟨token, otherwise⟩ := (State.meets_of_kinds closed.kinds).2 rfl
    obtain ⟨isElse, others, first⟩ := State.meets_eq_some.1 otherwise
    have passed := Leaves.advance closed.kinds
    have word : Accounts _ ((block opened).ending.2.expect .closeBrace).advance :=
      .sign (by rw [State.rest_advance, first, List.tail_cons]) (State.analyser_advance _)
        (by simp [isElse])
        (by rw [isElse]; rfl)
    have opening := Accounts.expect passed.kinds (by simp) rfl
    have braced := Leaves.expect passed.kinds
    have ended := block_goes other _ (.closeBrace :: rest) (by simp) braced.kinds
    rw [ending_conditionalBody]
    refine (block_accounts inside opened _ (by simp) kinds).andThen (brace.trans ?_)
    unfold alternative
    rw [otherwise]
    refine ((word.trans opening).trans
      (block_accounts other _ (.closeBrace :: rest) (by simp) braced.kinds)).andThen ?_
    exact .expect ended.leaves.kinds (by simp) rfl

theorem block_accounts : {kinds : List Kind} → Grammar.Statements kinds → (state : State) →
    (rest : List Kind) →
    (∀ kind ∈ rest.head?, kind = .closeBrace) → state.kinds = kinds ++ rest →
      Accounts state (block state).ending.2
  | _, .none, state, rest, closing, same => by
    rw [ending_block_still]
    · exact .of_alike (.refl _)
    · intro token member
      apply closing token.kind
      rw [← List.nil_append rest, ← same, State.kinds, List.head?_map]
      exact Option.mem_map_of_mem _ member
  | _, .more first others, state, rest, closing, same => by
    obtain ⟨token, _, remaining, notBrace⟩ := statement_first first (by simpa using same)
    have notElse : rest.head? ≠ some .elseWord := by
      intro isElse
      simpa using closing .elseWord isElse
    have apart := head_ne_else others notElse
    have read := statement_goes first state _ apart (by simpa using same)
    rw [ending_block_step remaining notBrace]
    exact (statement_accounts first state _ apart (by simpa using same)).andThen
      (block_accounts others _ rest closing read.leaves.kinds)

end

theorem program_accounts_statements {rest : List Kind} (notElse : rest.head? ≠ some .elseWord)
    (last : ∀ state : State, state.kinds = rest → Accounts state (program state).ending.2) :
    {kinds : List Kind} → Grammar.Statements kinds → (state : State) → state.kinds = kinds ++ rest →
      Accounts state (program state).ending.2
  | _, .none, state, same => last state same
  | _, .more first others, state, same => by
    obtain ⟨token, _, remaining, -⟩ := statement_first first (by simpa using same)
    have apart := head_ne_else others notElse
    have read := statement_goes first state _ apart (by simpa using same)
    rw [ending_program_step remaining]
    exact (statement_accounts first state _ apart (by simpa using same)).andThen
      (program_accounts_statements notElse last others _ read.leaves.kinds)

theorem program_accounts_end {state : State} (ended : state.kinds = []) :
    Accounts state (program state).ending.2 := by
  obtain ⟨last, noted, ending⟩ := ending_program_end (State.kinds_eq_nil.1 ended)
  rw [ending]
  exact .of_alike noted.alike

theorem program_accounts_unfinished {state : State} (unfinished : Grammar.Unfinished state.kinds) :
    Accounts state (program state).ending.2 := by
  have read := statement_goes_unfinished unfinished
  generalize same : state.kinds = kinds at unfinished
  have first : Accounts state (statement state).ending.2 := by
    cases unfinished with
    | assignment valued given =>
      exact statement_accounts_assignment valued given (Or.inr ⟨rfl, rfl⟩) (by simpa using same)
    | print valued =>
      exact statement_accounts_print valued (Or.inr ⟨rfl, rfl⟩) (by simpa using same)
  have more : ∃ kind others, state.kinds = kind :: others := by
    cases unfinished with
    | assignment => exact ⟨_, _, same⟩
    | print => exact ⟨_, _, same⟩
  obtain ⟨kind, others, some_kinds⟩ := more
  obtain ⟨token, _, remaining, -⟩ := State.kinds_eq_cons.1 some_kinds
  rw [ending_program_step remaining]
  exact first.andThen (program_accounts_end read.leaves.kinds)

theorem program_accounts {state : State} (program : Grammar.Program state.kinds) :
    Accounts state (Syntax.program state).ending.2 := by
  generalize same : state.kinds = kinds at program
  cases program with
  | finished statements =>
    exact program_accounts_statements (by simp) (fun _ => program_accounts_end) statements state
      (by simpa using same)
  | unfinished statements last =>
    refine program_accounts_statements ?_ ?_ statements state same
    · cases last <;> simp
    · rintro state rfl
      exact program_accounts_unfinished last

/-- The records of an accepted program are read off its tokens. -/
theorem entries_of_clean {tokens : List Token} (plain : Plain tokens) (clean : Clean tokens) :
    (program (.ofTokens tokens)).next.analyser.entries =
      (List.range tokens.length).filterMap (Places.entryAt tokens) := by
  obtain ⟨-, generated, ended⟩ := passes_of_clean plain clean
  have settled : Settled (State.ofTokens tokens).analyser.symbols.typeOf := by
    intro name type typed
    cases typed
  have whole : Grammar.Program (State.ofTokens tokens).kinds := generated
  obtain ⟨-, same⟩ := program_accounts whole settled
  have left : (program (.ofTokens tokens)).ending.2.rest = [] := ended
  rw [State.account, left, entered, List.append_nil] at same
  rw [← Places.entered_eq]
  exact same

end Syntax

/-! ## Faults of type -/

namespace Places

variable {tokens : List Token}

theorem laterDeclarations_eq_nil
    (once : ∀ index <
      tokens.length, ∀ name ∈ declaredAt tokens index, ¬ DeclaredBefore tokens name index) :
    laterDeclarations tokens tokens.length = [] := by
  refine List.filterMap_eq_nil_iff.2 fun index member => ?_
  rw [Option.filter_eq_none_iff]
  intro name declared
  simpa using once index (List.mem_range.1 member) name declared

theorem earlyUses_eq_nil
    (before : ∀ index <
      tokens.length, ∀ name ∈ usedAt tokens index, SettledBefore tokens name index) :
    earlyUses tokens tokens.length = [] := by
  refine List.filterMap_eq_nil_iff.2 fun index member => ?_
  rw [Option.filter_eq_none_iff]
  intro name used
  simpa using before index (List.mem_range.1 member) name used

/-- A name keeps the type it has where it is settled. -/
theorem typeOf_recorded {name : String} {index : Nat} (bound : index < tokens.length)
    (settled : SettledBefore tokens name index) :
    (recorded tokens {}).typeOf name = (symbolsBefore tokens index).typeOf name := by
  rw [Table.typeOf, recorded_eq, get?_symbolsBefore_mono (by omega) settled.declared, Table.typeOf]

theorem mem_of_mem_valueAt {token : Token} {index : Nat} (member : token ∈ valueAt tokens index) :
    token ∈ tokens := by
  refine List.mem_of_mem_drop (i := index + 1) ?_
  unfold valueAt initialValue at member
  split at member
  · cases member
  · next sign rest here =>
    split at member
    · rw [here]
      exact List.mem_cons_of_mem _ ((List.takeWhile_sublist _).subset member)
    · cases member

end Places

/-- If every name is declared once and used in time, the faults are those of assignments that do not
fit. -/
theorem errors_of_clean {tokens : List Token} (listed : ∀ token ∈ tokens, token.kind ∈ Row.kinds)
    (clean : Clean tokens)
    (once : ∀ index <
      tokens.length,
        ∀ name ∈ Places.declaredAt tokens index, ¬ Places.DeclaredBefore tokens name index)
    (before : ∀ index <
      tokens.length, ∀ name ∈ Places.usedAt tokens index, Places.SettledBefore tokens name index) :
    (Syntax.program (.ofTokens tokens)).next.analyser.errors =
      (List.range tokens.length).filterMap fun index =>
        (Places.entryAt tokens index).bind (Entry.clash (recorded tokens {})) := by
  have plain := Syntax.plain_of_kinds listed
  have tracked := Syntax.tracked_program tokens
  have told := ledger_of_clean listed clean
  have undeclared := (congrArg Ledger.undeclared told).trans (Places.earlyUses_eq_nil before)
  have redeclared := (congrArg Ledger.redeclared told).trans (Places.laterDeclarations_eq_nil once)
  -- No name is used early or declared twice, so that only clashes are left.
  have clashing : ∀ error ∈ (Syntax.program (.ofTokens tokens)).next.analyser.errors,
      error.isClash = true := by
    intro error member
    rcases tracked.errors error member with clash | early | again
    · exact clash
    · rw [List.filterMap_eq_nil_iff.1 undeclared error member] at early
      cases early
    · rw [List.filterMap_eq_nil_iff.1 redeclared error member] at again
      cases again
  rw [← List.filter_eq_self.2 clashing, tracked.clashes undeclared,
    Syntax.entries_of_clean plain clean,
    Syntax.symbols_of_clean plain clean, List.filterMap_filterMap]

section
variable {known : String → Option TypeName}
    (ints : ∀ name type, known name = some type → type = .int)
include ints

theorem operandType_of_ints {token : Token} (notReal : token.kind ≠ .real) {type : TypeName}
    (typed : operandType known token = some type) : type = .int := by
  unfold operandType at typed
  split at typed
  · exact (Option.some.inj typed).symm
  · next real => exact absurd real notReal
  · exact ints _ _ typed
  · cases typed

theorem leadingType_of_ints {value : List Token} (whole : ∀ token ∈ value, token.kind ≠ .real)
    {type : TypeName} (typed : leadingType known value = some type) : type = .int := by
  obtain ⟨token, found, typed⟩ := Option.bind_eq_some_iff.1 typed
  exact operandType_of_ints ints (whole token (List.mem_of_find?_eq_some found)) typed

theorem valueType_of_ints {value : List Token} (whole : ∀ token ∈ value, token.kind ≠ .real) :
    valueType known value = leadingType known value := by
  have none : ¬ (value.any fun token => operandType known token == some .float) = true := by
    rw [List.any_eq_true]
    rintro ⟨token, member, float⟩
    cases operandType_of_ints ints (whole token member) (beq_iff_eq.1 float)
  rw [valueType, if_neg none]

end

namespace Places

variable {tokens : List Token}

theorem typeOf_symbolsBefore (whole : ∀ token ∈ tokens, token.kind ≠ .real) (index : Nat) :
    ∀ name type, (symbolsBefore tokens index).typeOf name = some type → type = .int := by
  induction index with
  | zero =>
    intro name type typed
    cases typed
  | succ index ih =>
    intro name type typed
    have wholeValue : ∀ token ∈ valueAt tokens index, token.kind ≠ .real :=
      fun token member => whole token (mem_of_mem_valueAt member)
    rw [Table.typeOf, get?_symbolsBefore_succ] at typed
    cases known : (symbolsBefore tokens index).get? name with
    | some held =>
      rw [known, Option.some_or] at typed
      exact ih name type (by rw [Table.typeOf, known, typed])
    | none =>
      rw [known, Option.none_or] at typed
      split at typed
      · rw [Option.join_some, valueType_of_ints ih wholeValue] at typed
        exact leadingType_of_ints ih wholeValue typed
      · cases typed

variable (tokens)

/-- The fault of an assignment at a place: its target is known as an `int`, and its value has no
type because its first operand is missing or was declared without a type. -/
def untypedAt (index : Nat) : Option SemanticError :=
  (assignedAt tokens index).bind fun name =>
    if (symbolsBefore tokens index).typeOf name = some .int ∧
        leadingType (symbolsBefore tokens index).typeOf (valueAt tokens index) = none then
      some (.mismatch name .int none)
    else none

variable {tokens}

theorem clash_entryAt (whole : ∀ token ∈ tokens, token.kind ≠ .real) {index : Nat}
    (bound : index < tokens.length)
    (before : ∀ name ∈ usedAt tokens index, SettledBefore tokens name index) :
    (entryAt tokens index).bind (Entry.clash (recorded tokens {})) = untypedAt tokens index := by
  have ints := typeOf_symbolsBefore whole index
  have wholeValue : ∀ token ∈ valueAt tokens index, token.kind ≠ .real :=
    fun token member => whole token (mem_of_mem_valueAt member)
  unfold entryAt untypedAt
  cases assigned : assignedAt tokens index with
  | none => rfl
  | some name =>
    have typed := typeOf_recorded bound (before name (usedAt_of_assignedAt assigned))
    rw [Option.map_some, Option.bind_some, Option.bind_some, Entry.clash_assignment,
      Table.clash, typed, valueType_of_ints ints wholeValue]
    cases declared : (symbolsBefore tokens index).typeOf name with
    | none => rfl
    | some type =>
      obtain rfl := ints name type declared
      cases leading : leadingType (symbolsBefore tokens index).typeOf (valueAt tokens index) with
      | none => rfl
      | some found =>
        obtain rfl := leadingType_of_ints ints wholeValue leading
        rfl

end Places

/-- In a program without real numbers that declares each variable once and before its first use, the
faults are exactly the assignments of a value without a type to a variable that is known as an
`int`, in their order. -/
theorem whole_program_errors (tokens : List Token)
    (listed : ∀ token ∈ tokens, token.kind ∈ Row.kinds)
    (returned : (Syntax.program (.ofTokens tokens)).result = .ok ())
    (faultless : (Syntax.program (.ofTokens tokens)).next.errors = [])
    (whole : ∀ token ∈ tokens, token.kind ≠ .real)
    (once : ∀ index <
      tokens.length,
        ∀ name ∈ Places.declaredAt tokens index, ¬ Places.DeclaredBefore tokens name index)
    (before : ∀ index <
      tokens.length, ∀ name ∈ Places.usedAt tokens index, Places.SettledBefore tokens name index) :
    (Syntax.program (.ofTokens tokens)).next.analyser.errors =
      (List.range tokens.length).filterMap (Places.untypedAt tokens) := by
  rw [errors_of_clean listed ⟨returned, faultless⟩ once before]
  refine List.filterMap_congr fun index member => ?_
  have bound := List.mem_range.1 member
  exact Places.clash_entryAt whole bound (before index bound)

theorem whole_program_errors_signed :
    let tokens :=
      (lex
        "int a = (2) * 3; int b; if (a < 4) \x7b b = a; a = a - b; \x7d a = -a; a = (b); b = -1").tokens
    Clean tokens ∧ (Syntax.program (.ofTokens tokens)).next.analyser.errors =
      [.mismatch "a" .int none, .mismatch "a" .int none] := by
  intro tokens
  obtain ⟨clean, whole, once, before, untyped⟩ : Clean tokens ∧
    (∀ token ∈ tokens, token.kind ≠ .real) ∧
      (∀ index <
        tokens.length,
          ∀ name ∈ Places.declaredAt tokens index, ¬ Places.DeclaredBefore tokens name index) ∧
      (∀ index <
        tokens.length,
          ∀ name ∈ Places.usedAt tokens index, Places.SettledBefore tokens name index) ∧
      (List.range tokens.length).filterMap (Places.untypedAt tokens) =
        [.mismatch "a" .int none, .mismatch "a" .int none] := by decide +kernel
  exact ⟨clean,
    (whole_program_errors tokens (kinds_of_lex _) clean.1 clean.2 whole once before).trans untyped⟩

/-- A program over integers only, with its one variable declared before its one use, is refused. -/
theorem whole_program_refused :
    let tokens := (lex "int a = 1; a = -1;").tokens
    Clean tokens ∧ (∀ token ∈ tokens, token.kind ≠ .floatWord ∧ token.kind ≠ .real) ∧
      (∀ index <
        tokens.length,
          ∀ name ∈ Places.declaredAt tokens index, ¬ Places.DeclaredBefore tokens name index) ∧
      (∀ index <
        tokens.length,
          ∀ name ∈ Places.usedAt tokens index, Places.SettledBefore tokens name index) ∧
      (Syntax.program (.ofTokens tokens)).next.analyser.errors = [.mismatch "a" .int none] := by
  decide +kernel

end Workbench
