import Workbench.Proofs.Marking

/-! What arithmetic comes to.

The formula of a tree evaluates to what the tree comes to in numbers, and of all that can go wrong
with a formula only the faults of arithmetic are left: a division by zero, or a number beyond all
doubles.
-/

set_option autoImplicit false

namespace Workbench

namespace Arithmetic

/-! ## Folds that go together -/

/-- Two algebras make related results of a part, if what it is made of is related. -/
def Part.Relates {α β : Type} (related : α → β → Prop) (first : Algebra α) (second : Algebra β) :
    Part → Prop
  | .literal number => related (first.number number) (second.number number)
  | .sign minus => ∀ x y, related x y → related (first.signed minus x) (second.signed minus y)
  | .connective sort => ∀ x y z w, related x y → related z w →
    related (first.join sort x z) (second.join sort y w)

section
variable {α β : Type} {related : α → β → Prop} {first : Algebra α} {second : Algebra β}

mutual

theorem Operand.fold_related (operand : Operand)
    (relates : ∀ part ∈ operand.parts, part.Relates related first second)
    (named : ∀ name ∈ operand.names, related (first.name name) (second.name name)) :
    related (operand.fold first) (operand.fold second) := by
  cases operand with
  | number literal after => exact relates _ (List.mem_singleton_self _)
  | name name after => exact named name (List.mem_singleton_self name)
  | group before inside after => exact inside.fold_related relates named
  | signed minus after operand =>
    obtain ⟨sign, relates⟩ := List.forall_mem_cons.1 relates
    exact sign _ _ (operand.fold_related relates named)

theorem Expression.fold_related (expression : Expression)
    (relates : ∀ part ∈ expression.parts, part.Relates related first second)
    (named : ∀ name ∈ expression.names, related (first.name name) (second.name name)) :
    related (expression.fold first) (expression.fold second) := by
  obtain ⟨operand, rest⟩ := expression
  obtain ⟨relates_operand, relates_rest⟩ := List.forall_mem_append.1 relates
  obtain ⟨named_operand, named_rest⟩ := List.forall_mem_append.1 named
  exact rest.total_related relates_rest named_rest (fun _ _ same => same)
    (operand.fold_related relates_operand named_operand)

theorem Chain.total_related (chain : Chain)
    (relates : ∀ part ∈ chain.parts, part.Relates related first second)
    (named : ∀ name ∈ chain.names, related (first.name name) (second.name name))
    {close : α → α} {close' : β → β} (closing : ∀ x y, related x y → related (close x) (close' y))
    {product : α} {product' : β} (start : related product product') :
    related (chain.total first close product) (chain.total second close' product') := by
  cases chain with
  | done => exact closing _ _ start
  | more connective after operand rest =>
    obtain ⟨joined, relates⟩ := List.forall_mem_cons.1 relates
    obtain ⟨relates_operand, relates_rest⟩ := List.forall_mem_append.1 relates
    obtain ⟨named_operand, named_rest⟩ := List.forall_mem_append.1 named
    have right := operand.fold_related relates_operand named_operand
    rw [Chain.total, Chain.total]
    split
    · exact rest.total_related relates_rest named_rest closing (joined _ _ _ _ start right)
    -- A looser connective closes the sum so far and starts a new product.
    · refine rest.total_related relates_rest named_rest (fun x y same => ?_) right
      exact joined _ _ _ _ (closing _ _ start) same

end

end

/-! ## Numbers -/

def Numeral.number : Numeral → Number
  | int n => .int n
  | float x => .float x

def negate : Number → Number
  | .int n => .int (-n)
  | .float x => .float (-x)

def Spelled.number (spelled : Spelled) : Number :=
  if spelled.negative then negate spelled.numeral.number else spelled.numeral.number

def combineFloats (connective : Connective) (x y : Float) : Except Formula.Fault Number :=
  match connective with
  | .plus => pure (.float (x + y))
  | .minus => pure (.float (x - y))
  | .times => pure (.float (x * y))
  | .divide => if y == 0.0 then throw .floatDivision else pure (.float (x / y))

/-- Two integers give an integer, except under division; a double on either side makes both
doubles. -/
def combine (connective : Connective) : Number → Number → Except Formula.Fault Number
  | .int m, .int n =>
    match connective with
    | .plus => pure (.int (m + n))
    | .minus => pure (.int (m - n))
    | .times => pure (.int (m * n))
    | .divide => return .float (← Formula.divideInts m n)
  | m, n => do combineFloats connective (← Formula.toFloat m) (← Formula.toFloat n)

def numbers (spelling : List Char → Spelled) : Algebra (Except Formula.Fault Number) where
  number literal := pure literal.numeral.number
  name name := pure (spelling name.chars).number
  signed minus operand := operand.map fun number => if minus then negate number else number
  join connective left right := do combine connective (← left) (← right)

def value : Number → Formula.Value
  | .int n => .int n
  | .float x => .float x

/-- The formula evaluates, whatever is around it, and changes nothing. -/
def Computes (formula : Formula) (outcome : Except Formula.Fault Number) : Prop :=
  ∀ machine world, (Formula.eval machine [] formula).run world = outcome.map fun number =>
    (value number, world)

theorem numeral_computes (numeral : Numeral) : Computes numeral.formula (pure numeral.number) := by
  intro machine world
  cases numeral with
  | int n => rfl
  | float x => rfl

theorem signed_computes (minus : Bool) {formula : Formula} {outcome : Except Formula.Fault Number}
    (operand : Computes formula outcome) :
    Computes (.signed (sign minus) formula)
      (outcome.map fun number => if minus then negate number else number) := by
  intro machine world
  have inner := operand machine world
  simp only [Formula.eval, StateT.run_bind, inner]
  cases outcome with
  | error fault => rfl
  | ok number => cases number <;> cases minus <;> rfl

theorem spelled_computes (spelled : Spelled) : Computes spelled.formula (pure spelled.number) := by
  unfold Spelled.formula Spelled.number
  split
  · exact signed_computes true (numeral_computes spelled.numeral)
  · exact numeral_computes spelled.numeral

theorem computeFloats_operator (connective : Connective) (x y : Float) :
    Formula.computeFloats connective.operator x y = (combineFloats connective x y).map value := by
  cases connective with
  | plus => rfl
  | minus => rfl
  | times => rfl
  | divide =>
    simp only [Connective.operator, Formula.computeFloats, combineFloats]
    split <;> rfl

theorem run_doubles (connective : Connective) (left right : Number) (world : Formula.World) :
    ((do Formula.computeFloats connective.operator (← Formula.toFloat left) (← Formula.toFloat right) :
        Formula.Eval Formula.Value).run world) =
      ((do combineFloats connective (← Formula.toFloat left) (← Formula.toFloat right) :
        Except Formula.Fault Number).map fun number => (value number, world)) := by
  cases Formula.toFloat left with
  | error fault => rfl
  | ok x =>
    cases Formula.toFloat right with
    | error fault => rfl
    | ok y =>
      change (liftM (Formula.computeFloats connective.operator x y) : Formula.Eval
        Formula.Value).run world =
        (combineFloats connective x y).map _
      rw [computeFloats_operator]
      cases combineFloats connective x y <;> rfl

theorem compute_numbers (connective : Connective) (left right : Number) (world : Formula.World) :
    (Formula.compute connective.operator (value left) (value right)).run world =
      (combine connective left right).map fun number => (value number, world) := by
  cases left with
  | int m =>
    cases right with
    | int n =>
      cases connective with
      | plus => rfl
      | minus => rfl
      | times => rfl
      | divide =>
        change (((do return .float (← Formula.divideInts m n) : Except Formula.Fault
          Formula.Value) :
          Formula.Eval Formula.Value).run world) = _
        simp only [combine]
        cases Formula.divideInts m n <;> rfl
    | float y =>
      refine Eq.trans ?_ (run_doubles connective (.int m) (.float y) world)
      cases connective <;> rfl
  -- A double on the left decides, whatever is on the right.
  | float x =>
    refine Eq.trans ?_ (run_doubles connective (.float x) right world)
    cases right <;> cases connective <;> rfl

theorem binary_computes (connective : Connective) {left right : Formula}
    {first second : Except Formula.Fault Number} (left_computes : Computes left first)
    (right_computes : Computes right second) :
    Computes (.binary connective.operator left right)
    (do combine connective (← first) (← second)) := by
  intro machine world
  simp only [Formula.eval, StateT.run_bind, left_computes machine world]
  cases first with
  | error fault => rfl
  | ok x =>
    change (Formula.eval machine [] right).run world >>= _ = _
    rw [right_computes machine world]
    cases second with
    | error fault => rfl
    | ok y => exact compute_numbers connective x y world

theorem Expression.computes (expression : Expression) (spelling : List Char → Spelled) :
    Computes (expression.fold (formulas spelling)) (expression.fold (numbers spelling)) := by
  refine expression.fold_related (fun part _ => ?_) fun name _ =>
    spelled_computes (spelling name.chars)
  cases part with
  | literal literal => exact numeral_computes literal.numeral
  | sign minus => exact fun _ _ operand => signed_computes minus operand
  | connective connective => exact fun _ _ _ _ left right => binary_computes connective left right

/-! ## Faults -/

/-- What can go wrong in arithmetic: a division by zero, or a number beyond all doubles. -/
def arithmeticFaults : List Formula.Fault :=
  [.intDivision, .floatDivision, .quotientTooLarge, .intTooLarge]

def Arithmetical {α : Type} (outcome : Except Formula.Fault α) : Prop :=
  ∀ fault, outcome = .error fault → fault ∈ arithmeticFaults

theorem arithmetical_ok {α : Type} (result : α) : Arithmetical (.ok result) := by
  rintro fault ⟨⟩

theorem Arithmetical.bind {α β : Type} {first : Except Formula.Fault α}
    {next : α → Except Formula.Fault β}
    (left : Arithmetical first) (right : ∀ result, Arithmetical (next result)) :
    Arithmetical (first >>= next) := by
  cases first with
  | error fault =>
    rintro _ ⟨⟩
    exact left fault rfl
  | ok result => exact right result

theorem Arithmetical.map {α β : Type} {outcome : Except Formula.Fault α}
    (sound : Arithmetical outcome) (change : α → β) : Arithmetical (outcome.map change) := by
  cases outcome with
  | error fault =>
    rintro _ ⟨⟩
    exact sound fault rfl
  | ok result => exact arithmetical_ok _

theorem toFloat_arithmetical (number : Number) : Arithmetical (Formula.toFloat number) := by
  unfold Formula.toFloat
  split
  · exact arithmetical_ok _
  · split
    · exact arithmetical_ok _
    · rintro _ ⟨⟩
      decide

theorem divideInts_arithmetical (m n : Int) : Arithmetical (Formula.divideInts m n) := by
  unfold Formula.divideInts
  split
  · rintro _ ⟨⟩
    decide
  · split
    · exact arithmetical_ok _
    · rintro _ ⟨⟩
      decide

theorem combineFloats_arithmetical (connective : Connective) (x y : Float) :
    Arithmetical (combineFloats connective x y) := by
  unfold combineFloats
  split
  · exact arithmetical_ok _
  · exact arithmetical_ok _
  · exact arithmetical_ok _
  · split
    · rintro _ ⟨⟩
      decide
    · exact arithmetical_ok _

theorem combine_arithmetical (connective : Connective) (left right : Number) :
    Arithmetical (combine connective left right) := by
  unfold combine
  split
  · split
    · exact arithmetical_ok _
    · exact arithmetical_ok _
    · exact arithmetical_ok _
    · exact (divideInts_arithmetical _ _).bind fun _ => arithmetical_ok _
  · exact (toFloat_arithmetical _).bind fun _ => (toFloat_arithmetical _).bind fun _ =>
      combineFloats_arithmetical connective _ _

theorem Expression.arithmetical (expression : Expression) (spelling : List Char → Spelled) :
    Arithmetical (expression.fold (numbers spelling)) := by
  -- A property of one fold is a relation that forgets the other.
  have relates : ∀ part : Part,
      part.Relates (fun outcome _ => Arithmetical outcome) (numbers spelling)
        (numbers spelling) := by
    rintro (literal | minus | connective)
    · exact arithmetical_ok _
    · exact fun _ _ operand => operand.map _
    · exact fun _ _ _ _ left right =>
        left.bind fun x => right.bind fun y => combine_arithmetical connective x y
  exact expression.fold_related (fun part _ => relates part) fun name _ => arithmetical_ok _

theorem toNumber_held (number : Number) :
    Formula.toNumber (value number) = .error .undefinedToInt ∨ Formula.toNumber (value number) =
      .error .infiniteToInt ∨
      ∃ result, Held result ∧ Formula.toNumber (value number) = .ok result := by
  cases number with
  | int n => exact Or.inr (Or.inr ⟨.int n, trivial, rfl⟩)
  | float x =>
    simp only [value, Formula.toNumber]
    split
    · exact Or.inl rfl
    · exact Or.inr (Or.inl rfl)
    · rename_i negative significand exponent finite
      refine Or.inr (Or.inr ?_)
      split
      · exact ⟨.int (Number.truncate negative significand exponent), trivial, rfl⟩
      · exact ⟨.float x, by simp [Held, isFinite, finite], rfl⟩

/-! ## Texts -/

theorem given?_together {around : Formula.Surroundings} {left right : Formula}
    {operator : Formula.Operator}
    (left_given : left.given? around = some []) (right_given : right.given? around = some []) :
    (Formula.binary operator left right).given? around = some [] := by
  rw [Formula.given?, left_given, right_given]
  rfl

theorem Numeral.given? (numeral : Numeral) (around : Formula.Surroundings) :
    numeral.formula.given? around = some [] := by
  cases numeral <;> rfl

theorem Expression.given? (expression : Expression) (spelling : List Char → Spelled)
    (around : Formula.Surroundings) :
    (expression.fold (formulas spelling)).given? around = some [] := by
  have relates : ∀ part : Part, part.Relates (fun formula _ =>
    Formula.given? around formula = some [])
      (formulas spelling) (formulas spelling) := by
    rintro (literal | minus | connective)
    · exact literal.numeral.given? around
    · exact fun formula _ operand => operand
    · exact fun _ _ _ _ left right => given?_together left right
  refine expression.fold_related (fun part _ => relates part) fun name _ => ?_
  change (spelling name.chars).formula.given? around = some []
  unfold Spelled.formula
  split
  · exact (spelling name.chars).numeral.given? around
  · exact (spelling name.chars).numeral.given? around

section
variable {fill : List Char → List Char} {spelling : List Char → Spelled} {limits : Formula.Limits}

/-- The text of a tree is read as its formula, unless it is too deep to be read. -/
theorem Expression.checkedOfText (expression : Expression)
    (allowed : Formula.allows limits.nesting expression.nesting = true)
    (fills : Fills fill spelling expression.names) :
    (Formula.checkedOfText limits (expression.text fill) = .error .outOfMemory ∧
        ¬ Formula.allows limits.reading (expression.reach + 3) = true) ∨
      (Formula.checkedOfText limits (expression.text fill) = .error .tooDeepToRead ∧
        ¬ Formula.allows limits.height (expression.fold (formulas spelling)).height = true) ∨
      Formula.checkedOfText limits (expression.text fill) =
        .ok (expression.fold (formulas spelling)) := by
  obtain ⟨marked, short⟩ := expression.marksOf allowed fills
  unfold Formula.checkedOfText
  rcases expression.ofText spelling marked short (le_refl _) with read | ⟨stopped, beyond⟩
  · rw [read]
    have named : (expression.fold (formulas spelling)).given? {} = some [] :=
      expression.given? spelling {}
    by_cases low : Formula.allows limits.height (expression.fold (formulas spelling)).height = true
    · refine Or.inr (Or.inr ?_)
      simp only [bind, Except.bind, low, named]
      rfl
    · refine Or.inr (Or.inl ⟨?_, low⟩)
      simp only [bind, Except.bind, low]
      rfl
  · rw [stopped]
    exact Or.inl ⟨rfl, beyond⟩

/-- What the text of a tree comes to, if it can be read. Nothing that is known besides counts. -/
theorem Expression.evaluateWithin (expression : Expression)
    (allowed : Formula.allows limits.nesting expression.nesting = true)
    (fills : Fills fill spelling expression.names) (world : Formula.World) :
    Formula.evaluateWithin limits world (String.ofList (expression.text fill)) =
      (do
        let _ ← Formula.checkedOfText limits (expression.text fill)
        let number ← expression.fold (numbers spelling)
        Formula.toNumber (value number)) := by
  have nothing : (expression.text fill).contains '\x00' = false := by
    rw [← Bool.not_eq_true, List.contains_iff_mem]
    exact fun member => absurd (expression.chars fills _ member) (by decide)
  simp only [Formula.evaluateWithin, String.toList_ofList, nothing]
  rcases expression.checkedOfText allowed fills with ⟨stopped, -⟩ | ⟨stopped, -⟩ | read
  · rw [stopped]
    rfl
  · rw [stopped]
    rfl
  · have computed := expression.computes spelling (.within limits.calls) world
    rw [read]
    change (Formula.eval (.within limits.calls) [] _).run world >>= _ = _
    rw [computed]
    cases expression.fold (numbers spelling) <;> rfl

/-- A bound for the height of the formula: a name may stand for a number with a sign. -/
def heights : Algebra Nat where
  number _ := 1
  name _ := 2
  signed _ operand := operand + 1
  join _ left right := max left right + 1

theorem Numeral.height (numeral : Numeral) : numeral.formula.height = 1 := by
  cases numeral <;> rfl

theorem Expression.height_le (expression : Expression) (spelling : List Char → Spelled) :
    (expression.fold (formulas spelling)).height ≤ expression.fold heights := by
  have relates : ∀ part : Part,
      part.Relates (fun formula bound => Formula.height formula ≤ bound)
        (formulas spelling) heights := by
    rintro (literal | minus | connective)
    · exact literal.numeral.height.le
    · exact fun _ _ operand => Nat.succ_le_succ operand
    · exact fun _ _ _ _ left right => Nat.succ_le_succ (by omega)
  refine expression.fold_related (fun part _ => relates part) fun name _ => ?_
  change (spelling name.chars).formula.height ≤ 2
  unfold Spelled.formula
  split
  · exact Nat.succ_le_succ (spelling name.chars).numeral.height.le
  · exact (spelling name.chars).numeral.height.le.trans (by decide)

def Expression.fits (limits : Formula.Limits) (expression : Expression) : Bool :=
  Formula.allows limits.nesting expression.nesting &&
    Formula.allows limits.reading (expression.reach + 3) &&
    Formula.allows limits.height (expression.fold heights)

theorem Expression.evaluateWithin_fitting (expression : Expression)
    (fits : expression.fits limits = true)
    (fills : Fills fill spelling expression.names) (world : Formula.World) :
    Formula.evaluateWithin limits world (String.ofList (expression.text fill)) =
      expression.fold (numbers spelling) >>= fun number => Formula.toNumber (value number) := by
  simp only [Expression.fits, Bool.and_eq_true] at fits
  obtain ⟨⟨nesting, reading⟩, height⟩ := fits
  rw [expression.evaluateWithin nesting fills world]
  rcases expression.checkedOfText nesting fills with ⟨-, beyond⟩ | ⟨-, high⟩ | read
  · exact absurd reading beyond
  · exact absurd (Formula.allows_of_le (expression.height_le spelling) height) high
  · rw [read]
    rfl

end

end Arithmetic

end Workbench
