import Workbench.Proofs.Arithmetic

/-! Reading arithmetic from marks.

The reader of formulas goes down one level after the other and comes back with the formula that the
marks of an expression stand for, unless it went further down than it may.
-/

set_option autoImplicit false

namespace Workbench

namespace Formula

theorem allows_of_le {limit : Option Nat} {depth most : Nat} (deep : depth ≤ most)
    (allowed : allows limit most = true) : allows limit depth = true := by
  cases limit with
  | none => rfl
  | some bound =>
    simp only [allows, Option.all_some, decide_eq_true_eq] at allowed ⊢
    exact Nat.le_trans deep allowed

/-- A reading that goes at most so far down gives a value, unless that is further than it may. -/
def Returns {α : Type} (limits : Limits) (most : Nat) (outcome : Except Fault α) (value : α) :
    Prop :=
  outcome = .ok value ∨ outcome = .error .outOfMemory ∧ ¬ allows limits.reading most = true

theorem Returns.bind {α β : Type} {limits : Limits} {most : Nat} {first : Except Fault α}
    {next : α → Except Fault β} {value : α} {result : β} (left : Returns limits most first value)
    (right : Returns limits most (next value) result) :
    Returns limits most (first >>= next) result := by
  rcases left with rfl | ⟨rfl, beyond⟩
  · exact right
  · exact Or.inr ⟨rfl, beyond⟩

theorem Returns.pure {α : Type} {limits : Limits} {most : Nat} (value : α) :
    Returns limits most (Pure.pure value) value := Or.inl rfl

theorem descend_returns {limits : Limits} {depth most : Nat} (deep : depth ≤ most) :
    Returns limits most (descend limits depth) () := by
  unfold descend
  split
  · exact Or.inl rfl
  · rename_i refused
    exact Or.inr ⟨rfl, fun allowed => refused (allows_of_le deep allowed)⟩

/-- The end of what is read: nothing, or a closing parenthesis. -/
inductive Closed : List Mark → Prop where
  | nothing : Closed []
  | bracket (rest : List Mark) : Closed (.sign ")" :: rest)

inductive Delimited : List Mark → Prop where
  | nothing : Delimited []
  | bracket (rest : List Mark) : Delimited (.sign ")" :: rest)
  | plus (rest : List Mark) : Delimited (.sign "+" :: rest)
  | minus (rest : List Mark) : Delimited (.sign "-" :: rest)
  | times (rest : List Mark) : Delimited (.sign "*" :: rest)
  | divide (rest : List Mark) : Delimited (.sign "/" :: rest)

theorem Closed.delimited {marks : List Mark} (closed : Closed marks) : Delimited marks := by
  cases closed with
  | nothing => exact .nothing
  | bracket rest => exact .bracket rest

theorem delimited_connective (connective : Arithmetic.Connective) (rest : List Mark) :
    Delimited (.sign connective.spelling :: rest) := by
  cases connective with
  | plus => exact .plus rest
  | minus => exact .minus rest
  | times => exact .times rest
  | divide => exact .divide rest

inductive Starts : List Mark → Prop where
  | int (n : Nat) (rest : List Mark) : Starts (.int n :: rest)
  | float (x : Float) (rest : List Mark) : Starts (.float x :: rest)
  | plus (rest : List Mark) : Starts (.sign "+" :: rest)
  | minus (rest : List Mark) : Starts (.sign "-" :: rest)
  | bracket (rest : List Mark) : Starts (.sign "(" :: rest)

theorem Starts.spelling {marks rest : List Mark} {spelling : String} (starts : Starts marks)
    (first : marks = .sign spelling :: rest) : spelling ∈ ["+", "-", "("] := by
  cases starts <;> simp_all

theorem Delimited.spelling {marks rest : List Mark} {spelling : String}
    (delimited : Delimited marks)
    (first : marks = .sign spelling :: rest) : spelling ∈ [")", "+", "-", "*", "/"] := by
  cases delimited <;> simp_all

section
variable {limits : Limits} {most fuel depth : Nat} {marks rest : List Mark} {formula : Formula}

/-! The levels above sums only pass on what they are given. -/

theorem read_choice (deep : depth ≤ most) (starts : Starts marks) (closed : Closed rest)
    (tighter : Returns limits most (read limits fuel (depth + 1) .disjunction marks)
      (formula, rest)) :
    Returns limits most (read limits (fuel + 1) depth .choice marks) (formula, rest) := by
  rw [read]
  · refine (descend_returns deep).bind (tighter.bind ?_)
    cases closed <;> exact .pure _
  · rintro body rfl
    cases starts

theorem read_disjunction (deep : depth ≤ most) (closed : Closed rest)
    (tighter : Returns limits most (read limits fuel (depth + 1) .conjunction marks)
      (formula, rest)) :
    Returns limits most (read limits (fuel + 1) depth .disjunction marks) (formula, rest) := by
  rw [read]
  refine (descend_returns deep).bind (tighter.bind ?_)
  cases closed <;> exact .pure _

theorem read_conjunction (deep : depth ≤ most) (closed : Closed rest)
    (tighter : Returns limits most (read limits fuel (depth + 1) .inversion marks)
      (formula, rest)) :
    Returns limits most (read limits (fuel + 1) depth .conjunction marks) (formula, rest) := by
  rw [read]
  refine (descend_returns deep).bind (tighter.bind ?_)
  cases closed <;> exact .pure _

theorem read_inversion (deep : depth ≤ most) (starts : Starts marks)
    (tighter : Returns limits most (read limits fuel (depth + 1) .comparison marks)
      (formula, rest)) :
    Returns limits most (read limits (fuel + 1) depth .inversion marks) (formula, rest) := by
  rw [read]
  · exact (descend_returns deep).bind tighter
  · rintro body rfl
    cases starts

theorem read_comparison (deep : depth ≤ most) (closed : Closed rest)
    (tighter : Returns limits most (read limits fuel (depth + 1) .bitOr marks) (formula, rest)) :
    Returns limits most (read limits (fuel + 1) depth .comparison marks) (formula, rest) := by
  rw [read]
  refine (descend_returns deep).bind (tighter.bind ?_)
  cases closed <;> exact .pure _

theorem read_joined (deep : depth ≤ most) {level : Level}
    (joins : level ∈ [.bitOr, .bitXor, .bitAnd, .shift, .sum, .product])
    {left : Formula} {after : List Mark}
    (first : Returns limits most (read limits fuel (depth + 2) level.tighter marks) (left, after))
    (tail : Returns limits most (readTail limits fuel depth level left after) (formula, rest)) :
    Returns limits most (read limits (fuel + 1) depth level marks) (formula, rest) := by
  simp only [List.mem_cons, List.not_mem_nil, or_false] at joins
  rcases joins with rfl | rfl | rfl | rfl | rfl | rfl <;>
  · rw [read]
    · exact (descend_returns deep).bind (first.bind tail)
    all_goals simp

theorem readTail_still {level : Level} {left : Formula}
    (still : ∀ mark ∈ marks.head?, level.join? mark = none) :
    Returns limits most (readTail limits (fuel + 1) depth level left marks) (left, marks) := by
  cases marks with
  | nil =>
    rw [readTail]
    exact .pure _
  | cons mark rest =>
    rw [readTail, still mark rfl]
    exact .pure _

theorem readTail_step {level : Level} {left right : Formula} {mark : Mark} {after : List Mark}
    {join : Formula → Formula → Formula} (joins : level.join? mark = some join)
    (operand : Returns limits most (read limits fuel (depth + 2) level.tighter marks) (right,
      after))
    (tail : Returns limits most (readTail limits fuel depth level (join left right) after)
      (formula, rest)) :
    Returns limits most (readTail limits (fuel + 1) depth level left (mark :: marks))
    (formula, rest) := by
  rw [readTail]
  simp only [joins]
  exact operand.bind tail

theorem join?_of_closed (level : Level) (closed : Closed marks) :
    ∀ mark ∈ marks.head?, level.join? mark = none := by
  cases closed with
  | nothing => simp
  | bracket => simp [Level.join?]

/-- From a sum up to a choice nothing is added, where what follows closes. -/
theorem read_choice_of_sum (deep : depth + 11 ≤ most) (starts : Starts marks) (closed : Closed rest)
    (sum : Returns limits most (read limits (fuel + 1) (depth + 13) .sum marks) (formula, rest)) :
    Returns limits most (read limits (fuel + 10) depth .choice marks) (formula, rest) := by
  have still : ∀ level, ∀ more below, Returns limits most
    (readTail limits (more + 1) below level formula rest) (formula, rest) :=
    fun level _ _ => readTail_still (join?_of_closed level closed)
  have shift := read_joined deep (by simp) sum (still .shift fuel (depth + 11))
  have bitAnd := read_joined (by omega) (by simp) shift (still .bitAnd (fuel + 1) (depth + 9))
  have bitXor := read_joined (by omega) (by simp) bitAnd (still .bitXor (fuel + 2) (depth + 7))
  have bitOr := read_joined (by omega) (by simp) bitXor (still .bitOr (fuel + 3) (depth + 5))
  have comparison := read_comparison (by omega) closed bitOr
  have conjunction :=
    read_conjunction (by omega) closed (read_inversion (by omega) starts comparison)
  exact read_choice (by omega) starts closed (read_disjunction (by omega) closed conjunction)

/-! Below products come signs, and below them atoms. -/

theorem read_sign_signed (deep : depth ≤ most) {sign : Sign} {mark : Mark}
    (is_sign : sign? mark = some sign)
    (operand : Returns limits most (read limits fuel (depth + 1) .sign marks) (formula, rest)) :
    Returns limits most (read limits (fuel + 1) depth .sign (mark :: marks))
    (.signed sign formula, rest) := by
  rw [read]
  simp only [is_sign]
  exact (descend_returns deep).bind (operand.bind (.pure _))

theorem readTrailers_still {owner : Formula} (delimited : Delimited marks) :
    Returns limits most (readTrailers limits (fuel + 1) depth owner marks) (owner, marks) := by
  rw [readTrailers]
  · exact .pure _
  · intro body first
    simpa using delimited.spelling first
  · intro body first
    simpa using delimited.spelling first
  · intro word body first
    simpa using delimited.spelling first

theorem read_primary (deep : depth ≤ most) {atom : Formula} (delimited : Delimited rest)
    (read_atom : Returns limits most (readAtom limits (fuel + 1) (depth + 2) marks) (atom, rest)) :
    Returns limits most (read limits (fuel + 2) depth .primary marks) (atom, rest) := by
  rw [read]
  exact (descend_returns deep).bind (read_atom.bind (readTrailers_still delimited))

theorem read_power (deep : depth ≤ most) (delimited : Delimited rest)
    (primary : Returns limits most (read limits fuel (depth + 2) .primary marks) (formula, rest)) :
    Returns limits most (read limits (fuel + 1) depth .power marks) (formula, rest) := by
  rw [read]
  refine (descend_returns deep).bind (primary.bind ?_)
  cases delimited <;> exact .pure _

theorem read_sign_atom (deep : depth + 3 ≤ most) {mark : Mark} (unsigned : sign? mark = none)
    (delimited : Delimited rest)
    (atom : Returns limits most (readAtom limits (fuel + 1) (depth + 5) (mark :: marks))
      (formula, rest)) :
    Returns limits most (read limits (fuel + 4) depth .sign (mark :: marks)) (formula, rest) := by
  have power := read_power (by omega) delimited (read_primary (by omega) delimited atom)
  rw [read]
  simp only [unsigned]
  exact (descend_returns (by omega)).bind power

theorem readAtom_numeral (deep : depth ≤ most) (numeral : Arithmetic.Numeral) :
    Returns limits most (readAtom limits (fuel + 1) depth (numeral.mark :: marks))
    (numeral.formula, marks) := by
  cases numeral with
  | int n =>
    rw [Arithmetic.Numeral.mark, readAtom]
    exact (descend_returns deep).bind (.pure _)
  | float x =>
    rw [Arithmetic.Numeral.mark, readAtom]
    exact (descend_returns deep).bind (.pure _)

theorem readAtom_group (deep : depth ≤ most) (starts : Starts marks)
    (inside : Returns limits most (read limits fuel (depth + 6) .choice marks) (formula,
      .sign ")" :: rest)) :
    Returns limits most (readAtom limits (fuel + 3) depth (.sign "(" :: marks))
    (formula, rest) := by
  have named : Returns limits most (readNamed limits (fuel + 1) (depth + 6) marks) (formula,
      .sign ")" :: rest) := by
    rw [readNamed]
    · exact inside
    · rintro word body rfl
      cases starts
  have item : Returns limits most (readItem limits (fuel + 2) (depth + 6) marks)
      (.item formula .none, .sign ")" :: rest) := by
    rw [readItem]
    · exact named.bind (.pure _)
    · intro body first
      simpa using starts.spelling first
  have closing : Returns limits most
      (readRest limits (fuel + 2) (depth + 8) ")" (.sign ")" :: rest)) (.none, false, rest) := by
    rw [readRest]
    · exact .pure _
    · simp
  rw [readAtom]
  · exact (descend_returns deep).bind (item.bind (closing.bind (.pure _)))
  · intro body first
    simpa using starts.spelling first

end

end Formula

/-! ## Trees -/

namespace Arithmetic

open Formula (Mark Limits Level Returns Closed Delimited Starts readTail)

mutual

/-- How far down the reading of a tree goes. -/
def Operand.reach : Operand → Nat
  | .number .. => 5
  | .name .. => 6
  | .group _ inside _ => inside.reach + 11
  | .signed _ _ operand => operand.reach + 1

def Expression.reach : Expression → Nat
  | .mk first rest => max first.reach rest.reach + 17

def Chain.reach : Chain → Nat
  | .done => 0
  | .more _ _ operand rest => max operand.reach rest.reach

end

section
variable (spelling : List Char → Spelled)

theorem Operand.length_marks_pos (operand : Operand) : 0 < (operand.marks spelling).length := by
  cases operand with
  | name name after =>
    unfold Operand.marks Spelled.marks
    split <;> simp
  | _ => simp [Operand.marks]

theorem Numeral.starts (numeral : Numeral) (rest : List Mark) : Starts (numeral.mark :: rest) := by
  cases numeral with
  | int n => exact .int n rest
  | float x => exact .float x rest

theorem Operand.starts (operand : Operand) (rest : List Mark) :
    Starts (operand.marks spelling ++ rest) := by
  cases operand with
  | number literal after => exact literal.numeral.starts rest
  | name name after =>
    unfold Operand.marks Spelled.marks
    split
    · exact .minus _
    · exact (spelling name.chars).numeral.starts rest
  | group before inside after => exact .bracket _
  | signed minus after operand =>
    cases minus with
    | false => exact .plus _
    | true => exact .minus _

theorem Expression.starts (expression : Expression) (rest : List Mark) :
    Starts (expression.marks spelling ++ rest) := by
  obtain ⟨first, chain⟩ := expression
  rw [Expression.marks, List.append_assoc]
  exact first.starts spelling _

theorem Chain.delimited (chain : Chain) {rest : List Mark} (closed : Closed rest) :
    Delimited (chain.marks spelling ++ rest) := by
  cases chain with
  | done => exact closed.delimited
  | more connective after operand chain => exact Formula.delimited_connective connective _

theorem Connective.joins_product (connective : Connective) (tight : connective.isProduct = true) :
    Level.product.join? (.sign connective.spelling) = some (.binary connective.operator) := by
  cases connective <;> first | rfl | cases tight

theorem Connective.joins_sum (connective : Connective) (loose : ¬ connective.isProduct = true) :
    Level.product.join? (.sign connective.spelling) = none ∧
      Level.sum.join? (.sign connective.spelling) = some (.binary connective.operator) := by
  cases connective <;> first | exact ⟨rfl, rfl⟩ | exact absurd rfl loose

theorem Numeral.unsigned (numeral : Numeral) : Formula.sign? numeral.mark = none := by
  cases numeral <;> rfl

theorem signed_spelling (minus : Bool) :
    Formula.sign? (.sign (signSpelling minus)) = some (sign minus) := by
  cases minus <;> rfl

end

section
variable {limits : Limits} {most : Nat}

theorem Numeral.read (numeral : Numeral) {fuel depth : Nat} {rest : List Mark} (enough : 4 ≤ fuel)
    (deep : depth + 5 ≤ most) (delimited : Delimited rest) :
    Returns limits most (Formula.read limits fuel depth .sign (numeral.mark :: rest))
    (numeral.formula, rest) := by
  obtain ⟨fuel, rfl⟩ := Nat.exists_eq_add_of_le' enough
  exact Formula.read_sign_atom (by omega) numeral.unsigned delimited
    (Formula.readAtom_numeral deep numeral)

theorem Spelled.read (spelled : Spelled) {fuel depth : Nat} {rest : List Mark} (enough : 5 ≤ fuel)
    (deep : depth + 6 ≤ most) (delimited : Delimited rest) :
    Returns limits most (Formula.read limits fuel depth .sign (spelled.marks ++ rest))
    (spelled.formula, rest) := by
  unfold Spelled.marks Spelled.formula
  split
  · obtain ⟨fuel, rfl⟩ := Nat.exists_eq_add_of_le' enough
    exact Formula.read_sign_signed (by omega) rfl
      (spelled.numeral.read (by omega) (by omega) delimited)
  · exact spelled.numeral.read (by omega) (by omega) delimited

variable (spelling : List Char → Spelled)

mutual

theorem Operand.read (operand : Operand) {fuel depth : Nat} {rest : List Mark}
    (enough : 20 * (operand.marks spelling).length ≤ fuel) (deep : depth + operand.reach ≤ most)
    (delimited : Delimited rest) :
    Returns limits most (Formula.read limits fuel depth .sign (operand.marks spelling ++ rest))
      (operand.fold (formulas spelling), rest) := by
  cases operand with
  | number literal after =>
    simp only [Operand.marks, List.length_singleton] at enough
    exact literal.numeral.read (by omega) deep delimited
  | name name after =>
    have length := (Operand.name name after).length_marks_pos spelling
    exact (spelling name.chars).read (by omega) deep delimited
  | group before inside after =>
    simp only [Operand.marks, List.length_cons, List.length_append, List.length_nil] at enough
    rw [Operand.reach] at deep
    obtain ⟨fuel, rfl⟩ := Nat.exists_eq_add_of_le' (show 6 ≤ fuel by omega)
    have content : Returns limits most
        (Formula.read limits fuel (depth + 11) .choice (inside.marks spelling ++ .sign ")" :: rest))
          _ :=
      inside.read (by omega) (by omega) (.bracket rest)
    rw [Operand.marks, List.cons_append, List.append_assoc]
    exact Formula.read_sign_atom (by omega) rfl delimited
      (Formula.readAtom_group (by omega) (inside.starts spelling _) content)
  | signed minus after operand =>
    simp only [Operand.marks, List.length_cons] at enough
    rw [Operand.reach] at deep
    obtain ⟨fuel, rfl⟩ := Nat.exists_eq_add_of_le' (show 1 ≤ fuel by omega)
    exact Formula.read_sign_signed (by omega) (signed_spelling minus)
      (operand.read (by omega) (by omega) delimited)

theorem Expression.read (expression : Expression) {fuel depth : Nat} {rest : List Mark}
    (enough : 20 * (expression.marks spelling).length + 30 ≤ fuel)
    (deep : depth + expression.reach ≤ most) (closed : Closed rest) :
    Returns limits most (Formula.read limits fuel depth .choice (expression.marks spelling ++ rest))
      (expression.fold (formulas spelling), rest) := by
  have starts := expression.starts spelling rest
  obtain ⟨first, chain⟩ := expression
  simp only [Expression.marks, List.length_append] at enough
  rw [Expression.reach] at deep
  obtain ⟨fuel, rfl⟩ := Nat.exists_eq_add_of_le' (show 11 ≤ fuel by omega)
  -- The first operand, then the product it starts, then the sum that this product starts.
  have operand : Returns limits most
      (Formula.read limits fuel (depth + 17) .sign
        (first.marks spelling ++ (chain.marks spelling ++ rest))) _ :=
    first.read (by omega) (by omega) (chain.delimited spelling closed)
  have product := Formula.read_joined (show depth + 15 ≤ most by omega) (by simp) operand
    (chain.read_product _ (by omega) (by omega) closed)
  have sum := Formula.read_joined (show depth + 13 ≤ most by omega) (by simp) product
    (chain.read_sum id _ (by omega) (by omega) closed)
  rw [Expression.marks, List.append_assoc] at starts ⊢
  exact Formula.read_choice_of_sum (by omega) starts closed sum

theorem Chain.read_product (chain : Chain) {fuel depth : Nat} {rest : List Mark} (left : Formula)
    (enough : 20 * (chain.marks spelling).length + 1 ≤ fuel) (deep : depth + 2 + chain.reach ≤ most)
    (closed : Closed rest) :
    Returns limits most (readTail limits fuel depth .product left (chain.marks spelling ++ rest))
      (chain.product (formulas spelling) left, chain.afterProduct.marks spelling ++ rest) := by
  obtain ⟨fuel, rfl⟩ := Nat.exists_eq_add_of_le' (show 1 ≤ fuel by omega)
  cases chain with
  | done => exact Formula.readTail_still (Formula.join?_of_closed .product closed)
  | more connective after operand chain =>
    rw [Chain.product, Chain.afterProduct]
    split
    · rename_i tight
      simp only [Chain.marks, List.length_cons, List.length_append] at enough
      rw [Chain.reach] at deep
      rw [Chain.marks, List.cons_append, List.append_assoc]
      exact Formula.readTail_step (connective.joins_product tight)
        (operand.read (by omega) (by omega) (chain.delimited spelling closed))
        (chain.read_product _ (by omega) (by omega) closed)
    · rename_i loose
      refine Formula.readTail_still ?_
      rintro mark ⟨⟩
      exact (connective.joins_sum loose).1

theorem Chain.read_sum (chain : Chain) {fuel depth : Nat} {rest : List Mark}
    (close : Formula → Formula)
    (product : Formula) (enough : 20 * (chain.marks spelling).length + 2 ≤ fuel)
    (deep : depth + 4 + chain.reach ≤ most) (closed : Closed rest) :
    Returns limits most
      (readTail limits fuel depth .sum (close (chain.product (formulas spelling) product))
        (chain.afterProduct.marks spelling ++ rest))
      (chain.total (formulas spelling) close product, rest) := by
  cases chain with
  | done =>
    obtain ⟨fuel, rfl⟩ := Nat.exists_eq_add_of_le' (show 1 ≤ fuel by omega)
    exact Formula.readTail_still (Formula.join?_of_closed .sum closed)
  | more connective after operand chain =>
    simp only [Chain.marks, List.length_cons, List.length_append] at enough
    rw [Chain.reach] at deep
    rw [Chain.product, Chain.afterProduct, Chain.total]
    split
    · exact chain.read_sum close _ (by omega) (by omega) closed
    · rename_i loose
      obtain ⟨fuel, rfl⟩ := Nat.exists_eq_add_of_le' (show 2 ≤ fuel by omega)
      -- A looser connective closes the product: its operand starts the next one.
      have first : Returns limits most
          (Formula.read limits fuel (depth + 4) .sign
            (operand.marks spelling ++ (chain.marks spelling ++ rest))) _ :=
        operand.read (by omega) (by omega) (chain.delimited spelling closed)
      have right := Formula.read_joined (show depth + 2 ≤ most by omega) (by simp) first
        (chain.read_product _ (by omega) (by omega) closed)
      rw [Chain.marks, List.cons_append, List.append_assoc]
      exact Formula.readTail_step (connective.joins_sum loose).2 right
        (chain.read_sum (.binary connective.operator (close product)) _ (by omega)
          (by omega) closed)

end

/-- A text whose marks are those of a tree is read as its formula. -/
theorem Expression.ofText (expression : Expression) {text : List Char}
    (marked : Formula.marksOf limits.nesting text = expression.marks spelling)
    (short : (expression.marks spelling).length ≤ text.length)
    (deep : expression.reach + 3 ≤ most) :
    Returns limits most (Formula.ofText limits text) (expression.fold (formulas spelling)) := by
  have whole : Returns limits most
      (Formula.read limits (50 * text.length + 99) 3 .choice (expression.marks spelling ++ [])) _ :=
    expression.read spelling (by omega) (by omega) .nothing
  rw [List.append_nil] at whole
  have all : Returns limits most
    (Formula.readAll limits (Formula.readingFuel text) 3 (expression.marks spelling))
      (.item (expression.fold (formulas spelling)) .none, false) := by
    rw [show Formula.readingFuel text =
      50 * text.length + 99 + 1 from by unfold Formula.readingFuel; omega, Formula.readAll]
    exact whole.bind (.pure _)
  unfold Formula.ofText
  rw [marked]
  exact all.bind (.pure _)

end

end Arithmetic

end Workbench
