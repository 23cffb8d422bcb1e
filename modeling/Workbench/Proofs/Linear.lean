import Workbench.Proofs.Assembly
import Workbench.Proofs.Machine

/-! Expressions that the machine computes as they are meant.

The code of an expression takes its operands from left to right, which is how they are meant as long
as no product comes after a sum. Its value is then what the machine computes, provided that all
integers on the way fit a word.
-/

set_option autoImplicit false

namespace Workbench

open Mips (inWord word)

namespace Arithmetic

/-! ## From left to right -/

section
variable {α : Type} (algebra : Algebra α)

def Chain.leftward (left : α) : Chain → α
  | .done => left
  | .more connective _ operand rest =>
    rest.leftward (algebra.join connective left (operand.fold algebra))

def Chain.isSum : Chain → Bool
  | .done => true
  | .more connective _ _ rest => !connective.isProduct && rest.isSum

/-- Products first, sums after them. -/
def Chain.isOrdered : Chain → Bool
  | .done => true
  | .more connective _ _ rest => if connective.isProduct then rest.isOrdered else rest.isSum

theorem Chain.total_sum (chain : Chain) (sum : chain.isSum = true) (close : α → α) (product : α) :
    chain.total algebra close product = chain.leftward algebra (close product) := by
  cases chain with
  | done => rfl
  | more connective after operand rest =>
    obtain ⟨plain, sum⟩ := Bool.and_eq_true_iff.1 sum
    have plain : connective.isProduct = false := by simpa using plain
    rw [Chain.total, plain, Chain.leftward]
    exact rest.total_sum sum _ _

theorem Chain.total_ordered (chain : Chain) (ordered : chain.isOrdered = true) (product : α) :
    chain.total algebra id product = chain.leftward algebra product := by
  cases chain with
  | done => rfl
  | more connective after operand rest =>
    rw [Chain.isOrdered] at ordered
    rw [Chain.total, Chain.leftward]
    split at ordered
    case isTrue binds =>
      rw [if_pos binds]
      exact rest.total_ordered ordered _
    case isFalse loose =>
      rw [if_neg loose]
      exact rest.total_sum algebra ordered _ _

end

section
variable (values : List Char → Int)

def Chain.length : Chain → Nat
  | .done => 0
  | .more _ _ _ rest => rest.length + 1

def Chain.steps (left : Int) : Chain → List Int
  | .done => []
  | .more connective _ operand rest =>
    let right := operand.fold (integers values)
    let next := (integers values).join connective left right
    right :: next :: rest.steps next

def Expression.steps : Expression → List Int
  | .mk first rest =>
    first.fold (integers values) :: rest.steps values (first.fold (integers values))

end

/-- An expression that a machine of ten registers computes as it is meant. -/
def Expression.isLinear : Expression → Bool
  | .mk first rest => (Expression.mk first rest).isFlat && rest.isOrdered && rest.length ≤ 9

/-! Such an expression is always within the limits for reading. -/

theorem Operand.shallow {operand : Operand} (atom : operand.isAtom = true) :
    operand.nesting = 0 ∧ operand.reach ≤ 6 ∧ operand.fold heights ≤ 2 := by
  cases operand with
  | number => exact ⟨rfl, show 5 ≤ 6 by decide, show 1 ≤ 2 by decide⟩
  | name => exact ⟨rfl, Nat.le_refl 6, Nat.le_refl 2⟩
  | group | signed => cases atom

theorem Chain.shallow (chain : Chain) (flat : chain.isFlat = true) :
    chain.nesting = 0 ∧ chain.reach ≤ 6 := by
  cases chain with
  | done => exact ⟨rfl, by decide⟩
  | more connective after operand rest =>
    obtain ⟨atom, flat⟩ := Bool.and_eq_true_iff.1 flat
    obtain ⟨nesting, reach⟩ := rest.shallow flat
    obtain ⟨nesting_operand, reach_operand, -⟩ := Operand.shallow atom
    rw [Chain.nesting, Chain.reach]
    omega

theorem Chain.leftward_heights (chain : Chain) (flat : chain.isFlat = true) (left : Nat) :
    chain.leftward heights left ≤ max left 2 + chain.length := by
  cases chain with
  | done => exact Nat.le_max_left left 2
  | more connective after operand rest =>
    obtain ⟨atom, flat⟩ := Bool.and_eq_true_iff.1 flat
    obtain ⟨-, -, height⟩ := Operand.shallow atom
    have next := rest.leftward_heights flat (max left (operand.fold heights) + 1)
    change rest.leftward heights (max left (operand.fold heights) + 1) ≤
      max left 2 + (rest.length + 1)
    omega

theorem Expression.fits_of_isLinear {expression : Expression}
    (linear : expression.isLinear = true) :
    expression.fits .standard = true := by
  obtain ⟨first, chain⟩ := expression
  simp only [Expression.isLinear, Expression.isFlat, Bool.and_eq_true, decide_eq_true_eq] at linear
  obtain ⟨⟨⟨atom, flat⟩, ordered⟩, few⟩ := linear
  obtain ⟨nesting_first, reach_first, height_first⟩ := Operand.shallow atom
  obtain ⟨nesting, reach⟩ := chain.shallow flat
  have height : (Expression.mk first chain).fold heights ≤ 2976 := by
    change chain.total heights id (first.fold heights) ≤ 2976
    rw [chain.total_ordered heights ordered]
    have low := chain.leftward_heights flat (first.fold heights)
    omega
  have nesting : (Expression.mk first chain).nesting ≤ 200 := by rw [Expression.nesting]; omega
  have reach : (Expression.mk first chain).reach + 3 ≤ 6000 := by rw [Expression.reach]; omega
  simp [Expression.fits, Formula.allows, Formula.Limits.standard, nesting, reach, height]

/-! ## Running the code of an expression -/

section
variable {values : List Char → Int} {state : Mips.State}

theorem Operand.load_runs {operand : Operand} (atom : operand.isAtom = true)
    (whole : ∀ part ∈ operand.parts, part.isWhole = true)
    (held : ∀ name ∈ operand.names, state.memory.get? name.string = some (word (values name.chars)))
    {index : Nat} (there : index < 10) :
    (operand.load index).foldlM Mips.State.step state =
      .ok (state.write (.temporary index) (word (operand.fold (integers values)))) := by
  have target : (Mips.Register.temporary index).isWord = true := decide_eq_true there
  cases operand with
  | number literal after =>
    cases literal with
    | real digits places well => cases whole _ (List.mem_singleton_self _)
    | integer digits well =>
      obtain ⟨some_digit, digit⟩ := isDigits_iff.1 (Bool.and_eq_true_iff.1 well).1
      have read := Mips.literalWord?_digits some_digit digit
      rw [Operand.load, Literal.chars, List.foldlM_cons, Mips.step_immediate target read]
      rfl
  | name name after =>
    have found := held name (List.mem_singleton_self name)
    rw [Operand.load, List.foldlM_cons, Mips.step_load target found]
    rfl
  | group | signed => cases atom

theorem compute_join {connective : Connective}
    (whole : (Part.connective connective).isWhole = true) {m n : Int}
    (left : inWord m = true) (right : inWord n = true)
    (fits : inWord ((integers values).join connective m n) = true) :
    connective.operation.compute (word m)
    (word n) = some (word ((integers values).join connective m n)) := by
  cases connective with
  | plus => exact Mips.compute_add left right fits
  | minus => exact Mips.compute_sub left right fits
  | times => exact Mips.compute_mul m n
  | divide => cases whole

/-- The registers after a chain may be any, but for the first. -/
theorem Chain.code_runs (chain : Chain) (flat : chain.isFlat = true)
    (whole : ∀ part ∈ chain.parts, part.isWhole = true) {state : Mips.State}
    (held : ∀ name ∈ chain.names, state.memory.get? name.string = some (word (values name.chars)))
    {index : Nat} (positive : 0 < index) (there : index + chain.length ≤ 10) {left : Int}
    (first : state.registers (.temporary 0) = word left) (fits : inWord left = true)
    (steps : ∀ n ∈ chain.steps values left, inWord n = true) :
    ∃ registers, (chain.code index).foldlM Mips.State.step state =
        .ok { state with registers := registers } ∧
      registers (.temporary 0) = word (chain.leftward (integers values) left) := by
  cases chain with
  | done => exact ⟨state.registers, rfl, first⟩
  | more connective after operand rest =>
    obtain ⟨atom, flat⟩ := Bool.and_eq_true_iff.1 flat
    obtain ⟨undivided, whole⟩ := List.forall_mem_cons.1 whole
    obtain ⟨whole_operand, whole⟩ := List.forall_mem_append.1 whole
    obtain ⟨held_operand, held⟩ := List.forall_mem_append.1 held
    obtain ⟨right_fits, next_fits, steps⟩ : _ ∧ _ ∧ _ := by
      simpa only [Chain.steps, List.forall_mem_cons] using steps
    rw [Chain.length] at there
    -- The operand goes into a register of its own, the result into the first.
    have loaded := Operand.load_runs atom whole_operand held_operand (show index < 10 by omega)
    rw [Chain.code, Chain.leftward, Mips.run_append loaded]
    generalize operand.fold (integers values) = right at right_fits next_fits steps ⊢
    have target : (Mips.Register.temporary index).isWord = true := decide_eq_true (by omega)
    have other : Mips.Register.temporary 0 ≠ .temporary index := by simp; omega
    let next := (integers values).join connective left right
    let loading := state.write (.temporary index) (word right)
    let joined := loading.write (.temporary 0) (word next)
    have computes : connective.operation.compute (loading.registers (.temporary 0))
      (loading.registers (.temporary index)) =
        some (word next) := by
      rw [Mips.write_of_ne other, Mips.write_self, first]
      exact compute_join undivided fits right_fits next_fits
    have computed :
      loading.step
        (.compute .word connective.operation (.temporary 0) (.temporary 0) (.temporary index)) =
        .ok joined := Mips.step_compute rfl rfl target computes
    have kept : ∀ name ∈ rest.names, joined.memory.get? name.string =
      some (word (values name.chars)) := held
    have result : joined.registers (.temporary 0) = word next := Mips.write_self ..
    obtain ⟨registers, run, result⟩ :=
      rest.code_runs flat whole kept (Nat.succ_pos index) (by omega) result next_fits steps
    refine ⟨registers, ?_, result⟩
    rw [Mips.run_cons computed]
    exact run

theorem Chain.leftward_fits (chain : Chain) {left : Int} (fits : inWord left = true)
    (steps : ∀ n ∈ chain.steps values left, inWord n = true) :
    inWord (chain.leftward (integers values) left) = true := by
  cases chain with
  | done => exact fits
  | more connective after operand rest =>
    obtain ⟨-, next_fits, steps⟩ : _ ∧ _ ∧ _ := by
      simpa only [Chain.steps, List.forall_mem_cons] using steps
    exact rest.leftward_fits next_fits steps

/-- The code of an expression leaves its value in the first register. -/
theorem Expression.code_runs (expression : Expression) (linear : expression.isLinear = true)
    (whole : expression.isWhole = true)
    (held : ∀ name ∈ expression.names, state.memory.get? name.string =
      some (word (values name.chars)))
    (steps : ∀ n ∈ expression.steps values, inWord n = true) :
    ∃ registers, expression.code.foldlM Mips.State.step state =
        .ok { state with registers := registers } ∧
      registers (.temporary 0) = word (expression.value values) ∧
        inWord (expression.value values) = true := by
  obtain ⟨first, chain⟩ := expression
  simp only [Expression.isLinear, Expression.isFlat, Bool.and_eq_true, decide_eq_true_eq] at linear
  obtain ⟨⟨⟨atom, flat⟩, ordered⟩, few⟩ := linear
  obtain ⟨whole_first, whole⟩ := List.forall_mem_append.1 (List.all_eq_true.1 whole)
  obtain ⟨held_first, held⟩ := List.forall_mem_append.1 held
  obtain ⟨fits, steps⟩ := List.forall_mem_cons.1 steps
  have loaded := Operand.load_runs atom whole_first held_first (show 0 < 10 by decide)
  let loading := state.write (.temporary 0) (word (first.fold (integers values)))
  have kept : ∀ name ∈ chain.names, loading.memory.get? name.string =
    some (word (values name.chars)) := held
  obtain ⟨registers, run, result⟩ :=
    chain.code_runs flat whole kept Nat.zero_lt_one (by omega) (Mips.write_self ..) fits steps
  -- From left to right is the same order, since no product stands behind a sum.
  have value : Expression.value values (.mk first chain) =
    chain.leftward (integers values) (first.fold (integers values)) :=
    chain.total_ordered _ ordered _
  refine ⟨registers, ?_, ?_, ?_⟩
  · rw [Expression.code, Mips.run_append loaded]
    exact run
  · rw [result, value]
  · rw [value]
    exact chain.leftward_fits fits steps

end

/-! ## Reading the code back -/

theorem isPlain_of_word {chars : List Char} (word : Line.Word chars) :
    Mips.isPlain chars = true := by
  refine Mips.isPlain_iff.2 ⟨word.1, fun c member => ?_⟩
  have letter := word.2 c member
  have other : ∀ d, Text.isWord d = false → c ≠ d := by
    rintro d unworded rfl
    rw [letter] at unworded
    cases unworded
  have blank := other ' ' (by decide)
  have comma := other ',' (by decide)
  have newline := other '\n' (by decide)
  simp [Mips.separates, blank, comma, newline]

theorem Operand.isPlain_load {operand : Operand} (atom : operand.isAtom = true)
    (whole : ∀ part ∈ operand.parts, part.isWhole = true) {index : Nat} (there : index < 10) :
    ∀ instruction ∈ operand.load index, instruction.isPlain = true := by
  have target : (Mips.Register.temporary index).isWord = true := decide_eq_true there
  cases operand with
  | number literal after =>
    cases literal with
    | real digits places well => cases whole _ (List.mem_singleton_self _)
    | integer digits well =>
      have plain := isPlain_of_word (word_of_isDigits (Bool.and_eq_true_iff.1 well).1)
      simp [Operand.load, Mips.Instruction.isPlain, target, Literal.chars, plain]
  | name name after =>
    have plain := isPlain_of_word (Program.word_of_name name)
    simp [Operand.load, Mips.Instruction.isPlain, target, Name.string, plain]
  | group | signed => cases atom

theorem Chain.isPlain_code (chain : Chain) (flat : chain.isFlat = true)
    (whole : ∀ part ∈ chain.parts, part.isWhole = true) {index : Nat}
    (there : index + chain.length ≤ 10) :
    ∀ instruction ∈ chain.code index, instruction.isPlain = true := by
  cases chain with
  | done => exact List.forall_mem_nil _
  | more connective after operand rest =>
    obtain ⟨atom, flat⟩ := Bool.and_eq_true_iff.1 flat
    obtain ⟨-, whole⟩ := List.forall_mem_cons.1 whole
    obtain ⟨whole_operand, whole⟩ := List.forall_mem_append.1 whole
    rw [Chain.length] at there
    have target : (Mips.Register.temporary index).isWord = true := decide_eq_true (by omega)
    refine List.forall_mem_append.2 ⟨Operand.isPlain_load atom whole_operand (by omega),
      List.forall_mem_cons.2 ⟨?_, ?_⟩⟩
    · exact target
    · exact rest.isPlain_code flat whole (by omega)

theorem Expression.isPlain_code {expression : Expression} (linear : expression.isLinear = true)
    (whole : expression.isWhole = true) :
    ∀ instruction ∈ expression.code, instruction.isPlain = true := by
  obtain ⟨first, chain⟩ := expression
  simp only [Expression.isLinear, Expression.isFlat, Bool.and_eq_true, decide_eq_true_eq] at linear
  obtain ⟨⟨⟨atom, flat⟩, -⟩, few⟩ := linear
  obtain ⟨whole_first, whole⟩ := List.forall_mem_append.1 (List.all_eq_true.1 whole)
  exact List.forall_mem_append.2
    ⟨Operand.isPlain_load atom whole_first (by decide), chain.isPlain_code flat whole (by omega)⟩

end Arithmetic

end Workbench
