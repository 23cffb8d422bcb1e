import Mathlib.Logic.Function.Basic
import Workbench.Proofs.Assembler
import Workbench.Table

/-! A machine for the code of integers.

Its memory is words that are known by their labels. Sums and differences that do not fit a word
trap, of a product the low half is kept. Whatever the machine does not have traps as well.
-/

set_option autoImplicit false

namespace Workbench.Mips

abbrev Word := BitVec 32

structure State where
  registers : Register → Word := fun _ => 0
  memory : Table Word := {}
  printed : List Int := []

inductive Halt where
  | exit (printed : List Int)
  | trap
  deriving DecidableEq, Repr

namespace State

def write (state : State) (target : Register) (word : Word) : State :=
  { state with registers := Function.update state.registers target word }

def set (state : State) (target : Register) (word : Word) : Except Halt State :=
  if target.isWord then pure (state.write target word) else throw .trap

def get (state : State) (source : Register) : Except Halt Word :=
  if source.isWord then pure (state.registers source) else throw .trap

end State

def literalWord? (literal : String) : Option Word :=
  let digits := literal.toList
  if !digits.isEmpty && digits.all Char.isDigit then
    some (BitVec.ofNat 32 (Nat.ofDigitChars 10 digits 0)) else none

def Operation.compute (left right : Word) : Operation → Option Word
  | add => if left.saddOverflow right then none else some (left + right)
  | sub => if left.ssubOverflow right then none else some (left - right)
  | mul => some (left * right)
  | div => if right = 0 then none else some (left.sdiv right)

def State.step (state : State) : Instruction → Except Halt State
  | .immediate .word target literal => (literalWord? literal).elim (throw .trap) (state.set target)
  | .load .word target label => (state.memory.get? label).elim (throw .trap) (state.set target)
  | .store .word source label => do
    let word ← state.get source
    if state.memory.contains label then pure { state with memory := state.memory.put label word }
      else throw .trap
  | .compute .word operation target left right => do
    let first ← state.get left
    let second ← state.get right
    (operation.compute first second).elim (throw .trap) (state.set target)
  | .syscall =>
    if state.registers .value = 1 then
      pure { state with printed := state.printed ++ [(state.registers .argument).toInt] }
    else if state.registers .value = 10 then throw (.exit state.printed)
    else throw .trap
  | .immediate .single .. | .load .single .. | .store .single .. | .compute .single .. =>
    throw .trap

def Item.label? : Item → Option String
  | word label | float label _ => some label
  | entryPoint => some "main"
  | dataSection | textSection | instruction _ => none

def Item.cell? : Item → Option String
  | word label => some label
  | dataSection | float .. | textSection | entryPoint | instruction _ => none

def Item.instruction? : Item → Option Instruction
  | instruction body => some body
  | dataSection | word _ | float .. | textSection | entryPoint => none

/-- The machine before it runs: all words are zero. -/
def State.start (items : List Item) : State where
  memory := ⟨(items.filterMap Item.cell?).map fun label => (label, 0)⟩

/-- What is printed, if no label stands twice and the code runs to its exit. -/
def run (items : List Item) : Option (List Int) :=
  if (items.filterMap Item.label?).Nodup then
    match (items.filterMap Item.instruction?).foldlM State.step (.start items) with
    | .error (.exit printed) => some printed
    | .error .trap | .ok _ => none
  else none

def execute (text : String) : Option (List Int) := (assemble text).bind run

theorem start_memory {items : List Item} {label : String}
    (listed : label ∈ items.filterMap Item.cell?) :
    (State.start items).memory.get? label = some 0 := by
  change List.lookup label ((items.filterMap Item.cell?).map fun label => (label, 0)) = some 0
  generalize items.filterMap Item.cell? = labels at listed
  induction labels with
  | nil => cases listed
  | cons first rest ih =>
    rw [List.map_cons, List.lookup_cons]
    split
    · rfl
    case h_2 unlike =>
      exact ih ((List.mem_cons.1 listed).resolve_left (beq_eq_false_iff_ne.1 unlike))

/-! ## Steps -/

section
variable {state : State}

theorem run_cons {instruction : Instruction} {next : State}
    (stepped : state.step instruction = .ok next)
    (rest : List Instruction) :
    (instruction :: rest).foldlM State.step state = rest.foldlM State.step next := by
  rw [List.foldlM_cons, stepped]
  rfl

theorem run_append {front : List Instruction} {next : State}
    (run : front.foldlM State.step state = .ok next)
    (rest : List Instruction) :
    (front ++ rest).foldlM State.step state = rest.foldlM State.step next := by
  rw [List.foldlM_append, run]
  rfl

theorem write_self (target : Register) (word : Word) :
    (state.write target word).registers target = word :=
  Function.update_self ..

theorem write_of_ne {source target : Register} (other : source ≠ target) (word : Word) :
    (state.write target word).registers source = state.registers source :=
  Function.update_of_ne other ..

theorem step_immediate {target : Register} (there : target.isWord = true)
    {literal : String} {word : Word} (read : literalWord? literal = some word) :
    state.step (.immediate .word target literal) = .ok (state.write target word) := by
  simp only [State.step, read, Option.elim_some, State.set, there, if_true]
  rfl

theorem step_load {target : Register} (there : target.isWord = true) {label : String} {word : Word}
    (found : state.memory.get? label = some word) :
    state.step (.load .word target label) = .ok (state.write target word) := by
  simp only [State.step, found, Option.elim_some, State.set, there, if_true]
  rfl

theorem step_compute {operation : Operation} {target left right : Register}
    (there : target.isWord = true)
    (left_there : left.isWord = true) (right_there : right.isWord = true) {word : Word}
    (computed : operation.compute (state.registers left) (state.registers right) = some word) :
    state.step (.compute .word operation target left right) = .ok (state.write target word) := by
  simp only [State.step, State.get, left_there, right_there, if_true, pure_bind, computed,
    Option.elim_some, State.set, there]
  rfl

theorem step_store {source : Register} (there : source.isWord = true) {label : String}
    (known : state.memory.contains label = true) : state.step (.store .word source label) =
      .ok { state with memory := state.memory.put label (state.registers source) } := by
  simp only [State.step, State.get, there, if_true, pure_bind, known]
  rfl

end

/-! ## Integers in words -/

def inWord (n : Int) : Bool := -0x80000000 ≤ n && n < 0x80000000

def word (n : Int) : Word := BitVec.ofInt 32 n

theorem inWord_iff {n : Int} : inWord n = true ↔ -0x80000000 ≤ n ∧ n < 0x80000000 := by
  simp [inWord]

theorem toInt_word {n : Int} (fits : inWord n = true) : (word n).toInt = n :=
  BitVec.toInt_ofInt_eq_self (by decide) (inWord_iff.1 fits).1 (inWord_iff.1 fits).2

theorem literalWord?_digits {digits : List Char} (some_digit : digits ≠ [])
    (digit : ∀ c ∈ digits, c.isDigit = true) :
    literalWord? (String.ofList digits) = some (word (Nat.ofDigitChars 10 digits 0)) := by
  have all : digits.all Char.isDigit = true := List.all_eq_true.2 digit
  simp [literalWord?, some_digit, all, word, BitVec.ofInt_natCast]

section
variable {m n : Int} (left : inWord m = true) (right : inWord n = true)
include left right

theorem compute_add (fits : inWord (m + n) = true) :
    Operation.add.compute (word m) (word n) = some (word (m + n)) := by
  obtain ⟨low, high⟩ := inWord_iff.1 fits
  have precise : (word m).saddOverflow (word n) = false := by
    rw [BitVec.saddOverflow, toInt_word left, toInt_word right, Bool.or_eq_false_iff,
      decide_eq_false_iff_not, decide_eq_false_iff_not]
    exact ⟨by omega, by omega⟩
  rw [Operation.compute, precise, word, word, word, BitVec.ofInt_add]
  rfl

theorem compute_sub (fits : inWord (m - n) = true) :
    Operation.sub.compute (word m) (word n) = some (word (m - n)) := by
  obtain ⟨low, high⟩ := inWord_iff.1 fits
  have precise : (word m).ssubOverflow (word n) = false := by
    rw [BitVec.ssubOverflow, toInt_word left, toInt_word right, Bool.or_eq_false_iff,
      decide_eq_false_iff_not, decide_eq_false_iff_not]
    exact ⟨by omega, by omega⟩
  rw [Operation.compute, precise, word, word, word, Int.sub_eq_add_neg, BitVec.ofInt_add,
    BitVec.ofInt_neg, ← BitVec.sub_eq_add_neg]
  rfl

end

theorem compute_mul (m n : Int) :
    Operation.mul.compute (word m) (word n) = some (word (m * n)) := by
  rw [Operation.compute, word, word, word, BitVec.ofInt_mul]

end Workbench.Mips
