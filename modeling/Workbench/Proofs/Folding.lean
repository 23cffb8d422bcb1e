import Workbench.Proofs.Linear
import Workbench.Proofs.Listing

/-! What the code of an expression computes.

The operands are joined from left to right, whatever the operators are. The running value stays in
register zero, and each operand is loaded into a register of its own before it is joined, so that
nothing is stored until all operands have been read. What literals stand for and what the operations
do is left to the processor, which has registers for any number of operands.
-/

set_option autoImplicit false

namespace Workbench.Mips

/-! ## Reading lines -/

/-- A register by its name: one of any number of temporary or floating ones. -/
def Register.ofText? : List Char → Option Register
  | '$' :: bank :: digits =>
    if !Arithmetic.isDigits digits then none
    else if bank = 't' then some (.temporary (Nat.ofDigitChars 10 digits 0))
    else if bank = 'f' then some (.floating (Nat.ofDigitChars 10 digits 0))
    else none
  | _ => none

def Instruction.mnemonic : Instruction → String
  | immediate .word .. => "li"
  | immediate .single .. => "li.s"
  | load .word .. => "lw"
  | load .single .. => "l.s"
  | store .word .. => "sw"
  | store .single .. => "s.s"
  | compute .word operation .. => operation.name
  | compute .single operation .. => operation.name ++ ".s"
  | syscall => "syscall"

def transfers (register : Register) (text : String) : List Instruction :=
  [Precision.word, .single].flatMap fun precision =>
    [.immediate precision register text, .load precision register text,
      .store precision register text]

def computations (target left right : Register) : List Instruction :=
  [Precision.word, .single].flatMap fun precision =>
    [Operation.add, .sub, .mul, .div].map fun operation =>
      .compute precision operation target left right

def choose? (mnemonic : String) (instructions : List Instruction) : Option Instruction :=
  instructions.find? fun instruction => instruction.mnemonic == mnemonic

def Instruction.ofFields? : List (List Char) → Option Instruction
  | [mnemonic, register, text] => do
    let register ← Register.ofText? register
    choose? (String.ofList mnemonic) (transfers register (String.ofList text))
  | [mnemonic, target, left, right] => do
    let target ← Register.ofText? target
    let left ← Register.ofText? left
    let right ← Register.ofText? right
    choose? (String.ofList mnemonic) (computations target left right)
  | _ => none

def Instruction.ofLine? (line : String) : Option Instruction := ofFields? (wordsOf line.toList)

def Register.isNumbered : Register → Bool
  | temporary _ | floating _ => true
  | argument | value | named _ => false

theorem Register.toList_temporary (index : Nat) :
    (temporary index).name.toList = '$' :: 't' :: Nat.toDigits 10 index := by simp [name]

theorem Register.toList_floating (index : Nat) :
    (floating index).name.toList = '$' :: 'f' :: Nat.toDigits 10 index := by simp [name]

theorem Register.read_numbered {register : Register} (numbered : register.isNumbered = true) :
    Mips.isPlain register.name.toList = true ∧ ofText? register.name.toList = some register := by
  have digits (index : Nat) := Arithmetic.toDigits_isDigits index
  have plain (bank : Char) (index : Nat) (separate : separates bank = false ∧ bank ≠ '\n') :
      Mips.isPlain ('$' :: bank :: Nat.toDigits 10 index) = true := by
    refine isPlain_iff.2 ⟨List.cons_ne_nil _ _, ?_⟩
    refine List.forall_mem_cons.2 ⟨by decide, List.forall_mem_cons.2 ⟨separate, fun c member => ?_⟩⟩
    exact (isPlain_iff.1 (Arithmetic.isPlain_of_word (word_of_isDigits (digits index)))).2 c member
  cases register with
  | temporary index =>
    rw [toList_temporary]
    exact ⟨plain 't' index (by decide), by simp [ofText?, digits, Nat.ofDigitChars_ten_toDigits]⟩
  | floating index =>
    rw [toList_floating]
    exact ⟨plain 'f' index (by decide), by simp [ofText?, digits, Nat.ofDigitChars_ten_toDigits]⟩
  | argument | value | named => cases numbered

/-- An instruction whose line says all of it. -/
def Instruction.isLegible : Instruction → Bool
  | immediate _ register text | load _ register text | store _ register text =>
    register.isNumbered && Mips.isPlain text.toList
  | compute _ _ target left right => target.isNumbered && left.isNumbered && right.isNumbered
  | syscall => false

def Instruction.arguments : Instruction → List (List Char)
  | immediate _ register text | load _ register text | store _ register text =>
    [register.name.toList, text.toList]
  | compute _ _ target left right => [target.name.toList, left.name.toList, right.name.toList]
  | syscall => []

theorem Instruction.render_arguments (body : Instruction) :
    body.render.toList = lineText (body.mnemonic.toList :: body.arguments) := by
  cases body with
  | syscall => rfl
  | immediate precision | load precision | store precision | compute precision =>
    cases precision <;>
      simp [render, mnemonic, arguments, lineText, operandText, List.intercalate_cons_cons]

section
variable {body : Instruction} (legible : body.isLegible = true)
include legible

theorem Instruction.isPlain_arguments :
    Mips.isPlain body.mnemonic.toList = true ∧
      ∀ word ∈ body.arguments, Mips.isPlain word = true := by
  cases body with
  | syscall => cases legible
  | immediate precision | load precision | store precision =>
    obtain ⟨numbered, plain⟩ := Bool.and_eq_true_iff.1 legible
    refine ⟨by cases precision <;> simp only [mnemonic] <;> decide, ?_⟩
    simp [arguments, (Register.read_numbered numbered).1, plain]
  | compute precision operation target left right =>
    simp only [isLegible, Bool.and_eq_true] at legible
    obtain ⟨⟨target_numbered, left_numbered⟩, right_numbered⟩ := legible
    refine ⟨by cases precision <;> cases operation <;> simp only [mnemonic] <;> decide, ?_⟩
    simp [arguments, (Register.read_numbered target_numbered).1,
      (Register.read_numbered left_numbered).1, (Register.read_numbered right_numbered).1]

theorem Instruction.ofFields?_arguments :
    ofFields? (body.mnemonic.toList :: body.arguments) = some body := by
  cases body with
  | syscall => cases legible
  | immediate precision target text | load precision target text | store precision target text =>
    have known := (Register.read_numbered (Bool.and_eq_true_iff.1 legible).1).2
    simp only [arguments, ofFields?, known, String.ofList_toList, Option.bind_eq_bind,
      Option.bind_some]
    cases precision <;> simp [choose?, transfers, mnemonic]
  | compute precision operation target left right =>
    simp only [isLegible, Bool.and_eq_true] at legible
    obtain ⟨⟨target_numbered, left_numbered⟩, right_numbered⟩ := legible
    simp only [arguments, ofFields?, (Register.read_numbered target_numbered).2,
      (Register.read_numbered left_numbered).2, (Register.read_numbered right_numbered).2,
      String.ofList_toList, Option.bind_eq_bind, Option.bind_some]
    cases precision <;> cases operation <;> simp [choose?, computations, mnemonic, Operation.name]

theorem Instruction.ofLine?_render : ofLine? (Item.instruction body).render = some body := by
  obtain ⟨plain_mnemonic, plain⟩ := isPlain_arguments legible
  rw [ofLine?, Item.render, String.toList_append, body.render_arguments,
    (wordsOf_lineText plain_mnemonic plain).1]
  exact ofFields?_arguments legible

end

/-! ## Operands -/

/-- Word characters that do not all count as digits. -/
def isLabel (chars : List Char) : Bool := chars.all Text.isWord && !chars.all Text.isDigit

def isNumeral (chars : List Char) : Bool :=
  !chars.isEmpty && chars.all fun c => Text.isDigit c || c == '.'

structure Label where
  chars : List Char
  well : isLabel chars = true

def Label.string (label : Label) : String := String.ofList label.chars

structure Numeral where
  chars : List Char
  well : isNumeral chars = true

inductive Operand where
  | label (name : Label)
  | literal (numeral : Numeral)

def Operand.chars : Operand → List Char
  | .label name => name.chars
  | .literal numeral => numeral.chars

structure Piece where
  before : List Char
  operand : Operand
  after : List Char
  blank_before : before.all Text.isBlank = true
  blank_after : after.all Text.isBlank = true

def Piece.text (piece : Piece) : String :=
  String.ofList (piece.before ++ (piece.operand.chars ++ piece.after))

def Operand.load (precision : Precision) (target : Register) : Operand → Instruction
  | .label name => .load precision target name.string
  | .literal numeral => .immediate precision target (String.ofList numeral.chars)

/-- Operands are written with word characters and points. -/
theorem Operand.marked (operand : Operand) :
    operand.chars ≠ [] ∧ ∀ c ∈ operand.chars, Text.isWord c = true ∨ c = '.' := by
  cases operand with
  | label name =>
    obtain ⟨word, undigited⟩ := Bool.and_eq_true_iff.1 name.well
    refine ⟨?_, fun c member => Or.inl (List.all_eq_true.1 word c member)⟩
    intro none
    rw [show name.chars = [] from none] at undigited
    cases undigited
  | literal numeral =>
    obtain ⟨some_char, mark⟩ := Bool.and_eq_true_iff.1 numeral.well
    refine ⟨by simpa [chars] using some_char, fun c member => ?_⟩
    rcases Bool.or_eq_true_iff.1 (List.all_eq_true.1 mark c member) with digit | point
    · exact Or.inl (by simp [Text.isWord, digit])
    · exact Or.inr (beq_iff_eq.1 point)

theorem Operand.isPlain_chars (operand : Operand) : Mips.isPlain operand.chars = true := by
  obtain ⟨some_char, marked⟩ := operand.marked
  refine isPlain_iff.2 ⟨some_char, fun c member => ?_⟩
  rcases marked c member with word | rfl
  · have alone : Line.Word [c] := ⟨List.cons_ne_nil _ _, List.forall_mem_singleton.2 word⟩
    exact (isPlain_iff.1 (Arithmetic.isPlain_of_word alone)).2 c (List.mem_singleton_self c)
  · decide

theorem Piece.trimmed_text (piece : Piece) :
    trimmed piece.text = String.ofList piece.operand.chars := by
  have solid : ∀ c ∈ piece.operand.chars, Text.isBlank c = false := by
    intro c member
    rcases piece.operand.marked.2 c member with word | rfl
    · exact Line.not_isBlank_of_isWord word
    · decide
  rw [trimmed, text, String.toList_ofList,
    Arithmetic.trim_blanks (List.all_eq_true.1 piece.blank_before),
    Arithmetic.trim_solid solid (List.all_eq_true.1 piece.blank_after)]

theorem Operand.loadOperand_chars (precision : Precision) (operand : Operand) (target : Register) :
    loadOperand precision (String.ofList operand.chars) target = operand.load precision target := by
  cases operand with
  | label name =>
    obtain ⟨word, undigited⟩ := Bool.and_eq_true_iff.1 name.well
    have pointless : '.' ∉ name.chars :=
      fun member => absurd (List.all_eq_true.1 word _ member) (by decide)
    rw [Bool.not_eq_true'] at undigited
    simp [loadOperand, isLiteral, load, Label.string, chars, pointless, undigited]
  | literal numeral =>
    obtain ⟨some_char, mark⟩ := Bool.and_eq_true_iff.1 numeral.well
    have literal : isLiteral numeral.chars = true := by
      by_cases point : '.' ∈ numeral.chars
      · simp [isLiteral, point]
      · have digits : numeral.chars.all Text.isDigit = true := by
          refine List.all_eq_true.2 fun c member => ?_
          rcases Bool.or_eq_true_iff.1 (List.all_eq_true.1 mark c member) with digit | same
          · exact digit
          · exact absurd (beq_iff_eq.1 same ▸ member) point
        rw [isLiteral, some_char, digits]
        rfl
    simp [loadOperand, load, chars, literal]

theorem Piece.loadOperand_text (precision : Precision) (piece : Piece) (target : Register) :
    loadOperand precision (trimmed piece.text) target = piece.operand.load precision target := by
  rw [piece.trimmed_text, piece.operand.loadOperand_chars]

/-! ## Processors -/

/-- What literals stand for and what the operations do, for words and for numbers. -/
structure Processor (V : Type) where
  literal : Precision → String → V
  compute : Precision → Operation → V → V → V

/-- Registers and memory, which is known by labels. -/
structure Core (V : Type) where
  registers : Register → V
  memory : String → V

variable {V : Type}

def Core.write (core : Core V) (target : Register) (value : V) : Core V :=
  { core with registers := Function.update core.registers target value }

def Register.holds : Precision → Register → Bool
  | .word, temporary _ | .single, floating _ => true
  | _, _ => false

namespace Processor

variable (processor : Processor V)

def step (core : Core V) : Instruction → Option (Core V)
  | .immediate precision target literal =>
    if target.holds precision then some (core.write target (processor.literal precision literal))
      else none
  | .load precision target label =>
    if target.holds precision then some (core.write target (core.memory label)) else none
  | .store precision source label =>
    if source.holds precision then
      some { core with memory := Function.update core.memory label (core.registers source) }
    else none
  | .compute precision operation target left right =>
    if target.holds precision && left.holds precision && right.holds precision then
      some
        (core.write target
          (processor.compute precision operation (core.registers left) (core.registers right)))
    else none
  | .syscall => none

def stepLine (core : Core V) (line : String) : Option (Core V) :=
  (Instruction.ofLine? line).bind (processor.step core)

def run (lines : List String) (core : Core V) : Option (Core V) :=
  lines.foldlM processor.stepLine core

theorem run_render {code : List Instruction} (legible : ∀ body ∈ code, body.isLegible = true)
    (core : Core V) :
    processor.run (code.map fun body => (Item.instruction body).render) core =
      code.foldlM processor.step core := by
  induction code generalizing core with
  | nil => rfl
  | cons body code ih =>
    obtain ⟨first, legible⟩ := List.forall_mem_cons.1 legible
    rw [run, List.map_cons, List.foldlM_cons, List.foldlM_cons, stepLine,
      Instruction.ofLine?_render first, Option.bind_some]
    cases processor.step core body with
    | none => rfl
    | some next => exact ih legible next

end Processor

def Operand.value (processor : Processor V) (precision : Precision) (memory : String → V) :
    Operand → V
  | .label name => memory name.string
  | .literal numeral => processor.literal precision (String.ofList numeral.chars)

theorem holds_register (precision : Precision) (index : Nat) :
    (register precision index).holds precision = true := by
  cases precision <;> rfl

theorem isNumbered_register (precision : Precision) (index : Nat) :
    (register precision index).isNumbered = true := by
  cases precision <;> rfl

theorem register_ne_zero (precision : Precision) {index : Nat} (positive : 0 < index) :
    register precision 0 ≠ register precision index := by
  cases precision <;> simp [register, Nat.ne_of_lt positive]

theorem Processor.step_load (processor : Processor V) (core : Core V)
    (precision : Precision) (index : Nat)
    (operand : Operand) : processor.step core (operand.load precision (register precision index)) =
      some
        (core.write (register precision index)
          (operand.value processor precision core.memory)) := by
  cases operand <;> exact if_pos (holds_register precision index)

/-! ## Runs -/

/-- Operands and operators as the code takes them. -/
def joined (steps : List (Piece × Operation)) : List (String × Operation) :=
  steps.map fun step => (step.1.text, step.2)

/-- The value of some operands joined to a first one, from left to right. -/
def leftFold (processor : Processor V) (precision : Precision) (memory : String → V) (first : V)
    (steps : List (Piece × Operation)) : V :=
  steps.foldl (fun value step =>
    processor.compute precision step.2 value (step.1.operand.value processor precision memory))
      first

/-- Register zero holds the running value. The registers above it may be any, and memory is only
read. -/
theorem joinCode_runs (processor : Processor V) (precision : Precision) {index : Nat}
    (positive : 0 < index) (steps : List (Piece × Operation)) (core : Core V) :
    ∃ registers, (joinCode precision index (joined steps)).foldlM processor.step core =
      some { core with registers } ∧
      registers (register precision 0) =
        leftFold processor precision core.memory (core.registers (register precision 0)) steps := by
  induction steps generalizing index core with
  | nil => exact ⟨core.registers, rfl, rfl⟩
  | cons step steps ih =>
    obtain ⟨piece, operation⟩ := step
    let right := piece.operand.value processor precision core.memory
    let loaded := core.write (register precision index) right
    let value := processor.compute precision operation (core.registers (register precision 0)) right
    have other := register_ne_zero precision positive
    have loads : processor.step core
      (loadOperand precision (trimmed piece.text) (register precision index)) =
        some loaded := by rw [piece.loadOperand_text, processor.step_load]
    have computes : processor.step loaded
        (.compute precision operation (register precision 0) (register precision 0)
          (register precision index)) =
        some (loaded.write (register precision 0) value) := by
      simp [Processor.step, holds_register, loaded, value, Core.write, Function.update_of_ne other]
    -- The next operand goes one register further, and the memory is the one at the start.
    obtain ⟨registers, rest, result⟩ :=
      ih (Nat.succ_pos index) (loaded.write (register precision 0) value)
    refine ⟨registers, ?_, ?_⟩
    · rw [joined, List.map_cons, joinCode, List.foldlM_cons, loads, Option.bind_eq_bind,
        Option.bind_some, List.foldlM_cons, computes]
      exact rest
    · rw [result]
      simp [leftFold, loaded, value, right, Core.write]

theorem foldCode_runs (processor : Processor V) (precision : Precision) (first : Piece)
    (steps : List (Piece × Operation)) (label : String) (core : Core V) :
    ∃ registers, (foldCode precision first.text (joined steps) label).foldlM processor.step core =
      some ⟨registers, Function.update core.memory label
        (leftFold processor precision core.memory
          (first.operand.value processor precision core.memory) steps)⟩ := by
  let left := first.operand.value processor precision core.memory
  have loads : processor.step core
    (loadOperand precision (trimmed first.text) (register precision 0)) =
      some (core.write (register precision 0) left) := by
        rw [first.loadOperand_text, processor.step_load]
  obtain ⟨registers, joins, result⟩ :=
    joinCode_runs processor precision Nat.zero_lt_one steps (core.write (register precision 0) left)
  refine ⟨registers, ?_⟩
  rw [foldCode, List.foldlM_cons, loads, Option.bind_eq_bind, Option.bind_some,
    List.foldlM_append, joins]
  simp [Processor.step, holds_register, result, Core.write, left]

theorem isLegible_loadOperand (precision : Precision) (piece : Piece) (index : Nat) :
    (loadOperand precision (trimmed piece.text) (register precision index)).isLegible = true := by
  have plain := piece.operand.isPlain_chars
  rw [piece.loadOperand_text]
  cases operand : piece.operand <;>
    simpa [Operand.load, Instruction.isLegible, isNumbered_register, Label.string, operand,
      Operand.chars] using plain

/-- The lines for some operands and operators store the left fold of the operands under a label and
change no other place of memory, whatever is in the registers before. The label may be one of the
operands: all of them are read as they were at the start. -/
theorem left_fold_stored (processor : Processor V) (precision : Precision) (first : Piece)
    (others : List Piece)
    (operators : List Operation) (paired : others.length = operators.length) (target : Label)
    (core : Core V) :
    let emission :=
      computeInto precision ((first :: others).map Piece.text)
        (operators.map Operation.sign) target.string
    let value := (others.zip operators).foldl (fun value step =>
      processor.compute precision step.2 value
        (step.1.operand.value processor precision core.memory))
      (first.operand.value processor precision core.memory)
    emission.error = none ∧ ∃ registers, processor.run (emission.items.map Item.render) core =
      some ⟨registers, Function.update core.memory target.string value⟩ := by
  intro emission value
  let steps := others.zip operators
  have operands : (joined steps).map Prod.fst = others.map Piece.text := by
    conv_rhs => rw [← List.map_fst_zip (Nat.le_of_eq paired)]
    simp [joined, steps, Function.comp_def]
  have signs : ((joined steps).map fun step => step.2.sign) = operators.map Operation.sign := by
    conv_rhs => rw [← List.map_snd_zip (Nat.le_of_eq paired.symm)]
    simp [joined, steps, Function.comp_def]
  have code : emission =
      .ofInstructions (foldCode precision first.text (joined steps) target.string) := by
    rw [← computeInto_eq, operands, signs]
    rfl
  -- Every line says all of its instruction, so that the text runs as the code does.
  have legible : ∀ body ∈ foldCode precision first.text (joined steps) target.string,
      body.isLegible = true := by
    refine forall_foldCode (fun operation index => ?_) ?_ ?_
    · simp [Instruction.isLegible, isNumbered_register]
    · rw [operands, ← List.map_cons]
      exact List.forall_mem_map.2 fun piece _ => isLegible_loadOperand precision piece
    · have plain := (Operand.label target).isPlain_chars
      simpa [Instruction.isLegible, isNumbered_register, Label.string, Operand.chars] using plain
  rw [code]
  refine ⟨rfl, ?_⟩
  rw [Emission.ofInstructions, List.map_map]
  obtain ⟨registers, run⟩ := foldCode_runs processor precision first steps target.string core
  exact ⟨registers, (processor.run_render legible core).trans run⟩

def integers : Processor Int where
  literal _ text := Nat.ofDigitChars 10 text.toList 0
  compute _ operation left right :=
    match operation with
    | .add => left + right
    | .sub => left - right
    | .mul => left * right
    | .div => left / right

theorem left_fold_stored_own_operand :
    let memory : String → Int := fun label => if label = "a" then 10 else 3
    let emission := computeInto .word [" a", "2 ", "b"] ["-", "*"] "a"
    emission.error = none ∧
      ∃ registers, integers.run (emission.items.map Item.render) ⟨fun _ => 7, memory⟩ =
      some ⟨registers, Function.update memory "a" 24⟩ := by
  intro memory emission
  have stored :=
    left_fold_stored integers .word ⟨[' '], .label ⟨['a'], by decide⟩, [], by decide, by decide⟩
    [⟨[], .literal ⟨['2'], by decide⟩, [' '], by decide, by decide⟩,
      ⟨[], .label ⟨['b'], by decide⟩, [], by decide, by decide⟩]
    [.sub, .mul] rfl ⟨['a'], by decide⟩ ⟨fun _ => 7, memory⟩
  have value : (memory "a" - 2) * memory "b" = 24 := by decide
  rw [← value]
  exact stored

end Workbench.Mips
