import Workbench.Proofs.Assembly

/-! What is generated for a text, line by line, and which words and numbers in memory it touches.

Each line that starts with a declaration gives a datum, and each assignment and print gives its
code. Nothing fails on the way: an expression has one piece more than signs, so there is an operand
for every operator.
-/

set_option autoImplicit false

namespace Workbench

namespace Mips

/-! ## Expressions -/

def Operation.sign : Operation → String
  | add => "+"
  | sub => "-"
  | mul => "*"
  | div => "/"

theorem operation?_sign (operation : Operation) : operation? operation.sign = some operation := by
  cases operation <;> rfl

def joinCode (precision : Precision) : Nat → List (String × Operation) → List Instruction
  | _, [] => []
  | index, (operand, operation) :: rest =>
    loadOperand precision (trimmed operand) (register precision index) ::
      .compute precision operation (register precision 0) (register precision 0)
        (register precision index) ::
      joinCode precision (index + 1) rest

def foldCode (precision : Precision) (first : String) (rest : List (String × Operation))
    (label : String) :
    List Instruction :=
  loadOperand precision (trimmed first) (register precision 0) ::
    (joinCode precision 1 rest ++ [.store precision (register precision 0) label])

theorem applyOperators_eq (precision : Precision) (index : Nat) (rest : List (String × Operation)) :
    applyOperators precision index (rest.map Prod.fst) (rest.map fun step => step.2.sign) =
      .ofInstructions (joinCode precision index rest) := by
  induction rest generalizing index with
  | nil => rfl
  | cons step rest ih =>
    simp only [List.map_cons, applyOperators, operation?_sign, ih]
    rfl

theorem computeInto_eq (precision : Precision) (first : String) (rest : List (String × Operation))
    (label : String) :
    computeInto precision (first :: rest.map Prod.fst) (rest.map fun step => step.2.sign) label =
      .ofInstructions (foldCode precision first rest label) := by
  rw [computeInto, applyOperators_eq]
  simp [Emission.followedBy, Emission.ofInstructions, foldCode]

section
variable {P : Instruction → Prop} {precision : Precision}
  (computes : ∀ operation index, P
    (.compute precision operation (register precision 0) (register precision 0)
    (register precision index)))
include computes

theorem forall_joinCode {steps : List (String × Operation)}
    (loads : ∀ operand ∈ steps.map Prod.fst, ∀ index,
      P (loadOperand precision (trimmed operand) (register precision index))) (index : Nat) :
    ∀ body ∈ joinCode precision index steps, P body := by
  induction steps generalizing index with
  | nil => exact List.forall_mem_nil _
  | cons step steps ih =>
    obtain ⟨load, loads⟩ := List.forall_mem_cons.1 loads
    exact List.forall_mem_cons.2 ⟨load index,
      List.forall_mem_cons.2 ⟨computes step.2 index, ih loads (index + 1)⟩⟩

/-- What holds of every load, every operation and the store holds of the code of a fold. -/
theorem forall_foldCode {first : String} {steps : List (String × Operation)} {label : String}
    (loads : ∀ operand ∈ first :: steps.map Prod.fst, ∀ index,
      P (loadOperand precision (trimmed operand) (register precision index)))
    (stores : P (.store precision (register precision 0) label)) :
    ∀ body ∈ foldCode precision first steps label, P body := by
  obtain ⟨load, loads⟩ := List.forall_mem_cons.1 loads
  exact List.forall_mem_cons.2 ⟨load 0, List.forall_mem_append.2
    ⟨forall_joinCode computes loads 1, List.forall_mem_singleton.2 stores⟩⟩

end

theorem operands_eq (expression : List Char) :
    ∃ first others, operands expression = first :: others ∧
    others.length = (operators expression).length := by
  induction expression with
  | nil => exact ⟨[], [], rfl, rfl⟩
  | cons c rest ih =>
    obtain ⟨first, others, split, paired⟩ := ih
    by_cases cuts : isOperatorSign c = true
    -- A sign starts a piece of its own, and anything else goes on with the first.
    · refine ⟨[], first :: others, by rw [operands, if_pos cuts, split], ?_⟩
      rw [operators, List.filter_cons_of_pos cuts, List.length_cons, List.length_cons, paired]
      rfl
    · refine ⟨c :: first, others, by rw [operands, if_neg cuts, split], ?_⟩
      rw [operators, List.filter_cons_of_neg cuts, paired]
      rfl

/-- The pieces have the characters of the expression, but for its signs. -/
theorem of_mem_operands {expression piece : List Char} (listed : piece ∈ operands expression) :
    ∀ c ∈ piece, c ∈ expression ∧ isOperatorSign c = false := by
  induction expression generalizing piece with
  | nil =>
    obtain rfl := List.mem_singleton.1 listed
    exact List.forall_mem_nil _
  | cons d rest ih =>
    have later {piece : List Char} (listed : piece ∈ operands rest) :
        ∀ c ∈ piece, c ∈ d :: rest ∧ isOperatorSign c = false :=
      fun c member => (ih listed c member).imp_left (List.mem_cons_of_mem d)
    obtain ⟨first, others, split, -⟩ := operands_eq rest
    rw [split] at later
    rw [operands, split] at listed
    by_cases cuts : isOperatorSign d = true
    · rw [if_pos cuts] at listed
      rcases List.mem_cons.1 listed with rfl | listed
      · exact List.forall_mem_nil _
      · exact later listed
    · rw [if_neg cuts] at listed
      rcases List.mem_cons.1 listed with rfl | listed
      · exact List.forall_mem_cons.2
          ⟨⟨List.mem_cons_self, Bool.eq_false_iff.2 cuts⟩, later List.mem_cons_self⟩
      · exact later (List.mem_cons_of_mem first listed)

def operations (expression : List Char) : List Operation :=
  (operators expression).filterMap fun sign => operation? sign.toString

theorem sign_operations (expression : List Char) :
    (operations expression).map Operation.sign = (operators expression).map Char.toString := by
  have known {sign : Char} (cuts : isOperatorSign sign = true) :
      (operation? sign.toString).map Operation.sign = some sign.toString := by
    simp only [isOperatorSign, Bool.or_eq_true, beq_iff_eq] at cuts
    rcases cuts with ((rfl | rfl) | rfl) | rfl <;> rfl
  rw [operations, List.map_filterMap, ← List.filterMap_eq_map]
  exact List.filterMap_congr fun sign member => known (List.of_mem_filter member)

def expressionCode (precision : Precision) (expression : List Char) (label : String) :
    List Instruction :=
  match (operands expression).map String.ofList with
  | [] => []
  | first :: others => foldCode precision first (others.zip (operations expression)) label

theorem expressionCode_eq (precision : Precision) (expression : List Char) (label : String) :
    ∃ first steps, (operands expression).map String.ofList = first :: steps.map Prod.fst ∧
      operations expression = steps.map Prod.snd ∧
      expressionCode precision expression label = foldCode precision first steps label := by
  obtain ⟨first, others, split, paired⟩ := operands_eq expression
  have signs := congrArg List.length (sign_operations expression)
  rw [List.length_map, List.length_map, ← paired, ← List.length_map String.ofList] at signs
  refine ⟨String.ofList first, (others.map String.ofList).zip (operations expression), ?_, ?_, ?_⟩
  · rw [split, List.map_cons, List.map_fst_zip (Nat.le_of_eq signs.symm)]
  · rw [List.map_snd_zip (Nat.le_of_eq signs)]
  · rw [expressionCode, split]
    rfl

theorem computeInto_expression (precision : Precision) (expression : List Char) (label : String) :
    computeInto precision ((operands expression).map String.ofList)
    ((operators expression).map Char.toString) label =
      .ofInstructions (expressionCode precision expression label) := by
  obtain ⟨first, steps, pieces, operations, code⟩ := expressionCode_eq precision expression label
  rw [pieces, ← sign_operations, operations, List.map_map, code, ← computeInto_eq]
  rfl

/-! ## Memory -/

/-- The label that an instruction reads from or writes to, and whether it takes a word or a number
there. -/
def Instruction.access? : Instruction → Option (String × Precision)
  | load precision _ label | store precision _ label => some (label, precision)
  | immediate .. | compute .. | syscall => none

def Item.access? : Item → Option (String × Precision)
  | instruction body => body.access?
  | dataSection | word _ | float .. | textSection | entryPoint => none

def Item.datum? : Item → Option (String × Precision)
  | word label => some (label, .word)
  | float label _ => some (label, .single)
  | dataSection | textSection | entryPoint | instruction _ => none

def data (items : List Item) : List (String × Precision) :=
  (items.takeWhile (· != .textSection)).filterMap Item.datum?

def accesses (items : List Item) : List (String × Precision) := items.filterMap Item.access?

/-- Where a literal stands nothing is touched, and anywhere else what is named there. -/
def operandAccess? (precision : Precision) (piece : List Char) : Option (String × Precision) :=
  if isLiteral (Text.trim piece) then none else some (String.ofList (Text.trim piece), precision)

theorem access?_loadOperand (precision : Precision) (operand : String) (target : Register) :
    (loadOperand precision (trimmed operand) target).access? =
      operandAccess? precision operand.toList := by
  unfold loadOperand operandAccess? trimmed
  simp only [String.toList_ofList]
  split <;> rfl

theorem access?_joinCode (precision : Precision) (index : Nat) (steps : List (String × Operation)) :
    (joinCode precision index steps).filterMap Instruction.access? =
      steps.filterMap fun step => operandAccess? precision step.1.toList := by
  induction steps generalizing index with
  | nil => rfl
  | cons step steps ih =>
    rw [joinCode, List.filterMap_cons, access?_loadOperand, List.filterMap_cons_none rfl, ih,
      List.filterMap_cons]

theorem access?_expressionCode (precision : Precision) (expression : List Char) (label : String) :
    (expressionCode precision expression label).filterMap Instruction.access? =
      (operands expression).filterMap (operandAccess? precision) ++ [(label, precision)] := by
  obtain ⟨first, steps, pieces, -, code⟩ := expressionCode_eq precision expression label
  have touched : (operands expression).filterMap (operandAccess? precision) =
      (first :: steps.map Prod.fst).filterMap fun operand =>
        operandAccess? precision operand.toList := by
    rw [← pieces, List.filterMap_map]
    exact List.filterMap_congr fun piece _ => by rw [Function.comp_apply, String.toList_ofList]
  rw [touched, List.filterMap_cons, List.filterMap_map, code, foldCode, ← List.cons_append,
    List.filterMap_append, List.filterMap_cons, access?_loadOperand, access?_joinCode]
  rfl

end Mips

/-! ## Lines -/

namespace Line

open Mips (Precision Instruction precision? expressionCode)

def definition? : Line → Option (String × Precision)
  | .initialized varType name _ | .declared varType name =>
    (precision? (String.ofList varType)).map fun precision => (String.ofList name, precision)
  | .assigned .. | .printed _ => none

def assignment? : Line → Option (List Char × List Char)
  | .initialized _ name expression | .assigned name expression => some (name, expression)
  | .declared .. | .printed _ => none

def printCode (name : List Char) : Precision → List Instruction
  | .word => [.load .word .argument (String.ofList name), .immediate .word .value "1"]
  | .single => [.load .single (.floating 12) (String.ofList name), .immediate .word .value "2"]

/-- The code of a line, given the types that are known before it. -/
def code (types : Table String) : Line → List Instruction
  | .initialized varType name expression =>
    (precision? (String.ofList varType)).elim [] fun precision =>
      expressionCode precision expression (String.ofList name)
  | .declared .. => []
  | .assigned name expression =>
    (precision? ((types.get? (String.ofList name)).getD "int")).elim [] fun precision =>
      expressionCode precision expression (String.ofList name)
  | .printed name =>
    (precision? ((types.get? (String.ofList name)).getD "unknown")).elim [] (printCode name) ++
      [.syscall]

end Line

def Record.code (types : Table String) : List Line → List Mips.Instruction
  | [] => []
  | line :: rest => line.code types ++ code (ofLine types line).2 rest

/-! ## Whole texts -/

namespace Mips

theorem Emission.reading_pure {α : Type} (value : α) (next : α → Emission) :
    reading (pure value) next = next value := rfl

def define : String × Precision → Item
  | (label, .word) => .word label
  | (label, .single) => .float label (initialText none)

theorem datum?_define (definition : String × Precision) :
    (define definition).datum? = some definition := by
  obtain ⟨label, precision⟩ := definition
  cases precision <;> rfl

theorem each_datum_ofLine (types : Table String) (line : Line) :
    each datum (Record.ofLine types line).1 = ⟨line.definition?.toList.map define, none⟩ := by
  have declared (name varType : List Char) :
    datum (.declaration (String.ofList name) (String.ofList varType)) =
      ⟨(Line.declared varType name).definition?.toList.map define, none⟩ := by
    simp only [datum, Record.declaration, Record.requireAction, Record.requireVarType,
      Record.requireName,
      Option.elim_some, Emission.reading_pure, beq_self_eq_true, if_true, Line.definition?]
    cases precision? (String.ofList varType) with
    | none => rfl
    | some precision => cases precision <;> rfl
  cases line with
  | initialized varType name expression =>
    have single :
      each datum [.assignment (String.ofList name) (String.ofList varType)
        (String.ofList expression)] =
      ⟨[], none⟩ := rfl
    rw [Record.ofLine, each, single, declared, followedBy_ok, List.append_nil]
    rfl
  | declared varType name =>
    rw [Record.ofLine, each, declared, each, followedBy_ok, List.append_nil]
  | assigned name expression => rfl
  | printed name => rfl

theorem code_assignment (varType : String) (name expression : List Char) :
    code (.assignment (String.ofList name) varType (String.ofList expression)) =
      .ofInstructions ((precision? varType).elim [] fun precision =>
        expressionCode precision expression (String.ofList name)) := by
  change assignment (.assignment (String.ofList name) varType (String.ofList expression)) = _
  simp only [assignment, Record.assignment, Record.requireExpression, Record.requireVarType,
    Record.requireName, Option.elim_some, Emission.reading_pure, String.toList_ofList]
  cases precision? varType with
  | none => rfl
  | some precision => exact computeInto_expression precision expression (String.ofList name)

theorem code_print (varType : String) (name : List Char) :
    code (.print (String.ofList name) varType) =
      .ofInstructions ((precision? varType).elim [] (Line.printCode name) ++ [.syscall]) := by
  change print (.print (String.ofList name) varType) = _
  simp only [print, printArguments, Record.print, Record.requireVarType, Record.requireName,
    Option.elim_some, Emission.reading_pure]
  cases precision? varType with
  | none => rfl
  | some precision => cases precision <;> rfl

theorem each_code_ofLine (types : Table String) (line : Line) :
    each code (Record.ofLine types line).1 = .ofInstructions (line.code types) := by
  have single {record : Record} {instructions : List Instruction}
      (generated : code record = .ofInstructions instructions) :
      each code [record] = .ofInstructions instructions := by
    rw [each, generated, each, Emission.ofInstructions, followedBy_ok, List.append_nil]
  -- The record of a declaration has no code.
  cases line with
  | initialized varType name expression =>
    exact single (code_assignment (String.ofList varType) name expression)
  | declared varType name => rfl
  | assigned name expression => exact single (code_assignment _ name expression)
  | printed name => exact single (code_print _ name)

theorem each_datum_ofStatements (types : Table String) (lines : List Line) :
    each datum (Record.ofStatements types lines) =
      ⟨(lines.filterMap Line.definition?).map define, none⟩ := by
  induction lines generalizing types with
  | nil => rfl
  | cons line rest ih =>
    rw [Record.ofStatements, each_append, each_datum_ofLine, ih, followedBy_ok, ← List.map_append]
    cases defined : line.definition? <;> simp [defined]

theorem each_code_ofStatements (types : Table String) (lines : List Line) :
    each code (Record.ofStatements types lines) = .ofInstructions (Record.code types lines) := by
  induction lines generalizing types with
  | nil => rfl
  | cons line rest ih =>
    rw [Record.ofStatements, each_append, each_code_ofLine, ih, Record.code]
    simp [Emission.followedBy, Emission.ofInstructions]

/-- Every text is generated without error: the data that its lines define, and their code. -/
theorem ofSource_eq (source : String) :
    ofSource source =
      ⟨.dataSection :: (((Line.ofSource source).filterMap Line.definition?).map define ++
      .textSection :: .entryPoint :: (Record.code {} (Line.ofSource source) ++
        [Instruction.immediate .word .value "10", .syscall]).map .instruction), none⟩ := by
  rw [ofSource, Record.ofSource_eq, generate, each_datum_ofStatements, each_code_ofStatements]
  simp [Emission.followedBy, Emission.ofInstructions]

theorem data_listed (definitions : List (String × Precision)) (rest : List Item) :
    data (.dataSection :: (definitions.map define ++ .textSection :: rest)) = definitions := by
  have before : ∀ item ∈ Item.dataSection :: definitions.map define, (item != .textSection) =
      true := by
    refine List.forall_mem_cons.2 ⟨rfl, fun item member => ?_⟩
    obtain ⟨⟨label, precision⟩, -, rfl⟩ := List.mem_map.1 member
    cases precision <;> rfl
  rw [data, ← List.cons_append, List.takeWhile_append_of_pos before,
    List.takeWhile_cons_of_neg (by decide),
    List.append_nil, List.filterMap_cons_none rfl, List.filterMap_map]
  simp [datum?_define]

theorem accesses_listed (definitions : List (String × Precision))
    (instructions : List Instruction) :
    accesses
      (.dataSection ::
        (definitions.map define ++ .textSection :: .entryPoint :: instructions.map .instruction)) =
      instructions.filterMap Instruction.access? := by
  have untouched : (definitions.map define).filterMap Item.access? = [] := by
    refine List.filterMap_eq_nil_iff.2 fun item member => ?_
    obtain ⟨⟨label, precision⟩, -, rfl⟩ := List.mem_map.1 member
    cases precision <;> rfl
  rw [accesses, List.filterMap_cons_none rfl, List.filterMap_append, untouched, List.nil_append,
    List.filterMap_cons_none rfl, List.filterMap_cons_none rfl, List.filterMap_map]
  rfl

/-- The data of a text are what its lines define, and what is touched is touched by their code. -/
theorem ofSource_generated (source : String) :
    (ofSource source).error = none ∧
      data (ofSource source).items = (Line.ofSource source).filterMap Line.definition? ∧
      accesses (ofSource source).items =
        (Record.code {} (Line.ofSource source)).filterMap Instruction.access? := by
  have ending : ([.immediate .word .value "10", .syscall] : List Instruction).filterMap
    Instruction.access? = [] := rfl
  rw [ofSource_eq]
  refine ⟨rfl, data_listed .., ?_⟩
  rw [accesses_listed, List.filterMap_append, ending, List.append_nil]

end Mips

end Workbench
