import Workbench.Proofs.Addresses
import Workbench.Proofs.Folding

/-! Which registers a listing names.

Each piece of an expression is loaded into a register of its own, numbered from zero, and nothing
keeps the numbers below those of the registers there are. So the listing of an accepted text names
only registers there are exactly if no expression has more pieces than there are registers of its
kind. Nothing else in the listing looks like a register: an accepted text has no dollars in it.
-/

set_option autoImplicit false

namespace Workbench

namespace Mips

/-! ## Names in a text -/

/-- The names of registers in a text: dollars, and the letters and digits behind them. -/
def registerNames : List Char → List String
  | [] => []
  | c :: rest =>
    if c = '$' then String.ofList (c :: rest.takeWhile Char.isAlphanum) :: registerNames rest
      else registerNames rest

theorem registerNames_append_of_clear {front : List Char} (clear : '$' ∉ front) (back : List Char) :
    registerNames (front ++ back) = registerNames back := by
  induction front with
  | nil => rfl
  | cons c front ih =>
    rw [List.mem_cons, not_or] at clear
    rw [List.cons_append, registerNames, if_neg (Ne.symm clear.1), ih clear.2]

theorem registerNames_of_clear {text : List Char} (clear : '$' ∉ text) :
    registerNames text = [] := by
  simpa [registerNames] using registerNames_append_of_clear clear []

theorem registerNames_gap (front : List Char) {c : Char} (ends : c.isAlphanum = false)
    {gap : List Char} (clear : '$' ∉ c :: gap) (back : List Char) :
    registerNames (front ++ (c :: gap ++ back)) = registerNames front ++ registerNames back := by
  induction front with
  | nil => exact registerNames_append_of_clear clear back
  | cons d front ih =>
    have name : (front ++ (c :: gap ++ back)).takeWhile Char.isAlphanum =
        front.takeWhile Char.isAlphanum := by
      rw [List.takeWhile_append, List.cons_append, List.takeWhile_cons_of_neg (by simp [ends]),
        List.append_nil]
      split
      · next whole => exact (List.takeWhile_prefix _).eq_of_length whole |>.symm
      · rfl
    rw [List.cons_append, registerNames, registerNames, name, ih]
    split <;> rfl

theorem registerNames_operandText (words : List (List Char)) :
    registerNames (operandText words) = words.flatMap registerNames := by
  induction words with
  | nil => rfl
  | cons word words ih =>
    cases words with
    | nil => simp [operandText]
    | cons next words =>
      have text : operandText (word :: next :: words) =
          word ++ ([',', ' '] ++ operandText (next :: words)) := by
        simp [operandText, List.intercalate_cons_cons]
      rw [text, registerNames_gap word (by decide) (by decide), ih]
      rfl

theorem registerNames_lineText (words : List (List Char)) :
    registerNames (lineText words) = words.flatMap registerNames := by
  match words with
  | [] => rfl
  | [word] => simp [lineText]
  | word :: next :: words =>
    have text : lineText (word :: next :: words) =
      word ++ ([' '] ++ operandText (next :: words)) := by simp [lineText]
    rw [text, registerNames_gap word (by decide) (by decide), registerNames_operandText]
    rfl

theorem registerNames_listing (items : List Item) :
    registerNames (listing items).toList = items.flatMap fun item =>
      registerNames item.render.toList := by
  induction items with
  | nil => rfl
  | cons item rest ih =>
    cases rest with
    | nil => simp [listing]
    | cons next rest =>
      have text : (listing (item :: next :: rest)).toList =
          item.render.toList ++ (['\n'] ++ (listing (next :: rest)).toList) := by
        simp [listing, String.intercalate_cons_cons]
      rw [text, registerNames_gap _ (by decide) (by decide), ih]
      rfl

/-! ## Names in code -/

/-- A register whose name is a dollar with letters and digits behind it. -/
def Register.isStandard : Register → Bool
  | temporary _ | floating _ | argument | value => true
  | named _ => false

theorem Register.registerNames_name {register : Register} (standard : register.isStandard = true) :
    registerNames register.name.toList = [register.name] := by
  have single {tail : List Char} (split : register.name.toList = '$' :: tail)
      (solid : ∀ c ∈ tail, c.isAlphanum = true) :
        registerNames register.name.toList = [register.name] := by
    have clear : '$' ∉ tail := fun member => absurd (solid _ member) (by decide)
    rw [split, registerNames, if_pos rfl, registerNames_of_clear clear,
      List.takeWhile_eq_self_iff.2 solid, ← split, String.ofList_toList]
  have numbered {bank : Char} (letter : bank.isAlphanum = true) (index : Nat) :
      ∀ c ∈ bank :: Nat.toDigits 10 index, c.isAlphanum = true := by
    refine List.forall_mem_cons.2 ⟨letter, fun c member => ?_⟩
    simp [Char.isAlphanum, Nat.isDigit_of_mem_toDigits (by decide) (by decide) member]
  cases register with
  | temporary index => exact single (toList_temporary index) (numbered (by decide) index)
  | floating index => exact single (toList_floating index) (numbered (by decide) index)
  | argument | value => decide
  | named => cases standard

def Instruction.registers : Instruction → List Register
  | immediate _ register _ | load _ register _ | store _ register _ => [register]
  | compute _ _ target left right => [target, left, right]
  | syscall => []

def Instruction.text : Instruction → List Char
  | immediate _ _ text | load _ _ text | store _ _ text => text.toList
  | compute .. | syscall => []

/-- An instruction that looks as if it named its own registers and no others. -/
structure Instruction.Clear (body : Instruction) : Prop where
  standard : ∀ register ∈ body.registers, register.isStandard = true
  clear : '$' ∉ body.text

theorem Instruction.registerNames_render {body : Instruction} (clear : body.Clear) :
    registerNames (Item.instruction body).render.toList = body.registers.map Register.name := by
  have mnemonic : '$' ∉ body.mnemonic.toList := by
    cases body with
    | syscall => decide
    | immediate precision | load precision | store precision => cases precision <;> simp [mnemonic]
    | compute precision operation =>
      cases precision <;> cases operation <;> simp [mnemonic, Operation.name]
  have arguments : body.arguments.flatMap registerNames = body.registers.map Register.name := by
    obtain ⟨standard, clear⟩ := clear
    cases body with
    | syscall => rfl
    | immediate precision register text | load precision register text | store precision register text =>
      have named :=
        Register.registerNames_name (standard register (List.mem_singleton_self register))
      have unnamed : registerNames text.toList = [] := registerNames_of_clear clear
      simp [Instruction.arguments, registers, named, unnamed]
    | compute precision operation target left right =>
      simp only [registers, List.forall_mem_cons] at standard
      simp [Instruction.arguments, registers, Register.registerNames_name standard.1,
        Register.registerNames_name standard.2.1, Register.registerNames_name standard.2.2.1]
  rw [Item.render, String.toList_append, registerNames_append_of_clear (by decide),
    render_arguments,
    registerNames_lineText, List.flatMap_cons, registerNames_of_clear mnemonic, arguments]
  rfl

def existing : List String :=
  ((List.range 10).map fun index => "$t" ++ toString index) ++
    ((List.range 32).map fun index => "$f" ++ toString index) ++ ["$a0", "$v0"]

def Register.isReal : Register → Bool
  | temporary index => index < 10
  | floating index => index < 32
  | argument | value => true
  | named _ => false

theorem Register.eq_of_name_eq {left right : Register} (left_numbered : left.isNumbered = true)
    (right_numbered : right.isNumbered = true) (equal : left.name = right.name) : left = right := by
  have read := (read_numbered left_numbered).2
  rw [equal, (read_numbered right_numbered).2] at read
  exact (Option.some.inj read).symm

theorem Register.name_mem_existing {register : Register} (standard : register.isStandard = true) :
    register.name ∈ existing ↔ register.isReal = true := by
  have listed : register.name ∈ existing ↔ (∃ index < 10, (temporary index).name = register.name) ∨
      (∃ index < 32, (floating index).name = register.name) ∨ register.name = "$a0" ∨
        register.name = "$v0" := by
    simp only [existing, List.mem_append, List.mem_map, List.mem_range, List.mem_cons,
      List.not_mem_nil, or_false, or_assoc, name]
  -- The two registers without a number cannot be confused with those that have one.
  have unlike (numbered : register.isNumbered = true) : ¬(register.name = "$a0" ∨
      register.name = "$v0") := by
    have read := (read_numbered numbered).2
    rintro (equal | equal) <;> rw [equal] at read <;> cases read
  rw [listed]
  cases register with
  | argument | value => exact iff_of_true (by simp [name]) rfl
  | named => cases standard
  | temporary index =>
    rw [isReal, decide_eq_true_iff]
    refine ⟨?_, fun small => Or.inl ⟨index, small, rfl⟩⟩
    rintro (⟨other, small, equal⟩ | ⟨other, small, equal⟩ | equal)
    · cases eq_of_name_eq rfl rfl equal
      exact small
    · cases eq_of_name_eq rfl rfl equal
    · exact absurd equal (unlike rfl)
  | floating index =>
    rw [isReal, decide_eq_true_iff]
    refine ⟨?_, fun small => Or.inr (Or.inl ⟨index, small, rfl⟩)⟩
    rintro (⟨other, small, equal⟩ | ⟨other, small, equal⟩ | equal)
    · cases eq_of_name_eq rfl rfl equal
    · cases eq_of_name_eq rfl rfl equal
      exact small
    · exact absurd equal (unlike rfl)

/-! ## Expressions -/

def Precision.registers : Precision → Nat
  | .word => 10
  | .single => 32

theorem isReal_register (precision : Precision) (index : Nat) :
    (register precision index).isReal = true ↔ index < precision.registers := by
  cases precision <;> exact decide_eq_true_iff

theorem isStandard_register (precision : Precision) (index : Nat) :
    (register precision index).isStandard = true := by
  cases precision <;> rfl

def Instruction.Real (body : Instruction) : Prop :=
  ∀ register ∈ body.registers, register.isReal = true

theorem registers_loadOperand (precision : Precision) (operand : String) (target : Register) :
    (loadOperand precision operand target).registers = [target] ∧
      (loadOperand precision operand target).text = operand.toList := by
  rw [loadOperand]
  split <;> exact ⟨rfl, rfl⟩

theorem real_loadOperand (precision : Precision) (operand : String) (index : Nat) :
    (loadOperand precision operand (register precision index)).Real ↔
      index < precision.registers := by
  rw [Instruction.Real, (registers_loadOperand ..).1, List.forall_mem_singleton, isReal_register]

theorem real_joinCode (precision : Precision) (index : Nat) (steps : List (String × Operation)) :
    (∀ body ∈ joinCode precision index steps, body.Real) ↔
      steps.length ≤ precision.registers - index := by
  have zero : (register precision 0).isReal = true :=
    (isReal_register precision 0).2 (by cases precision <;> decide)
  induction steps generalizing index with
  | nil => exact iff_of_true (List.forall_mem_nil _) (Nat.zero_le _)
  | cons step steps ih =>
    have computed :
      (Instruction.compute precision step.2 (register precision 0) (register precision 0)
        (register precision index)).Real ↔ index < precision.registers := by
      simp [Instruction.Real, Instruction.registers, zero, isReal_register]
    simp only [joinCode, List.forall_mem_cons, real_loadOperand, computed, ih, List.length_cons]
    omega

theorem real_expressionCode (precision : Precision) (expression : List Char) (label : String) :
    (∀ body ∈ expressionCode precision expression label, body.Real) ↔
      (operands expression).length ≤ precision.registers := by
  obtain ⟨first, steps, pieces, -, code⟩ := expressionCode_eq precision expression label
  have count : (operands expression).length = steps.length + 1 := by
    rw [← List.length_map String.ofList, pieces, List.length_cons, List.length_map]
  have some_register : 0 < precision.registers := by cases precision <;> decide
  have stored : (Instruction.store precision (register precision 0) label).Real :=
    List.forall_mem_singleton.2 ((isReal_register precision 0).2 some_register)
  rw [code, foldCode, List.forall_mem_cons, List.forall_mem_append, List.forall_mem_singleton,
    real_loadOperand, real_joinCode, count, and_iff_left stored]
  omega

theorem clear_loadOperand (precision : Precision) {operand : String}
    (clear : '$' ∉ operand.toList) (index : Nat) :
    (loadOperand precision (trimmed operand) (register precision index)).Clear := by
  obtain ⟨registers, text⟩ :=
    registers_loadOperand precision (trimmed operand) (register precision index)
  refine ⟨?_, ?_⟩
  · rw [registers, List.forall_mem_singleton]
    exact isStandard_register precision index
  · rw [text, trimmed, String.toList_ofList]
    exact fun member => clear (Text.mem_of_mem_trim member)

theorem clear_expressionCode (precision : Precision) {expression : List Char}
    (clear : '$' ∉ expression) {label : String} (clear_label : '$' ∉ label.toList) :
    ∀ body ∈ expressionCode precision expression label, body.Clear := by
  obtain ⟨first, steps, pieces, -, code⟩ := expressionCode_eq precision expression label
  have clear_pieces : ∀ operand ∈ first :: steps.map Prod.fst, '$' ∉ operand.toList := by
    rw [← pieces]
    intro operand listed
    obtain ⟨piece, cut, rfl⟩ := List.mem_map.1 listed
    rw [String.toList_ofList]
    exact fun member => clear (of_mem_operands cut _ member).1
  rw [code]
  refine forall_foldCode (fun operation index => ?_) ?_ ?_
  · exact ⟨by simp [Instruction.registers, isStandard_register], List.not_mem_nil⟩
  · exact fun operand listed => clear_loadOperand precision (clear_pieces operand listed)
  · exact ⟨List.forall_mem_singleton.2 (isStandard_register precision 0), clear_label⟩

end Mips

/-! ## Lines -/

namespace Line

open Mips (Precision precision? operands expressionCode)

def chars : Line → List Char
  | .initialized _ name expression | .assigned name expression => name ++ expression
  | .declared _ name | .printed name => name

theorem mem_of_value? {text expression : List Char} (read : value? text = some expression) :
    ∀ c ∈ expression, c ∈ text := by
  have before {text front : List Char} (cut : beforeLastSemicolon? text = some front) :
      ∀ c ∈ front, c ∈ text := by
    intro c member
    rw [beforeLastSemicolon?] at cut
    split at cut
    · cases cut
    · next semicolon rest dropped =>
      obtain rfl := Option.some.inj cut
      have kept : c ∈ text.reverse.dropWhile (· != ';') := by
        rw [dropped]
        exact List.mem_cons_of_mem _ (List.mem_reverse.1 member)
      exact List.mem_reverse.1 ((List.dropWhile_suffix _).subset kept)
  rw [value?] at read
  split at read
  · next rest dropped =>
    have inside : ∀ c ∈ rest, c ∈ text := by
      intro c member
      refine (List.dropWhile_suffix Text.isBlank).subset ?_
      rw [dropped]
      exact List.mem_cons_of_mem _ member
    obtain ⟨front, cut, read⟩ := Option.bind_eq_some_iff.1 read
    intro c member
    split at read
    -- Without anything but blanks, the last of them is taken.
    · obtain ⟨blank, last, rfl⟩ := Option.map_eq_some_iff.1 read
      obtain rfl := List.mem_singleton.1 member
      exact inside _ ((List.takeWhile_prefix _).subset (List.mem_of_getLast? last))
    · obtain rfl := Option.some.inj read
      exact inside c ((List.dropWhile_suffix _).subset (before cut c member))
  · cases read

theorem mem_of_parse? {text : List Char} {line : Line} (read : parse? text = some line) :
    ∀ c ∈ line.chars, c ∈ text := by
  rcases parse?_cases read with ⟨varType, name, after, expression, rfl, typed, valued⟩ |
    ⟨varType, name, after, rfl, typed⟩ | ⟨name, after, expression, rfl, named, valued⟩ | ⟨name,
      after, rfl, named⟩
  · obtain ⟨gap, -, -, -, -, -, rfl⟩ := typedName?_eq_some typed
    intro c member
    have written : c ∈ name ++ after :=
      List.mem_append.2 ((List.mem_append.1 member).imp_right (mem_of_value? valued c))
    exact List.mem_append_right _ (List.mem_append_right _ written)
  · obtain ⟨gap, -, -, -, -, -, rfl⟩ := typedName?_eq_some typed
    exact fun c member =>
      List.mem_append_right _ (List.mem_append_right _ (List.mem_append_left _ member))
  · obtain ⟨-, -, rfl⟩ := name?_eq_some named
    exact fun c member =>
      List.mem_append.2 ((List.mem_append.1 member).imp_right (mem_of_value? valued c))
  · obtain ⟨-, -, split⟩ := name?_eq_some named
    refine fun c member => List.mem_of_mem_drop (i := 6) ?_
    rw [split]
    exact List.mem_append_left _ member

/-- No line of an accepted text has a dollar in it. -/
theorem clear_of_accepted {source : String} (accepted : Accepted source) :
    ∀ line ∈ ofSource source, '$' ∉ line.chars := by
  intro line listed member
  obtain ⟨text, inside, read⟩ := List.mem_filterMap.1 listed
  have legible :=
    ((orderly_of_accepted accepted).2 text inside).legible '$' (mem_of_parse? read '$' member)
  exact absurd legible (by decide)

theorem clear_code (types : Table String) {line : Line} (clear : '$' ∉ line.chars) :
    ∀ body ∈ line.code types, body.Clear := by
  have assigned {varType : Option Precision} {name expression : List Char}
    (clear : '$' ∉ name ++ expression) :
      ∀ body ∈ varType.elim [] fun precision =>
        expressionCode precision expression (String.ofList name), body.Clear := by
    rw [List.mem_append, not_or] at clear
    cases varType with
    | none => exact List.forall_mem_nil _
    | some precision =>
      exact Mips.clear_expressionCode precision clear.2
        (by rw [String.toList_ofList]; exact clear.1)
  cases line with
  | initialized varType name expression => exact assigned clear
  | declared varType name => exact List.forall_mem_nil _
  | assigned name expression => exact assigned clear
  | printed name =>
    have loaded (precision : Precision) : ∀ body ∈ printCode name precision, body.Clear := by
      cases precision
      all_goals
        refine List.forall_mem_cons.2 ⟨⟨?_, ?_⟩, List.forall_mem_singleton.2 ⟨?_, ?_⟩⟩
        · exact List.forall_mem_singleton.2 rfl
        · simpa [Mips.Instruction.text, chars] using clear
        · exact List.forall_mem_singleton.2 rfl
        · decide
    refine List.forall_mem_append.2 ⟨?_,
      List.forall_mem_singleton.2 ⟨List.forall_mem_nil _, List.not_mem_nil⟩⟩
    cases precision? ((types.get? (String.ofList name)).getD "unknown") with
    | none => exact List.forall_mem_nil _
    | some precision => exact loaded precision

/-- How many registers there are for the expressions of a variable: those for numbers if its datum
is a number, and otherwise those for words. -/
def room (definitions : List (String × Precision)) (name : String) : Nat :=
  if (name, Precision.single) ∈ definitions then 32 else 10

theorem room_of_mem {definitions : List (String × Precision)}
    (once : (definitions.map Prod.fst).Nodup) {name : String}
    {precision : Precision} (defined : (name, precision) ∈ definitions) :
    room definitions name = precision.registers := by
  cases precision with
  | single => exact if_pos defined
  | word =>
    refine if_neg fun other => ?_
    cases List.inj_on_of_nodup_map once defined other rfl

/-- A line names only registers there are exactly if there is room for its expression. -/
theorem real_iff {lines front rest : List Line} {line : Line} (tidy : Tidy lines)
    (split : lines = front ++ line :: rest) {types : Table String}
    (knows : Knows types (front.filterMap definition?)) :
    (∀ body ∈ line.code types, body.Real) ↔
      ∀ name expression, line.assignment? = some (name, expression) →
      (operands expression).length ≤ room (lines.filterMap definition?) (String.ofList name) := by
  cases assigned : line.assignment? with
  | some pair =>
    obtain ⟨name, expression⟩ := pair
    obtain ⟨precision, code, target⟩ := code_of_assignment? tidy split knows assigned
    have count : room (lines.filterMap definition?) (String.ofList name) = precision.registers := by
      rcases target with defined | ⟨rfl, never⟩
      · exact room_of_mem tidy.once defined
      · exact if_neg fun defined => never (List.mem_map_of_mem defined)
    rw [code, ← assigned, forall_assignment?_iff assigned, Mips.real_expressionCode, count]
  | none =>
    refine iff_of_true ?_ fun name expression same => by cases same
    cases line with
    | initialized | assigned => cases assigned
    | declared => exact List.forall_mem_nil _
    | printed name =>
      refine List.forall_mem_append.2 ⟨?_, List.forall_mem_singleton.2 (List.forall_mem_nil _)⟩
      cases precision? ((types.get? (String.ofList name)).getD "unknown") with
      | none => exact List.forall_mem_nil _
      | some precision =>
        cases precision <;> simp [printCode, Mips.Instruction.Real, Mips.Instruction.registers,
          Mips.Register.isReal]

end Line

theorem Record.clear_code (types : Table String) {lines : List Line}
    (clear : ∀ line ∈ lines, '$' ∉ line.chars) :
    ∀ body ∈ code types lines, body.Clear := by
  induction lines generalizing types with
  | nil => exact List.forall_mem_nil _
  | cons line rest ih =>
    obtain ⟨first, others⟩ := List.forall_mem_cons.1 clear
    exact List.forall_mem_append.2 ⟨Line.clear_code types first, ih _ others⟩

/-! ## Whole texts -/

namespace Mips

theorem registerNames_define {line : Line} (clear : '$' ∉ line.chars)
    {definition : String × Precision}
    (defined : line.definition? = some definition) :
    registerNames (define definition).render.toList = [] := by
  have named {varType name : List Char} (clear : '$' ∉ name)
      (defined : (precision? (String.ofList varType)).map (fun precision =>
        (String.ofList name, precision)) =
        some definition) : registerNames (define definition).render.toList = [] := by
    obtain ⟨precision, -, rfl⟩ := Option.map_eq_some_iff.1 defined
    have zero : (initialText none).toList = "0.0".toList := by decide
    refine registerNames_of_clear ?_
    cases precision <;> simp [define, Item.render, clear, zero]
  cases line with
  | initialized varType name expression =>
    exact named (fun member => clear (List.mem_append_left _ member)) defined
  | declared varType name => exact named clear defined
  | assigned | printed => cases defined

theorem registerNames_ofSource {source : String} (accepted : Accepted source) :
    registerNames (listing (ofSource source).items).toList =
      ((Record.code {} (Line.ofSource source)).flatMap fun body =>
        body.registers.map Register.name) ++ ["$v0"] := by
  have clear := Line.clear_of_accepted accepted
  have data : (((Line.ofSource source).filterMap Line.definition?).map define).flatMap
      (fun item => registerNames item.render.toList) = [] := by
    refine List.flatMap_eq_nil_iff.2 fun item listed => ?_
    obtain ⟨definition, member, rfl⟩ := List.mem_map.1 listed
    obtain ⟨line, inside, defined⟩ := List.mem_filterMap.1 member
    exact registerNames_define (clear line inside) defined
  have code : ((Record.code {} (Line.ofSource source)).map Item.instruction).flatMap
      (fun item => registerNames item.render.toList) =
      (Record.code {} (Line.ofSource source)).flatMap fun body =>
        body.registers.map Register.name := by
    rw [List.flatMap_map]
    exact List.flatMap_congr fun body member =>
      Instruction.registerNames_render (Record.clear_code {} clear body member)
  have fixed : ∀ item ∈ [Item.dataSection, .textSection, .entryPoint, .instruction .syscall],
      registerNames item.render.toList = [] := by decide
  have ending : registerNames (Item.instruction (.immediate .word .value "10")).render.toList =
    ["$v0"] := by decide
  simp only [List.forall_mem_cons] at fixed
  rw [registerNames_listing, ofSource_eq, List.flatMap_cons, List.flatMap_append, data,
    List.map_append]
  simp [fixed, code, ending]

end Mips

/-- Code is generated for every accepted text, and its listing names only registers there are
exactly if no expression that is assigned has more pieces than there are registers: 32 for a
variable with a number for its datum, and ten for any other. -/
theorem registers_exist_iff (source : String) (accepted : Accepted source) :
    (Mips.ofSource source).error = none ∧
      ((∀ name ∈ Mips.registerNames (Mips.listing (Mips.ofSource source).items).toList,
        name ∈ Mips.existing) ↔
        ∀ line ∈ Line.ofSource source, ∀ name expression, line.assignment? =
          some (name, expression) →
          (Mips.operands expression).length ≤
            Line.room (Mips.data (Mips.ofSource source).items) (String.ofList name)) := by
  obtain ⟨ok, data, -⟩ := Mips.ofSource_generated source
  have tidy := Line.tidy_of_accepted accepted
  have clear := Record.clear_code {} (Line.clear_of_accepted accepted)
  have named :
    (∀ name ∈ Mips.registerNames (Mips.listing (Mips.ofSource source).items).toList,
      name ∈ Mips.existing) ↔
      ∀ body ∈ Record.code {} (Line.ofSource source), body.Real := by
    have last : "$v0" ∈ Mips.existing := by simp [Mips.existing]
    rw [Mips.registerNames_ofSource accepted, List.forall_mem_append, List.forall_mem_singleton,
      and_iff_left last, List.forall_mem_flatMap]
    refine forall₂_congr fun body member => ?_
    rw [List.forall_mem_map]
    exact forall₂_congr fun register used =>
      Mips.Register.name_mem_existing ((clear body member).standard register used)
  refine ⟨ok, named.trans ?_⟩
  rw [data]
  exact tidy.forall_code_iff (fun split knows => Line.real_iff tidy split knows) rfl .start

theorem registers_exist_iff_full :
    let source :=
      "float b = 0.5;\nb = b+b+b+b+b+b+b+b+b+b+b;\nint a = 1+1+1+1+1+1+1+1+1+1;\nprint(b);"
    Accepted source ∧
      ∀ name ∈ Mips.registerNames (Mips.listing (Mips.ofSource source).items).toList,
      name ∈ Mips.existing := by
  intro source
  obtain ⟨accepted, fits⟩ : Accepted source ∧
    ∀ line ∈ Line.ofSource source, ∀ assigned ∈ line.assignment?,
      (Mips.operands assigned.2).length ≤
        Line.room (Mips.data (Mips.ofSource source).items) (String.ofList assigned.1) := by
          decide +kernel
  refine ⟨accepted,
    (registers_exist_iff source accepted).2.2 fun line listed name expression assigned => ?_⟩
  exact fits line listed (name, expression) assigned

/-- Eleven pieces, and the last of them in a register that is not there. -/
theorem register_missing :
    let source := "int a = 1+1+1+1+1+1+1+1+1+1+1;"
    Accepted source ∧
      "$t10" ∈ Mips.registerNames (Mips.listing (Mips.ofSource source).items).toList ∧
      "$t10" ∉ Mips.existing := by
  intro source
  obtain ⟨accepted, named, absent⟩ : Accepted source ∧
    "$t10" ∈ (Record.code {} (Line.ofSource source)).flatMap
      (fun body => body.registers.map Mips.Register.name) ∧ "$t10" ∉ Mips.existing := by
        decide +kernel
  refine ⟨accepted, ?_, absent⟩
  rw [Mips.registerNames_ofSource accepted]
  exact List.mem_append_left _ named

end Workbench
