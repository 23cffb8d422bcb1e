import Workbench.Mips.Generator
import Workbench.Proofs.Conditionals

/-! What is generated for integer programs without conditionals, and without parentheses or signs
before operands.

An expression is cut at its connectives. Each piece is an operand with blanks around it, which is
loaded into the next register and joined to what has been computed so far.
-/

set_option autoImplicit false

namespace Workbench

open Arithmetic

namespace Mips

/-! ## Cutting an expression -/

theorem operands_plain {front : List Char} (plain : ∀ c ∈ front, isOperatorSign c = false) :
    operands front = [front] := by
  induction front with
  | nil => rfl
  | cons c front ih =>
    obtain ⟨first, plain⟩ := List.forall_mem_cons.1 plain
    rw [operands, first, ih plain]
    rfl

theorem operands_cut {front : List Char}
    (plain : ∀ c ∈ front, isOperatorSign c = false) {sign : Char}
    (cuts : isOperatorSign sign = true) (rest : List Char) :
    operands (front ++ sign :: rest) = front :: operands rest := by
  induction front with
  | nil => rw [List.nil_append, operands, if_pos cuts]
  | cons c front ih =>
    obtain ⟨first, plain⟩ := List.forall_mem_cons.1 plain
    rw [List.cons_append, operands, first, ih plain]
    rfl

theorem operators_plain {front : List Char} (plain : ∀ c ∈ front, isOperatorSign c = false)
    (rest : List Char) :
    operators (front ++ rest) = operators rest := by
  have none : operators front = [] := List.filter_eq_nil_iff.2 fun c member => by
    simp [plain c member]
  rw [operators, List.filter_append]
  exact congrArg (· ++ operators rest) none

end Mips

namespace Arithmetic

def Operand.isAtom : Operand → Bool
  | .number .. | .name .. => true
  | .group .. | .signed .. => false

def Chain.isFlat : Chain → Bool
  | .done => true
  | .more _ _ operand rest => operand.isAtom && rest.isFlat

def Expression.isFlat : Expression → Bool
  | .mk first rest => first.isAtom && rest.isFlat

def Connective.operation : Connective → Mips.Operation
  | plus => .add
  | minus => .sub
  | times => .mul
  | divide => .div

def Operand.load (index : Nat) : Operand → List Mips.Instruction
  | .number literal _ => [.immediate .word (.temporary index) (String.ofList literal.chars)]
  | .name label _ => [.load .word (.temporary index) label.string]
  | .group .. | .signed .. => []

/-- Joins the operands of a chain to register zero, one after the other. -/
def Chain.code (index : Nat) : Chain → List Mips.Instruction
  | .done => []
  | .more connective _ operand rest =>
    operand.load index ++ .compute .word connective.operation (.temporary 0) (.temporary 0)
      (.temporary index) ::
      rest.code (index + 1)

def Expression.code : Expression → List Mips.Instruction
  | .mk first rest => first.load 0 ++ rest.code 1

theorem not_isOperatorSign_of_isWord {c : Char} (word : Text.isWord c = true) :
    Mips.isOperatorSign c = false := by
  rw [← Bool.not_eq_true]
  intro sign
  simp only [Mips.isOperatorSign, Bool.or_eq_true, beq_iff_eq] at sign
  rcases sign with ((rfl | rfl) | rfl) | rfl <;> exact absurd word (by decide)

theorem Gap.plain (gap : Gap) : ∀ c ∈ gap.chars, Mips.isOperatorSign c = false := by
  intro c member
  have blank := List.all_eq_true.1 gap.blank c member
  rw [Bool.or_eq_true, beq_iff_eq, beq_iff_eq] at blank
  rcases blank with rfl | rfl <;> decide

theorem Operand.text_atom {operand : Operand} (atom : operand.isAtom = true)
    (whole : ∀ part ∈ operand.parts, part.isWhole = true) :
    ∃ (chars : List Char) (after : Gap), operand.text id = chars ++ after.chars ∧
      ∀ c ∈ chars, Text.isWord c = true := by
  cases operand with
  | number literal after =>
    cases literal with
    | integer digits well =>
      have digit := (isDigits_iff.1 (Bool.and_eq_true_iff.1 well).1).2
      exact ⟨digits, after, rfl,
        fun c member => Text.isWord_of_isDecimal (Text.isDecimal_of_isDigit (digit c member))⟩
    | real digits places well => cases whole _ (List.mem_singleton_self _)
  | name name after =>
    exact ⟨name.chars, after, rfl, fun c member => isWord_of_mem_name name.well member⟩
  | group | signed => cases atom

theorem Operand.plain {operand : Operand} (atom : operand.isAtom = true)
    (whole : ∀ part ∈ operand.parts, part.isWhole = true) :
    ∀ c ∈ operand.text id, Mips.isOperatorSign c = false := by
  obtain ⟨chars, after, text, word⟩ := Operand.text_atom atom whole
  rw [text]
  exact List.forall_mem_append.2 ⟨fun c member => not_isOperatorSign_of_isWord (word c member),
    after.plain⟩

def Chain.pieces : Chain → List (List Char)
  | .done => []
  | .more _ after operand rest => (after.chars ++ operand.text id) :: rest.pieces

def Chain.signs : Chain → List Char
  | .done => []
  | .more connective _ _ rest => connective.char :: rest.signs

theorem Chain.cut (chain : Chain) (flat : chain.isFlat = true)
    (whole : ∀ part ∈ chain.parts, part.isWhole = true)
    {front : List Char} (plain : ∀ c ∈ front, Mips.isOperatorSign c = false) :
    Mips.operands (front ++ chain.text id) = front :: chain.pieces ∧
      Mips.operators (front ++ chain.text id) = chain.signs := by
  cases chain with
  | done =>
    have none := Mips.operators_plain plain []
    rw [Chain.text, List.append_nil] at *
    exact ⟨Mips.operands_plain plain, none⟩
  | more connective after operand rest =>
    obtain ⟨atom, flat⟩ := Bool.and_eq_true_iff.1 flat
    obtain ⟨-, whole⟩ := List.forall_mem_cons.1 whole
    obtain ⟨whole_operand, whole⟩ := List.forall_mem_append.1 whole
    have next : ∀ c ∈ after.chars ++ operand.text id, Mips.isOperatorSign c = false :=
      List.forall_mem_append.2 ⟨after.plain, Operand.plain atom whole_operand⟩
    -- The sign cuts here, and no character before it does.
    obtain ⟨operands, operators⟩ := rest.cut flat whole next
    have cuts : Mips.isOperatorSign connective.char = true := by cases connective <;> rfl
    rw [Chain.text, ← List.append_assoc after.chars]
    constructor
    · rw [Mips.operands_cut plain cuts, operands]
      rfl
    · rw [Mips.operators_plain plain, Mips.operators, List.filter_cons_of_pos cuts]
      exact congrArg (connective.char :: ·) operators

/-! ## Operands -/

theorem trim_blanks {blanks : List Char} (blank : ∀ c ∈ blanks, Text.isBlank c = true)
    (rest : List Char) :
    Text.trim (blanks ++ rest) = Text.trim rest := by
  induction blanks with
  | nil => rfl
  | cons c blanks ih =>
    obtain ⟨first, blank⟩ := List.forall_mem_cons.1 blank
    rw [List.cons_append, Text.trim_cons first, ih blank]

theorem trim_solid {chars blanks : List Char} (solid : ∀ c ∈ chars, Text.isBlank c = false)
    (blank : ∀ c ∈ blanks, Text.isBlank c = true) : Text.trim (chars ++ blanks) = chars := by
  cases chars with
  | nil => exact (congrArg Text.trim (List.append_nil blanks).symm).trans (trim_blanks blank [])
  | cons c more =>
    have first := solid c (List.mem_cons_self ..)
    have last : (c :: more).reverse.dropWhile Text.isBlank = (c :: more).reverse := by
      cases reversed : (c :: more).reverse with
      | nil => rfl
      | cons d rest =>
        have member : d ∈ c :: more := List.mem_reverse.1 (reversed ▸ List.mem_cons_self ..)
        rw [List.dropWhile_cons_of_neg (by simp [solid d member])]
    rw [List.cons_append, Text.trim_cons_of_not_blank (by simp [first]),
      ← List.cons_append, Text.trimEnd,
      List.reverse_append, List.dropWhile_append_of_pos fun d member =>
        blank d (List.mem_reverse.1 member), last,
      List.reverse_reverse]

theorem trim_gaps (before after : Gap) {chars : List Char}
    (word : ∀ c ∈ chars, Text.isWord c = true) :
    Text.trim (before.chars ++ (chars ++ after.chars)) = chars := by
  rw [trim_blanks (Program.blanks_of_gap before)]
  refine trim_solid (fun c member => ?_) (Program.blanks_of_gap after)
  exact Line.not_isBlank_of_isWord (word c member)

theorem not_isDigit_of_startsName {c : Char} (starts : Pattern.startsName c = true) :
    Text.isDigit c = false := by
  have ascii : Text.isAscii c = true := by
    rcases Bool.or_eq_true_iff.1 starts with letter | line
    · exact Text.isAscii_of_isAlpha letter
    · exact beq_iff_eq.1 line ▸ by decide
  have other : c.isDigit = false := by
    rw [← Bool.not_eq_true]
    exact fun digit => not_startsWord_of_isDigit digit (startsWord_of_startsName starts)
  rw [Text.isDigit, Text.isDecimal, if_pos ascii, other, ascii]
  rfl

theorem not_isLiteral {name : List Char} (identifier : isIdentifier name = true) :
    Mips.isLiteral name = false := by
  have named := word_of_isIdentifier identifier
  have pointless : name.contains '.' = false := by
    rw [← Bool.not_eq_true, List.contains_iff_mem]
    exact fun member => absurd (named.2 _ member) (by decide)
  obtain ⟨c, rest, rfl, starts, -⟩ := isIdentifier_iff.1 identifier
  simp only [Mips.isLiteral, pointless, List.all_cons, not_isDigit_of_startsName starts,
    Bool.false_and, Bool.and_false, Bool.or_false]

theorem isLiteral_of_isDigits {digits : List Char} (all : isDigits digits = true) :
    Mips.isLiteral digits = true := by
  obtain ⟨some_digit, digit⟩ := isDigits_iff.1 all
  have digits_all : digits.all Text.isDigit = true :=
    List.all_eq_true.2 fun c member => by
      simp [Text.isDigit, Text.isDecimal_of_isDigit (digit c member)]
  simp [Mips.isLiteral, some_digit, digits_all]

/-- What is generated for a piece loads its operand. -/
theorem Operand.loaded {operand : Operand} (atom : operand.isAtom = true)
    (whole : ∀ part ∈ operand.parts, part.isWhole = true)
    (identifiers : ∀ name ∈ operand.names, isIdentifier name.chars = true)
    (before : Gap) (index : Nat) :
    [Mips.loadOperand .word (Mips.trimmed (String.ofList (before.chars ++ operand.text id)))
      (.temporary index)] =
      operand.load index := by
  cases operand with
  | number literal after =>
    cases literal with
    | real digits places well => cases whole _ (List.mem_singleton_self _)
    | integer digits well =>
      have all := (Bool.and_eq_true_iff.1 well).1
      have trimmed : Text.trim (before.chars ++ (digits ++ after.chars)) = digits :=
        trim_gaps before after (word_of_isDigits all).2
      rw [Mips.trimmed, String.toList_ofList, Operand.text, Literal.chars, trimmed,
        Mips.loadOperand, String.toList_ofList, if_pos (isLiteral_of_isDigits all)]
      rfl
  | name name after =>
    have identifier := identifiers name (List.mem_singleton_self name)
    have trimmed : Text.trim (before.chars ++ (name.chars ++ after.chars)) = name.chars :=
      trim_gaps before after (word_of_isIdentifier identifier).2
    rw [Mips.trimmed, String.toList_ofList, Operand.text, id, trimmed, Mips.loadOperand,
      String.toList_ofList, if_neg (by simp [not_isLiteral identifier])]
    rfl
  | group | signed => cases atom

theorem Chain.applied (chain : Chain) (flat : chain.isFlat = true)
    (whole : ∀ part ∈ chain.parts, part.isWhole = true)
    (identifiers : ∀ name ∈ chain.names, isIdentifier name.chars = true) (index : Nat) :
    Mips.applyOperators .word index (chain.pieces.map String.ofList)
    (chain.signs.map Char.toString) =
      .ofInstructions (chain.code index) := by
  cases chain with
  | done => rfl
  | more connective after operand rest =>
    obtain ⟨atom, flat⟩ := Bool.and_eq_true_iff.1 flat
    obtain ⟨-, whole⟩ := List.forall_mem_cons.1 whole
    obtain ⟨whole_operand, whole⟩ := List.forall_mem_append.1 whole
    obtain ⟨identifiers_operand, identifiers⟩ := List.forall_mem_append.1 identifiers
    have operation : Mips.operation? connective.char.toString = some connective.operation := by
      cases connective <;> rfl
    have loaded := Operand.loaded atom whole_operand identifiers_operand after index
    have applied := rest.applied flat whole identifiers (index + 1)
    simp only [Chain.pieces, Chain.signs, List.map_cons, Mips.applyOperators, operation,
      Mips.register, loaded, applied]
    simp [Mips.Emission.followedBy, Mips.Emission.ofInstructions, Chain.code]

/-- The code of an expression, with its result stored under a label. -/
theorem Expression.computed (expression : Expression) (flat : expression.isFlat = true)
    (whole : expression.isWhole = true)
    (identifiers : ∀ name ∈ expression.names, isIdentifier name.chars = true) (label : String) :
    Mips.computeInto .word ((Mips.operands (expression.text id)).map String.ofList)
        ((Mips.operators (expression.text id)).map Char.toString) label =
      .ofInstructions (expression.code ++ [.store .word (.temporary 0) label]) := by
  obtain ⟨first, chain⟩ := expression
  obtain ⟨atom, flat⟩ := Bool.and_eq_true_iff.1 flat
  obtain ⟨whole_first, whole⟩ := List.forall_mem_append.1 (List.all_eq_true.1 whole)
  obtain ⟨identifiers_first, identifiers⟩ := List.forall_mem_append.1 identifiers
  obtain ⟨operands, operators⟩ := chain.cut flat whole (Operand.plain atom whole_first)
  have loaded := Operand.loaded atom whole_first identifiers_first .empty 0
  rw [Gap.empty, List.nil_append] at loaded
  rw [Expression.text, operands, operators]
  simp only [List.map_cons, Mips.computeInto, Mips.register, loaded,
    chain.applied flat whole identifiers]
  simp [Mips.Emission.followedBy, Mips.Emission.ofInstructions, Expression.code]

end Arithmetic

/-! ## Programs -/

namespace Mips

theorem each_append (generate : Record → Emission) (front back : List Record) :
    each generate (front ++ back) = (each generate front).followedBy (each generate back) := by
  induction front with
  | nil => rfl
  | cons record front ih =>
    rw [List.cons_append, each, each, ih]
    cases first : (generate record).error with
    | some error => simp [Emission.followedBy, first]
    | none =>
      cases second : (each generate front).error with
      | some error => simp [Emission.followedBy, first, second]
      | none => simp [Emission.followedBy, first, second]

theorem followedBy_ok (front back : List Item) (error : Option GenerationError) :
    (Emission.mk front none).followedBy ⟨back, error⟩ = ⟨front ++ back, error⟩ := rfl

end Mips

namespace Program

def Simple.data : Simple → List Mips.Item
  | declared _ _ name | initialized _ _ name _ _ _ => [.word name.string]
  | assigned .. | printed _ => []

def Simple.code : Simple → List Mips.Instruction
  | declared .. => []
  | initialized _ _ name _ _ value | assigned name _ _ value =>
    value.code ++ [.store .word (.temporary 0) name.string]
  | printed name => [.load .word .argument name.string, .immediate .word .value "1", .syscall]

def Simple.isFlat (simple : Simple) : Bool := simple.value?.all Expression.isFlat

def Typed (declared : List String) (types : Table String) : Prop :=
  ∀ key ∈ declared, types.get? key = some "int"

theorem Typed.put {declared : List String} {types : Table String} (typed : Typed declared types)
    (name : String) :
    Typed (name :: declared) (types.put name "int") := by
  intro key listed
  rw [Table.get?_put]
  split
  · rfl
  case isFalse unlike => exact typed key ((List.mem_cons.1 listed).resolve_left unlike)

theorem Typed.keep {declared : List String} {types : Table String}
    (typed : Typed declared types) {name : String}
    (listed : name ∈ declared) : Typed (name :: declared) types :=
  List.forall_mem_cons.2 ⟨typed name listed, typed⟩

theorem assignment_code {value : Expression} (flat : value.isFlat = true)
    (whole : value.isWhole = true)
    (identifiers : ∀ name ∈ value.names, isIdentifier name.chars = true) (name : Name) :
    Mips.code (.assignment name.string "int" (String.ofList (value.text id))) =
      .ofInstructions (value.code ++ [.store .word (.temporary 0) name.string]) := by
  have computed := value.computed flat whole identifiers name.string
  rw [← String.toList_ofList (l := value.text id)] at computed
  exact computed

theorem each_assignment {value : Expression} (flat : value.isFlat = true)
    (whole : value.isWhole = true)
    (identifiers : ∀ name ∈ value.names, isIdentifier name.chars = true) (name : Name) :
    Mips.each Mips.code [.assignment name.string "int" (String.ofList (value.text id))] =
      .ofInstructions (value.code ++ [.store .word (.temporary 0) name.string]) := by
  rw [Mips.each, assignment_code flat whole identifiers]
  exact (Mips.followedBy_ok ..).trans (congrArg (Mips.Emission.mk · none) (List.append_nil _))

theorem Simple.generated {simple : Simple} {declared : List String} {types : Table String}
    (typed : Typed declared types)
    (integral : simple.isIntegral = true) (flat : simple.isFlat = true)
    (identifiers : Identifiers simple.names)
    (known : ∀ name ∈ simple.uses, name.string ∈ declared) :
    Mips.each Mips.datum (Record.ofLine types simple.line).1 = ⟨simple.data, none⟩ ∧
      Mips.each Mips.code (Record.ofLine types simple.line).1 = .ofInstructions simple.code ∧
      Typed (simple.subject.string :: declared) (Record.ofLine types simple.line).2 := by
  have operands : Identifiers simple.operands := (List.forall_mem_cons.1 identifiers).2
  cases simple with
  | declared type space name =>
    obtain rfl : type = .int := Simple.int_of_isIntegral integral rfl
    exact ⟨rfl, rfl, typed.put name.string⟩
  | initialized type space name before after value =>
    obtain rfl : type = .int := Simple.int_of_isIntegral integral rfl
    obtain ⟨whole, -⟩ := Simple.whole_of_isIntegral integral rfl
    exact ⟨rfl, each_assignment flat whole operands name, typed.put name.string⟩
  | assigned name before after value =>
    obtain ⟨whole, -⟩ := Simple.whole_of_isIntegral integral rfl
    -- The type is looked up; without a declaration it would be taken for granted.
    have listed := known name (List.mem_cons_self ..)
    have type : (types.get? name.string).getD "int" = "int" := by rw [typed _ listed]; rfl
    refine ⟨rfl, ?_, typed.keep listed⟩
    change Mips.each Mips.code [.assignment name.string ((types.get? name.string).getD "int") _] = _
    rw [type]
    exact each_assignment flat whole operands name
  | printed name =>
    have listed := known name (List.mem_singleton_self name)
    have type : (types.get? name.string).getD "unknown" = "int" := by rw [typed _ listed]; rfl
    refine ⟨rfl, ?_, typed.keep listed⟩
    change Mips.each Mips.code [.print name.string ((types.get? name.string).getD "unknown")] = _
    rw [type]
    rfl

/-- The data and the code of some statements. -/
theorem generated_lines (simples : List Simple)
    (integral : ∀ simple ∈ simples, simple.isIntegral = true)
    (flat : ∀ simple ∈ simples, simple.isFlat = true)
    (identifiers : ∀ simple ∈ simples, Identifiers simple.names) :
    ∀ (declared : List String) (types : Table String), inScope declared simples = true →
      Typed declared types →
      let records := Record.ofStatements types (simples.map Simple.line)
      Mips.each Mips.datum records = ⟨simples.flatMap Simple.data, none⟩ ∧
        Mips.each Mips.code records = .ofInstructions (simples.flatMap Simple.code) := by
  induction simples with
  | nil => exact fun _ _ _ _ => ⟨rfl, rfl⟩
  | cons simple rest ih =>
    intro declared types scope typed
    obtain ⟨integral_first, integral⟩ := List.forall_mem_cons.1 integral
    obtain ⟨flat_first, flat⟩ := List.forall_mem_cons.1 flat
    obtain ⟨identifiers_first, identifiers⟩ := List.forall_mem_cons.1 identifiers
    obtain ⟨known, scope⟩ := inScope_cons.1 scope
    obtain ⟨data, code, typed⟩ :=
      Simple.generated typed integral_first flat_first identifiers_first known
    obtain ⟨rest_data, rest_code⟩ := ih integral flat identifiers _ _ scope typed
    simp only [List.map_cons, Record.ofStatements, Mips.each_append]
    rw [data, code, rest_data, rest_code]
    simp [Mips.Emission.followedBy, Mips.Emission.ofInstructions]

def codeOf (simples : List Simple) : List Mips.Instruction :=
  simples.flatMap Simple.code ++ [.immediate .word .value "10", .syscall]

def assembly (simples : List Simple) : List Mips.Item :=
  .dataSection ::
    (simples.flatMap Simple.data ++ .textSection :: .entryPoint ::
      (codeOf simples).map .instruction)

theorem assembly_lines {source : String} {simples : List Simple}
    (laid : Laid source (simples.map Simple.text))
    (integral : ∀ simple ∈ simples, simple.isIntegral = true)
    (flat : ∀ simple ∈ simples, simple.isFlat = true)
    (identifiers : ∀ simple ∈ simples, Identifiers simple.names)
    (scope : inScope [] simples = true) :
    Mips.ofSource source = ⟨assembly simples, none⟩ := by
  obtain ⟨data, code⟩ :=
    generated_lines simples integral flat identifiers [] {} scope (List.forall_mem_nil _)
  rw [Mips.ofSource, Record.ofSource_eq, ofSource_lines laid, Mips.generate, data, code]
  simp [Mips.Emission.followedBy, Mips.Emission.ofInstructions, assembly, codeOf]

end Program

end Workbench
