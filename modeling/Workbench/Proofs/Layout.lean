import Workbench.Proofs.Statements
import Workbench.Proofs.Tables
import Workbench.Proofs.Valuation

/-! Programs as they are laid out: one simple statement on a line, and conditionals whose first,
middle and last lines hold nothing else.

Of such a program only the simple statements are read, so that it runs like the flat list of them.
-/

set_option autoImplicit false

namespace Workbench.Program

open Arithmetic

inductive TypeWord where
  | int
  | float
  deriving DecidableEq, Repr

def TypeWord.chars : TypeWord → List Char
  | int => "int".toList
  | float => "float".toList

structure Space where
  gap : Gap
  wide : gap.chars ≠ []

/-- A statement on a line of its own. -/
inductive Simple where
  | declared (type : TypeWord) (space : Space) (name : Name)
  | initialized (type : TypeWord) (space : Space) (name : Name) (before after : Gap) (value : Expression)
  | assigned (name : Name) (before after : Gap) (value : Expression)
  | printed (name : Name)

def valueText (before after : Gap) (value : Expression) : List Char :=
  before.chars ++ '=' :: (after.chars ++ (value.text id ++ [';']))

namespace Simple

def text : Simple → List Char
  | declared type space name => type.chars ++ (space.gap.chars ++ (name.chars ++ [';']))
  | initialized type space name before after value =>
    type.chars ++ (space.gap.chars ++ (name.chars ++ valueText before after value))
  | assigned name before after value => name.chars ++ valueText before after value
  | printed name => "print(".toList ++ (name.chars ++ ");".toList)

def line : Simple → Line
  | declared type _ name => .declared type.chars name.chars
  | initialized type _ name _ _ value => .initialized type.chars name.chars (value.text id)
  | assigned name _ _ value => .assigned name.chars (value.text id)
  | printed name => .printed name.chars

def exec (records : List Record) (store : Store) (simple : Simple) : Except RunError Store :=
  simple.line.exec .standard records store

def subject : Simple → Name
  | declared _ _ name | initialized _ _ name _ _ _ | assigned name _ _ _ | printed name => name

def value? : Simple → Option Expression
  | declared .. | printed _ => none
  | initialized _ _ _ _ _ value | assigned _ _ _ value => some value

def type? : Simple → Option TypeWord
  | declared type .. | initialized type .. => some type
  | assigned .. | printed _ => none

def operands (simple : Simple) : List Name := (simple.value?.map Expression.names).getD []

/-- The names that must have been declared before. -/
def uses : Simple → List Name
  | declared .. => []
  | initialized _ _ _ _ _ value => value.names
  | assigned name _ _ value => name :: value.names
  | printed name => [name]

def names (simple : Simple) : List Name := simple.subject :: simple.operands

end Simple

inductive Comparison where
  | less
  | greater
  | equal
  deriving DecidableEq, Repr

def Comparison.chars : Comparison → List Char
  | less => ['<']
  | greater => ['>']
  | equal => ['=', '=']

structure Test where
  left : Expression
  comparison : Comparison
  right : Expression
  /-- Gaps before and after the opening parenthesis, after the comparison and before the brace. -/
  outer : Gap
  inner : Gap
  middle : Gap
  final : Gap

def Test.text (test : Test) : List Char :=
  "if".toList ++
    (test.outer.chars ++ '(' :: (test.inner.chars ++ (test.left.text id ++ (test.comparison.chars ++
    (test.middle.chars ++ (test.right.text id ++ ')' :: (test.final.chars ++ ['\x7b'])))))))

mutual

inductive Statement where
  | simple (simple : Simple)
  | whenever (test : Test) (body : Block)
  /-- The gaps stand around the word between the blocks. -/
  | either (test : Test) (body : Block) (before after : Gap) (other : Block)

inductive Block where
  | done
  | more (first : Statement) (rest : Block)

end

def elseText (before after : Gap) : List Char :=
  '\x7d' :: (before.chars ++ ("else".toList ++ (after.chars ++ ['\x7b'])))

mutual

def Statement.lines : Statement → List (List Char)
  | .simple simple => [simple.text]
  | .whenever test body => test.text :: (body.lines ++ [['\x7d']])
  | .either test body before after other =>
    test.text :: (body.lines ++ elseText before after :: (other.lines ++ [['\x7d']]))

def Block.lines : Block → List (List Char)
  | .done => []
  | .more first rest => first.lines ++ rest.lines

end

mutual

/-- The simple statements, in the order of their lines. -/
def Statement.simples : Statement → List Simple
  | .simple simple => [simple]
  | .whenever _ body => body.simples
  | .either _ body _ _ other => body.simples ++ other.simples

def Block.simples : Block → List Simple
  | .done => []
  | .more first rest => first.simples ++ rest.simples

end

/-- A text has these lines and no others, but for blanks around them and blank lines between
them. -/
def Laid (source : String) (lines : List (List Char)) : Prop :=
  Text.contentLines source.toList = lines

instance (source : String) (lines : List (List Char)) : Decidable (Laid source lines) :=
  inferInstanceAs (Decidable (_ = _))

/-! ## Reading -/

theorem TypeWord.mem_typeWords (type : TypeWord) : type.chars ∈ Line.typeWords := by
  cases type <;> decide

theorem blanks_of_gap (gap : Gap) : Line.Blanks gap.chars := by
  intro c member
  have blank := List.all_eq_true.1 gap.blank c member
  rw [Bool.or_eq_true, beq_iff_eq, beq_iff_eq] at blank
  rcases blank with rfl | rfl <;> decide

theorem word_of_name (name : Name) : Line.Word name.chars :=
  ⟨name_ne_nil name.well, fun _ member => isWord_of_mem_name name.well member⟩

theorem solid_of_literal (literal : Literal) : Line.Solid literal.chars := by
  obtain ⟨c, rest, chars, digit⟩ := literal.figures.head
  rw [chars]
  exact ⟨c, rfl,
    Line.not_isBlank_of_isWord (Text.isWord_of_isDecimal (Text.isDecimal_of_isDigit digit))⟩

theorem solid_of_operand (operand : Operand) : Line.Solid (operand.text id) := by
  cases operand with
  | number literal after => exact (solid_of_literal literal).append _
  | name name after => exact (word_of_name name).solid.append _
  | group before inside after => exact ⟨'(', rfl, by decide⟩
  | signed minus after operand => exact ⟨signChar minus, rfl, by cases minus <;> decide⟩

theorem solid_of_expression (expression : Expression) : Line.Solid (expression.text id) := by
  obtain ⟨first, rest⟩ := expression
  exact (solid_of_operand first).append _

theorem written_value (before after : Gap) (value : Expression) :
    Line.WrittenValue (value.text id) (valueText before after value) :=
  .mk (blanks_of_gap before) (blanks_of_gap after) (solid_of_expression value)

theorem Simple.written (simple : Simple) : simple.line.Written simple.text := by
  cases simple with
  | declared type space name =>
    exact .declared type.mem_typeWords space.wide (blanks_of_gap space.gap) (word_of_name name)
  | initialized type space name before after value =>
    exact .initialized type.mem_typeWords space.wide (blanks_of_gap space.gap) (word_of_name name)
      (written_value before after value)
  | assigned name before after value =>
    exact .assigned (word_of_name name) (written_value before after value)
  | printed name => exact .printed (word_of_name name)

mutual

theorem Statement.read (statement : Statement) :
    statement.lines.filterMap Line.parse? = statement.simples.map Simple.line := by
  cases statement with
  | simple simple => exact List.filterMap_cons_some simple.written.parse?
  | whenever test body =>
    have start : Line.parse? test.text = none := Line.parse?_if (blanks_of_gap test.outer) _
    have brace : [['\x7d']].filterMap Line.parse? = [] := rfl
    rw [Statement.lines, List.filterMap_cons_none start, List.filterMap_append, body.read, brace,
      List.append_nil]
    rfl
  | either test body before after other =>
    have start : Line.parse? test.text = none := Line.parse?_if (blanks_of_gap test.outer) _
    have middle : Line.parse? (elseText before after) = none := Line.parse?_brace _
    have brace : [['\x7d']].filterMap Line.parse? = [] := rfl
    rw [Statement.lines, List.filterMap_cons_none start, List.filterMap_append, body.read,
      List.filterMap_cons_none middle, List.filterMap_append, other.read, brace, List.append_nil,
        ← List.map_append]
    rfl

theorem Block.read (block : Block) :
    block.lines.filterMap Line.parse? = block.simples.map Simple.line := by
  cases block with
  | done => rfl
  | more first rest =>
    rw [Block.lines, List.filterMap_append, first.read, rest.read, ← List.map_append]; rfl

end

/-- What a laid out program does is what its simple statements do, one after the other. -/
theorem interpret_laid {source : String} {program : Block} (laid : Laid source program.lines) :
    interpret source = program.simples.foldlM (Simple.exec (Record.ofSource source)) {} := by
  rw [interpret_eq, Line.ofSource, laid, program.read, List.foldlM_map]
  rfl

theorem ofSource_lines {source : String} {simples : List Simple}
    (laid : Laid source (simples.map Simple.text)) :
    Line.ofSource source = simples.map Simple.line := by
  rw [Line.ofSource, laid, List.filterMap_map, ← List.filterMap_eq_map]
  exact List.filterMap_congr fun simple _ => simple.written.parse?

theorem interpret_lines {source : String} {simples : List Simple}
    (laid : Laid source (simples.map Simple.text)) :
    interpret source = simples.foldlM (Simple.exec (Record.ofSource source)) {} := by
  rw [interpret_eq, ofSource_lines laid, List.foldlM_map]
  rfl

/-! ## Names -/

/-- Every name that a statement uses has been declared on an earlier line. -/
def inScope (declared : List String) : List Simple → Bool
  | [] => true
  | simple :: rest =>
    (simple.uses.all fun name => declared.contains name.string) &&
      inScope (simple.subject.string :: declared) rest

theorem inScope_cons {declared : List String} {simple : Simple} {rest : List Simple} :
    inScope declared (simple :: rest) = true ↔
      (∀ name ∈ simple.uses, name.string ∈ declared) ∧
        inScope (simple.subject.string :: declared) rest = true := by
  simp [inScope]

/-- No name is part of another. -/
def Apart (names : List Name) : Prop :=
  ∀ first ∈ names, ∀ second ∈ names, first.chars <:+: second.chars → first.chars = second.chars

instance (names : List Name) : Decidable (Apart names) :=
  inferInstanceAs (Decidable (∀ _ ∈ names, ∀ _ ∈ names, _ → _))

/-- The variables of a running program are names of it, and those declared so far are among them. -/
structure Bounded (names : List Name) (declared known : List String) : Prop where
  within : ∀ key ∈ known, ∃ name ∈ names, key = name.string
  covers : ∀ key ∈ declared, key ∈ known

theorem Simple.operands_uses {simple : Simple} {name : Name} (member : name ∈ simple.operands) :
    name ∈ simple.uses := by
  cases simple with
  | declared | printed => cases member
  | initialized => exact member
  | assigned => exact List.mem_cons_of_mem _ member

section
variable {names : List Name} {declared known : List String}

theorem Bounded.put {α : Type} {table : Table α}
    (bounded : Bounded names declared table.names) {name : Name}
    (member : name ∈ names) (value : α) :
    Bounded names (name.string :: declared) (table.put name.string value).names := by
  constructor
  · intro key known
    rcases (Table.mem_names_put ..).1 known with rfl | known
    · exact ⟨name, member, rfl⟩
    · exact bounded.within key known
  · intro key listed
    rw [Table.mem_names_put]
    exact (List.mem_cons.1 listed).imp_right (bounded.covers key)

theorem Bounded.keep (bounded : Bounded names declared known) {name : String}
    (listed : name ∈ declared) :
    Bounded names (name :: declared) known :=
  ⟨bounded.within, List.forall_mem_cons.2 ⟨bounded.covers name listed, bounded.covers⟩⟩

theorem Bounded.clear (bounded : Bounded names declared known) (apart : Apart names)
    {expression : Expression}
    (inside : ∀ name ∈ expression.names, name ∈ names) : expression.Clear known := by
  intro key listed name member part
  obtain ⟨other, other_member, rfl⟩ := bounded.within key listed
  rw [Name.string, String.toList_ofList] at part
  rw [Name.string, apart other other_member name (inside name member) part, Name.string]

theorem Bounded.named (bounded : Bounded names declared known) :
    ∀ key ∈ known, isName key.toList = true := by
  intro key listed
  obtain ⟨name, -, rfl⟩ := bounded.within key listed
  rw [Name.string, String.toList_ofList]
  exact name.well

end

end Workbench.Program
