import Mathlib.Data.List.Nodup
import Workbench.Proofs.Labels

/-! When generated code reads and writes memory only as the data section lays it out.

The pieces of an expression are loaded as they stand, all as words or all as numbers, by the type
that was noted for the variable they are assigned to. In an accepted text that is the type of the
variable's datum, if it has one. So the code agrees with the data exactly if every variable that is
assigned has a datum, and every piece is a literal or has a datum like it. Prints always agree.
-/

set_option autoImplicit false

namespace Workbench

/-- Every instruction reads and writes at a label of the data section, and takes what stands
there. -/
def Mips.WellAddressed (items : List Mips.Item) : Prop :=
  ∀ access ∈ Mips.accesses items, access ∈ Mips.data items

instance (items : List Mips.Item) : Decidable (Mips.WellAddressed items) :=
  inferInstanceAs (Decidable (∀ access ∈ Mips.accesses items, access ∈ Mips.data items))

open Mips (Precision precision? expressionCode)

namespace Line

/-- A variable has a datum, and each piece of the expression that is assigned to it is a literal or
has a datum like it. -/
def Addressed (definitions : List (String × Precision)) (name expression : List Char) : Prop :=
  ∃ precision, (String.ofList name, precision) ∈ definitions ∧ ∀ piece ∈ Mips.operands expression,
    Mips.isLiteral (Text.trim piece) = true ∨
      (String.ofList (Text.trim piece), precision) ∈ definitions

theorem addressed_iff {definitions : List (String × Precision)}
    (once : (definitions.map Prod.fst).Nodup)
    {name : List Char} {precision : Precision}
    (target : (String.ofList name, precision) ∈ definitions) (expression : List Char) :
    (∀ body ∈ expressionCode precision expression (String.ofList name), ∀ access, body.access? =
      some access →
      access ∈ definitions) ↔ Addressed definitions name expression := by
  rw [← List.forall_mem_filterMap, Mips.access?_expressionCode]
  constructor
  · intro defined
    refine ⟨precision, target, fun piece listed => or_iff_not_imp_left.2 fun label => ?_⟩
    have touched : Mips.operandAccess? precision piece =
      some (String.ofList (Text.trim piece), precision) :=
      if_neg label
    exact defined _ (List.mem_append_left _ (List.mem_filterMap.2 ⟨piece, listed, touched⟩))
  · rintro ⟨other, found, pieces⟩ access member
    -- A label is defined once, so for one precision only.
    obtain rfl : other = precision :=
      (Prod.mk.inj (List.inj_on_of_nodup_map once found target rfl)).2
    rcases List.mem_append.1 member with operand | last
    · obtain ⟨piece, listed, touched⟩ := List.mem_filterMap.1 operand
      unfold Mips.operandAccess? at touched
      split at touched
      · cases touched
      · next label =>
        obtain rfl := Option.some.inj touched
        exact (pieces piece listed).resolve_left label
    · obtain rfl := List.mem_singleton.1 last
      exact target

theorem forall_assignment?_iff {line : Line} {name expression : List Char}
    (assigned : line.assignment? = some (name, expression)) {P : List Char → List Char → Prop} :
    (∀ other value, line.assignment? = some (other, value) → P other value) ↔
      P name expression := by
  rw [assigned]
  constructor
  · exact fun all => all name expression rfl
  · rintro holds other value ⟨⟩
    exact holds

/-! ## Types along the lines -/

def Knows (types : Table String) (definitions : List (String × Precision)) : Prop :=
  ∀ name, (types.get? name).map precision? = (definitions.lookup name).map some

theorem not_mem_of_lookup_eq_none {definitions : List (String × Precision)} {name : String}
    (absent : definitions.lookup name = none) : name ∉ definitions.map Prod.fst := by
  rintro member
  obtain ⟨definition, listed, rfl⟩ := List.mem_map.1 member
  have other := List.lookup_eq_none_iff.1 absent definition listed
  simp at other

theorem mem_of_lookup_eq_some {definitions : List (String × Precision)} {name : String}
    {precision : Precision}
    (found : definitions.lookup name = some precision) : (name, precision) ∈ definitions := by
  obtain ⟨front, back, rfl, -⟩ := List.lookup_eq_some_iff.1 found
  simp

theorem Knows.put {types : Table String} {definitions : List (String × Precision)}
    (knows : Knows types definitions)
    {name varType : String} {precision : Precision} (typed : precision? varType = some precision)
    (new : name ∉ definitions.map Prod.fst) :
    Knows (types.put name varType) (definitions ++ [(name, precision)]) := by
  intro key
  rw [Table.get?_put, List.lookup_append]
  -- The table keeps what came last and the list what came first, so the name must be new.
  by_cases same : key = name
  · subst same
    have absent : definitions.lookup key = none := by
      refine Option.eq_none_iff_forall_ne_some.2 fun other found => new ?_
      exact List.mem_map_of_mem (mem_of_lookup_eq_some found)
    simp [absent, typed]
  · simp [knows key, List.lookup_cons, beq_eq_false_iff_ne.2 same, same]

theorem Knows.cases {types : Table String} {definitions : List (String × Precision)}
    (knows : Knows types definitions)
    (name : String) : (types.get? name = none ∧ name ∉ definitions.map Prod.fst) ∨
      ∃ varType precision, types.get? name = some varType ∧ precision? varType = some precision ∧
        (name, precision) ∈ definitions := by
  have told := knows name
  cases noted : types.get? name with
  | none =>
    rw [noted, Option.map_none, eq_comm, Option.map_eq_none_iff] at told
    exact Or.inl ⟨rfl, not_mem_of_lookup_eq_none told⟩
  | some varType =>
    rw [noted, Option.map_some, eq_comm] at told
    obtain ⟨precision, found, same⟩ := Option.map_eq_some_iff.1 told
    exact Or.inr ⟨varType, precision, rfl, same.symm, mem_of_lookup_eq_some found⟩

def varType? : Line → Option (List Char)
  | .initialized varType _ _ | .declared varType _ => some varType
  | .assigned .. | .printed _ => none

/-- What is known of the lines of an accepted text: variables are numbers or words, each is defined
once, and one that is assigned to is defined before or not at all. -/
structure Tidy (lines : List Line) : Prop where
  typed :
    ∀ line ∈ lines, ∀ varType ∈ line.varType?, (precision? (String.ofList varType)).isSome = true
  once : ((lines.filterMap definition?).map Prod.fst).Nodup
  early : ∀ front back name expression, lines = front ++ .assigned name expression :: back →
    String.ofList name ∈ (lines.filterMap definition?).map Prod.fst →
    String.ofList name ∈ (front.filterMap definition?).map Prod.fst

section
variable {lines front rest : List Line} {line : Line} (tidy : Tidy lines)
    (split : lines = front ++ line :: rest)
  {types : Table String} (knows : Knows types (front.filterMap definition?))
include tidy split

theorem Tidy.precision {varType : List Char} (listed : line.varType? = some varType) :
    ∃ precision, precision? (String.ofList varType) = some precision :=
  Option.isSome_iff_exists.1 (tidy.typed line (by simp [split]) varType listed)

theorem Tidy.new {name : String} {precision : Precision}
    (defined : line.definition? = some (name, precision)) :
    name ∉ (front.filterMap definition?).map Prod.fst := by
  have once := tidy.once
  rw [split, List.filterMap_append, List.filterMap_cons_some defined, List.map_append,
    List.nodup_append] at once
  exact fun member => once.2.2 name member name (List.mem_cons_self ..) rfl

include knows

theorem Knows.ofLine :
    Knows (Record.ofLine types line).2 ((front ++ [line]).filterMap definition?) := by
  have noted {varType name : List Char} (listed : line.varType? = some varType)
    (definition : line.definition? =
        (precision? (String.ofList varType)).map fun precision => (String.ofList name, precision)) :
      Knows (types.put (String.ofList name) (String.ofList varType))
        ((front ++ [line]).filterMap definition?) := by
    obtain ⟨precision, typed⟩ := tidy.precision split listed
    rw [typed, Option.map_some] at definition
    rw [List.filterMap_append, List.filterMap_cons_some definition, List.filterMap_nil]
    exact knows.put typed (tidy.new split definition)
  have unchanged (nothing : line.definition? = none) :
      Knows types ((front ++ [line]).filterMap definition?) := by
    rwa [List.filterMap_append, List.filterMap_cons_none nothing, List.filterMap_nil,
      List.append_nil]
  cases line with
  | initialized varType name expression => exact noted rfl rfl
  | declared varType name => exact noted rfl rfl
  | assigned name expression => exact unchanged rfl
  | printed name => exact unchanged rfl

theorem code_of_assignment? {name expression : List Char}
    (assigned : line.assignment? = some (name, expression)) :
    ∃ precision, line.code types = expressionCode precision expression (String.ofList name) ∧
      ((String.ofList name, precision) ∈ lines.filterMap definition? ∨
        precision = .word ∧ String.ofList name ∉ (lines.filterMap definition?).map Prod.fst) := by
  cases line with
  | declared | printed => cases assigned
  | initialized varType name expression =>
    obtain ⟨rfl, rfl⟩ := Prod.mk.inj (Option.some.inj assigned)
    obtain ⟨precision, typed⟩ := tidy.precision split rfl
    have defined : (Line.initialized varType name expression).definition? =
        some (String.ofList name, precision) := by
      rw [definition?, typed, Option.map_some]
    refine ⟨precision, by rw [code, typed, Option.elim_some], Or.inl ?_⟩
    exact List.mem_filterMap.2 ⟨_, by simp [split], defined⟩
  | assigned name expression =>
    obtain ⟨rfl, rfl⟩ := Prod.mk.inj (Option.some.inj assigned)
    rcases knows.cases (String.ofList name) with
      ⟨unknown, absent⟩ | ⟨varType, precision, noted, typed, defined⟩
    -- Without a datum before the line there is none at all.
    · have never := mt (tidy.early front rest name expression split) absent
      exact ⟨.word, by rw [code, unknown]; rfl, Or.inr ⟨rfl, never⟩⟩
    · refine ⟨precision, by rw [code, noted, Option.getD_some, typed, Option.elim_some], Or.inl ?_⟩
      rw [split, List.filterMap_append]
      exact List.mem_append_left _ defined

theorem accesses_iff :
    (∀ body ∈ line.code types, ∀ access, body.access? = some access →
      access ∈ lines.filterMap definition?) ↔
      ∀ name expression, line.assignment? = some (name, expression) →
        Addressed (lines.filterMap definition?) name expression := by
  cases assigned : line.assignment? with
  | some pair =>
    obtain ⟨name, expression⟩ := pair
    obtain ⟨precision, code, target⟩ := code_of_assignment? tidy split knows assigned
    rw [code, ← assigned, forall_assignment?_iff assigned]
    rcases target with defined | ⟨rfl, never⟩
    · exact addressed_iff tidy.once defined expression
    -- The variable itself is touched, so both sides fail.
    · refine iff_of_false (fun touched => never ?_) ?_
      · rw [← List.forall_mem_filterMap, Mips.access?_expressionCode] at touched
        have stored :=
          touched (String.ofList name, .word) (List.mem_append_right _ (List.mem_singleton_self _))
        exact List.mem_map_of_mem stored
      · rintro ⟨precision, defined, -⟩
        exact never (List.mem_map_of_mem defined)
  | none =>
    refine iff_of_true ?_ fun name expression same => by cases same
    cases line with
    | initialized | assigned => cases assigned
    | declared => exact List.forall_mem_nil _
    | printed name =>
      refine List.forall_mem_append.2 ⟨?_, List.forall_mem_singleton.2 fun access touched => by
        cases touched⟩
      rcases knows.cases (String.ofList name) with
        ⟨unknown, -⟩ | ⟨varType, precision, noted, typed, defined⟩
      · rw [unknown]
        exact List.forall_mem_nil _
      · have known : (String.ofList name, precision) ∈ lines.filterMap definition? := by
          rw [split, List.filterMap_append]
          exact List.mem_append_left _ defined
        rw [noted, Option.getD_some, typed]
        cases precision <;> simpa [printCode, Mips.Instruction.access?] using known

end

theorem Knows.start : Knows {} (([] : List Line).filterMap definition?) := fun _ => rfl

theorem Tidy.forall_code_iff {lines : List Line} (tidy : Tidy lines) {P : Mips.Instruction → Prop}
    {Q : Line → Prop}
    (each : ∀ {front line rest types}, lines = front ++ line :: rest →
      Knows types (front.filterMap definition?) →
      ((∀ body ∈ line.code types, P body) ↔ Q line))
    {front rest : List Line} (split : lines = front ++ rest) {types : Table String}
    (knows : Knows types (front.filterMap definition?)) :
    (∀ body ∈ Record.code types rest, P body) ↔ ∀ line ∈ rest, Q line := by
  -- The lines already passed move to the front, and what is noted of them goes along.
  induction rest generalizing front types with
  | nil => exact iff_of_true (List.forall_mem_nil _) (List.forall_mem_nil _)
  | cons line rest ih =>
    have others := ih (by rw [split, List.append_assoc]; rfl) (Knows.ofLine tidy split knows)
    rw [Record.code, List.forall_mem_append, List.forall_mem_cons, each split knows, others]

end Line

/-! ## Lines of accepted texts -/

namespace Line

section
variable {texts : List (List Char)} (orderly : ∀ text ∈ texts, Orderly text)
include orderly

theorem isIdentifier_of_definition {label : String}
    (defined : label ∈ ((texts.filterMap parse?).filterMap definition?).map Prod.fst) :
    isIdentifier label.toList = true := by
  obtain ⟨⟨_, precision⟩, listed, rfl⟩ := List.mem_map.1 defined
  obtain ⟨line, member, defines⟩ := List.mem_filterMap.1 listed
  obtain ⟨text, inside, read⟩ := List.mem_filterMap.1 member
  obtain ⟨varType, chars, after, typed, named⟩ := typedName?_of_definition? read defines
  have identifier := ((orderly text inside).tokens_typedName typed).1
  rwa [← named, String.toList_ofList]

theorem precision_of_varType? {line : Line} (listed : line ∈ texts.filterMap parse?)
    {varType : List Char}
    (word : line.varType? = some varType) : (precision? (String.ofList varType)).isSome = true := by
  obtain ⟨text, inside, read⟩ := List.mem_filterMap.1 listed
  have typed {name after : List Char} (found : typedName? text = some (varType, name, after)) :
      (precision? (String.ofList varType)).isSome = true := by
    rcases ((orderly text inside).tokens_typedName found).2.1 with rfl | rfl <;> rfl
  rcases parse?_cases read with
    ⟨_, name, after, expression, rfl, found, -⟩ | ⟨_, name, after, rfl, found⟩ |
    ⟨name, after, expression, rfl, -, -⟩ | ⟨name, after, rfl, -⟩
  · obtain rfl := Option.some.inj word
    exact typed found
  · obtain rfl := Option.some.inj word
    exact typed found
  · cases word
  · cases word

end

/-- A variable is defined before the lines that assign to it, or not at all: otherwise it would be
declared behind its first use. -/
theorem early_of_accepted {source : String} (accepted : Accepted source) {front back : List Line}
    {name expression : List Char}
    (split : ofSource source = front ++ .assigned name expression :: back)
    (defined : String.ofList name ∈ ((ofSource source).filterMap definition?).map Prod.fst) :
    String.ofList name ∈ (front.filterMap definition?).map Prod.fst := by
  obtain ⟨tokens, orderly⟩ := orderly_of_accepted accepted
  have identifier := isIdentifier_of_definition orderly defined
  rw [String.toList_ofList] at identifier
  -- The texts before, on and after the line.
  obtain ⟨before, rest, texts, rfl, rest_read⟩ := List.filterMap_eq_append_iff.1 split
  obtain ⟨skipped, text, after, rfl, -, read, rfl⟩ := List.filterMap_eq_cons_iff.1 rest_read
  have started : ∃ more, tokensFrom none text =
      ⟨String.ofList name, .identifier, some 0⟩ :: more := by
    rcases parse?_cases read with ⟨_, _, _, _, same, -, -⟩ | ⟨_, _, _, same, -⟩ |
      ⟨chars, tail, _, same, named, -⟩ | ⟨_, _, same, -⟩
    · cases same
    · cases same
    · obtain ⟨rfl, rfl⟩ := Line.assigned.inj same
      obtain ⟨-, ended, rfl⟩ := name?_eq_some named
      exact ⟨_, tokens_identifier identifier ended⟩
    · cases same
  obtain ⟨more, first⟩ := started
  rw [split, List.filterMap_append, List.filterMap_cons_none rfl, List.map_append,
    List.mem_append] at defined
  refine defined.resolve_right fun later => ?_
  have others : ∀ text ∈ after, Orderly text :=
    fun text member => orderly text (by simp [texts, member])
  obtain ⟨afterMore, joined⟩ := declaredFrom_append false more
  have declared : String.ofList name ∈ declaredFrom false
      (more ++ after.flatMap (tokensFrom none)) := by
    rw [joined]
    exact List.mem_append_right _ ((definitions_sublist others afterMore).subset later)
  -- So the name stands before its declaration.
  obtain ⟨faultless, once, -⟩ := announced_of_accepted accepted
  rw [tokens, texts, List.flatMap_append, List.flatMap_append, List.flatMap_cons, first,
    ← List.append_assoc, List.cons_append] at faultless once
  exact Scan.not_mem_declaredFrom faultless once rfl declared

theorem tidy_of_accepted {source : String} (accepted : Accepted source) :
    Tidy (ofSource source) where
  typed := fun _ member _ word => precision_of_varType? (orderly_of_accepted accepted).2 member word
  once := (definitions_of_accepted accepted).2
  early := fun _ _ _ _ => early_of_accepted accepted

end Line

/-- Code is generated for every accepted text, and it agrees with its data exactly if every variable
that is assigned has a datum, and every piece of what is assigned is a literal or has a datum like
that of the variable. -/
theorem well_addressed_iff (source : String) (accepted : Accepted source) :
    (Mips.ofSource source).error = none ∧ (Mips.WellAddressed (Mips.ofSource source).items ↔
      ∀ line ∈ Line.ofSource source, ∀ name expression, line.assignment? = some (name, expression) →
        Line.Addressed (Mips.data (Mips.ofSource source).items) name expression) := by
  obtain ⟨ok, data, accesses⟩ := Mips.ofSource_generated source
  have tidy := Line.tidy_of_accepted accepted
  refine ⟨ok, ?_⟩
  rw [Mips.WellAddressed, accesses, data, List.forall_mem_filterMap]
  exact tidy.forall_code_iff (fun split knows => Line.accesses_iff tidy split knows) rfl .start

theorem well_addressed_iff_mixed :
    let source :=
      "int a = 2;\nfloat b = 0.5;\n\tb = 1.5 * b;\nif (a < 3) \x7b\na = a + 3;\n\x7d\nprint(b);"
    Accepted source ∧ Mips.WellAddressed (Mips.ofSource source).items ∧
      Line.Addressed (Mips.data (Mips.ofSource source).items) "b".toList "1.5 * b".toList := by
  intro source
  obtain ⟨accepted, agrees, listed⟩ : Accepted source ∧
    Mips.WellAddressed (Mips.ofSource source).items ∧
      Line.assigned "b".toList "1.5 * b".toList ∈ Line.ofSource source := by decide +kernel
  exact ⟨accepted, agrees, (well_addressed_iff source accepted).2.1 agrees _ listed _ _ rfl⟩

/-- Parentheses stay with the piece they stand around, and `(1)` is no literal. -/
theorem not_well_addressed_group :
    Accepted "int a = (1);" ∧ ¬ Mips.WellAddressed (Mips.ofSource "int a = (1);").items := by
  decide +kernel

end Workbench
