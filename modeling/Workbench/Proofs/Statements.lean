import Workbench.Proofs.Lines
import Workbench.Script.Interpreter

/-! A source text as the statements on its lines.

A statement can be written with blanks in various places, and is read as it was written; any other
line is passed over. What the records of a text do to a store is what its statements do, one after
the other.
-/

set_option autoImplicit false

namespace Workbench

/-! ## Writing and reading -/

namespace Line

def Word (name : List Char) : Prop := name ≠ [] ∧ ∀ c ∈ name, Text.isWord c = true

theorem word_of_all {name : List Char} (some_char : name ≠ []) (all : name.all Text.isWord = true) :
    Word name :=
  ⟨some_char, List.all_eq_true.1 all⟩

def Blanks (text : List Char) : Prop := ∀ c ∈ text, Text.isBlank c = true

/-- What may stand on the right of an equals sign starts with something. -/
def Solid (text : List Char) : Prop := ∃ c ∈ text.head?, Text.isBlank c = false

inductive WrittenValue (expression : List Char) : List Char → Prop where
  | mk {before after : List Char} (before_blank : Blanks before) (after_blank : Blanks after)
    (solid : Solid expression) :
      WrittenValue expression (before ++ '=' :: (after ++ (expression ++ [';'])))

/-- The ways to write a statement on a line. -/
inductive Written : Line → List Char → Prop where
  | initialized {varType gap name expression value : List Char} (typed : varType ∈ typeWords) (apart : gap ≠ [])
    (blank : Blanks gap) (word : Word name) (written : WrittenValue expression value) :
    Written (.initialized varType name expression) (varType ++ (gap ++ (name ++ value)))
  | declared {varType gap name : List Char} (typed : varType ∈ typeWords) (apart : gap ≠ []) (blank : Blanks gap)
    (word : Word name) : Written (.declared varType name) (varType ++ (gap ++ (name ++ [';'])))
  | assigned {name expression value : List Char} (word : Word name) (written : WrittenValue expression value) :
    Written (.assigned name expression) (name ++ value)
  | printed {name : List Char} (word : Word name) :
    Written (.printed name) ("print(".toList ++ (name ++ ");".toList))

/-- Nothing that continues a word stands at the start. -/
def Ended (tail : List Char) : Prop := ∀ c ∈ tail.head?, Text.isWord c = false

theorem Blanks.ended {gap tail : List Char} (blank : Blanks gap) (ended : Ended tail) :
    Ended (gap ++ tail) := by
  cases gap with
  | nil => exact ended
  | cons c gap =>
    rintro _ ⟨⟩
    exact Text.isWord_of_isBlank (blank c (List.mem_cons_self ..))

theorem Ended.takeWhile {tail : List Char} (ended : Ended tail) :
    tail.takeWhile Text.isWord = [] := by
  cases tail with
  | nil => rfl
  | cons c tail => rw [List.takeWhile_cons_of_neg (by simp [ended c rfl])]

theorem Ended.dropWhile {tail : List Char} (ended : Ended tail) :
    tail.dropWhile Text.isWord = tail := by
  cases tail with
  | nil => rfl
  | cons c tail => rw [List.dropWhile_cons_of_neg (by simp [ended c rfl])]

theorem name?_word {name tail : List Char} (word : Word name) (ended : Ended tail) :
    name? (name ++ tail) = some (name, tail) := by
  rw [name?, List.takeWhile_append_of_pos word.2, List.dropWhile_append_of_pos word.2,
    ended.takeWhile, ended.dropWhile, List.append_nil]
  cases name with
  | nil => exact absurd rfl word.1
  | cons c name => rfl

theorem name?_ended {tail : List Char} (ended : Ended tail) : name? tail = none := by
  rw [name?, ended.takeWhile]

/-! A line is tried as one statement after the other, so each way to write one must be told from the
others. -/

theorem Solid.dropWhile {text : List Char} (solid : Solid text) :
    text.dropWhile Text.isBlank = text := by
  obtain ⟨c, head, solid⟩ := solid
  obtain ⟨rest, rfl⟩ := List.head?_eq_some_iff.1 head
  rw [List.dropWhile_cons_of_neg (by simp [solid])]

theorem beforeLastSemicolon?_concat (text : List Char) :
    beforeLastSemicolon? (text ++ [';']) = some text := by
  rw [beforeLastSemicolon?, List.reverse_append, List.reverse_singleton, List.singleton_append,
    List.dropWhile_cons_of_neg (by decide)]
  exact congrArg some text.reverse_reverse

theorem Solid.append {text : List Char} (solid : Solid text) (tail : List Char) :
    Solid (text ++ tail) := by
  obtain ⟨c, head, solid⟩ := solid
  obtain ⟨rest, rfl⟩ := List.head?_eq_some_iff.1 head
  exact ⟨c, rfl, solid⟩

theorem WrittenValue.ended {expression value : List Char}
    (written : WrittenValue expression value) : Ended value := by
  obtain ⟨before_blank, -, -⟩ := written
  refine before_blank.ended ?_
  rintro _ ⟨⟩
  decide

theorem WrittenValue.value? {expression value : List Char}
    (written : WrittenValue expression value) :
    value? value = some expression := by
  obtain ⟨before_blank, after_blank, solid⟩ := written
  have start : ∀ rest, ('=' :: rest).dropWhile Text.isBlank = '=' :: rest :=
    fun rest => List.dropWhile_cons_of_neg (by decide)
  rw [Line.value?, List.dropWhile_append_of_pos before_blank, start]
  simp only [List.dropWhile_append_of_pos after_blank, (solid.append _).dropWhile,
    beforeLastSemicolon?_concat]
  obtain ⟨c, head, -⟩ := solid
  obtain ⟨rest, rfl⟩ := List.head?_eq_some_iff.1 head
  rfl

theorem not_isBlank_of_isWord {c : Char} (word : Text.isWord c = true) :
    Text.isBlank c = false := by
  rw [← Bool.not_eq_true]
  intro blank
  rw [Text.isWord_of_isBlank blank] at word
  cases word

theorem Word.solid {name : List Char} (word : Word name) : Solid name := by
  cases name with
  | nil => exact absurd rfl word.1
  | cons c name => exact ⟨c, rfl, not_isBlank_of_isWord (word.2 c (List.mem_cons_self ..))⟩

theorem typedName?_written {varType gap name tail : List Char} (typed : varType ∈ typeWords)
    (apart : gap ≠ []) (blank : Blanks gap) (word : Word name) (ended : Ended tail) :
    typedName? (varType ++ (gap ++ (name ++ tail))) = some (varType, name, tail) := by
  have found : typeWords.find? (fun word => word.isPrefixOf (varType ++ (gap ++ (name ++ tail)))) =
      some varType := by
    simp only [typeWords, List.mem_cons, List.not_mem_nil, or_false] at typed
    rcases typed with rfl | rfl | rfl | rfl <;> rfl
  have gapped : (gap ++ (name ++ tail)).head?.any Text.isBlank = true := by
    cases gap with
    | nil => exact absurd rfl apart
    | cons c gap => exact blank c (List.mem_cons_self ..)
  simp only [typedName?, found, Option.bind_eq_bind, Option.bind_some, List.drop_left,
    gapped, if_true,
    Text.trimStart, List.dropWhile_append_of_pos blank, (word.solid.append tail).dropWhile,
      name?_word word ended]
  rfl

theorem prefix_of_ended {front name tail : List Char} (word : ∀ c ∈ front, Text.isWord c = true)
    (ended : Ended tail) (fits : front <+: name ++ tail) : front <+: name := by
  rcases List.prefix_or_prefix_of_prefix fits (List.prefix_append name tail) with
    inside | ⟨more, rfl⟩
  · exact inside
  · rw [List.prefix_append_right_inj] at fits
    cases more with
    | nil => simp
    | cons c more =>
      obtain ⟨rest, rfl⟩ := fits
      have outside := ended c rfl
      rw [word c (by simp)] at outside
      cases outside

/-- A word for a type in front of an equals sign is a name like any other. -/
theorem typedName?_value {name expression value : List Char} (word : Word name)
    (written : WrittenValue expression value) : typedName? (name ++ value) = none := by
  rw [typedName?]
  cases found : typeWords.find? fun word => word.isPrefixOf (name ++ value) with
  | none => rfl
  | some front =>
    have letters : ∀ front ∈ typeWords, front.all Text.isWord = true := by decide
    have taken : front.isPrefixOf (name ++ value) = true := by simpa using List.find?_some found
    have fits : front <+: name ++ value := List.isPrefixOf_iff_prefix.1 taken
    obtain ⟨more, rfl⟩ :=
      prefix_of_ended (List.all_eq_true.1 (letters front (List.mem_of_find?_eq_some found)))
      written.ended fits
    simp only [Option.bind_eq_bind, Option.bind_some, List.append_assoc, List.drop_left]
    cases more with
    -- The name is longer than the word for the type, so no blank follows that word.
    | cons c more =>
      have solid := not_isBlank_of_isWord (word.2 c (by simp))
      simp [solid]
    -- The name is the word for the type, and what follows the blanks is no name.
    | nil =>
      obtain ⟨before_blank, -, -⟩ := written
      have nothing : ∀ rest, name? ('=' :: rest) = none :=
        fun rest => name?_ended (by rintro _ ⟨⟩; decide)
      rw [List.nil_append, Text.trimStart, List.dropWhile_append_of_pos before_blank,
        List.dropWhile_cons_of_neg (by decide), nothing]
      split <;> rfl

theorem value?_paren {gap : List Char} (blank : Blanks gap) (rest : List Char) :
    value? (gap ++ '(' :: rest) = none := by
  rw [value?, List.dropWhile_append_of_pos blank, List.dropWhile_cons_of_neg (by decide)]
  rfl

/-- A word in front of a parenthesis starts a print or nothing. -/
theorem parse?_paren {name gap rest : List Char} (word : Word name) (blank : Blanks gap)
    (untyped : typedName? (name ++ (gap ++ '(' :: rest)) = none) :
    Line.parse? (name ++ (gap ++ '(' :: rest)) = printed? (name ++ (gap ++ '(' :: rest)) := by
  have opened : Ended (gap ++ '(' :: rest) := by
    apply blank.ended
    rintro _ ⟨⟩
    decide
  simp only [Line.parse?, initialized?, declared?, assigned?, untyped, name?_word word opened,
    value?_paren blank, Option.bind_eq_bind, Option.bind_some, Option.bind_none]
  rfl

theorem printed?_written {name : List Char} (word : Word name) :
    printed? ("print(".toList ++ (name ++ ");".toList)) = some (.printed name) := by
  have ended : Ended ");".toList := by
    rintro _ ⟨⟩
    decide
  have rest : List.drop 6 ("print(".toList ++ (name ++ ");".toList)) = name ++ ");".toList := rfl
  have front : "print(".toList.isPrefixOf ("print(".toList ++ (name ++ ");".toList)) = true := rfl
  rw [printed?, if_pos front, rest, name?_word word ended]
  rfl

/-- A statement is read as it is written. -/
theorem Written.parse? {line : Line} {text : List Char} (written : Written line text) :
    parse? text = some line := by
  cases written with
  | initialized typed apart blank word value =>
    simp only [Line.parse?, initialized?, typedName?_written typed apart blank word value.ended,
      Option.bind_eq_bind, Option.bind_some, value.value?]
    rfl
  | declared typed apart blank word =>
    have ended : Ended [';'] := by
      rintro _ ⟨⟩
      decide
    simp only [Line.parse?, initialized?, declared?,
      typedName?_written typed apart blank word ended]
    rfl
  | assigned word value =>
    simp only [Line.parse?, initialized?, declared?, assigned?, typedName?_value word value,
      name?_word word value.ended, Option.bind_eq_bind, Option.bind_some,
        Option.bind_none, value.value?]
    rfl
  | printed word =>
    have call : Word "print".toList := word_of_all (by decide) (by decide)
    have no_gap : Blanks [] := by simp [Blanks]
    exact (parse?_paren call no_gap rfl).trans (printed?_written word)

theorem parse?_if {gap : List Char} (blank : Blanks gap) (rest : List Char) :
    Line.parse? ("if".toList ++ (gap ++ '(' :: rest)) = none :=
  parse?_paren (word_of_all (by decide) (by decide)) blank rfl

theorem parse?_brace (rest : List Char) : Line.parse? ('\x7d' :: rest) = none := rfl

def ofSource (source : String) : List Line := (Text.contentLines source.toList).filterMap parse?

end Line

namespace Record

def ofStatements (types : Table String) : List Line → List Record
  | [] => []
  | line :: rest => (ofLine types line).1 ++ ofStatements (ofLine types line).2 rest

theorem ofLines_eq (types : Table String) (lines : List (List Char)) :
    ofLines types lines =
      ofStatements types
        (((lines.map Text.trim).filter fun line => !line.isEmpty).filterMap Line.parse?) := by
  induction lines generalizing types with
  | nil => rfl
  | cons text rest ih =>
    have passed : Line.parse? [] = none := rfl
    cases trimmed : Text.trim text with
    | nil =>
      simp only [ofLines, trimmed, passed, ih, List.map_cons, List.filter_cons_of_neg,
        List.isEmpty_nil, Bool.not_true, Bool.false_eq_true, not_false_eq_true]
    | cons c more =>
      rw [ofLines, trimmed, List.map_cons, trimmed, List.filter_cons_of_pos (by simp)]
      cases read : Line.parse? (c :: more) with
      | none => rw [List.filterMap_cons_none read, ← ih]
      | some line => rw [List.filterMap_cons_some read, ofStatements, ← ih]

theorem ofSource_eq (source : String) :
    ofSource source = ofStatements {} (Line.ofSource source) := by
  rw [ofSource, ofLines_eq, Line.ofSource, ← Text.contentLines_trim]
  rfl

end Record

/-! ## Running statements -/

section
variable (evaluator : Evaluator) (held : List Record)

namespace Store

def begin (varType name : List Char) (store : Store) : Store :=
  let value : Number := if varType = "int".toList then .int 0 else .float 0.0
  { store with symbols := store.symbols.put (String.ofList name) value }

def set (name expression : List Char) (store : Store) : Except RunError Store := do
  let (value, store) ← store.evaluate evaluator held (String.ofList expression)
  return { store with symbols := store.symbols.put (String.ofList name) value }

def line (name text : String) : String := name ++ " = " ++ text

def report (name : List Char) (store : Store) : Except RunError Store :=
  match store.symbols.get? (String.ofList name) with
  | none => throw (.undefinedVariable (String.ofList name))
  | some value =>
    do return { store with output := store.output ++ [line (String.ofList name) (← textOf value)] }

end Store

def Line.exec (store : Store) : Line → Except RunError Store
  | .initialized varType name expression =>
    (store.begin varType name).set evaluator held name expression
  | .declared varType name => pure (store.begin varType name)
  | .assigned name expression => store.set evaluator held name expression
  | .printed name => store.report name

theorem Run.over_eq (records : List Record) (store : Store) :
    (Run.over evaluator held records store).outcome =
      records.foldlM (fun store record => store.step evaluator held record) store := by
  induction records generalizing store with
  | nil => rfl
  | cons record rest ih =>
    rw [Run.over, List.foldlM_cons]
    cases stepped : store.step evaluator held record with
    | error error => rfl
    | ok next => exact ih next

theorem Store.step_declaration (varType name : List Char) (store : Store) :
    store.step evaluator held (.declaration (String.ofList name) (String.ofList varType)) =
      .ok (store.begin varType name) := by
  have same_type : (String.ofList varType == "int") = decide (varType = "int".toList) := by
    rw [beq_eq_decide]
    exact decide_eq_decide.2 ⟨fun same => by rw [← same, String.toList_ofList], fun same => by
      rw [same]; rfl⟩
  change Except.ok { store with symbols := store.symbols.put (String.ofList name) _ } = _
  simp only [same_type, decide_eq_true_eq]
  rfl

theorem Store.step_assignment (varType : String) (name expression : List Char) (store : Store) :
    store.step evaluator held
      (.assignment (String.ofList name) varType (String.ofList expression)) =
      store.set evaluator held name expression := rfl

theorem Store.step_print (varType : String) (name : List Char) (store : Store) :
    store.step evaluator held (.print (String.ofList name) varType) = store.report name := rfl

theorem Line.exec_eq (line : Line) (types : Table String) (store : Store) :
    (Record.ofLine types line).1.foldlM (fun store record =>
      store.step evaluator held record) store =
      line.exec evaluator held store := by
  cases line with
  | initialized varType name expression =>
    simp only [Record.ofLine, List.foldlM_cons, List.foldlM_nil, bind_pure, Store.step_declaration]
    exact Store.step_assignment evaluator held (String.ofList varType) name expression _
  | declared varType name =>
    simp only [Record.ofLine, List.foldlM_cons, List.foldlM_nil, bind_pure, Store.step_declaration]
    rfl
  | assigned name expression =>
    simp only [Record.ofLine, List.foldlM_cons, List.foldlM_nil, bind_pure, Store.step_assignment]
    rfl
  | printed name =>
    simp only [Record.ofLine, List.foldlM_cons, List.foldlM_nil, bind_pure, Store.step_print]
    rfl

/-- Records are run statement by statement. The types that they carry along do not count for what
they do. -/
theorem Run.over_ofStatements (lines : List Line) (types : Table String) (store : Store) :
    (Run.over evaluator held (Record.ofStatements types lines) store).outcome =
      lines.foldlM (fun store line => line.exec evaluator held store) store := by
  rw [over_eq]
  induction lines generalizing types store with
  | nil => rfl
  | cons line rest ih =>
    rw [Record.ofStatements, List.foldlM_append, Line.exec_eq, List.foldlM_cons]
    exact bind_congr fun next => ih _ next

theorem Run.over_ofSource (source : String) (store : Store) :
    (Run.over evaluator held (Record.ofSource source) store).outcome =
      (Line.ofSource source).foldlM (fun store line => line.exec evaluator held store) store := by
  rw [Record.ofSource_eq, over_ofStatements]

end

theorem interpret_eq (source : String) : interpret source =
    (Line.ofSource source).foldlM (fun store line =>
      line.exec .standard (Record.ofSource source) store) {} :=
  Run.over_ofSource .standard (Record.ofSource source) source {}

end Workbench
