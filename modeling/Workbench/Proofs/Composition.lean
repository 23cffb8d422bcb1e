import Workbench.Mips.Generator
import Workbench.Proofs.Marking
import Workbench.Proofs.Statements
import Workbench.Proofs.Tables

/-! Texts put together from lines.

What stands before a line boundary and what stands behind it are read apart, and statements written
on lines of their own are read back one by one. When a text is run, an expression can look at all of
its records. Only where none does is the text run as its front part, and then its back part on the
store that the front part left.
-/

set_option autoImplicit false

namespace Workbench

/-! ## One text after another -/

theorem Line.ofSource_newline (front back : String) :
    ofSource (front ++ "\n" ++ back) = ofSource front ++ ofSource back := by
  have chars : (front ++ "\n" ++ back).toList = front.toList ++ '\n' :: back.toList := by simp
  rw [ofSource, chars, Text.contentLines_boundary _ (by decide), List.filterMap_append]
  rfl

namespace Store

/-- The same comes of an expression whatever records are run. -/
def Blind (evaluator : Evaluator) (expression : String) : Prop :=
  ∀ (held other : List Record) (store : Store),
    store.evaluate evaluator held expression = store.evaluate evaluator other expression

end Store

section
variable (evaluator : Evaluator)

theorem Run.over_newline (held : List Record) (front back : String) (store : Store) :
    (Run.over evaluator held (Record.ofSource (front ++ "\n" ++ back)) store).outcome =
      (Run.over evaluator held (Record.ofSource front) store).outcome >>= fun next =>
        (Run.over evaluator held (Record.ofSource back) next).outcome := by
  simp only [over_ofSource, Line.ofSource_newline, List.foldlM_append]

variable {evaluator}

theorem Store.step_blind {record : Record}
    (blind : ∀ expression ∈ record.expression, Blind evaluator expression)
    (held other : List Record) (store : Store) :
    store.step evaluator held record = store.step evaluator other record := by
  have assigned : store.assign evaluator held record = store.assign evaluator other record := by
    unfold assign
    cases given : record.expression with
    | none =>
      rw [show require record.requireExpression = .error (.missing ⟨"expression_type"⟩) by
        rw [Record.requireExpression, given]; rfl]
      rfl
    | some expression =>
      rw [show require record.requireExpression =
        .ok expression by rw [Record.requireExpression, given]; rfl]
      refine bind_congr fun name => ?_
      change store.evaluate evaluator held expression >>= _ =
        store.evaluate evaluator other expression >>= _
      rw [blind expression given held other]
  unfold step
  rw [assigned]

theorem Run.over_blind {records : List Record}
    (blind : ∀ record ∈ records, ∀ expression ∈ record.expression, Store.Blind evaluator expression)
    (held other : List Record) (store : Store) :
    Run.over evaluator held records store = Run.over evaluator other records store := by
  induction records generalizing store with
  | nil => rfl
  | cons record rest ih =>
    obtain ⟨first, blind⟩ := List.forall_mem_cons.1 blind
    rw [Run.over, Run.over, Store.step_blind first held other]
    cases store.step evaluator other record with
    | error error => rfl
    | ok next => exact ih blind next

end

/-! ## Expressions that do not name the running program -/

namespace Text

section
variable {old new : List Char} {first : Char} {word : List Char}

theorem prefix_of_replaceFrom {c : Char} {more : List Char} (inserted : new = c :: more)
    {text : List Char} :
    ∀ {word : List Char}, c ∉ word → word <+: replaceFrom old new 0 text → word <+: text := by
  induction text with
  | nil => exact fun _ fits => fits
  | cons d rest ih =>
    intro word outside fits
    cases word with
    | nil => exact List.nil_prefix
    | cons e word =>
      rw [replaceFrom] at fits
      split at fits
      · rw [inserted, List.cons_append, List.cons_prefix_cons] at fits
        exact absurd (fits.1 ▸ List.mem_cons_self ..) outside
      · obtain ⟨same, later⟩ := List.cons_prefix_cons.1 fits
        exact List.cons_prefix_cons.2 ⟨same, ih (List.not_mem_of_not_mem_cons outside) later⟩

theorem infix_of_infix_append (outside : first ∉ new) {rest : List Char}
    (found : first :: word <:+: new ++ rest) : first :: word <:+: rest := by
  induction new with
  | nil => exact found
  | cons c new ih =>
    rcases List.infix_cons_iff.1 found with starts | later
    · exact absurd ((List.cons_prefix_cons.1 starts).1 ▸ List.mem_cons_self ..) outside
    · exact ih (List.not_mem_of_not_mem_cons outside) later

variable (outside : first ∉ new) {c : Char} {more : List Char} (inserted : new = c :: more)
    (other : c ∉ first :: word)
include outside inserted other

theorem infix_of_replaceFrom {text : List Char} {drop : Nat}
    (found : first :: word <:+: replaceFrom old new drop text) :
    first :: word <:+: text := by
  fun_induction replaceFrom old new drop text with
  | case1 => exact found
  | case2 drop d rest ih => exact List.infix_cons (ih found)
  | case3 d rest fits ih => exact List.infix_cons (ih (infix_of_infix_append outside found))
  | case4 d rest misfits ih =>
    rcases List.infix_cons_iff.1 found with starts | later
    · have whole : first :: word <+: replaceFrom old new 0 (d :: rest) := by
        rwa [replaceFrom, if_neg misfits]
      exact (prefix_of_replaceFrom inserted other whole).isInfix
    · exact List.infix_cons (ih later)

theorem infix_of_interleave {text : List Char} (found : first :: word <:+: interleave new text) :
    first :: word <:+: text := by
  induction text with
  | nil =>
    rw [interleave, ← List.append_nil new] at found
    exact infix_of_infix_append outside found
  | cons d rest ih =>
    rcases List.infix_cons_iff.1 (infix_of_infix_append outside found) with starts | later
    · obtain ⟨rfl, follows⟩ := List.cons_prefix_cons.1 starts
      cases word with
      | nil => exact (List.prefix_append [first] rest).isInfix
      | cons e word =>
        -- Behind a character comes what was put in, and the word does not go on with that.
        have next : ∃ tail, interleave new rest = c :: tail := by
          rw [inserted]
          cases rest <;> exact ⟨_, rfl⟩
        obtain ⟨tail, next⟩ := next
        rw [next] at follows
        refine absurd ?_ other
        exact List.mem_cons_of_mem _ ((List.cons_prefix_cons.1 follows).1 ▸ List.mem_cons_self ..)
    · exact List.infix_cons (ih later)

theorem infix_of_replace {text : List Char} (found : first :: word <:+: replace old new text) :
    first :: word <:+: text := by
  rw [replace] at found
  split at found
  · exact infix_of_interleave outside inserted other found
  · exact infix_of_replaceFrom outside inserted other found

end

end Text

/-- The text of a number starts with a digit, a sign or a letter of `inf` or `nan`, and has no `s`
in it. -/
theorem Number.text?_self {value : Number} {text : String} (shown : value.text? = some text) :
    's' ∉ text.toList ∧ ∃ c more, text.toList = c :: more ∧ c ∉ "self".toList := by
  have written {spelled : Arithmetic.Spelled} (written : spelled.Written text.toList) :
      's' ∉ text.toList ∧ ∃ c more, text.toList = c :: more ∧ c ∉ "self".toList := by
    refine ⟨fun member => absurd (written.chars _ member) (by decide), ?_⟩
    obtain ⟨figures, read, same⟩ := written
    split at same
    · exact ⟨'-', figures, same, by decide⟩
    · obtain ⟨c, more, chars, digit⟩ := read.head
      refine ⟨c, more, same.trans chars, fun member => ?_⟩
      have letters : ("self".toList.all (!·.isDigit)) = true := by decide
      have letter := List.all_eq_true.1 letters c member
      rw [digit] at letter
      cases letter
  cases value with
  | int n => exact written (Arithmetic.written_int shown)
  | float x =>
    obtain rfl := Option.some.inj shown
    cases kind : Binary64.ofFloat x with
    | finite negative significand exponent =>
      obtain ⟨spelled, spelt⟩ :=
        Arithmetic.written_float (x := x) (by rw [Arithmetic.isFinite, kind])
      exact written spelt
    | undefined =>
      rw [renderFloat, kind]
      exact ⟨by decide, 'n', "an".toList, rfl, by decide⟩
    | infinite negative =>
      rw [renderFloat, kind]
      cases negative
      · exact ⟨by decide, 'i', "nf".toList, rfl, by decide⟩
      · exact ⟨by decide, '-', "inf".toList, rfl, by decide⟩

theorem Formula.infix_of_occursIn {α : Type} [BEq α] [LawfulBEq α] {part text : List α}
    (occurs : occursIn part text = true) : part <:+: text := by
  induction text with
  | nil => exact List.isEmpty_iff.1 occurs ▸ List.nil_infix
  | cons c rest ih =>
    rcases Bool.or_eq_true_iff.1 occurs with starts | later
    · exact (List.isPrefixOf_iff_prefix.1 starts).isInfix
    · exact List.infix_cons (ih later)

namespace Store

/-- No value that is put in brings the name of the running program about. -/
theorem not_infix_substitute {entries : List (String × Number)} {expression replaced : String}
    (absent : ¬ "self".toList <:+: expression.toList)
    (done : substitute entries expression = .ok replaced) :
    ¬ "self".toList <:+: replaced.toList := by
  induction entries generalizing expression with
  | nil =>
    obtain rfl := Except.ok.inj done
    exact absent
  | cons entry rest ih =>
    obtain ⟨name, value⟩ := entry
    cases shown : value.text? with
    | none =>
      simp only [substitute, textOf, shown] at done
      cases done
    | some text =>
      obtain ⟨outside, c, more, inserted, other⟩ := Number.text?_self shown
      simp only [substitute, textOf, shown] at done
      refine ih (fun found => absent ?_) done
      simp only [String.toList_ofList] at found
      exact @Text.infix_of_replace _ _ 's' ['e', 'l', 'f'] outside c more inserted other _ found

theorem blind_of_not_infix (limits : Formula.Limits) {expression : String}
    (absent : ¬ "self".toList <:+: expression.toList) : Blind (.within limits) expression := by
  intro held other store
  unfold evaluate
  cases replaced : substitute store.symbols.entries expression with
  | error error => rfl
  | ok text =>
    have unnamed := mt Formula.infix_of_occursIn (not_infix_substitute absent replaced)
    have same : store.setting held text = store.setting other text := by
      rw [setting, setting, if_neg unnamed, if_neg unnamed]
    have evaluated : Evaluator.within limits held store text =
        Evaluator.within limits other store text := by
      rw [Evaluator.within, Evaluator.within, same]
    simp only [bind, Except.bind, evaluated]

end Store

/-- An expression of numbers, names, connectives, signs and parentheses. -/
def IsArithmetic (expression : String) : Prop :=
  ∃ tree : Arithmetic.Expression, tree.text id = expression.toList

/-- Running is compositional over lines, if no expression looks at the records that are run. A text
runs the records of its front part and then, on the store these left, those of its back part; but
all of them can be seen the whole time. If the same comes of every expression whatever records are
run, the front part may be run as a text of its own: if it fails, the whole fails with its error,
and else the whole does what the records of the back part do to the store that it left. This is so
for arithmetic without the word `self`. -/
theorem interpret_across_newline (evaluator : Evaluator) (front back : String) :
    let whole := Record.ofSource (front ++ "\n" ++ back)
    let records := Record.ofSource front ++ Record.ofSource back
    (interpretBy evaluator (front ++ "\n" ++ back) =
        (Run.over evaluator whole (Record.ofSource front) {}).outcome >>= fun store =>
          (Run.over evaluator whole (Record.ofSource back) store).outcome) ∧
      ((∀ record ∈ records, ∀ expression ∈ record.expression, Store.Blind evaluator expression) →
        ∀ held, interpretBy evaluator (front ++ "\n" ++ back) =
          interpretBy evaluator front >>= fun store =>
            (Run.over evaluator held (Record.ofSource back) store).outcome) ∧
      ((∀ record ∈ records, ∀ expression ∈ record.expression,
          IsArithmetic expression ∧ ¬ "self".toList <:+: expression.toList) →
        interpret (front ++ "\n" ++ back) =
          interpret front >>= fun store => (Run.start (Record.ofSource back) store).outcome) := by
  intro whole records
  have apart (evaluator : Evaluator)
      (blind : ∀ record ∈ records, ∀ expression ∈ record.expression,
        Store.Blind evaluator expression) (held : List Record) :
      interpretBy evaluator (front ++ "\n" ++ back) =
        interpretBy evaluator front >>= fun store =>
          (Run.over evaluator held (Record.ofSource back) store).outcome := by
    obtain ⟨first, second⟩ := List.forall_mem_append.1 blind
    rw [interpretBy, Run.over_newline, Run.over_blind first whole (Record.ofSource front)]
    exact bind_congr fun store => by rw [Run.over_blind second whole held]
  refine ⟨Run.over_newline evaluator whole front back {}, apart evaluator, fun arithmetic => ?_⟩
  refine apart .standard (fun record listed expression given => ?_) (Record.ofSource back)
  exact Store.blind_of_not_infix .standard (arithmetic record listed expression given).2

theorem interpret_across_newline_square :
    let front := "int x = 3;"
    let back := "int y = x * x;\nprint(y);"
    interpret (front ++ "\n" ++ back) =
        interpret front >>= (fun store => (Run.start (Record.ofSource back) store).outcome) ∧
      (interpret (front ++ "\n" ++ back)).map Store.result = .ok "y = 9" := by
  intro front back
  have three : IsArithmetic "3" := ⟨⟨.number (.integer ['3'] rfl) ⟨[], rfl⟩, .done⟩, by decide⟩
  have square : IsArithmetic "x * x" :=
    ⟨⟨.name ⟨['x'], rfl⟩ ⟨[' '], rfl⟩,
      .more .times ⟨[' '], rfl⟩ (.name ⟨['x'], rfl⟩ ⟨[], rfl⟩) .done⟩, by decide⟩
  have expressions : (Record.ofSource front ++ Record.ofSource back).filterMap (·.expression) =
      ["3", "x * x"] := by decide
  refine ⟨(interpret_across_newline .standard front back).2.2
    fun record listed expression given => ?_, by decide +kernel⟩
  have member : expression ∈ ["3", "x * x"] :=
    expressions ▸ List.mem_filterMap.2 ⟨record, listed, given⟩
  simp only [List.mem_cons, List.not_mem_nil, or_false] at member
  rcases member with rfl | rfl
  · exact ⟨three, by decide⟩
  · exact ⟨square, by decide⟩

/-- In front a variable is declared, and behind it the records are counted. -/
theorem interpret_across_newline_counting :
    let front := "int x = 1;"
    let back := "y = self.declarations.__len__();\nprint(y);"
    (interpret (front ++ "\n" ++ back)).map Store.result = .ok "y = 4" ∧
      (interpret front >>= fun store => (Run.start (Record.ofSource back) store).outcome).map
        Store.result = .ok "y = 2" := by
  decide +kernel

/-! ## Statements on lines of their own -/

namespace Line

theorem word_of_typed {varType : List Char} (typed : varType ∈ typeWords) : Word varType := by
  have words : ∀ word ∈ typeWords, word ≠ [] ∧ word.all Text.isWord = true := by decide
  obtain ⟨some_char, all⟩ := words varType typed
  exact word_of_all some_char all

theorem Written.solid {line : Line} {text : List Char} (written : Written line text) :
    Solid text := by
  cases written with
  | initialized typed | declared typed => exact (word_of_typed typed).solid.append _
  | assigned word => exact word.solid.append _
  | printed => exact ⟨'p', rfl, by decide⟩

theorem Written.ends {line : Line} {text : List Char} (written : Written line text) :
    [';'] <:+ text := by
  have behind {text : List Char} (ends : [';'] <:+ text) (front : List Char) : [';'] <:+
    front ++ text :=
    ends.trans (List.suffix_append front text)
  have last (front : List Char) : [';'] <:+ front ++ [';'] := List.suffix_append front [';']
  have value {expression text : List Char} (written : WrittenValue expression text) :
      [';'] <:+ text := by
    obtain ⟨-, -, -⟩ := written
    exact behind (behind (last _) (_ :: _)) _
  cases written with
  | initialized typed apart blank word written =>
    exact behind (behind (behind (value written) _) _) _
  | declared => exact behind (behind (last _) _) _
  | assigned word written => exact behind (value written) _
  | printed => exact behind (behind (last [')']) _) _

theorem Written.contentLines {line : Line} {text : List Char} (written : Written line text)
    (plain : ∀ c ∈ text, Text.isBoundary c = false) : Text.contentLines text = [text] := by
  obtain ⟨front, ends⟩ := written.ends
  -- A statement starts with a letter and ends with a semicolon, so no blank is lost at its ends.
  have trimmed : Text.trim text = text := by
    rw [Text.trim, Text.trimStart, written.solid.dropWhile, ← ends, Text.trimEnd_concat (by decide)]
  exact Text.contentLines_line (by rw [← ends]; simp) plain trimmed

def declares? (name : List Char) : Line → Option (List Char)
  | initialized varType other _ | declared varType other =>
    if other = name then some varType else none
  | assigned .. | printed _ => none

/-- The type that a name was last declared with, if the latest statement stands first. -/
def typeOf? (name : List Char) (earlier : List Line) : Option (List Char) :=
  earlier.findSome? (·.declares? name)

def records (earlier : List Line) : Line → List Record
  | initialized varType name expression =>
    [.declaration (.ofList name) (.ofList varType),
      .assignment (.ofList name) (.ofList varType) (.ofList expression)]
  | declared varType name => [.declaration (.ofList name) (.ofList varType)]
  | assigned name expression =>
    [.assignment (.ofList name) (.ofList ((typeOf? name earlier).getD "int".toList))
      (.ofList expression)]
  | printed name => [.print (.ofList name) (.ofList ((typeOf? name earlier).getD "unknown".toList))]

/-- The records of statements that come after others, of which the latest stands first. -/
def recordsAfter (earlier : List Line) : List Line → List Record
  | [] => []
  | line :: rest => line.records earlier ++ recordsAfter (line :: earlier) rest

end Line

namespace Sheet

structure Entry where
  line : Line
  chars : List Char
  written : line.Written chars
  plain : ∀ c ∈ chars, Text.isBoundary c = false

structure Margin where
  chars : List Char
  blank : Line.Blanks chars
  plain : ∀ c ∈ chars, Text.isBoundary c = false

structure Ending where
  chars : List Char
  some_char : chars ≠ []
  boundary : ∀ c ∈ chars, Text.isBoundary c = true

inductive Row where
  | blank (margin : Margin)
  | filled (indent : Margin) (entry : Entry) (trailing : Margin)

end Sheet

/-- Rows with at most one statement each, all but the last with what ends them. -/
structure Sheet where
  rows : List (Sheet.Row × Sheet.Ending)
  last : Sheet.Row

namespace Sheet

def Row.chars : Row → List Char
  | blank margin => margin.chars
  | filled indent entry trailing => indent.chars ++ (entry.chars ++ trailing.chars)

def Row.content? : Row → Option Entry
  | blank _ => none
  | filled _ entry _ => some entry

def chars (sheet : Sheet) : List Char :=
  sheet.rows.flatMap (fun row => row.1.chars ++ row.2.chars) ++ sheet.last.chars

def source (sheet : Sheet) : String := String.ofList sheet.chars

def entries (sheet : Sheet) : List Entry :=
  sheet.rows.filterMap (·.1.content?) ++ sheet.last.content?.toList

def lines (sheet : Sheet) : List Line := sheet.entries.map Entry.line

/-! A statement is all that is left of its row. -/

theorem Row.contentLines (row : Row) :
    Text.contentLines row.chars = (row.content?.map Entry.chars).toList := by
  cases row with
  | blank margin => exact Text.contentLines_append_blank [] margin.blank
  | filled indent entry trailing =>
    rw [Row.chars, Text.contentLines_blank_append indent.blank,
      Text.contentLines_append_blank _ trailing.blank]
    exact entry.written.contentLines entry.plain

theorem Ending.contentLines (ending : Ending) (front back : List Char) :
    Text.contentLines (front ++ (ending.chars ++ back)) =
      Text.contentLines front ++ Text.contentLines back := by
  obtain ⟨chars, some_char, boundary⟩ := ending
  cases chars with
  | nil => exact absurd rfl some_char
  | cons c chars =>
    obtain ⟨first, others⟩ := List.forall_mem_cons.1 boundary
    have blank : ∀ d ∈ chars, Text.isBlank d = true := fun d member =>
      Text.isBlank_of_isBoundary (others d member)
    rw [List.cons_append, Text.contentLines_boundary front first,
      Text.contentLines_blank_append blank]

theorem contentLines_chars (sheet : Sheet) :
    Text.contentLines sheet.chars = sheet.entries.map Entry.chars := by
  obtain ⟨rows, last⟩ := sheet
  simp only [chars, entries]
  induction rows with
  | nil =>
    rw [List.flatMap_nil, List.nil_append, last.contentLines]
    cases last <;> rfl
  -- What ends a row parts it from the rows after it.
  | cons row rows ih =>
    rw [List.flatMap_cons, List.append_assoc, List.append_assoc, row.2.contentLines, ih,
      row.1.contentLines]
    cases filled : row.1.content? <;> simp [filled]

theorem ofSource_source (sheet : Sheet) : Line.ofSource sheet.source = sheet.lines := by
  rw [Line.ofSource, source, String.toList_ofList, contentLines_chars, List.filterMap_map, lines,
    ← List.filterMap_eq_map]
  exact List.filterMap_congr fun entry _ => entry.written.parse?

end Sheet

/-! The types that the reader carries along are those that the names were last declared with. -/

namespace Line

def Holds (types : Table String) (earlier : List Line) : Prop :=
  ∀ name, types.get? (.ofList name) = (typeOf? name earlier).map String.ofList

theorem Holds.put {types : Table String} {earlier : List Line} (holds : Holds types earlier)
    {name varType : List Char} {line : Line}
    (declares : ∀ other, line.declares? other = if name = other then some varType else none) :
    Holds (types.put (.ofList name) (.ofList varType)) (line :: earlier) := by
  intro other
  -- The statement that stands first is the latest, as the value that was put in last is.
  rw [Table.get?_put, typeOf?, List.findSome?_cons, declares]
  by_cases same : name = other
  · rw [if_pos (congrArg String.ofList same.symm), if_pos same]
    rfl
  · rw [if_neg fun equal => same (String.ofList_inj.1 equal).symm, if_neg same, holds other]
    rfl

theorem Holds.ofLine {types : Table String} {earlier : List Line}
    (holds : Holds types earlier) (line : Line) :
    (Record.ofLine types line).1 = line.records earlier ∧
      Holds (Record.ofLine types line).2 (line :: earlier) := by
  cases line with
  | initialized varType name expression => exact ⟨rfl, holds.put fun _ => rfl⟩
  | declared varType name => exact ⟨rfl, holds.put fun _ => rfl⟩
  | assigned name expression =>
    refine ⟨?_, holds⟩
    simp only [Record.ofLine, records, holds name]
    cases typeOf? name earlier <;> rfl
  | printed name =>
    refine ⟨?_, holds⟩
    simp only [Record.ofLine, records, holds name]
    cases typeOf? name earlier <;> rfl

theorem Holds.ofStatements {types : Table String} {earlier : List Line}
    (holds : Holds types earlier)
    (lines : List Line) : Record.ofStatements types lines = recordsAfter earlier lines := by
  induction lines generalizing types earlier with
  | nil => rfl
  | cons line rest ih =>
    obtain ⟨records, after⟩ := holds.ofLine line
    rw [Record.ofStatements, records, ih after, recordsAfter]

end Line

/-- Reading inverts writing. However statements are laid out, one on a line, the records of the text
are theirs, and both what is run and what is generated start from these records. -/
theorem Sheet.records_of_sheet (sheet : Sheet) :
    Record.ofSource sheet.source = Line.recordsAfter [] sheet.lines ∧
      interpret sheet.source = (Run.start (Line.recordsAfter [] sheet.lines) {}).outcome ∧
      Mips.ofSource sheet.source = Mips.generate (Line.recordsAfter [] sheet.lines) := by
  have nothing_known : Line.Holds {} [] := fun _ => rfl
  have records : Record.ofSource sheet.source = Line.recordsAfter [] sheet.lines := by
    rw [Record.ofSource_eq, ofSource_source, nothing_known.ofStatements]
  exact ⟨records, by rw [← records]; rfl, by rw [Mips.ofSource, records]⟩

/-- A word for a type may be a name, and a value may hold anything that looks like a statement. -/
example : Line.parse? "int = int x = 1; print(y);".toList =
    some (.assigned "int".toList "int x = 1; print(y)".toList) := by decide

end Workbench
