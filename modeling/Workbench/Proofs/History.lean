import Mathlib.Data.List.Basic
import Mathlib.Data.List.TakeDrop
import Workbench.Window

/-! Compiling does not depend on what was done before.

Three things outlive a compilation: what the compiler remembers, the messages, and the table of
tokens. What is remembered is written anew before it is looked at, the messages are cleared, and
every cell of the table that is kept is written over.
-/

set_option autoImplicit false

namespace Workbench

/-! ## What the compiler remembers -/

/-- Whether parsing halts, and with which faults it ends, does not depend on what is remembered. -/
theorem Session.parse_fst (tokens : List Token) (first second : Session) :
    (first.parse tokens).1 = (second.parse tokens).1 := by
  rw [parse, parse]
  cases (Syntax.program (.ofTokens tokens)).result <;> rfl

theorem Session.parse_snd {tokens : List Token} {first : Session} {errors : List Syntax.SyntaxError}
    (ended : (first.parse tokens).1 = .ok errors) (second : Session) :
    (first.parse tokens).2 = (second.parse tokens).2 := by
  rw [parse] at ended
  rw [parse, parse]
  cases result : (Syntax.program (.ofTokens tokens)).result with
  | error halt => rw [result] at ended; cases ended
  | ok => rfl

def Compilation.shown (compilation : Compilation) :
    List Token × List Message × Except CompileError (Option Results) :=
  (compilation.tokens, compilation.messages, compilation.outcome)

theorem compileSyntax_shown (source : String) (tokens : List Token) (messages : List Message)
    (first second : Session) :
    (compileSyntax source tokens messages first).shown =
      (compileSyntax source tokens messages second).shown := by
  have faults := Session.parse_fst tokens first second
  have remembered {errors : List Syntax.SyntaxError}
    (ended : (first.parse tokens).1 = .ok errors) :=
    Session.parse_snd ended second
  rw [compileSyntax, compileSyntax]
  generalize first.parse tokens = one at *
  generalize second.parse tokens = two at *
  obtain ⟨outcome, session⟩ := one
  obtain ⟨_, _⟩ := two
  obtain rfl := faults
  -- A parser that halts ends the compilation, and any other has written what the next phase reads.
  cases outcome with
  | error halt => rfl
  | ok errors =>
    obtain rfl := remembered rfl
    rfl

theorem compile_shown (source : String) (first second : Session) :
    (compile source first).shown = (compile source second).shown := by
  rw [compile, compile]
  cases (lex source).errors with
  | nil => exact compileSyntax_shown ..
  | cons error rest => rfl

theorem Editor.compile_eq {first second : Editor} (same : first.text = second.text) :
    first.compile.1 = second.compile.1 ∧ first.compile.2.rows = second.compile.2.rows ∧
      first.compile.2.messages = second.compile.2.messages ∧
        first.compile.2.results = second.compile.2.results := by
  have shown := compile_shown second.text first.session second.session
  rw [← same] at shown
  simp only [Compilation.shown, Prod.mk.injEq] at shown
  obtain ⟨tokens, messages, outcome⟩ := shown
  rw [Editor.compile, Editor.compile, ← same, outcome]
  cases (Workbench.compile first.text second.session).outcome with
  | error error => exact ⟨rfl, tokens, messages, rfl⟩
  | ok results => exact ⟨rfl, tokens, messages, rfl⟩

theorem compile_tokens (source : String) (session : Session) :
    (compile source session).tokens = (lex source).tokens := by
  have semantics (tokens : List Token) (messages : List Message) (session : Session) :
      (compileSemantics source tokens messages session).tokens = tokens := by
    rw [compileSemantics]
    split <;> rfl
  rw [compile]
  cases (lex source).errors with
  | cons error rest => rfl
  | nil =>
    change (compileSyntax ..).tokens = _
    rw [compileSyntax]
    split
    · rfl
    · rfl
    · exact semantics ..

theorem Editor.compile_rows (editor : Editor) :
    editor.compile.2.rows = (lex editor.text).tokens := by
  rw [← compile_tokens editor.text editor.session, Editor.compile]
  cases (Workbench.compile editor.text editor.session).outcome <;> rfl

/-! ## What is seen -/

open Toolkit

structure Grid where
  columns : Nat := 0
  rows : List (List String) := []

namespace Grid

def setRowCount (count : Nat) (grid : Grid) : Grid :=
  { grid with rows := grid.rows.takeD count (List.replicate grid.columns "") }

def setItem (row column : Nat) (text : String) (grid : Grid) : Grid :=
  { grid with rows := grid.rows.modify row fun cells => cells.set column text }

def Ready (grid : Grid) : Prop := grid.columns = 3 ∧ ∀ row ∈ grid.rows, row.length = 3

theorem forall_mem_takeD {α : Type} {holds : α → Prop} {items : List α} {filler : α}
    (all : ∀ item ∈ items, holds item) (fills : holds filler) (count : Nat) :
    ∀ item ∈ items.takeD count filler, holds item := by
  induction count generalizing items with
  | zero => simp
  | succ count ih =>
    rw [List.takeD_succ, List.forall_mem_cons]
    cases items with
    | nil => exact ⟨fills, ih all⟩
    | cons item items => exact ⟨all item (List.mem_cons_self ..), ih (List.forall_mem_cons.1 all).2⟩

theorem Ready.setRowCount {grid : Grid} (ready : grid.Ready) (count : Nat) :
    (grid.setRowCount count).Ready :=
  ⟨ready.1, forall_mem_takeD ready.2 (by simp [ready.1]) count⟩

theorem modify_behind {α : Type} (front : List α) (item : α) (back : List α) (change : α → α) :
    (front ++ item :: back).modify front.length change = front ++ change item :: back := by
  induction front with
  | nil => rfl
  | cons first front ih =>
    rw [List.cons_append, List.length_cons, List.modify_succ_cons, ih, List.cons_append]

end Grid

/-- A toolkit, as far as the message box and the table of tokens go: what a call does to its states,
and what is seen in them. -/
structure Display (State : Type) where
  answer : State → Call → State
  /-- The texts of the message box, each with its look. -/
  texts : State → List (Value × String)
  grid : State → Grid

namespace Display

variable {State : Type}

def after (display : Display State) (calls : List Call) (state : State) : State :=
  calls.foldl display.answer state

/-- What is assumed of a toolkit. -/
structure Lawful (display : Display State) : Prop where
  texts_clear (state : State) :
    display.texts (display.answer state (.on "message_output" "clear")) = []
  texts_write (state : State) (look : Value) (text : String) :
    display.texts (display.after (Window.writeCalls look text) state) =
      display.texts state ++ [(look, text)]
  texts_apart (state : State) (call : Call) (origin : call.origin? =
    some "lexical_analizer_table") :
    display.texts (display.answer state call) = display.texts state
  grid_apart (state : State) (call : Call) (origin : call.origin? = some "message_output") :
    display.grid (display.answer state call) = display.grid state
  columns_setColumnCount (state : State) (count : Nat) :
    (display.grid (display.answer state
      (.on "lexical_analizer_table" "setColumnCount" [.int count]))).columns = count
  columns_setLabels (state : State) (labels : List Value) :
    (display.grid (display.answer state
      (.on "lexical_analizer_table" "setHorizontalHeaderLabels" labels))).columns =
        (display.grid state).columns
  grid_setRowCount (state : State) (count : Nat) :
    display.grid (display.answer state (.on "lexical_analizer_table" "setRowCount" [.int count])) =
      (display.grid state).setRowCount count
  /-- No row moves, although the form asks for sorted rows. -/
  grid_setItem (state : State) (row column : Nat) (text : String) :
    display.grid (display.answer state (.on "lexical_analizer_table" "setItem"
        [.int row, .int column, .unnamed "QTableWidgetItem" [.text text] []])) =
      (display.grid state).setItem row column text

theorem after_append (display : Display State) (first second : List Call) (state : State) :
    display.after (first ++ second) state = display.after second (display.after first state) :=
  List.foldl_append

namespace Lawful

variable {display : Display State}

theorem texts_after (lawful : display.Lawful) {calls : List Call}
    (origin : ∀ call ∈ calls, call.origin? = some "lexical_analizer_table") (state : State) :
    display.texts (display.after calls state) = display.texts state := by
  induction calls generalizing state with
  | nil => rfl
  | cons call calls ih =>
    obtain ⟨first, others⟩ := List.forall_mem_cons.1 origin
    exact (ih others _).trans (lawful.texts_apart state call first)

theorem grid_after (lawful : display.Lawful) {calls : List Call}
    (origin : ∀ call ∈ calls, call.origin? = some "message_output") (state : State) :
    display.grid (display.after calls state) = display.grid state := by
  induction calls generalizing state with
  | nil => rfl
  | cons call calls ih =>
    obtain ⟨first, others⟩ := List.forall_mem_cons.1 origin
    exact (ih others _).trans (lawful.grid_apart state call first)

end Lawful

end Display

/-- A display that keeps just what is seen, and the look that the next text gets. -/
structure Screen where
  look : Value := .nothing
  texts : List (Value × String) := []
  grid : Grid := {}

namespace Screen

def ask (request : String) (arguments : List Value) (grid : Grid) : Grid :=
  match request, arguments with
  | "clear", [] => { grid with rows := grid.rows.map fun row => row.map fun _ => "" }
  | "setColumnCount", [.int count] =>
    ⟨count.toNat, grid.rows.map fun row => row.takeD count.toNat ""⟩
  | "setRowCount", [.int count] => grid.setRowCount count.toNat
  | "setItem", [.int row, .int column, .unnamed _ [.text text] _] =>
    grid.setItem row.toNat column.toNat text
  | _, _ => grid

def answer (screen : Screen) (call : Call) : Screen :=
  match call.target, call.request, call.arguments with
  | some (.object "lexical_analizer_table"), request, arguments =>
    { screen with grid := ask request arguments screen.grid }
  | some (.object "message_output"), "clear", [] => { screen with texts := [] }
  | some (.reply (.object "message_output") "textCursor" []), "setCharFormat", [look] =>
    { screen with look := look }
  | some (.reply (.object "message_output") "textCursor" []), "insertText", [.text text] =>
    { screen with texts := screen.texts ++ [(screen.look, text)] }
  | _, _, _ => screen

def display : Display Screen := ⟨answer, texts, grid⟩

theorem lawful_display : display.Lawful where
  texts_clear _ := rfl
  texts_write _ _ _ := rfl
  texts_apart screen call origin := by
    change (screen.answer call).texts = screen.texts
    unfold answer
    split <;> simp_all [Call.origin?, Value.origin?]
  grid_apart screen call origin := by
    change (screen.answer call).grid = screen.grid
    unfold answer
    split <;> simp_all [Call.origin?, Value.origin?]
  columns_setColumnCount _ _ := rfl
  columns_setLabels screen labels := by
    change (ask "setHorizontalHeaderLabels" labels screen.grid).columns = screen.grid.columns
    unfold ask
    split <;> simp_all
  grid_setRowCount _ _ := rfl
  grid_setItem _ _ _ _ := rfl

end Screen

/-! ## What is seen of a compilation -/

def Message.entry (message : Message) : Value × String :=
  (Window.look message, message.text ++ "\n")

namespace Display.Lawful

variable {State : Type} {display : Display State}

theorem texts_messages (lawful : display.Lawful) (messages : List Message) (state : State) :
    display.texts (display.after (messages.flatMap Window.messageCalls) state) =
      display.texts state ++ messages.map Message.entry := by
  induction messages generalizing state with
  | nil => exact (List.append_nil _).symm
  | cons message messages ih =>
    rw [List.flatMap_cons, after_append, ih, Window.messageCalls, lawful.texts_write, List.map_cons,
      List.append_assoc]
    rfl

theorem grid_messages (lawful : display.Lawful) (messages : List Message) (state : State) :
    display.grid (display.after (messages.flatMap Window.messageCalls) state) =
      display.grid state := by
  refine lawful.grid_after (fun call member => ?_) state
  obtain ⟨message, -, member⟩ := List.mem_flatMap.1 member
  simp only [Window.messageCalls, Window.writeCalls, List.mem_cons, List.not_mem_nil,
    or_false] at member
  rcases member with rfl | rfl | rfl <;> rfl

theorem texts_rows (lawful : display.Lawful) (tokens : List Token) (state : State) :
    display.texts (display.after (tokens.mapIdx Window.rowCalls).flatten state) =
      display.texts state := by
  refine lawful.texts_after (fun call member => ?_) state
  simp only [List.mem_flatten, List.mem_mapIdx, Window.rowCalls] at member
  obtain ⟨_, ⟨row, inside, rfl⟩, member⟩ := member
  obtain ⟨column, inside, rfl⟩ := List.mem_mapIdx.1 member
  rfl

theorem grid_rowCalls (lawful : display.Lawful) (state : State) {front back : List (List String)}
    {cells : List String} (rows : (display.grid state).rows = front ++ cells :: back)
    (full : cells.length = 3) (token : Token) :
    display.grid (display.after (Window.rowCalls front.length token) state) =
      { display.grid state with rows := front ++ Editor.row token :: back } := by
  obtain ⟨first, second, third, rfl⟩ := List.length_eq_three.1 full
  have written : display.grid (display.after (Window.rowCalls front.length token) state) =
      (((display.grid state).setItem front.length 0 token.lexeme).setItem front.length 1
        (orNone token.kind.label)).setItem front.length 2 (orNone (token.number.map toString)) := by
    rw [← lawful.grid_setItem, ← lawful.grid_setItem, ← lawful.grid_setItem]
    rfl
  rw [written]
  simp only [Grid.setItem, rows, Grid.modify_behind]
  rfl

theorem grid_rows (lawful : display.Lawful) (tokens : List Token) (state : State)
    {front old : List (List String)} (rows : (display.grid state).rows = front ++ old)
    (count : old.length = tokens.length) (full : ∀ row ∈ old, row.length = 3) :
    display.grid (display.after
        (tokens.mapIdx fun row => Window.rowCalls (front.length + row)).flatten state) =
      { display.grid state with rows := front ++ tokens.map Editor.row } := by
  -- The rows in front are done, and the others are still to be written.
  induction tokens generalizing state front old with
  | nil =>
    obtain rfl := List.length_eq_zero_iff.1 count
    rw [List.map_nil, ← rows]
    rfl
  | cons token tokens ih =>
    cases old with
    | nil => cases count
    | cons cells old =>
      obtain ⟨first, others⟩ := List.forall_mem_cons.1 full
      have done := lawful.grid_rowCalls state rows first token
      have rest : (display.grid (display.after (Window.rowCalls front.length token) state)).rows =
          (front ++ [Editor.row token]) ++ old := by
        rw [done, List.append_assoc]
        rfl
      have later := ih (display.after (Window.rowCalls front.length token) state) rest
        (Nat.succ.inj count) others
      have shifted : (fun row => Window.rowCalls ((front ++ [Editor.row token]).length + row)) =
          fun row => Window.rowCalls (front.length + (row + 1)) := by
        funext row
        rw [List.length_append, List.length_singleton, Nat.add_assoc, Nat.add_comm 1]
      rw [shifted] at later
      rw [List.mapIdx_cons, List.flatten_cons, after_append, Nat.add_zero, later, done]
      simp only [List.map_cons, List.append_assoc, List.singleton_append]

theorem after_clear (lawful : display.Lawful) (count : Nat) (state : State) :
    display.texts (display.after [.on "message_output" "clear",
        .on "lexical_analizer_table" "setRowCount" [.int count]] state) = [] ∧
      display.grid (display.after [.on "message_output" "clear",
        .on "lexical_analizer_table" "setRowCount" [.int count]] state) =
          (display.grid state).setRowCount count := by
  constructor
  · exact (lawful.texts_apart _ _ rfl).trans (lawful.texts_clear state)
  · rw [← lawful.grid_apart state (.on "message_output" "clear") rfl]
    exact lawful.grid_setRowCount ..

/-- What a compilation asks for leaves nothing of what was seen before. -/
theorem after_compile (lawful : display.Lawful) (state : State) {window : Window}
    (ready : (display.grid (display.after window.log state)).Ready) :
    display.texts (display.after window.compile.log state) =
        window.editor.compile.2.messages.map Message.entry ∧
      display.grid (display.after window.compile.log state) =
        ⟨3, window.editor.compile.2.rows.map Editor.row⟩ := by
  have calls : window.compile.log = window.log ++
      ([.on "message_output" "clear",
          .on "lexical_analizer_table" "setRowCount" [.int window.editor.compile.2.rows.length]] ++
        (window.editor.compile.2.rows.mapIdx Window.rowCalls).flatten ++
        window.editor.compile.2.messages.flatMap Window.messageCalls) := rfl
  generalize window.editor.compile.2.rows = tokens at *
  generalize window.editor.compile.2.messages = messages at *
  rw [calls]
  simp only [after_append]
  obtain ⟨texts, grid⟩ := lawful.after_clear tokens.length (display.after window.log state)
  generalize display.after [_, _] (display.after window.log state) = cleared at *
  have kept := ready.setRowCount tokens.length
  rw [← grid] at kept
  have count : (display.grid cleared).rows.length = tokens.length := by
    rw [grid]
    exact List.takeD_length ..
  have filled := lawful.grid_rows tokens cleared (List.nil_append _).symm count kept.2
  simp only [List.length_nil, Nat.zero_add, List.nil_append] at filled
  constructor
  · rw [lawful.texts_messages, lawful.texts_rows, texts, List.nil_append]
  · rw [lawful.grid_messages, filled, kept.1]

end Display.Lawful

/-! ## Histories -/

inductive Deed where
  | write (text : String)
  | compile
  | openFile (path : String)
  | saveFile (path : String)
  deriving DecidableEq, Repr

structure Desk where
  window : Window
  disk : Disk

namespace Desk

def start (session : Session) (disk : Disk) : Desk :=
  ⟨{ Window.start with editor := { session := session } }, disk⟩

def perform (desk : Desk) : Deed → Desk
  | .write text =>
    { desk with window := { desk.window with editor := { desk.window.editor with text := text } } }
  | .compile => { desk with window := desk.window.compile }
  | .openFile path =>
    { desk with
      window := { desk.window with editor := desk.window.editor.openFile path desk.disk } }
  | .saveFile path =>
    let saved := desk.window.editor.saveFile path desk.disk
    ⟨{ desk.window with editor := saved.1 }, saved.2⟩

def after (deeds : List Deed) (desk : Desk) : Desk := deeds.foldl perform desk

variable {State : Type} {display : Display State}

/-- The table of tokens is set up once, whatever the form left in it. -/
theorem ready_start (lawful : display.Lawful) (state : State) (session : Session) (disk : Disk) :
    (display.grid (display.after (start session disk).window.log state)).Ready := by
  obtain ⟨earlier, log⟩ : ∃ earlier, (start session disk).window.log =
    earlier ++ Window.clearTokens :=
    ⟨_, rfl⟩
  rw [log, display.after_append, Window.clearTokens]
  generalize display.after earlier state = state
  simp only [Display.after, List.foldl_cons, List.foldl_nil]
  rw [← Int.natCast_zero, lawful.grid_setRowCount]
  refine ⟨?_, by simp [Grid.setRowCount]⟩
  exact (lawful.columns_setLabels ..).trans (lawful.columns_setColumnCount _ 3)

theorem ready_perform (lawful : display.Lawful) {state : State} {desk : Desk}
    (ready : (display.grid (display.after desk.window.log state)).Ready) (deed : Deed) :
    (display.grid (display.after (desk.perform deed).window.log state)).Ready := by
  cases deed with
  | write | openFile | saveFile => exact ready
  | compile =>
    obtain ⟨-, seen⟩ := lawful.after_compile state ready
    rw [perform, seen]
    refine ⟨rfl, fun row member => ?_⟩
    obtain ⟨token, -, rfl⟩ := List.mem_map.1 member
    rfl

theorem ready_after (lawful : display.Lawful) {state : State} {desk : Desk}
    (ready : (display.grid (display.after desk.window.log state)).Ready) (deeds : List Deed) :
    (display.grid (display.after (desk.after deeds).window.log state)).Ready := by
  induction deeds generalizing desk with
  | nil => exact ready
  | cons deed deeds ih => exact ih (ready_perform lawful ready deed)

end Desk

/-- All that came before a compilation: what the compiler remembered, the disk and the state of the
toolkit when the window came up, and what was done since. -/
structure History (State : Type) where
  session : Session := {}
  disk : Disk := {}
  state : State
  deeds : List Deed

structure Observation where
  outcome : Except CompileError Unit
  messages : List (Value × String)
  rows : List (List String)
  results : Option Results

namespace History

variable {State : Type}

def window (history : History State) : Window :=
  ((Desk.start history.session history.disk).after history.deeds).window

def observed (display : Display State) (history : History State) : Observation :=
  let seen := display.after history.window.compile.log history.state
  ⟨history.window.editor.compile.1, display.texts seen, (display.grid seen).rows,
    history.window.compile.editor.results⟩

theorem observed_eq {display : Display State} (lawful : display.Lawful) (history : History State) :
    history.observed display =
      ⟨history.window.editor.compile.1, history.window.editor.compile.2.messages.map Message.entry,
        (lex history.window.editor.text).tokens.map Editor.row,
          history.window.editor.compile.2.results⟩ := by
  have ready := Desk.ready_after lawful
    (Desk.ready_start lawful history.state history.session history.disk) history.deeds
  obtain ⟨texts, grid⟩ := lawful.after_compile history.state ready
  rw [← Editor.compile_rows]
  simp only [observed, window, texts, grid]
  rfl

/-- Compiling does not depend on history. Whatever was remembered, on the disk and on the screen,
and whatever was done since, if the same text is left then the same is observed, and the rows are
those of the tokens of the text. -/
theorem compile_forgets_history (display : Display State) (lawful : display.Lawful)
    (first second : History State) (same : first.window.editor.text = second.window.editor.text) :
    first.observed display = second.observed display ∧
      (first.observed display).rows = (lex first.window.editor.text).tokens.map Editor.row := by
  obtain ⟨outcome, -, messages, results⟩ := Editor.compile_eq same
  rw [observed_eq lawful first, observed_eq lawful second, outcome, messages, results, same]
  exact ⟨rfl, rfl⟩

theorem compile_forgets_history_halted :
    (({ state := {}, deeds := [.write "int"] } : History Screen).observed Screen.display).outcome =
        .error (.halted .missingToken) ∧
      ({ state := {}, deeds :=
        [.write "int", .compile, .write "int a = 1;"] } : History Screen).observed
          Screen.display =
        ({ state := {}, deeds := [.write "int a = 1;"] } : History Screen).observed
          Screen.display := by
  have same :
      ({ state := {}, deeds :=
        [.write "int", .compile, .write "int a = 1;"] } : History Screen).window.editor.text =
        ({ state := {}, deeds := [.write "int a = 1;"] } : History Screen).window.editor.text := rfl
  exact ⟨by decide +kernel, (compile_forgets_history _ Screen.lawful_display _ _ same).1⟩

end History

end Workbench
