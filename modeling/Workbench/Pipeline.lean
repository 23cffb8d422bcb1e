import Workbench.Mips.Generator
import Workbench.Script.Interpreter
import Workbench.Syntax.Statement
import Workbench.Token.Lexer

/-! From a source text to its results: tokens, then syntax, then declarations and types, and only for
a text without faults assembly and output. -/

set_option autoImplicit false

namespace Workbench

/-- What the compiler remembers between its phases: the parser as it ended on the last text that was
parsed to its end, and the faults of that text. -/
structure Session where
  parser : Option Syntax.State := none
  semanticErrors : Option (List SemanticError) := none

/-- Parses tokens. If the parser halts, what was remembered stays. -/
def Session.parse (tokens : List Token) (session : Session) :
    Except Syntax.Halt (List Syntax.SyntaxError) × Session :=
  let outcome := Syntax.program (.ofTokens tokens)
  match outcome.result with
  | .error halt => (.error halt, session)
  | .ok () =>
    (.ok outcome.next.errors,
      { parser := some outcome.next, semanticErrors := some outcome.next.analyser.errors })

/-- What breaks off a compilation without a report. -/
inductive CompileError where
  | halted (halt : Syntax.Halt)
  | run (error : RunError)
  deriving DecidableEq, Repr

structure Message where
  text : String
  isFault : Bool
  deriving DecidableEq, Repr

def Message.faults (texts : List String) : List Message :=
  texts.zipIdx.map fun (text, index) => ⟨toString (index + 1) ++ ") " ++ text, true⟩

structure Results where
  assembly : String
  output : String
  deriving DecidableEq, Repr

structure Compilation where
  tokens : List Token
  messages : List Message
  outcome : Except CompileError (Option Results)
  session : Session

/-- A text of blanks only has nothing to show. -/
def results (source : String) : Except CompileError (Option Results) :=
  if (Text.trim source.toList).isEmpty then pure none
  else match interpret source with
    | .error error => throw (.run error)
    | .ok store => pure (some ⟨Mips.listing (Mips.ofSource source).items, store.result⟩)

def compileSemantics (source : String) (tokens : List Token) (messages : List Message)
    (session : Session) : Compilation :=
  match session.semanticErrors with
  | some (first :: rest) =>
    ⟨tokens, messages ++ Message.faults ((first :: rest).map SemanticError.message), pure none, session⟩
  | _ =>
    ⟨tokens, messages ++ [⟨"Semantic analysis completed with no errors", false⟩], results source, session⟩

def compileSyntax (source : String) (tokens : List Token) (messages : List Message)
    (session : Session) : Compilation :=
  match session.parse tokens with
  | (.error halt, session) => ⟨tokens, messages, throw (.halted halt), session⟩
  | (.ok (first :: rest), session) =>
    ⟨tokens, messages ++ Message.faults ((first :: rest).map Syntax.SyntaxError.message), pure none, session⟩
  | (.ok [], session) =>
    compileSemantics source tokens
      (messages ++ [⟨"Syntax analysis completed with no errors", false⟩]) session

/-- Each phase runs only if the one before found no fault. -/
def compile (source : String) (session : Session) : Compilation :=
  let lexed := lex source
  match lexed.errors with
  | [] => compileSyntax source lexed.tokens [⟨"Lexical analysis completed with no errors", false⟩] session
  | errors => ⟨lexed.tokens, Message.faults (errors.map LexicalError.message), pure none, session⟩

end Workbench
