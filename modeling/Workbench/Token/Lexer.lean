import Workbench.Token
import Workbench.Token.Pattern

/-! Cutting a source text into tokens. The text is tiled by pieces: lexemes, runs of blanks, and
single characters that no row of the table takes. -/

set_option autoImplicit false

namespace Workbench

/-- A row of the token table; a row without a kind is passed over. -/
structure Row where
  pattern : Pattern
  kind : Option Kind
  number : Option Int
  deriving DecidableEq, Repr

/-- The token table. The first row that takes something wins. -/
def Row.table : List Row :=
  [⟨.words ["int"], some .intWord, some 23⟩,
   ⟨.words ["float"], some .floatWord, some 24⟩,
   ⟨.words ["print"], some .printWord, some 24⟩,
   ⟨.words ["if"], some .ifWord, some 19⟩,
   ⟨.words ["else"], some .elseWord, some 22⟩,
   ⟨.words ["int", "float", "void"], some .typeName, some 4⟩,
   ⟨.blanks, none, none⟩,
   ⟨.identifier, some .identifier, some 0⟩,
   ⟨.real, some .real, some 2⟩,
   ⟨.integer, some .integer, some 1⟩,
   ⟨.quotation, some .quotation, some 3⟩,
   ⟨.signs ["+"], some .plus, some 5⟩,
   ⟨.signs ["-"], some .minus, some 5⟩,
   ⟨.signs ["*"], some .times, some 6⟩,
   ⟨.signs ["/"], some .divide, some 6⟩,
   ⟨.signs ["<", "<=", ">", ">="], some .relation, some 7⟩,
   ⟨.signs ["||"], some .disjunction, some 8⟩,
   ⟨.signs ["&&"], some .conjunction, some 9⟩,
   ⟨.signs ["!"], some .negation, some 10⟩,
   ⟨.signs ["==", "!="], some .equality, some 11⟩,
   ⟨.signs [";"], some .semicolon, some 12⟩,
   ⟨.signs [","], some .comma, some 13⟩,
   ⟨.signs ["("], some .openParen, some 14⟩,
   ⟨.signs [")"], some .closeParen, some 15⟩,
   ⟨.signs ["\x7b"], some .openBrace, some 16⟩,
   ⟨.signs ["\x7d"], some .closeBrace, some 17⟩,
   ⟨.signs ["="], some .assign, some 18⟩]

def Row.first? (before : Option Char) (rest : List Char) : Option (Nat × Row × List Char) :=
  Row.table.zipIdx.findSome? fun (row, index) =>
    (row.pattern.lexeme? before rest).map fun lexeme => (index, row, lexeme)

inductive Piece where
  | taken (index : Nat) (row : Row) (lexeme : List Char)
  | unknown (c : Char)
  deriving DecidableEq, Repr

namespace Piece

def text : Piece → List Char
  | taken _ _ lexeme => lexeme
  | unknown c => [c]

def token? : Piece → Option Token
  | taken _ row lexeme => row.kind.map fun kind => ⟨String.ofList lexeme, kind, row.number⟩
  | unknown _ => none

end Piece

def pieces (before : Option Char) : List Char → List Piece
  | [] => []
  | c :: tail =>
    match Row.first? before (c :: tail) with
    | some (index, row, lexeme) =>
      .taken index row lexeme ::
        pieces (lexeme.getLast?.or (some c)) (tail.drop (lexeme.length - 1))
    | none => .unknown c :: pieces (some c) tail
termination_by text => text.length
decreasing_by
  · simp only [List.length_drop, List.length_cons]; omega
  · simp

inductive LexicalError where
  | unknown (c : Char)
  deriving DecidableEq, Repr

def LexicalError.message : LexicalError → String
  | unknown c => "Error LEXICO: token no reconosido '" ++ c.toString ++ "'"

structure Lexed where
  tokens : List Token
  errors : List LexicalError
  deriving DecidableEq, Repr

def Lexed.ofPieces (found : List Piece) : Lexed where
  tokens := found.filterMap Piece.token?
  errors := found.filterMap fun
    | .unknown c => some (.unknown c)
    | .taken .. => none

def lex (source : String) : Lexed := .ofPieces (pieces none source.toList)

end Workbench
