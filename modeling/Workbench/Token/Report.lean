import Workbench.Token.Lexer

/-! The report that the lexer gives of its work: the table as one expression, then every place it
stopped at, with the rows it went through there. -/

set_option autoImplicit false

namespace Workbench

def Row.tableExpression : String :=
  "|".intercalate (Row.table.zipIdx.map fun (row, index) =>
    "(?P<TOKEN_" ++ toString index ++ ">" ++ row.pattern.expression ++ ")")

/-- A match as shown in the report: its span, and its quoted text cut off after fifty characters. -/
def Piece.describeMatch (start : Nat) : Piece → String
  | .taken _ _ lexeme =>
    "<re.Match object; span=(" ++ toString start ++ ", " ++ toString (start + lexeme.length) ++
      "), match=" ++ ((Text.quoted (String.ofList lexeme)).take 50).toString ++ ">"
  | .unknown _ => "None"

def Row.describeAttempt (row : Row) (lexeme : Option String) : List String :=
  ["Esto es el lexema -> " ++ orNone lexeme,
   "Esto es el tipo de token -> " ++ orNone (row.kind.bind Kind.label),
   "Esto es el esto es el numero de tipo -> " ++ orNone (row.number.map toString)]

def Piece.report (start : Nat) (piece : Piece) : List String :=
  let finish := toString (start + piece.text.length)
  ["Esto es el match -> " ++ piece.describeMatch start,
   "Pos inicial -> " ++ toString start ++ " \n"] ++
  (match piece with
    | .taken index row lexeme =>
      (Row.table.take index).flatMap (·.describeAttempt none) ++
      row.describeAttempt (some (String.ofList lexeme)) ++
      ["Paso la validacion del lexema \n"] ++
      (if row.kind.isSome then ["Paso la validacion del tipo de token \n"] else []) ++
      ["Pos if -> " ++ finish ++ " \n"]
    | .unknown _ => ["Pos else -> " ++ finish ++ " \n"]) ++
  ["Pos final -> " ++ finish ++ " \n"]

def Piece.reportAll (start : Nat) : List Piece → List String
  | [] => []
  | piece :: rest => piece.report start ++ reportAll (start + piece.text.length) rest

def lexReport (source : String) : List String :=
  [Row.tableExpression, "Tamanio del codigo -> " ++ toString source.length ++ " \n\n"] ++
    Piece.reportAll 0 (pieces none source.toList)

end Workbench
