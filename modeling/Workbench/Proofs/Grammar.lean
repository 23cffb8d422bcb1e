import Workbench.Token.Lexer

/-! The grammar of programs, over the kinds of their tokens.

Factors may be left out wherever one could stand. A statement ends in a semicolon or a brace; only
the last one of a program may lack its semicolon.
-/

set_option autoImplicit false

namespace Workbench

def Row.kinds : List Kind := Row.table.filterMap Row.kind

namespace Grammar

mutual

inductive Factor : List Kind → Prop where
  | integer : Factor [.integer]
  | real : Factor [.real]
  | name : Factor [.identifier]
  | group {inner : List Kind} : Expression inner → Factor (.openParen :: inner ++ [.closeParen])

/-- A factor, or nothing. -/
inductive Operand : List Kind → Prop where
  | missing : Operand []
  | given {factor : List Kind} : Factor factor → Operand factor

/-- Operators, each with the operand after it. -/
inductive Tail : List Kind → Prop where
  | done : Tail []
  | more {sign : Kind} {operand tail : List Kind} : sign.isOperator = true → Operand operand →
      Tail tail → Tail (sign :: operand ++ tail)

inductive Expression : List Kind → Prop where
  | mk {operand tail : List Kind} : Operand operand → Tail tail → Expression (operand ++ tail)

end

inductive Condition : List Kind → Prop where
  | mk {left right : List Kind} {sign : Kind} : Expression left → sign.isComparison = true →
      Expression right → Condition (left ++ sign :: right)

inductive Simple : List Kind → Prop where
  | bare {word : Kind} : word.isTypeWord = true → Simple [word, .semicolon]
  | declaration {word : Kind} : word.isTypeWord = true → Simple [word, .identifier, .semicolon]
  | initialized {word : Kind} {value : List Kind} : word.isTypeWord = true → Expression value →
      Simple (word :: .identifier :: .assign :: value ++ [.semicolon])
  | assignment {value : List Kind} : Expression value → value ≠ [] →
      Simple (.identifier :: .assign :: value ++ [.semicolon])
  | print {value : List Kind} : Expression value →
      Simple (.printWord :: .openParen :: value ++ [.closeParen, .semicolon])

mutual

inductive Statement : List Kind → Prop where
  | simple {kinds : List Kind} : Simple kinds → Statement kinds
  | conditional {condition body : List Kind} : Condition condition → Statements body →
      Statement (.ifWord :: .openParen :: condition ++ .closeParen :: .openBrace ::
        body ++ [.closeBrace])
  | alternative {condition body other : List Kind} : Condition condition → Statements body →
      Statements other →
      Statement (.ifWord :: .openParen :: condition ++ .closeParen :: .openBrace :: body ++
        .closeBrace :: .elseWord :: .openBrace :: other ++ [.closeBrace])

inductive Statements : List Kind → Prop where
  | none : Statements []
  | more {first rest : List Kind} : Statement first → Statements rest → Statements (first ++ rest)

end

/-- A statement whose semicolon is missing. -/
inductive Unfinished : List Kind → Prop where
  | assignment {value : List Kind} : Expression value → value ≠ [] →
      Unfinished (.identifier :: .assign :: value)
  | print {value : List Kind} : Expression value →
      Unfinished (.printWord :: .openParen :: value ++ [.closeParen])

inductive Program : List Kind → Prop where
  | finished {statements : List Kind} : Statements statements → Program statements
  | unfinished {statements last : List Kind} : Statements statements → Unfinished last →
      Program (statements ++ last)

theorem Tail.append {rest : List Kind} :
    {first : List Kind} → Tail first → Tail rest → Tail (first ++ rest)
  | _, .done, right => right
  | _, .more operator given following, right => by
    have joined := following.append right
    simpa only [List.cons_append, List.append_assoc] using Tail.more operator given joined

theorem Tail.of_expression {sign : Kind} {operand tail : List Kind}
    (operator : sign.isOperator = true) (first : Expression operand) (following : Tail tail) :
    Tail (sign :: operand ++ tail) := by
  cases first with
  | mk given inner =>
    simpa using Tail.more operator given (inner.append following)

def inExpression : Kind → Bool
  | .integer | .real | .identifier | .openParen | .closeParen | .plus | .minus | .times | .divide =>
    true
  | _ => false

theorem inExpression_of_isOperator {sign : Kind} (operator : sign.isOperator = true) :
    inExpression sign = true := by
  cases sign <;> simp_all [Kind.isOperator, inExpression]

mutual

theorem Factor.kinds :
    {factor : List Kind} → Factor factor → ∀ kind ∈ factor, inExpression kind = true
  | _, .integer => by simp [inExpression]
  | _, .real => by simp [inExpression]
  | _, .name => by simp [inExpression]
  | _, .group valued => by simpa [inExpression, or_imp, forall_and] using valued.kinds

theorem Operand.kinds : {operand : List Kind} → Operand operand →
    ∀ kind ∈ operand, inExpression kind = true
  | _, .missing => by simp
  | _, .given factor => factor.kinds

theorem Tail.kinds : {tail : List Kind} → Tail tail → ∀ kind ∈ tail, inExpression kind = true
  | _, .done => by simp
  | _, .more operator given following => by
    have first := given.kinds
    have others := following.kinds
    simp only [List.cons_append, List.mem_cons, List.mem_append]
    rintro kind (rfl | member | member)
    · exact inExpression_of_isOperator operator
    · exact first kind member
    · exact others kind member

theorem Expression.kinds :
    {value : List Kind} → Expression value → ∀ kind ∈ value, inExpression kind = true
  | _, .mk given following => by
    have first := given.kinds
    have others := following.kinds
    simp only [List.mem_append]
    rintro kind (member | member)
    · exact first kind member
    · exact others kind member

end

theorem Program.cons {first rest : List Kind} (statement : Statement first)
    (program : Program rest) :
    Program (first ++ rest) := by
  cases program with
  | finished others => exact .finished (.more statement others)
  | unfinished others last =>
    rw [← List.append_assoc]
    exact .unfinished (.more statement others) last

end Grammar

/-- Neither the word for a type nor the end of a statement. -/
def Kind.isInner (kind : Kind) : Bool := !kind.isTypeWord && kind != .semicolon

theorem Kind.isInner_of_inExpression {kind : Kind} (inside : Grammar.inExpression kind = true) :
    kind.isInner = true := by
  cases kind <;> simp_all [Grammar.inExpression, isInner, isTypeWord]

theorem Kind.not_isTypeWord_of_isInner {kind : Kind} (inner : kind.isInner = true) :
    kind.isTypeWord = false := by
  simpa using (Bool.and_eq_true_iff.1 inner).1

end Workbench
