import Lox.Expr.Basic

set_option autoImplicit false

namespace Lox.Expr

def literalForm (token : Token) : String :=
  if token.kind = .string then token.payload.inspect else token.lexeme

def margin (indent : String) (level : Nat) : String :=
  String.join (List.replicate level indent)

def lines (indent : String) (level : Nat) : Expr → List String
  | literal token =>
    [margin indent level ++ "literal\t" ++ token.kind.name ++ " " ++ literalForm token]
  | grouping inner => (margin indent level ++ "grouping") :: lines indent (level + 1) inner
  | unary operator operand =>
    (margin indent level ++ "unary\t" ++ operator.lexeme) :: lines indent (level + 1) operand
  | binary left operator right =>
    (margin indent level ++ "binary\t" ++ operator.lexeme) ::
      (lines indent (level + 1) left ++ lines indent (level + 1) right)
  | stray text => [text]

def indented (indent : String) (e : Expr) : String :=
  "\n".intercalate (lines indent 0 e)

def defaultIndent : String := "  "

def parenthesized : Expr → String
  | literal token => literalForm token
  | grouping inner => "(group " ++ inner.parenthesized ++ ")"
  | unary operator operand => "(" ++ operator.lexeme ++ " " ++ operand.parenthesized ++ ")"
  | binary left operator right =>
    "(" ++ operator.lexeme ++ " " ++ left.parenthesized ++ " " ++ right.parenthesized ++ ")"
  | stray text => text

def strayMessage (text : String) : String :=
  "not an expression node: " ++ Text.inspect text

def written (form : Expr → String) (e : Expr) : Except String String :=
  match e.stray? with
  | some text => .error (strayMessage text)
  | none => .ok (form e)

end Lox.Expr
