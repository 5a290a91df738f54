import Lox.Diagnostic
import Lox.Expr.Basic
import Lox.Value

set_option autoImplicit false

namespace Lox

inductive Fault where
  | typing (error : TypeError)
  | internal (fault : InternalFault)
  deriving DecidableEq

namespace Value

def ofLiteral (token : Token) : Except Fault Value :=
  match token.kind, token.payload with
  | .number, .number value => .ok (.number value)
  | .number, .text value =>
    match Number.ofText? value.toList with
    | some value => .ok (.number value)
    | none => .error (.internal (.unreadableNumber value))
  | .number, .absent => .error (.internal .missingNumber)
  | .string, payload => .ok (.string payload.contents)
  | .kwTrue, _ => .ok (.bool true)
  | .kwFalse, _ => .ok (.bool false)
  | .kwNil, _ => .ok .nil
  | _, _ => .error (.internal (.invalidLiteral token.lexeme))

def applyUnary (operator : Token) (operand : Value) : Except Fault Value :=
  match operator.kind with
  | .minus =>
    match operand with
    | .number value => .ok (.number (-value))
    | _ => .error (.typing ⟨.numberExpected, operator.line⟩)
  | .bang => .ok (.bool !operand.truth)
  | _ => .error (.internal (.invalidUnary operator.lexeme))

def onNumbers (operator : Token) (operation : Float → Float → Value) :
    Value → Value → Except Fault Value
  | .number a, .number b => .ok (operation a b)
  | _, _ => .error (.typing ⟨.numberExpected, operator.line⟩)

def add (operator : Token) : Value → Value → Except Fault Value
  | .number a, .number b => .ok (.number (a + b))
  | .string a, .string b => .ok (.string (a ++ b))
  | _, _ => .error (.typing ⟨.unfitOperands, operator.line⟩)

def applyBinary (operator : Token) (left right : Value) : Except Fault Value :=
  match operator.kind with
  | .plus => add operator left right
  | .minus => onNumbers operator (fun a b => .number (a - b)) left right
  | .star => onNumbers operator (fun a b => .number (a * b)) left right
  -- Division by zero is no error: it gives an infinity, or NaN.
  | .slash => onNumbers operator (fun a b => .number (a / b)) left right
  | .greater => onNumbers operator (fun a b => .bool (b < a)) left right
  | .greaterEqual => onNumbers operator (fun a b => .bool (b ≤ a)) left right
  | .less => onNumbers operator (fun a b => .bool (a < b)) left right
  | .lessEqual => onNumbers operator (fun a b => .bool (a ≤ b)) left right
  | .equalEqual => .ok (.bool (left.equals right))
  | .bangEqual => .ok (.bool !left.equals right)
  | _ => .error (.internal (.invalidBinary operator.lexeme))

end Value

namespace Expr

def evaluate : Expr → Except Fault Value
  | literal token => Value.ofLiteral token
  | grouping inner => inner.evaluate
  | unary operator operand =>
    match operand.evaluate with
    | .ok value => Value.applyUnary operator value
    | .error fault => .error fault
  | binary left operator right =>
    match left.evaluate with
    | .ok first =>
      match right.evaluate with
      | .ok second => Value.applyBinary operator first second
      | .error fault => .error fault
    | .error fault => .error fault
  | stray text => .error (.internal (.unknownNode text))

end Expr

end Lox
