import Lox.Number.Layout
import Lox.Number.Numeral
import Lox.Text.Inspected
import Lox.Token.Kind

set_option autoImplicit false

namespace Lox

inductive Payload where
  | absent
  | text (value : String)
  | number (value : Float)
  deriving DecidableEq

namespace Payload

def inspect : Payload → String
  | .absent => "None"
  | .text value => Text.inspect value
  | .number value => Number.inspect value

def contents : Payload → String
  | .text value => value
  | payload => payload.inspect

def agrees : Payload → Payload → Bool
  | .absent, .absent => true
  | .text a, .text b => a == b
  | .number a, .number b => a == b
  | _, _ => false

end Payload

structure Token where
  kind : Kind
  lexeme : String
  line : Int
  payload : Payload
  deriving DecidableEq

namespace Token

def eof (line : Int) : Token :=
  ⟨.eof, "", line, .absent⟩

def inspect (token : Token) : String :=
  let shown := match token.payload with
    | .absent => ""
    | payload => ", " ++ payload.inspect
  "Tok(" ++ token.kind.name ++ ", " ++ Text.inspect token.lexeme ++ shown ++ ", line " ++
    toString token.line ++ ")"

def inner (text : List Char) : List Char :=
  (text.drop 1).dropLast

def payloadOf (kind : Kind) (text : List Char) : Payload :=
  match kind with
  | .string => .text (String.ofList (inner text))
  | .number => match Number.ofText? text with
    | some value => .number value
    | none => .absent
  | _ => .absent

def restored (token : Token) : Token :=
  { token with payload := payloadOf token.kind token.lexeme.toList }

/-- Whether the token is a number by its kind, but its text writes none. No scanned token is such,
but one made by hand may be. -/
def isUnreadable (token : Token) : Bool :=
  token.kind = .number && (Number.ofText? token.lexeme.toList).isNone

def restored? (token : Token) : Option Token :=
  if token.isUnreadable then none else some token.restored

@[simp] theorem kind_restored (token : Token) : token.restored.kind = token.kind := rfl

@[simp] theorem lexeme_restored (token : Token) : token.restored.lexeme = token.lexeme := rfl

@[simp] theorem line_restored (token : Token) : token.restored.line = token.line := rfl

end Token

end Lox
