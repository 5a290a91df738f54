import Lox.Token.Basic

set_option autoImplicit false

namespace Lox

inductive Category where
  | general | syntactic | lexical | grammatical | typing
  deriving DecidableEq

namespace Category

def label : Category → String
  | .typing => "TypeError"
  | _ => "Error"

end Category

structure Diagnostic where
  category : Category
  message : String
  line : Int
  token : Option Token
  deriving DecidableEq

namespace Diagnostic

def text (d : Diagnostic) : String :=
  "[line " ++ toString d.line ++ "] " ++ d.category.label ++ ": " ++ d.message

/-- A diagnostic about a token stands on its line; without one, at the end of a list that has no
end token, it stands on line zero. -/
def aboutToken (message : String) (token : Option Token) : Diagnostic :=
  ⟨.grammatical, message, (token.map Token.line).getD 0, token⟩

end Diagnostic

inductive ScanCause where
  | unexpectedCharacter | unterminatedString | invalidNumber
  deriving DecidableEq

def ScanCause.message : ScanCause → String
  | .unexpectedCharacter => "Unexpected character."
  | .unterminatedString => "Unterminated string."
  | .invalidNumber => "Invalid number literal."

structure ScanError where
  cause : ScanCause
  line : Nat
  deriving DecidableEq

def ScanError.diagnostic (e : ScanError) : Diagnostic :=
  ⟨.lexical, e.cause.message, e.line, none⟩

inductive ParseCause where
  | expressionExpected
  | groupUnclosed
  | demanded (message : String)
  deriving DecidableEq

def ParseCause.message : ParseCause → String
  | .expressionExpected => "Expected expression."
  | .groupUnclosed => "Expected ')' after expression."
  | .demanded message => message

structure ParseError where
  cause : ParseCause
  token : Option Token
  deriving DecidableEq

def ParseError.diagnostic (e : ParseError) : Diagnostic :=
  Diagnostic.aboutToken e.cause.message e.token

inductive SyntaxError where
  | lexical (error : ScanError)
  | grammatical (error : ParseError)
  deriving DecidableEq

def SyntaxError.diagnostic : SyntaxError → Diagnostic
  | .lexical error => error.diagnostic
  | .grammatical error => error.diagnostic

inductive TypeCause where
  | numberExpected | unfitOperands
  deriving DecidableEq

def TypeCause.message : TypeCause → String
  | .numberExpected => "Expected number"
  | .unfitOperands => "Invalid operand types for '+'"

structure TypeError where
  cause : TypeCause
  line : Int
  deriving DecidableEq

def TypeError.diagnostic (e : TypeError) : Diagnostic :=
  ⟨.typing, e.cause.message, e.line, none⟩

inductive InternalFault where
  | unknownNode (text : String)
  | invalidLiteral (lexeme : String)
  | invalidUnary (lexeme : String)
  | invalidBinary (lexeme : String)
  | unreadableNumber (text : String)
  | missingNumber
  deriving DecidableEq

def InternalFault.message : InternalFault → String
  | .unknownNode text => "Unknown node: " ++ Text.inspect text
  | .invalidLiteral lexeme => "Invalid literal value " ++ Text.inspect lexeme
  | .invalidUnary lexeme => "Invalid unary operator " ++ Text.inspect lexeme
  | .invalidBinary lexeme => "Invalid binary operator " ++ Text.inspect lexeme
  | .unreadableNumber text => "Invalid number " ++ Text.inspect text
  | .missingNumber => "Number literal without a value"

end Lox
