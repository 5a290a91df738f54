import Lox.Token.Basic

set_option autoImplicit false

namespace Lox

structure Terminal where
  name : String
  text : String
  line : Int
  -- The line on which the text ends, where it is known.
  endLine : Option Int
  deriving DecidableEq

inductive TerminalError where
  | unknownKind (name : String)
  | unreadableNumber (text : String)
  deriving DecidableEq

namespace Terminal

def ofToken (token : Token) : Terminal :=
  ⟨token.kind.name, token.lexeme, token.line, some token.line⟩

def toToken (terminal : Terminal) : Except TerminalError Token :=
  match Kind.ofName? terminal.name with
  | none => .error (.unknownKind terminal.name)
  | some kind =>
    -- A string may go on over several lines; its token stands on the last of them.
    let token : Token := ⟨kind, terminal.text, terminal.endLine.getD terminal.line, .absent⟩
    match token.restored? with
    | none => .error (.unreadableNumber terminal.text)
    | some restored => .ok restored

theorem toToken_ofToken {token : Token} (readable : token.isUnreadable = false) :
    (ofToken token).toToken = .ok token.restored := by
  have bare : Token.isUnreadable { token with payload := .absent } = false := readable
  simp only [toToken, ofToken, Kind.ofName?_name, Option.getD_some, Token.restored?, bare]
  rfl

end Terminal

end Lox
