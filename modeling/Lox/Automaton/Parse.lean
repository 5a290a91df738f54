import Lox.Automaton.State
import Lox.Diagnostic

set_option autoImplicit false

namespace Lox.Automaton

structure Stopped where
  expr : Expr
  before : Option Token
  deriving DecidableEq

def State.rejection (state : State) (found : Option Token) : ParseError :=
  -- Inside a group whose contents are complete, its closing parenthesis is what is missing.
  if state.accepts .rightParen then ⟨.groupUnclosed, found⟩ else ⟨.expressionExpected, found⟩

-- The automaton sees kinds and texts only, so payloads are restored from the texts.
def State.run (state : State) : List Token → Except ParseError Stopped
  | [] =>
    match state.finish? with
    | some e => .ok ⟨e, none⟩
    | none => .error (state.rejection none)
  | token :: rest =>
    if token.kind = .eof then
      match state.finish? with
      | some e => .ok ⟨e, none⟩
      | none => .error (state.rejection (some token))
    else
      match state.shift? token.restored with
      | some next => next.run rest
      | none =>
        match state.finish? with
        | some e => .ok ⟨e, some token⟩
        | none => .error (state.rejection (some token))

def parse (tokens : List Token) : Except ParseError Stopped :=
  State.initial.run tokens

structure Rejection where
  kind : Option Kind
  line : Int
  deriving DecidableEq

/-- The line on which the list ends that has this token last. A token without text takes no place
in it, so that the end is looked for where the list begins. -/
def endLine (token : Token) : Int :=
  if token.lexeme.isEmpty then 1 else token.line

def State.runWhole (state : State) (line : Int) : List Token → Except Rejection Expr
  | [] =>
    match state.finish? with
    | some e => .ok e
    | none => .error ⟨none, line⟩
  | token :: rest =>
    match state.shift? token.restored with
    | some next => next.runWhole (endLine token) rest
    | none => .error ⟨some token.kind, token.line⟩

def parseWhole (tokens : List Token) : Except Rejection Expr :=
  State.initial.runWhole 1 (tokens.filter (·.kind ≠ .eof))

end Lox.Automaton
