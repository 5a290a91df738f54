import Lox.Expr.Basic
import Lox.Precedence

set_option autoImplicit false

namespace Lox.Automaton

inductive Frame where
  | group
  | unary (operator : Token)
  | binary (left : Expr) (level : Level) (operator : Token)
  deriving DecidableEq

inductive State where
  | wanting (frames : List Frame)
  | holding (operand : Expr) (frames : List Frame)
  deriving DecidableEq

/-- Completes the operations that bind at least as tightly as a level, the innermost first. With
the loosest level it completes everything inside the innermost open group. -/
def reduce (level : Level) : Expr → List Frame → Expr × List Frame
  | operand, [] => (operand, [])
  | operand, .group :: rest => (operand, .group :: rest)
  | operand, .unary operator :: rest => reduce level (.unary operator operand) rest
  | operand, .binary left inner operator :: rest =>
    if level.strength ≤ inner.strength then reduce level (.binary left operator operand) rest
    else (operand, .binary left inner operator :: rest)

namespace State

def initial : State :=
  .wanting []

def close? (operand : Expr) (frames : List Frame) : Option State :=
  match reduce .equality operand frames with
  | (inner, .group :: outer) => some (.holding (.grouping inner) outer)
  | _ => none

def shift? : State → Token → Option State
  | .wanting frames, token =>
    if token.kind.isLiteral then some (.holding (.literal token) frames)
    else if token.kind.isUnary then some (.wanting (.unary token :: frames))
    else if token.kind = .leftParen then some (.wanting (.group :: frames))
    else none
  | .holding operand frames, token =>
    match Level.ofKind? token.kind with
    | some level =>
      match reduce level operand frames with
      | (left, rest) => some (.wanting (.binary left level token :: rest))
    | none => if token.kind = .rightParen then close? operand frames else none

def finish? : State → Option Expr
  | .wanting _ => none
  | .holding operand frames =>
    match reduce .equality operand frames with
    | (whole, []) => some whole
    | _ => none

def accepts : State → Kind → Bool
  | .wanting _, kind => kind.isLiteral || kind.isUnary || kind = .leftParen
  | .holding _ frames, kind =>
    (Level.ofKind? kind).isSome || kind = .rightParen && frames.contains .group

end State

end Lox.Automaton
