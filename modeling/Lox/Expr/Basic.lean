import Lox.Token.Basic

set_option autoImplicit false

namespace Lox

inductive Expr where
  | literal (token : Token)
  | grouping (inner : Expr)
  | unary (operator : Token) (operand : Expr)
  | binary (left : Expr) (operator : Token) (right : Expr)
  -- A text where a node should stand. No parser builds one, and every use of it fails.
  | stray (text : String)
  deriving DecidableEq

namespace Expr

def label? : Expr → Option String
  | literal _ => some "literal"
  | grouping _ => some "grouping"
  | unary .. => some "unary"
  | binary .. => some "binary"
  | stray _ => none

def depth : Expr → Nat
  | literal _ | stray _ => 1
  | grouping inner => 1 + inner.depth
  | unary _ operand => 1 + operand.depth
  | binary left _ right => 1 + max left.depth right.depth

def stray? : Expr → Option String
  | literal _ => none
  | grouping inner => inner.stray?
  | unary _ operand => operand.stray?
  | binary left _ right => left.stray?.or right.stray?
  | stray text => some text

-- The first number, from left to right, whose text writes none.
def unreadable? : Expr → Option Token
  | literal token => if token.isUnreadable then some token else none
  | grouping inner => inner.unreadable?
  | unary _ operand => operand.unreadable?
  | binary left _ right => left.unreadable?.or right.unreadable?
  | stray _ => none

def checked (e : Expr) : Except Token Expr :=
  match e.unreadable? with
  | some token => .error token
  | none => .ok e

def alike : Expr → Expr → Bool
  | literal a, literal b => a.kind == b.kind && a.payload.agrees b.payload
  | grouping a, grouping b => a.alike b
  | unary f a, unary g b => f.kind == g.kind && a.alike b
  | binary a f b, binary c g d => f.kind == g.kind && a.alike c && b.alike d
  | _, _ => false

end Expr

end Lox
