import Lox.Diagnostic
import Lox.Precedence

set_option autoImplicit false

namespace Lox.Descent

structure Cursor where
  -- The tokens taken, the last one first.
  behind : List Token
  ahead : List Token
  deriving DecidableEq

abbrev Result (α : Type) := EStateM.Result ParseError Cursor α

namespace Cursor

def ofTokens (tokens : List Token) : Cursor :=
  ⟨[], tokens⟩

def pos (c : Cursor) : Nat :=
  c.behind.length

def tokens (c : Cursor) : List Token :=
  c.behind.reverse ++ c.ahead

def next? (c : Cursor) : Option Token :=
  c.ahead.head?

/-- The token taken last. Before the first one is taken, the last of the list stands for it, so
that only an empty list has none. -/
def last? (c : Cursor) : Option Token :=
  c.behind.head?.or c.ahead.getLast?

def atEnd (c : Cursor) : Bool :=
  match c.ahead with
  | [] => true
  | token :: _ => token.kind = .eof

def take? (c : Cursor) (test : Kind → Bool) : Option (Token × Cursor) :=
  match c.ahead with
  | [] => none
  | token :: rest =>
    if token.kind ≠ .eof && test token.kind then some (token, ⟨token :: c.behind, rest⟩) else none

def step (c : Cursor) : Cursor :=
  match c.take? fun _ => true with
  | some (_, next) => next
  | none => c

def nextIs (c : Cursor) (kinds : List Kind) : Bool :=
  (c.take? kinds.contains).isSome

def require (c : Cursor) (kind : Kind) (cause : ParseCause) : Result Token :=
  match c.take? (· == kind) with
  | some (token, next) => .ok token next
  | none => .error ⟨cause, c.next?⟩ c

def skipStatement (last : Kind) (behind : List Token) : List Token → Cursor
  | [] => ⟨behind, []⟩
  | token :: rest =>
    if token.kind = .eof || last = .semicolon || token.kind.opensStatement then
      ⟨behind, token :: rest⟩
    else skipStatement token.kind (token :: behind) rest

def recover (c : Cursor) : Cursor :=
  -- One token is taken in any case, so that repeated recovery comes to an end.
  match c.take? fun _ => true with
  | some (token, next) => skipStatement token.kind next.behind next.ahead
  | none => c

theorem length_ahead_take? {c d : Cursor} {test : Kind → Bool} {token : Token}
    (h : c.take? test = some (token, d)) : d.ahead.length + 1 = c.ahead.length := by
  unfold take? at h
  split at h
  · cases h
  · split at h
    · cases h
      simp [*]
    · cases h

end Cursor

end Lox.Descent
