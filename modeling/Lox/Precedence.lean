import Lox.Token.Kind

set_option autoImplicit false

namespace Lox

inductive Level where
  | equality | comparison | term | factor
  deriving DecidableEq

namespace Level

def has : Level → Kind → Bool
  | equality, .bangEqual | equality, .equalEqual => true
  | comparison, .greater | comparison, .greaterEqual => true
  | comparison, .less | comparison, .lessEqual => true
  | term, .minus | term, .plus => true
  | factor, .slash | factor, .star => true
  | _, _ => false

def tighter? : Level → Option Level
  | equality => some comparison
  | comparison => some term
  | term => some factor
  | factor => none

def strength : Level → Nat
  | equality => 0
  | comparison => 1
  | term => 2
  | factor => 3

def ofKind? : Kind → Option Level
  | .bangEqual | .equalEqual => some equality
  | .greater | .greaterEqual | .less | .lessEqual => some comparison
  | .minus | .plus => some term
  | .slash | .star => some factor
  | _ => none

theorem has_iff_ofKind? (level : Level) (kind : Kind) :
    level.has kind = true ↔ ofKind? kind = some level := by
  cases level <;> cases kind <;> decide

end Level

end Lox
