import Lox.Number.Decimal

set_option autoImplicit false

namespace Lox.Number

-- The multiple of `10 ^ exponent` just below an exact value in units of `2 ^ -1074`.
def gridFloor (value : Nat) (exponent : Int) : Nat :=
  value * Nat.pow 10 (-exponent).toNat / (Nat.pow 2 1074 * Nat.pow 10 exponent.toNat)

-- How twice an exact value compares with the sum of its two neighbours on a grid.
def compareMiddle (value : Nat) (exponent : Int) : Ordering :=
  compare (2 * value * Nat.pow 10 (-exponent).toNat)
    ((2 * gridFloor value exponent + 1) * (Nat.pow 2 1074 * Nat.pow 10 exponent.toNat))

-- Only the two neighbours on a grid can be rounded to the pattern; of two that are the nearer is
-- taken, and of two equally near the even one.
def onGrid? (pattern : Nat) (exponent : Int) : Option Decimal :=
  let value := magnitude pattern
  let below : Decimal := ⟨gridFloor value exponent, exponent⟩
  let above : Decimal := ⟨gridFloor value exponent + 1, exponent⟩
  match below.roundsTo pattern, above.roundsTo pattern with
  | false, false => none
  | true, false => some below
  | false, true => some above
  | true, true =>
    match compareMiddle value exponent with
    | .lt => some below
    | .gt => some above
    | .eq => some (if below.coefficient % 2 == 0 then below else above)

/-- An exponent above that of the magnitude's leading decimal digit: the binary exponent times a
little more than the common logarithm of two. -/
def coarsest (pattern : Nat) : Int :=
  ((magnitude pattern).log2 - 1073 : Int) * 30103 / 100000 + 2

def exactDecimal (pattern : Nat) : Decimal :=
  ⟨magnitude pattern * Nat.pow 5 1074, -1074⟩

-- Grids of decimals with one exponent are tried from coarse to fine. Seventeen digits always
-- suffice, so the search ends well before its last grid.
def shortest (pattern : Nat) : Decimal :=
  if pattern = 0 then ⟨0, 0⟩
  else
    ((List.range 24).findSome? fun (step : Nat) => onGrid? pattern (coarsest pattern - step)).getD
      (exactDecimal pattern)

end Lox.Number
