import Lox.Number.Binary
import Lox.Text.Letters

set_option autoImplicit false

namespace Lox.Number

structure Decimal where
  coefficient : Nat
  exponent : Int
  deriving DecidableEq

def digitValue (c : Char) : Nat :=
  c.toNat - '0'.toNat

def ofDigits (digits : List Char) : Nat :=
  digits.foldl (fun value c => 10 * value + digitValue c) 0

namespace Decimal

def numerator (d : Decimal) : Nat :=
  d.coefficient * Nat.pow 10 d.exponent.toNat

def denominator (d : Decimal) : Nat :=
  Nat.pow 10 (-d.exponent).toNat

def ofText? (text : List Char) : Option Decimal :=
  let whole := text.takeWhile Text.isDigit
  match text.dropWhile Text.isDigit with
  | [] => if whole.isEmpty then none else some ⟨ofDigits whole, 0⟩
  | mark :: fraction =>
    if mark = '.' && fraction.all Text.isDigit && !(whole ++ fraction).isEmpty then
      some ⟨ofDigits (whole ++ fraction), -(fraction.length : Int)⟩
    else none

end Decimal

/-- Whether the ratio of a numerator, given in units of `2 ^ -1075`, and a denominator is rounded
to the magnitude of a pattern or to a greater one: it lies above the middle between this magnitude
and the next smaller one, or in the middle and the pattern is even. -/
def reaches (scaled denominator pattern : Nat) : Bool :=
  match pattern with
  | 0 => true
  | below + 1 =>
    let middle := (magnitude below + magnitude (below + 1)) * denominator
    middle < scaled || middle == scaled && below % 2 == 1

def Decimal.roundsTo (d : Decimal) (pattern : Nat) : Bool :=
  let scaled := d.numerator <<< 1075
  reaches scaled d.denominator pattern && !reaches scaled d.denominator (pattern + 1)

def Decimal.nearest (d : Decimal) : Nat :=
  let scaled := d.numerator <<< 1075
  let denominator := d.denominator
  -- Past infinity the magnitudes go on growing, and all of them stand for infinity.
  min infinityPattern (greatest (reaches scaled denominator) 63 0)

def Decimal.toNumber (d : Decimal) : Float :=
  ofPattern d.nearest

end Lox.Number
