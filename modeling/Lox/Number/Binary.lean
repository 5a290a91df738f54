set_option autoImplicit false

namespace Lox.Number

def infinityPattern : Nat :=
  0x7ff0000000000000

/-- The exact value of a pattern, in units of `2 ^ -1074`. It also continues the finite magnitudes
past the largest, which is what makes rounding to infinity an instance of rounding to nearest. -/
def magnitude (pattern : Nat) : Nat :=
  if pattern < Nat.pow 2 52 then pattern
  else (Nat.pow 2 52 + pattern % Nat.pow 2 52) <<< (pattern / Nat.pow 2 52 - 1)

def pattern (x : Float) : Nat :=
  x.toBits.toNat % Nat.pow 2 63

def isNegative (x : Float) : Bool :=
  Nat.pow 2 63 ≤ x.toBits.toNat

def ofPattern (pattern : Nat) : Float :=
  Float.ofBits (UInt64.ofNat pattern)

/-- The greatest number below `start + 2 ^ bits` at which a test holds that, once it fails, fails
from there on; `start` where it holds nowhere. The result is built from its highest bit down. -/
def greatest (test : Nat → Bool) : Nat → Nat → Nat
  | 0, start => start
  | bits + 1, start =>
    greatest test bits (if test (start + Nat.pow 2 bits) then start + Nat.pow 2 bits else start)

end Lox.Number
