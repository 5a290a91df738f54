set_option autoImplicit false

namespace Lox.Text

-- Code point ranges, both ends included.
abbrev Ranges := List (Nat × Nat)

def Ranges.has (ranges : Ranges) (c : Char) : Bool :=
  ranges.any fun range => range.1 ≤ c.toNat && c.toNat ≤ range.2

end Lox.Text
