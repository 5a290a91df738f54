import Lox.Number.Shortest

set_option autoImplicit false

namespace Lox.Number

def digits (n : Nat) : List Char :=
  Nat.toDigits 10 n

-- Digits with zeros in front of them, so that more than `places` of them are there.
def padded (places : Nat) (row : List Char) : List Char :=
  List.replicate (places + 1 - row.length) '0' ++ row

def Decimal.positional (d : Decimal) : List Char :=
  let row := digits d.coefficient
  if 0 ≤ d.exponent then row ++ List.replicate d.exponent.toNat '0'
  else
    let places := (-d.exponent).toNat
    let row := padded places row
    row.take (row.length - places) ++ '.' :: row.drop (row.length - places)

def Decimal.leading (d : Decimal) : Int :=
  (digits d.coefficient).length + d.exponent - 1

-- A decimal with one digit before the point and an exponent of at least two digits.
def Decimal.exponential (d : Decimal) : List Char :=
  let mantissa := match digits d.coefficient with
    | [] => []
    | first :: [] => [first]
    | first :: rest => first :: '.' :: rest
  let mark := if d.leading < 0 then '-' else '+'
  mantissa ++ 'e' :: mark :: padded 1 (digits d.leading.natAbs)

def signed (x : Float) (row : List Char) : List Char :=
  if isNegative x then '-' :: row else row

def display (x : Float) : String :=
  if x.isNaN then "NaN"
  else if x.isInf then String.ofList (signed x ['i', 'n', 'f'])
  else String.ofList (signed x (shortest (pattern x)).positional)

def Decimal.inspectChars (d : Decimal) : List Char :=
  if -4 ≤ d.leading && d.leading < 16 then
    if 0 ≤ d.exponent then d.positional ++ ['.', '0'] else d.positional
  else d.exponential

def inspect (x : Float) : String :=
  if x.isNaN then "nan"
  else if x.isInf then String.ofList (signed x ['i', 'n', 'f'])
  else String.ofList (signed x (shortest (pattern x)).inspectChars)

end Lox.Number
