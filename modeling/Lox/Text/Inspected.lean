import Lox.Text.Printable

set_option autoImplicit false

namespace Lox.Text

def hexadecimal (width code : Nat) : List Char :=
  let digits := Nat.toDigits 16 code
  List.replicate (width - digits.length) '0' ++ digits

def codeEscape (c : Char) : List Char :=
  if c.toNat < 0x100 then ['\\', 'x'] ++ hexadecimal 2 c.toNat
  else if c.toNat < 0x10000 then ['\\', 'u'] ++ hexadecimal 4 c.toNat
  else ['\\', 'U'] ++ hexadecimal 8 c.toNat

def inspectChar (mark c : Char) : List Char :=
  if c = '\\' || c = mark then ['\\', c]
  else if c = '\n' then ['\\', 'n']
  else if c = '\r' then ['\\', 'r']
  else if c = '\t' then ['\\', 't']
  else if isPrintable c then [c]
  else codeEscape c

-- Single quotes, unless the text holds one and no double quote.
def inspectMark (text : List Char) : Char :=
  if text.contains '\'' && !text.contains '"' then '"' else '\''

def inspectChars (text : List Char) : List Char :=
  let mark := inspectMark text
  mark :: text.flatMap (inspectChar mark) ++ [mark]

def inspect (text : String) : String :=
  String.ofList (inspectChars text.toList)

end Lox.Text
