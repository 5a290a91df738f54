set_option autoImplicit false

namespace Lox.Text

def isControl (c : Char) : Bool :=
  c.toNat < 0x20 || c.toNat == 0x7f

def escape (c : Char) : List Char :=
  if c = '\\' then ['\\', '\\']
  else if c = '"' then ['\\', '"']
  else if c = '\n' then ['\\', 'n']
  else if c = '\r' then ['\\', 'r']
  else if c = '\t' then ['\\', 't']
  else if c = '\x00' then ['\\', '0']
  else if isControl c then ['\\', 'u', '{'] ++ Nat.toDigits 16 c.toNat ++ ['}']
  else [c]

def escapeAll (text : List Char) : List Char :=
  text.flatMap escape

def quote (text : String) : String :=
  String.ofList ('"' :: escapeAll text.toList ++ ['"'])

@[simp] theorem escapeAll_nil : escapeAll [] = [] := rfl

@[simp] theorem escapeAll_cons (c : Char) (rest : List Char) :
    escapeAll (c :: rest) = escape c ++ escapeAll rest := rfl

@[simp] theorem toList_quote (text : String) :
    (quote text).toList = '"' :: escapeAll text.toList ++ ['"'] := by
  simp [quote]

end Lox.Text
