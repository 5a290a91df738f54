import Lox.Session.Command

set_option autoImplicit false

namespace Lox.Session

structure Completion where
  text : String
  start : Int
  note : String
  deriving DecidableEq

def Command.note (command : Command) : String :=
  if command.hint.isEmpty then command.description
  else command.description ++ " " ++ command.hint

/-- The text before a cursor, which cannot stand past the end. A negative cursor counts from the end
and stops at the front. -/
def beforeCursor? (text : List Char) (cursor : Int) : Option (List Char) :=
  if text.length < cursor then none
  else if 0 ≤ cursor then some (text.take cursor.toNat)
  else some (text.take (text.length - cursor.natAbs))

def completions (before : List Char) : List Completion :=
  if before.head? = some '/' then
    (Command.all.filter fun command => before.isPrefixOf command.name.toList).map fun command =>
      ⟨command.name, -(before.length : Int), command.note⟩
  else []

end Lox.Session
