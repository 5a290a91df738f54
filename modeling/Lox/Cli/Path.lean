set_option autoImplicit false

namespace Lox.Cli

abbrev Path := List String

structure WrittenPath where
  -- Where the path begins: at a root, or if this is empty, in the working directory.
  root : String
  names : Path
  deriving DecidableEq

namespace WrittenPath

-- One slash makes a root. Two of them make a root of their own, and more of them only one.
def rootOf : List Char → String
  | '/' :: '/' :: '/' :: _ => "/"
  | '/' :: '/' :: _ => "//"
  | '/' :: _ => "/"
  | _ => ""

def ofText (text : String) : WrittenPath :=
  let names := (text.toList.splitOn '/').map String.ofList
  ⟨rootOf text.toList, names.filter fun name => name ≠ "" && name ≠ "."⟩

def text (path : WrittenPath) : String :=
  if path.root.isEmpty && path.names.isEmpty then "."
  else path.root ++ "/".intercalate path.names

-- The greatest length of a path that a file system takes, in bytes of UTF-8.
def textLimit : Nat := 4095

def nameLimit : Nat := 255

end WrittenPath

end Lox.Cli
