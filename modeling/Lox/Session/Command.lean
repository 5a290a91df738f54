import Lox.Text.Blank

set_option autoImplicit false

namespace Lox.Session

inductive Command where
  | clear | traceback | tree
  deriving DecidableEq

namespace Command

def all : List Command :=
  [clear, traceback, tree]

def name : Command → String
  | clear => "/clear"
  | traceback => "/py-traceback"
  | tree => "/tree"

def description : Command → String
  | clear => "Clear the terminal screen"
  | traceback => "Toggle Python traceback on errors"
  | tree => "Print the parsed tree before each value"

def hint : Command → String
  | clear => ""
  | traceback | tree => "[on|off]"

def usage (command : Command) : String :=
  "Usage: " ++ command.name ++ " " ++ command.hint

def ofName? (name : List Char) : Option Command :=
  all.find? (·.name.toList == name)

theorem mem_all (command : Command) : command ∈ all := by
  cases command <;> decide

end Command

def onWords : List String := ["on", "1", "true", "yes"]

def offWords : List String := ["off", "0", "false", "no"]

/-- A word in small letters. The words that are compared with it are in ASCII, and no letter
beyond ASCII has one of their letters as its small form. -/
def small (word : List Char) : String :=
  String.ofList (word.map Char.toLower)

def isOn (value : String) : Bool :=
  onWords.contains (small (Text.trim value.toList))

def switched (word : List Char) (current : Bool) : Option Bool :=
  if onWords.contains (small word) then some true
  else if offWords.contains (small word) then some false
  else if word.isEmpty then some !current
  else none

def onOff : Bool → String
  | true => "on"
  | false => "off"

end Lox.Session
