import Lox.Number.Layout
import Lox.Text.Quoted

set_option autoImplicit false

namespace Lox

inductive Value where
  | nil
  | bool (value : Bool)
  | number (value : Float)
  | string (value : String)
  deriving DecidableEq

namespace Value

def truth : Value → Bool
  | nil => false
  | bool value => value
  | _ => true

def equals : Value → Value → Bool
  | nil, nil => true
  | bool a, bool b => a == b
  | number a, number b => a == b
  | string a, string b => a == b
  | _, _ => false

def display : Value → String
  | nil => "nil"
  | bool true => "true"
  | bool false => "false"
  | number value => Number.display value
  | string value => Text.quote value

end Value

end Lox
