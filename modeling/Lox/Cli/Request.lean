set_option autoImplicit false

namespace Lox.Cli

structure Options where
  automaton : Bool
  tree : Bool
  operand : Option String
  deriving DecidableEq

inductive Request where
  | help
  | unknownOption (option : String)
  | tooMany
  | run (options : Options)
  deriving DecidableEq

def usage : String :=
  "Usage: lox-ref [--lark] [--tree] [script | source | -]"

namespace Request

def read (options : Options) : List String → Request
  | [] => .run options
  | argument :: rest =>
    if argument = "--lark" then read { options with automaton := true } rest
    else if argument = "--tree" then read { options with tree := true } rest
    else if argument = "-h" || argument = "--help" then .help
    else if argument.toList.take 2 = ['-', '-'] then .unknownOption argument
    else
      match options.operand with
      | none => read { options with operand := some argument } rest
      | some _ => .tooMany

def ofArguments (arguments : List String) : Request :=
  read ⟨false, false, none⟩ arguments

end Request

end Lox.Cli
