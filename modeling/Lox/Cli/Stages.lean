import Lox.Cli.Basic

set_option autoImplicit false

namespace Lox.Cli

structure StageOutcome where
  code : Option Nat
  output : Transcript
  deriving DecidableEq

def sampleSource : String :=
  "(1 + 2) * -3 >= 4 // done"

def listTokens (arguments : List String) : StageOutcome :=
  match scan (arguments.head?.getD sampleSource) with
  | .error e => ⟨some dataFault, Transcript.errLine e.diagnostic.text⟩
  | .ok tokens =>
    ⟨none, tokens.foldl (fun output token => output ++ Transcript.outLine token.inspect)
      Transcript.empty⟩

def printTree (arguments : List String) (input : String) : StageOutcome :=
  match readSource .descent (arguments.head?.getD input) with
  | .error e => ⟨some dataFault, Transcript.errLine e.diagnostic.text⟩
  | .ok e => ⟨none, Transcript.outLine (e.indented Expr.defaultIndent)⟩

-- Prints the value of the text in a file. What is wrong with the text is left to the caller.
def printFile (method : Method) (content : String) : Except RunError Value × Transcript :=
  match runSource method (unified content) with
  | .ok value => (.ok value, Transcript.outLine value.display)
  | .error e => (.error e, Transcript.empty)

end Lox.Cli
