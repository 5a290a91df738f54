import Lox.Cli.Files
import Lox.Cli.Request
import Lox.Session.Basic

set_option autoImplicit false

namespace Lox.Cli

/-- What surrounds a run. Standard input and files are looked at only where the arguments lead
there. -/
structure World where
  settings : Settings
  find : String → Entry
  input : String
  -- What is answered to each prompt, if standard input is a terminal.
  prompted : Option (List Session.Prompted)

structure Outcome where
  code : Nat
  output : Transcript
  deriving DecidableEq

def success : Nat := 0

def usageFault : Nat := 64

def dataFault : Nat := 65

def inputFault : Nat := 66

def softwareFault : Nat := 70

def internalFault : Nat := 1

inductive InputError where
  | emptyInput
  | unreadable (path reason : String)
  deriving DecidableEq

def InputError.message : InputError → String
  | .emptyInput => "No input provided on stdin"
  | .unreadable path reason => "Could not read " ++ path ++ ": " ++ reason

-- Nothing catches a refused look-up, so that the run has no outcome.
structure LookupRefused where
  path : String
  deriving DecidableEq

def LookupRefused.message (e : LookupRefused) : String :=
  "Could not look up " ++ e.path

def World.source (world : World) (operand : Option String) :
    Except LookupRefused (Except InputError String) :=
  match operand.filter (· ≠ "-") with
  | none => .ok (if world.input.isEmpty then .error .emptyInput else .ok world.input)
  | some argument =>
    match world.find argument with
    | .missing => .ok (.ok argument)
    | .unreadable reason => .ok (.error (.unreadable argument reason))
    | .text content => .ok (.ok content)
    | .refused => .error ⟨argument⟩

def runText (settings : Settings) (options : Options) (source : String) : Outcome :=
  let method := if options.automaton then Method.automaton else Method.descent
  match settings.read method source with
  | (.error e, notes) => ⟨dataFault, notes ++ settings.report e.diagnostic⟩
  | (.ok e, notes) =>
    if options.tree then
      ⟨success, notes ++ Transcript.outLine (e.indented Expr.defaultIndent)⟩
    else
      match settings.printValue e with
      | .ok (some _, output) => ⟨success, notes ++ output⟩
      | .ok (none, output) => ⟨softwareFault, notes ++ output⟩
      | .error fault => ⟨internalFault, notes ++ Transcript.errLine fault.message⟩

def runOptions (world : World) (options : Options) : Except LookupRefused Outcome :=
  match options.operand, world.prompted with
  | none, some answers =>
    let session := Session.State.initial world.settings.traceback
    .ok ⟨success, Transcript.outLine Session.banner ++
      session.converse world.settings.threshold answers⟩
  | _, _ =>
    match world.source options.operand with
    | .error e => .error e
    | .ok (.error e) => .ok ⟨inputFault, Transcript.errLine e.message⟩
    | .ok (.ok source) => .ok (runText world.settings options source)

def run (world : World) (arguments : List String) : Except LookupRefused Outcome :=
  match Request.ofArguments arguments with
  | .help => .ok ⟨success, Transcript.outLine usage⟩
  | .unknownOption option =>
    .ok ⟨usageFault, Transcript.errLine ("Unknown option: " ++ option) ++ Transcript.errLine usage⟩
  | .tooMany => .ok ⟨usageFault, Transcript.errLine usage⟩
  | .run options => runOptions world options

def settingsOf (logLevel traceback : Option String) : Settings :=
  { threshold := Log.thresholdOf none logLevel
    traceback := (traceback.map Session.isOn).getD false }

end Lox.Cli
