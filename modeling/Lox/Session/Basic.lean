import Lox.Pipeline
import Lox.Session.Command

set_option autoImplicit false

namespace Lox.Session

structure State where
  showTree : Bool
  traceback : Bool
  deriving DecidableEq

def State.initial (traceback : Bool) : State :=
  ⟨false, traceback⟩

structure Effect where
  next : State
  output : Transcript
  cleared : Bool
  deriving DecidableEq

def isInvisible (c : Char) : Bool :=
  ['\u200b', '\u200c', '\u200d', '\ufeff', '\u00a0', '\r'].contains c

def visible (line : List Char) : List Char :=
  line.filter (!isInvisible ·)

def evaluate (settings : Settings) (showTree : Bool) (source : String) :
    Except SyntaxError (Except InternalFault (Option Value)) × Transcript :=
  match settings.read .descent source with
  | (.error e, notes) => (.error e, notes)
  | (.ok e, notes) =>
    let tree := if showTree then
        Transcript.outLine (e.indented Expr.defaultIndent)
      else Transcript.empty
    match settings.printValue e with
    | .ok (value, output) => (.ok (.ok value), notes ++ tree ++ output)
    | .error fault => (.ok (.error fault), notes ++ tree)

def State.perform (s : State) (command : Command) (argument : List Char) : Effect :=
  match command with
  | .clear => ⟨s, Transcript.empty, true⟩
  | .traceback =>
    match switched argument s.traceback with
    | some value =>
      let answer := Transcript.outLine ("Python traceback: " ++ onOff value)
      ⟨{ s with traceback := value }, answer, false⟩
    | none => ⟨s, Transcript.errLine command.usage, false⟩
  | .tree =>
    match switched argument s.showTree with
    | some value =>
      let answer := Transcript.outLine ("Tree display: " ++ onOff value)
      ⟨{ s with showTree := value }, answer, false⟩
    | none => ⟨s, Transcript.errLine command.usage, false⟩

def State.performLine (s : State) (line : List Char) : Effect :=
  let (word, argument) := Text.firstWord line
  match Command.ofName? word with
  | some command => s.perform command argument
  | none => ⟨s, Transcript.errLine ("Unknown command: " ++ String.ofList word), false⟩

def State.evaluateLine (s : State) (threshold : Nat) (line : List Char) : Effect :=
  let settings : Settings := { threshold, traceback := s.traceback }
  match evaluate settings s.showTree (String.ofList line) with
  | (.error e, output) => ⟨s, output ++ settings.report e.diagnostic, false⟩
  | (.ok (.error fault), output) => ⟨s, output ++ Transcript.errLine fault.message, false⟩
  | (.ok (.ok _), output) => ⟨s, output, false⟩

def State.submit (s : State) (threshold : Nat) (line : String) : Effect :=
  let text := visible line.toList
  match Text.trim text with
  | [] => ⟨s, Transcript.empty, false⟩
  | first :: rest =>
    -- A command is looked for in the trimmed line, an expression is evaluated as it was typed.
    if first = '/' then s.performLine (first :: rest) else s.evaluateLine threshold text

def banner : String :=
  "lox repl, Ctrl-D to exit, / for commands"

inductive Prompted where
  | line (text : String)
  | interrupted
  deriving DecidableEq

-- The line editor is not part of the program, only what it answers. Behind the last answer the
-- input ends.
def State.converse (threshold : Nat) : State → List Prompted → Transcript
  | _, [] => Transcript.outLine ""
  | s, .interrupted :: rest => s.converse threshold rest
  | s, .line text :: rest =>
    let effect := s.submit threshold text
    effect.output ++ effect.next.converse threshold rest

end Lox.Session
