import Lox.Cli.Basic

set_option autoImplicit false

namespace Lox.Main

def write (t : Transcript) : IO Unit := do
  IO.print t.out
  IO.eprint t.err

/-- Whether the code of an input error has a given magnitude; its sign depends on the call. -/
def hasCode (code magnitude : UInt32) : Bool :=
  code == magnitude || code == 0 - magnitude

def find (written : String) : IO Cli.Entry := do
  try
    return Cli.Entry.ofBytes (← IO.FS.readBinFile (Cli.WrittenPath.ofText written).text)
  catch
    | .noFileOrDirectory .. => return .missing
    -- A name too long is told from other texts that are no path, and a file in the place of a
    -- directory from a directory in the place of a file. A permission that is missing is taken to
    -- be the one to read.
    | .invalidArgument _ code _ => return if hasCode code 36 then .refused else .missing
    | .inappropriateType _ code reason =>
      return if hasCode code 20 then .missing else .unreadable reason
    | e => return .unreadable e.toString

def readInput : IO String := do
  let stdin ← IO.getStdin
  return Cli.unified (← stdin.readToEnd)

def conclude (outcome : Except Cli.LookupRefused Cli.Outcome) : IO UInt32 := do
  match outcome with
  | .ok outcome =>
    write outcome.output
    return outcome.code.toUInt32
  | .error e =>
    IO.eprintln e.message
    return 1

partial def converse (threshold : Nat) (state : Session.State) : IO Unit := do
  IO.print "> "
  (← IO.getStdout).flush
  let line ← (← IO.getStdin).getLine
  if line.isEmpty then IO.println ""
  else
    let effect := state.submit threshold (line.dropEndWhile (· == '\n')).toString
    if effect.cleared then IO.print "\x1b[2J\x1b[H"
    write effect.output
    converse threshold effect.next

end Lox.Main

open Lox in
def main (arguments : List String) : IO UInt32 := do
  let settings := Cli.settingsOf (← IO.getEnv "LOX_LOG_LEVEL") (← IO.getEnv "LOX_DEBUG_PY_TRACE")
  let silent : Cli.World := ⟨settings, fun _ => .missing, "", none⟩
  match Cli.Request.ofArguments arguments with
  | .run options =>
    match options.operand.filter (· ≠ "-") with
    | some path =>
      let entry ← Main.find path
      Main.conclude (Cli.runOptions { silent with find := fun _ => entry } options)
    | none =>
      if options.operand.isNone && (← (← IO.getStdin).isTty) then
        IO.println Session.banner
        Main.converse settings.threshold (Session.State.initial settings.traceback)
        return 0
      else Main.conclude (Cli.runOptions { silent with input := ← Main.readInput } options)
  | _ => Main.conclude (Cli.run silent arguments)
