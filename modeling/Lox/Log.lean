import Lox.Transcript

set_option autoImplicit false

namespace Lox.Log

def debug : Nat := 10

def warning : Nat := 30

def severities : List (String × Nat) :=
  [("CRITICAL", 50), ("FATAL", 50), ("ERROR", 40), ("WARNING", 30), ("WARN", 30), ("INFO", 20),
   ("DEBUG", 10), ("NOTSET", 0)]

/-- The capital form of a letter, as far as it matters for names in ASCII: besides the ASCII letters
the dotless i and the long s have one there. -/
def capital (c : Char) : Char :=
  if c = 'ı' then 'I' else if c = 'ſ' then 'S' else c.toUpper

def severityOf (name : String) : Nat :=
  (severities.lookup (String.ofList (name.toList.map capital))).getD warning

def thresholdOf (name environment : Option String) : Nat :=
  let chosen := (name.filter (· ≠ "")).or (environment.filter (· ≠ ""))
  (chosen.map severityOf).getD warning

abbrev Setup := Option Nat

def Setup.configure (setup : Setup) (name environment : Option String) : Setup :=
  -- Only the first time counts.
  some (setup.getD (thresholdOf name environment))

inductive Origin where
  | scanner | descent | automaton | pipeline | evaluation
  deriving DecidableEq

end Lox.Log

namespace Lox.Settings

def nameOf (settings : Settings) : Log.Origin → String
  | .scanner => "lox_ref.lexer_rd"
  | .descent => "lox_ref.parser_rd"
  | .automaton => "lox_ref.parse_lark"
  | .pipeline => settings.name
  | .evaluation => "lox_ref.evaluator"

def note (settings : Settings) (origin : Log.Origin) (message : String) : Transcript :=
  if settings.threshold ≤ Log.debug then
    Transcript.errLine ("DEBUG " ++ settings.nameOf origin ++ ": " ++ message)
  else Transcript.empty

theorem note_quiet (origin : Log.Origin) (message : String) :
    quiet.note origin message = Transcript.empty := rfl

end Lox.Settings
