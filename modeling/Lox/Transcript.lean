import Lox.Diagnostic

set_option autoImplicit false

namespace Lox

structure Transcript where
  out : String
  err : String
  deriving DecidableEq

namespace Transcript

def empty : Transcript :=
  ⟨"", ""⟩

def append (first second : Transcript) : Transcript :=
  ⟨first.out ++ second.out, first.err ++ second.err⟩

instance : Append Transcript := ⟨append⟩

def outLine (text : String) : Transcript :=
  ⟨text ++ "\n", ""⟩

def errLine (text : String) : Transcript :=
  ⟨"", text ++ "\n"⟩

@[simp] theorem out_append (first second : Transcript) :
    (first ++ second).out = first.out ++ second.out := rfl

@[simp] theorem err_append (first second : Transcript) :
    (first ++ second).err = first.err ++ second.err := rfl

@[simp] theorem empty_append (t : Transcript) : empty ++ t = t := by
  show append empty t = t
  simp [append, empty]

@[simp] theorem append_empty (t : Transcript) : t ++ empty = t := by
  show append t empty = t
  simp [append, empty]

theorem append_assoc (first second third : Transcript) :
    first ++ second ++ third = first ++ (second ++ third) := by
  show append (append first second) third = append first (append second third)
  simp [append, String.append_assoc]

end Transcript

structure Settings where
  threshold : Nat
  traceback : Bool
  -- The name under which the notes on the steps from text to value stand.
  name : String := "lox_ref.runner"
  deriving DecidableEq

namespace Settings

def quiet : Settings where
  threshold := 30
  traceback := false

def tracebackHeading : String :=
  "\nPython traceback:\n"

def report (settings : Settings) (d : Diagnostic) : Transcript :=
  ⟨"", d.text ++ "\n" ++ if settings.traceback then tracebackHeading else ""⟩

end Settings

end Lox
