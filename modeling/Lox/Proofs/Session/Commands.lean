import Lox.Cli.Basic
import Lox.Proofs.Evaluation.Safety
import Lox.Proofs.Text.Trim

set_option autoImplicit false

namespace Lox.Session

def turned (argument : List Char) (current : Bool) : Bool :=
  match small argument with
  | "on" | "1" | "true" | "yes" => true
  | "off" | "0" | "false" | "no" => false
  | "" => !current
  | _ => current

def State.after (threshold : Nat) (s : State) (lines : List String) : State :=
  lines.foldl (fun s line => (s.submit threshold line).next) s

def State.session (threshold : Nat) : State → List String → List Effect
  | _, [] => []
  | s, line :: rest =>
    let effect := s.submit threshold line
    effect :: session threshold effect.next rest

def Prompted.line? : Prompted → Option String
  | line text => some text
  | interrupted => none

namespace Command

theorem solid_name (command : Command) : ∀ c ∈ command.name.toList, Text.isBlank c = false := by
  have solid : (command.name.toList.all (!Text.isBlank ·)) = true := by
    cases command <;> decide
  simpa using solid

end Command

namespace State

variable (threshold : Nat) (s : State)

section

variable {line : String}

theorem submit_of_blank (blank : Text.trim (visible line.toList) = []) :
    s.submit threshold line = ⟨s, Transcript.empty, false⟩ := by
  simp only [submit, blank]

theorem submit_of_slash (slash : (Text.trim (visible line.toList)).head? = some '/') :
    s.submit threshold line = s.performLine (Text.trim (visible line.toList)) := by
  obtain ⟨rest, text⟩ := List.head?_eq_some_iff.1 slash
  simp only [submit, text, if_pos]

theorem submit_of_other (some : Text.trim (visible line.toList) ≠ [])
    (other : (Text.trim (visible line.toList)).head? ≠ Option.some '/') :
    s.submit threshold line = s.evaluateLine threshold (visible line.toList) := by
  obtain ⟨first, rest, text⟩ := List.exists_cons_of_ne_nil some
  have slash : first ≠ '/' := by simpa [text] using other
  simp only [submit, text, if_neg slash]

end

-- An interrupt leaves no trace.
theorem converse_eq_session (answers : List Prompted) :
    s.converse threshold answers =
      (s.session threshold (answers.filterMap Prompted.line?)).foldr
        (fun effect behind => effect.output ++ behind) (Transcript.outLine "") := by
  induction answers generalizing s with
  | nil => rfl
  | cons answer rest ih =>
    cases answer with
    | line text =>
      have submitted : (Prompted.line text).line? = some text := rfl
      rw [List.filterMap_cons_some submitted, session, List.foldr_cons, ← ih]
      rfl
    | interrupted =>
      have abandoned : Prompted.interrupted.line? = none := rfl
      rw [List.filterMap_cons_none abandoned, ← ih]
      rfl

end State

/-- Where the switches are kept: one in the session, the other in the environment, where it is a
text that is read again each time. -/
structure Kept where
  showTree : Bool
  environment : Option String

namespace Kept

def state (k : Kept) : State :=
  ⟨k.showTree, (Cli.settingsOf none k.environment).traceback⟩

end Kept

end Lox.Session
