import Lox.Pipeline

set_option autoImplicit false

namespace Lox

def Settings.Silent (settings : Settings) : Prop :=
  Log.debug < settings.threshold ∧ settings.traceback = false

namespace Settings.Silent

variable {settings : Settings} (silent : settings.Silent)

include silent

theorem note (origin : Log.Origin) (message : String) :
    settings.note origin message = Transcript.empty := by
  rw [Settings.note, if_neg (Nat.not_le.2 silent.1)]

theorem report (d : Diagnostic) : settings.report d = Transcript.errLine d.text := by
  simp [Settings.report, silent.2, Transcript.errLine]

theorem parse (method : Method) (tokens : List Token) :
    settings.parse method tokens = (method.parse tokens, Transcript.empty) := by
  refine Prod.ext (settings.fst_parse method tokens) ?_
  cases method with
  | descent =>
    simp only [Settings.parse]
    cases (Descent.Cursor.ofTokens tokens).parseExpr with
    | error e c => rfl
    | ok e c => exact silent.note ..
  | automaton =>
    simp only [Settings.parse]
    cases Automaton.parse tokens with
    | error e => rfl
    | ok stopped =>
      obtain ⟨e, before⟩ := stopped
      cases before <;> simp [noteAutomaton, silent.note]

theorem read (method : Method) (source : String) :
    settings.read method source = (readSource method source, Transcript.empty) := by
  refine Prod.ext (settings.fst_read method source) ?_
  unfold Settings.read
  cases scan source with
  | error e => rfl
  | ok tokens =>
    simp only [silent.parse]
    cases method.parse tokens <;> simp [noteTokens, noteTree, silent.note]

theorem printValue_of_typing {e : Expr} {error : TypeError}
    (failed : e.evaluate = .error (.typing error)) :
    settings.printValue e = .ok (none, Transcript.errLine error.diagnostic.text) := by
  simp [Settings.printValue, failed, silent.note, silent.report]

end Settings.Silent

theorem Settings.printValue_of_ok {e : Expr} {value : Value} (done : e.evaluate = .ok value)
    (settings : Settings) :
    settings.printValue e = .ok (some value, Transcript.outLine value.display) := by
  simp [Settings.printValue, done]

end Lox
