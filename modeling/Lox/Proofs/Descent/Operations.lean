import Lox.Descent.Operation
import Lox.Proofs.Descent.Onward

set_option autoImplicit false

namespace Lox.Descent

abbrev Outcome := EStateM.Result Failure Cursor Answer

def Outcome.cursor : Outcome → Cursor
  | .ok _ d => d
  | .error _ d => d

def Cursor.after (c : Cursor) : List Operation → Cursor
  | [] => c
  | operation :: rest => (Outcome.cursor (c.perform operation)).after rest

namespace Operation

def looks : Operation → Bool
  | next | last | atEnd | nextIs _ => true
  | _ => false

def looksBack : Operation → Bool
  | last | step | recover => true
  | _ => false

def task? : Operation → Option Task
  | expression => some (.level .equality)
  | level l => some (.level l)
  | prefixed => some .prefixed
  | atom => some .atom
  | _ => none

end Operation

theorem Cursor.last?_eq_none (c : Cursor) : c.last? = none ↔ c.tokens = [] := by
  rw [tokens, last?]
  cases c.behind <;> simp

structure Stands (tokens : List Token) (c : Cursor) : Prop where
  tokens : c.tokens = tokens
  proper : ∀ token ∈ c.behind, token.kind ≠ .eof

namespace Stands

variable {tokens : List Token} {c d : Cursor}

theorem ofTokens (tokens : List Token) : Stands tokens (.ofTokens tokens) where
  tokens := rfl
  proper := by simp [Cursor.ofTokens]

theorem onward (h : Stands tokens c) (further : Onward c d) : Stands tokens d where
  tokens := further.tokens_eq.trans h.tokens
  proper := further.proper h.proper

theorem pos_le (h : Stands tokens c) : c.pos ≤ tokens.findIdx (·.kind = .eof) := by
  have none : c.behind.reverse.findIdx (·.kind = .eof) = c.behind.reverse.length :=
    List.findIdx_eq_length.2 (by simpa using h.proper)
  rw [← h.tokens, Cursor.tokens, List.findIdx_append, none, if_neg (Nat.lt_irrefl _),
    List.length_reverse]
  exact Nat.le_add_left _ _

theorem next?_eq (h : Stands tokens c) : c.next? = tokens[c.pos]? := by
  rw [← h.tokens, Cursor.tokens, Cursor.pos, List.getElem?_append_right (by simp)]
  simp [Cursor.next?, List.head?_eq_getElem?]

theorem last?_eq_none (h : Stands tokens c) : c.last? = none ↔ tokens = [] := by
  rw [c.last?_eq_none, h.tokens]

end Stands

namespace Cursor

variable (c : Cursor)

theorem onward_step : Onward c c.step := by
  rw [step]
  split
  · next taken => exact .of_take? taken
  · exact .refl c

theorem onward_skipStatement (last : Kind) (behind ahead : List Token) :
    Onward ⟨behind, ahead⟩ (skipStatement last behind ahead) := by
  induction ahead generalizing last behind with
  | nil => exact .refl _
  | cons token rest ih =>
    rw [skipStatement]
    split
    · exact .refl _
    · next further =>
      have proper : token.kind ≠ .eof := by
        intro ends
        simp [ends] at further
      exact .take (d := ⟨token :: behind, rest⟩) rfl rfl proper (ih _ _)

theorem onward_recover : Onward c c.recover := by
  rw [recover]
  split
  · next taken => exact (Onward.of_take? taken).trans (onward_skipStatement _ _ _)
  · exact .refl c

theorem onward_require (kind : Kind) (cause : ParseCause) :
    Onward c (Result.cursor (c.require kind cause)) := by
  rw [require]
  split
  · next taken => exact .of_take? taken
  · exact .refl c

theorem cursor_answering {α : Type} (result : Result α) (answer : α → Answer) :
    Outcome.cursor (answering result answer) = Result.cursor result := by
  cases result <;> rfl

theorem answering_ne_noToken {α : Type} (result : Result α) (answer : α → Answer) (d : Cursor) :
    answering result answer ≠ .error .noToken d := by
  cases result <;> nofun

theorem cursor_answerLast (answer : Token → Answer) :
    Outcome.cursor (c.answerLast answer) = c := by
  rw [answerLast]
  split <;> rfl

theorem perform_of_task? {operation : Operation} {task : Task}
    (parses : operation.task? = some task) :
    c.perform operation = answering (task.run c) .tree := by
  cases operation with
  | expression | level | prefixed | atom =>
    cases parses
    rfl
  | _ => cases parses

theorem onward_perform (operation : Operation) :
    Onward c (Outcome.cursor (c.perform operation)) := by
  cases parses : operation.task? with
  | some task =>
    rw [perform_of_task? c parses, cursor_answering]
    exact (ruled c task).onward
  | none =>
    cases operation with
    | next | atEnd | nextIs => exact .refl c
    | last =>
      rw [perform, cursor_answerLast]
      exact .refl c
    | step =>
      rw [perform, cursor_answerLast]
      exact c.onward_step
    | recover =>
      rw [perform, cursor_answerLast]
      exact c.onward_recover
    | accept kinds =>
      rw [perform]
      split
      · exact c.onward_step
      · exact .refl c
    | require kind message =>
      rw [perform, cursor_answering]
      exact c.onward_require kind _
    | expression | level | prefixed | atom => cases parses

theorem onward_after (operations : List Operation) : Onward c (c.after operations) := by
  induction operations generalizing c with
  | nil => exact .refl c
  | cons operation rest ih => exact (c.onward_perform operation).trans (ih _)

theorem advances_of_task? {operation : Operation} {task : Task}
    (parses : operation.task? = some task) : Advances c (task.run c) := by
  cases operation with
  | expression =>
    cases parses
    exact c.parseLevel_advances .equality
  | level l =>
    cases parses
    exact c.parseLevel_advances l
  | prefixed =>
    cases parses
    exact c.parsePrefixed_advances
  | atom =>
    cases parses
    exact c.parseAtom_advances
  | _ => cases parses

theorem answerLast_eq_error_iff {answer : Token → Answer} {failure : Failure} {d : Cursor} :
    c.answerLast answer = .error failure d ↔ c.last? = none ∧ failure = .noToken ∧ d = c := by
  rw [answerLast]
  cases c.last? with
  | some token => simp
  | none => simp [eq_comm]

variable {c}

theorem pos_lt_of_parsed {operation : Operation} {answer : Answer} {d : Cursor}
    (parses : operation.task?.isSome = true) (done : c.perform operation = .ok answer d) :
    c.pos < d.pos := by
  obtain ⟨task, parses⟩ := Option.isSome_iff_exists.1 parses
  have advances := c.advances_of_task? parses
  have onward := (ruled c task).onward
  rw [perform_of_task? c parses] at done
  generalize task.run c = result at advances onward done
  cases result with
  | error e f => cases done
  | ok e f =>
    cases done
    have further := advances.length_lt
    have length : d.pos + d.ahead.length = c.pos + c.ahead.length := onward.length_eq
    omega

theorem token_of_failed {operation : Operation} {e : ParseError} {d : Cursor}
    (failed : c.perform operation = .error (.parse e) d) : e.token = d.next? := by
  cases parses : operation.task? with
  | some task =>
    have rules := ruled c task
    rw [perform_of_task? c parses] at failed
    generalize task.run c = result at rules failed
    cases result with
    | ok e f => cases failed
    | error e f =>
      cases failed
      exact rules.token_eq rfl
  | none =>
    cases operation with
    | next | atEnd | nextIs => cases failed
    | last | step | recover =>
      rw [perform, answerLast_eq_error_iff] at failed
      cases failed.2.1
    | accept kinds =>
      rw [perform] at failed
      split at failed <;> cases failed
    | require kind message =>
      rw [perform, require] at failed
      split at failed
      · cases failed
      · cases failed
        rfl
    | expression | level | prefixed | atom => cases parses

end Cursor

namespace Stands

variable {tokens : List Token} {c : Cursor}

theorem noToken_iff (h : Stands tokens c) (operation : Operation) :
    (∃ d, c.perform operation = .error .noToken d) ↔
      tokens = [] ∧ operation.looksBack = true := by
  have stepped := h.onward c.onward_step
  have recovered := h.onward c.onward_recover
  cases operation with
  | last =>
    simp [Cursor.perform, Cursor.answerLast_eq_error_iff, h.last?_eq_none, Operation.looksBack]
  | step =>
    simp [Cursor.perform, Cursor.answerLast_eq_error_iff, stepped.last?_eq_none,
      Operation.looksBack]
  | recover =>
    simp [Cursor.perform, Cursor.answerLast_eq_error_iff, recovered.last?_eq_none,
      Operation.looksBack]
  | next | atEnd | nextIs => simp [Cursor.perform, Operation.looksBack]
  | accept kinds =>
    rw [Cursor.perform]
    split <;> simp [Operation.looksBack]
  | require | expression | level | prefixed | atom =>
    simp [Cursor.perform, Cursor.answering_ne_noToken, Operation.looksBack]

end Stands

structure Lawful (tokens : List Token) (c : Cursor) (operation : Operation)
    (outcome : Outcome) : Prop where
  list : c.tokens = tokens ∧ outcome.cursor.tokens = tokens
  within : c.pos ≤ tokens.findIdx (·.kind = .eof) ∧
    outcome.cursor.pos ≤ tokens.findIdx (·.kind = .eof)
  onward : c.pos ≤ outcome.cursor.pos
  looks : operation.looks = true → outcome.cursor = c
  refused : ∀ kinds d, operation = .accept kinds → outcome = .ok (.flag false) d → d = c
  rejected : ∀ kind message failure d, operation = .require kind message →
    outcome = .error failure d → d = c
  parsed : ∀ answer d, operation.task?.isSome = true → outcome = .ok answer d → c.pos + 1 ≤ d.pos
  failed : ∀ e d, outcome = .error (.parse e) d → e.token = tokens[d.pos]?
  unanswered : (∃ d, outcome = .error .noToken d) ↔ tokens = [] ∧ operation.looksBack = true

theorem Stands.lawful {tokens : List Token} {c : Cursor} (h : Stands tokens c)
    (operation : Operation) : Lawful tokens c operation (c.perform operation) := by
  have further := c.onward_perform operation
  have stands := h.onward further
  refine ⟨⟨h.tokens, stands.tokens⟩, ⟨h.pos_le, stands.pos_le⟩, further.pos_le, ?_, ?_, ?_,
    fun _ _ => Cursor.pos_lt_of_parsed, ?_, h.noToken_iff operation⟩
  · intro looks
    cases operation with
    | next | atEnd | nextIs => rfl
    | last => exact c.cursor_answerLast _
    | _ => cases looks
  · rintro kinds d rfl refused
    rw [Cursor.perform] at refused
    split at refused <;> cases refused
    rfl
  · rintro kind message failure d rfl rejected
    rw [Cursor.perform, Cursor.require] at rejected
    split at rejected <;> cases rejected
    rfl
  · intro e d failed
    have left : Outcome.cursor (c.perform operation) = d := by rw [failed]; rfl
    rw [Cursor.token_of_failed failed, ← left]
    exact stands.next?_eq

theorem perform_lawful (tokens : List Token) (operations : List Operation)
    (operation : Operation) :
    Lawful tokens ((Cursor.ofTokens tokens).after operations) operation
      (((Cursor.ofTokens tokens).after operations).perform operation) :=
  ((Stands.ofTokens tokens).onward (Cursor.onward_after _ operations)).lawful operation

end Lox.Descent
