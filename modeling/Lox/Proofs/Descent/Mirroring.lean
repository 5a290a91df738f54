import Lox.Proofs.Descent.Operations
import Lox.Proofs.Descent.Relabelling

set_option autoImplicit false

namespace Lox.Descent

variable (f : Token → Token)

def Answer.mapTokens : Answer → Answer
  | .done => .done
  | .token found => .token (found.map f)
  | .flag value => .flag value
  | .tree e => .tree (e.mapTokens f)

def Failure.mapToken : Failure → Failure
  | .parse e => .parse (e.mapToken f)
  | .noToken => .noToken

def Outcome.mapTokens : Outcome → Outcome
  | .ok answer c => .ok (answer.mapTokens f) (c.map f)
  | .error failure c => .error (failure.mapToken f) (c.map f)

variable {f}

@[simp] theorem Outcome.cursor_mapTokens (outcome : Outcome) :
    (outcome.mapTokens f).cursor = outcome.cursor.map f := by
  cases outcome <;> rfl

namespace Cursor

@[simp] theorem pos_map (c : Cursor) : (c.map f).pos = c.pos :=
  List.length_map f

@[simp] theorem last?_map (c : Cursor) : (c.map f).last? = c.last?.map f := by
  obtain ⟨behind, ahead⟩ := c
  cases behind <;> simp [map, last?]

theorem answering_map {answer : Expr → Answer}
    (mapped : ∀ e, answer (e.mapTokens f) = (answer e).mapTokens f) (result : Result Expr) :
    answering (Result.mapTokens f result) answer =
      Outcome.mapTokens f (answering result answer) := by
  cases result with
  | ok e c => simp [Result.mapTokens, answering, Outcome.mapTokens, mapped]
  | error e c => rfl

theorem answerLast_map {answer : Token → Answer}
    (mapped : ∀ token, answer (f token) = (answer token).mapTokens f) (c : Cursor) :
    (c.map f).answerLast answer = Outcome.mapTokens f (c.answerLast answer) := by
  rw [answerLast, answerLast, last?_map]
  cases c.last? with
  | none => rfl
  | some token => simp [Outcome.mapTokens, mapped]

section

variable (keeps : ∀ token, (f token).kind = token.kind)

include keeps

theorem atEnd_map (c : Cursor) : (c.map f).atEnd = c.atEnd := by
  obtain ⟨behind, ahead⟩ := c
  cases ahead <;> simp [map, atEnd, keeps]

theorem nextIs_map (c : Cursor) (kinds : List Kind) : (c.map f).nextIs kinds = c.nextIs kinds := by
  rw [nextIs, nextIs, take?_map keeps, Option.isSome_map]

theorem step_map (c : Cursor) : (c.map f).step = c.step.map f := by
  rw [step, step, take?_map keeps]
  cases c.take? fun _ => true <;> rfl

theorem skipStatement_map (last : Kind) (behind ahead : List Token) :
    skipStatement last (behind.map f) (ahead.map f) = (skipStatement last behind ahead).map f := by
  induction ahead generalizing last behind with
  | nil => rfl
  | cons token rest ih =>
    rw [List.map_cons, skipStatement, skipStatement, keeps]
    split
    · rfl
    · exact ih token.kind (token :: behind)

theorem recover_map (c : Cursor) : (c.map f).recover = c.recover.map f := by
  rw [recover, recover, take?_map keeps]
  cases c.take? fun _ => true with
  | none => rfl
  | some found =>
    obtain ⟨token, next⟩ := found
    simp only [Option.map_some, keeps]
    exact skipStatement_map keeps token.kind next.behind next.ahead

theorem run_map {task : Task} (whole : task.mapTokens f = task) (c : Cursor) :
    task.run (c.map f) = Result.mapTokens f (task.run c) := by
  have mapped := (ruled c task).map keeps
  rw [whole] at mapped
  exact mapped.run_eq

theorem perform_map (c : Cursor) (operation : Operation) :
    (c.map f).perform operation = Outcome.mapTokens f (c.perform operation) := by
  cases operation with
  | next => simp [perform, Outcome.mapTokens, Answer.mapTokens]
  | last => exact answerLast_map (fun _ => rfl) c
  | atEnd => simp [perform, Outcome.mapTokens, Answer.mapTokens, atEnd_map keeps]
  | step =>
    rw [perform, step_map keeps]
    exact answerLast_map (fun _ => rfl) c.step
  | nextIs kinds => simp [perform, Outcome.mapTokens, Answer.mapTokens, nextIs_map keeps]
  | accept kinds =>
    rw [perform, perform, nextIs_map keeps, step_map keeps]
    split <;> rfl
  | require kind message =>
    rw [perform, perform, require, require, take?_map keeps]
    cases c.take? (· == kind) with
    | none => simp [answering, Outcome.mapTokens, Failure.mapToken, ParseError.mapToken]
    | some found => rfl
  | recover =>
    rw [perform, recover_map keeps]
    exact answerLast_map (fun _ => rfl) c.recover
  | expression | level | prefixed | atom =>
    rw [perform_of_task? _ rfl, perform_of_task? _ rfl, run_map keeps rfl]
    exact answering_map (fun _ => rfl) _

theorem after_map (c : Cursor) (operations : List Operation) :
    (c.map f).after operations = (c.after operations).map f := by
  induction operations generalizing c with
  | nil => rfl
  | cons operation rest ih =>
    rw [after, after, perform_map keeps, Outcome.cursor_mapTokens]
    exact ih _

end

end Cursor

theorem parser_mirrored {f : Token → Token} (keeps : ∀ token, (f token).kind = token.kind)
    (tokens : List Token) :
    (∀ (operations : List Operation) (operation : Operation),
      ((Cursor.ofTokens (tokens.map f)).after operations).perform operation =
        Outcome.mapTokens f (((Cursor.ofTokens tokens).after operations).perform operation)) ∧
    (∀ e c, (Cursor.ofTokens tokens).parseExpr = .ok e c →
      ∃ c', (Cursor.ofTokens (tokens.map f)).parseExpr = .ok (e.mapTokens f) c' ∧
        c'.pos = c.pos) ∧
    ∀ error c, (Cursor.ofTokens tokens).parseExpr = .error error c →
      ∃ error' c', (Cursor.ofTokens (tokens.map f)).parseExpr = .error error' c' ∧
        c'.pos = c.pos ∧ error'.diagnostic.message = error.diagnostic.message ∧
        error'.token = error.token.map f ∧
        error'.diagnostic.line = (error.token.map fun token => (f token).line).getD 0 := by
  have start : Cursor.ofTokens (tokens.map f) = (Cursor.ofTokens tokens).map f := rfl
  have parsed := parseExpr_map keeps (.ofTokens tokens)
  refine ⟨fun operations operation => ?_, fun e c ended => ?_, fun error c ended => ?_⟩
  · rw [start, Cursor.after_map keeps, Cursor.perform_map keeps]
  · rw [ended] at parsed
    exact ⟨c.map f, parsed, c.pos_map⟩
  · rw [ended] at parsed
    refine ⟨error.mapToken f, c.map f, parsed, c.pos_map, rfl, rfl, ?_⟩
    rw [ParseError.diagnostic, Diagnostic.aboutToken, ParseError.mapToken, Option.map_map]
    rfl

-- Of the tokens of `! nil` and of `! ;`, on two lines, nothing is kept but the kinds.
theorem parser_mirrored_bare :
    let veil := fun token : Token => Automaton.bare token.kind
    let bang : Token := ⟨.bang, "!", 1, .absent⟩
    let nothing : Token := ⟨.kwNil, "nil", 2, .absent⟩
    let semicolon : Token := ⟨.semicolon, ";", 2, .absent⟩
    (∀ token, (veil token).kind = token.kind) ∧
      (∃ c c', (Cursor.ofTokens [bang, nothing]).parseExpr =
          .ok (.unary bang (.literal nothing)) c ∧
        (Cursor.ofTokens [veil bang, veil nothing]).parseExpr =
          .ok (.unary (veil bang) (.literal (veil nothing))) c' ∧ c'.pos = c.pos) ∧
      ∃ error c error' c', (Cursor.ofTokens [bang, semicolon]).parseExpr = .error error c ∧
        (Cursor.ofTokens [veil bang, veil semicolon]).parseExpr = .error error' c' ∧
        c'.pos = c.pos ∧ error'.token = some (veil semicolon) := by
  intro veil bang nothing semicolon
  have keeps (token : Token) : (veil token).kind = token.kind := rfl
  have parsed : Runs (.level .equality) (.ofTokens [bang, nothing])
      (.ok (.unary bang (.literal nothing)) ⟨[nothing, bang], []⟩) :=
    .level (.level (.level (.level (.unary rfl (.prefixed rfl (.literal rfl))) (.chainEnds rfl))
      (.chainEnds rfl)) (.chainEnds rfl)) (.chainEnds rfl)
  have failed : Runs (.level .equality) (.ofTokens [bang, semicolon])
      (.error ⟨.expressionExpected, some semicolon⟩ ⟨[bang], [semicolon]⟩) :=
    .levelFails (.levelFails (.levelFails (.levelFails
      (.unaryFails rfl (.prefixed rfl (.nothing rfl rfl))))))
  obtain ⟨c', parsed', pos⟩ := (parser_mirrored keeps [bang, nothing]).2.1 _ _ parsed.run_eq
  obtain ⟨error', d', failed', pos', -, token, -⟩ :=
    (parser_mirrored keeps [bang, semicolon]).2.2 _ _ failed.run_eq
  exact ⟨keeps, ⟨_, c', parsed.run_eq, parsed', pos⟩,
    ⟨_, _, error', d', failed.run_eq, failed', pos', token⟩⟩

end Lox.Descent
