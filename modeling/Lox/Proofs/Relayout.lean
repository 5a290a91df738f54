import Lox.Proofs.Descent.Relabelling
import Lox.Proofs.Evaluation.Safety
import Lox.Proofs.Lexical.Layout

set_option autoImplicit false

namespace Lox

def Token.unlined (token : Token) : Token :=
  { token with line := 0 }

@[simp] theorem Token.kind_unlined (token : Token) : token.unlined.kind = token.kind := rfl

def Fault.unlined : Fault → Fault
  | .typing error => .typing { error with line := 0 }
  | .internal fault => .internal fault

theorem Value.ofLiteral_unlined (token : Token) :
    ofLiteral token.unlined = (ofLiteral token).mapError Fault.unlined := by
  obtain ⟨kind, lexeme, line, payload⟩ := token
  cases kind <;> try rfl
  cases payload with
  | absent | number => rfl
  | text value =>
    simp only [ofLiteral, Token.unlined]
    cases Number.ofText? value.toList <;> rfl

theorem Value.applyUnary_unlined (operator : Token) (operand : Value) :
    applyUnary operator.unlined operand = (applyUnary operator operand).mapError Fault.unlined := by
  obtain ⟨kind, lexeme, line, payload⟩ := operator
  cases kind <;> cases operand <;> rfl

theorem Value.applyBinary_unlined (operator : Token) (left right : Value) :
    applyBinary operator.unlined left right =
      (applyBinary operator left right).mapError Fault.unlined := by
  obtain ⟨kind, lexeme, line, payload⟩ := operator
  have onNumbers (operation : Float → Float → Value) :
      onNumbers (Token.unlined ⟨kind, lexeme, line, payload⟩) operation left right =
        (onNumbers ⟨kind, lexeme, line, payload⟩ operation left right).mapError Fault.unlined := by
    cases left <;> cases right <;> rfl
  cases kind <;> try rfl
  case plus => cases left <;> cases right <;> rfl
  all_goals exact onNumbers _

namespace Expr

theorem evaluate_unlined (e : Expr) :
    (e.mapTokens Token.unlined).evaluate = e.evaluate.mapError Fault.unlined := by
  induction e with
  | literal token => exact Value.ofLiteral_unlined token
  | grouping inner ih => exact ih
  | unary operator operand ih =>
    rw [mapTokens, evaluate, evaluate, ih]
    cases operand.evaluate with
    | error fault => rfl
    | ok value => exact Value.applyUnary_unlined operator value
  | binary left operator right ihLeft ihRight =>
    rw [mapTokens, evaluate, evaluate, ihLeft, ihRight]
    cases left.evaluate with
    | error fault => rfl
    | ok first =>
      cases right.evaluate with
      | error fault => rfl
      | ok second => exact Value.applyBinary_unlined operator first second
  | stray text => rfl

theorem alike_unlined (a b : Expr) :
    (a.mapTokens Token.unlined).alike (b.mapTokens Token.unlined) = a.alike b := by
  induction a generalizing b with
  | literal token => cases b <;> rfl
  | grouping inner ih =>
    cases b with
    | grouping other => exact ih other
    | _ => rfl
  | unary operator operand ih =>
    cases b with
    | unary operator' other => simp only [mapTokens, alike, Token.kind_unlined, ih]
    | _ => rfl
  | binary left operator right ihLeft ihRight =>
    cases b with
    | binary left' operator' right' =>
      simp only [mapTokens, alike, Token.kind_unlined, ihLeft, ihRight]
    | _ => rfl
  | stray text => cases b <;> rfl

end Expr

-- Results that are equal up to what two functions forget have come out the same way.
theorem ok_or_error_of_map_eq {ε δ α β : Type} {f : ε → δ} {g : α → β} {x y : Except ε α}
    (same : (y.map g).mapError f = (x.map g).mapError f) :
    (∃ a b, x = .ok a ∧ y = .ok b ∧ g b = g a) ∨
      ∃ a b, x = .error a ∧ y = .error b ∧ f b = f a := by
  cases x with
  | ok a =>
    cases y with
    | ok b => exact .inl ⟨a, b, rfl, rfl, Except.ok.inj same⟩
    | error b => cases same
  | error a =>
    cases y with
    | ok b => cases same
    | error b => exact .inr ⟨a, b, rfl, rfl, Except.error.inj same⟩

theorem parse_of_unlined {tokens tokens' : List Token}
    (same : tokens'.map Token.unlined = tokens.map Token.unlined) :
    (∃ e e', parse tokens = .ok e ∧ parse tokens' = .ok e' ∧
        e'.mapTokens Token.unlined = e.mapTokens Token.unlined) ∨
      ∃ error error', parse tokens = .error error ∧ parse tokens' = .error error' ∧
        error'.diagnostic.message = error.diagnostic.message := by
  have mapped := parse_map Token.kind_unlined tokens'
  rw [same, parse_map Token.kind_unlined tokens] at mapped
  rcases ok_or_error_of_map_eq mapped.symm with trees | ⟨error, error', failed, failed', forgotten⟩
  · exact .inl trees
  · have causes := congrArg ParseError.cause forgotten
    exact .inr ⟨error, error', failed, failed', congrArg ParseCause.message causes⟩

theorem answers_of_unlined {e e' : Expr} (wellFormed : e.WellFormed)
    (same : e'.evaluate.mapError Fault.unlined = e.evaluate.mapError Fault.unlined) :
    (∃ value, e.evaluate = .ok value ∧ e'.evaluate = .ok value) ∨
      ∃ error error', e.evaluate = .error (.typing error) ∧ e'.evaluate = .error (.typing error') ∧
        error'.diagnostic.message = error.diagnostic.message := by
  have mapped : (e'.evaluate.map id).mapError Fault.unlined =
      (e.evaluate.map id).mapError Fault.unlined := by
    rw [Except.map_id, id, id, same]
  rcases ok_or_error_of_map_eq mapped with
    ⟨value, value', done, done', values⟩ | ⟨fault, fault', failed, failed', faults⟩
  · obtain rfl : value' = value := values
    exact .inl ⟨value', done, done'⟩
  · -- A tree that was read answers with a value or a type error, and the other one fails like it.
    rcases Expr.answers_evaluate wellFormed with ⟨value, done⟩ | ⟨error, typed⟩
    · rw [done] at failed
      cases failed
    · obtain rfl : Fault.typing error = fault := Except.error.inj (typed.symm.trans failed)
      cases fault' with
      | internal fault' => cases faults
      | typing error' =>
        have causes := congrArg TypeError.cause (Fault.typing.inj faults)
        exact .inr ⟨error, error', failed, failed', congrArg TypeCause.message causes⟩

theorem evaluate_of_unlined {e e' : Expr} (wellFormed : e.WellFormed)
    (same : e'.mapTokens Token.unlined = e.mapTokens Token.unlined) :
    (∃ value, e.evaluate = .ok value ∧ e'.evaluate = .ok value) ∨
      ∃ error error', e.evaluate = .error (.typing error) ∧ e'.evaluate = .error (.typing error') ∧
        error'.diagnostic.message = error.diagnostic.message := by
  apply answers_of_unlined wellFormed
  rw [← e'.evaluate_unlined, ← e.evaluate_unlined, same]

theorem Lexical.map_unlined_placed (before : List Char) (pieces : List (Token × List Char)) :
    (placed before pieces).map Token.unlined =
      (pieces.map Prod.fst ++ [Token.eof 0]).map Token.unlined := by
  induction pieces generalizing before with
  | nil => rfl
  | cons piece rest ih => simp [placed, ih, Token.unlined]

theorem layout_irrelevant {source : String} {tokens : List Token}
    (scanned : scan source = .ok tokens) (layout : Lexical.Layout)
    (words : layout.words = tokens.dropLast) :
    scan layout.source = .ok layout.tokens ∧
      layout.tokens.map Token.unlined = tokens.map Token.unlined ∧
      ∀ method : Method,
        (∃ e e', readSource method source = .ok e ∧ readSource method layout.source = .ok e' ∧
            e.alike e' = true ∧
            ((∃ value, runSource method source = .ok value ∧
                runSource method layout.source = .ok value) ∨
              ∃ error error', runSource method source = .error (.evaluating (.typing error)) ∧
                runSource method layout.source = .error (.evaluating (.typing error')) ∧
                error'.diagnostic.message = error.diagnostic.message)) ∨
          ∃ error error', readSource method source = .error (.grammatical error) ∧
            readSource method layout.source = .error (.grammatical error') ∧
            error'.diagnostic.message = error.diagnostic.message := by
  obtain ⟨words', rfl, lexed⟩ := (Lexical.scans_scan source).lexed tokens scanned
  rw [List.dropLast_concat] at words
  have scanned' : scan layout.source = .ok layout.tokens :=
    layout.scan_source (by rwa [words])
  have same : layout.tokens.map Token.unlined =
      (words' ++ [Token.eof (Lexical.lineAfter ([] ++ source.toList))]).map Token.unlined := by
    rw [Lexical.Layout.tokens, Lexical.map_unlined_placed, ← words, Lexical.Layout.words]
    simp [Token.unlined, Token.eof]
  refine ⟨scanned', same, fun method => ?_⟩
  have read := readSource_of_scan scanned method
  have read' := readSource_of_scan scanned' method
  rcases parse_of_unlined same with ⟨e, e', parsed, parsed', trees⟩ |
    ⟨error, error', parsed, parsed', messages⟩
  · rw [parsed] at read
    rw [parsed'] at read'
    have alike : e.alike e' = true := by
      rw [← Expr.alike_unlined, trees, Expr.alike_unlined]
      exact alike_of_parse (Lexical.spelled_of_scan scanned) parsed
    refine .inl ⟨e, e', read, read', alike, ?_⟩
    simp only [runSource, show readSource method source = .ok e from read,
      show readSource method layout.source = .ok e' from read']
    rcases evaluate_of_unlined (wellFormed_of_readSource read) trees with
      ⟨value, done, done'⟩ | ⟨error, error', failed, failed', messages⟩
    · exact .inl ⟨value, by rw [done], by rw [done']⟩
    · exact .inr ⟨error, error', by rw [failed], by rw [failed'], messages⟩
  · rw [parsed] at read
    rw [parsed'] at read'
    exact .inr ⟨error, error', read, read', messages⟩

namespace Lexical.Layout

-- The text `! nil`, and the same words between comments on three lines.
def narrow : Layout where
  first := []
  pieces := [(⟨.bang, "!", 1, .absent⟩, [' ']), (⟨.kwNil, "nil", 1, .absent⟩, [])]
  spaced := by
    refine .inr ⟨.empty, .more ⟨' ', rfl, by decide⟩ ?_ (.last (.inl rfl))⟩
    exact .blank (by decide) .empty

def wide : Layout where
  first := '/' :: '/' :: " not".toList ++ '\n' :: []
  pieces := [(⟨.bang, "!", 1, .absent⟩, ['\n']),
    (⟨.kwNil, "nil", 1, .absent⟩, [' '] ++ '/' :: '/' :: [])]
  spaced := by
    have ends : LastGap ([' '] ++ '/' :: '/' :: []) :=
      .opened (.blank (by decide) .empty) (by decide)
    refine .inr ⟨.comment (by decide) .empty, .more ⟨'\n', rfl, by decide⟩ ?_ ?_⟩
    · exact .blank (by decide) .empty
    · exact .last (.inr ⟨⟨' ', rfl, by decide⟩, ends⟩)

theorem lexed_narrow : ∀ word ∈ narrow.words, Lexed word := by
  simp only [narrow, words, List.map_cons, List.map_nil, List.forall_mem_cons, List.not_mem_nil,
    false_implies, implies_true, and_true]
  exact ⟨⟨.fixed .bang, .fixed (by decide), .fixed⟩, .keyword (by decide) 1⟩

end Lexical.Layout

theorem layout_irrelevant_negation :
    scan "! nil" = .ok (Lexical.Layout.narrow.words ++ [Token.eof 1]) ∧
      Lexical.Layout.wide.source = "// not\n!\nnil //" ∧
      scan "// not\n!\nnil //" =
        .ok [⟨.bang, "!", 2, .absent⟩, ⟨.kwNil, "nil", 3, .absent⟩, Token.eof 3] := by
  have scanned : scan "! nil" = .ok (Lexical.Layout.narrow.words ++ [Token.eof 1]) :=
    Lexical.Layout.narrow.scan_source Lexical.Layout.lexed_narrow
  exact ⟨scanned, rfl, (layout_irrelevant scanned Lexical.Layout.wide rfl).1⟩

end Lox
