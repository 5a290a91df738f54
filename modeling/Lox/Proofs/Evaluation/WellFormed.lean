import Lox.Evaluation
import Lox.Proofs.Grammar.Derivation

set_option autoImplicit false

namespace Lox

open Grammar

def Token.Denotes (token : Token) : Prop :=
  match token.kind with
  | .number => ∃ value, token.payload = .number value
  | .string => ∃ text, token.payload = .text text
  | .kwTrue | .kwFalse | .kwNil => token.payload = .absent
  | _ => False

def Expr.WellFormed : Expr → Prop
  | .literal token => token.Denotes
  | .grouping inner => inner.WellFormed
  | .unary operator operand => operator.kind ∈ unaryOperators ∧ operand.WellFormed
  | .binary left operator right =>
    (∃ level, operator.kind ∈ binaryOperators level) ∧ left.WellFormed ∧ right.WellFormed
  | .stray _ => False

def Answers (result : Except Fault Value) : Prop :=
  (∃ value, result = .ok value) ∨ ∃ error, result = .error (.typing error)

namespace Value

theorem ofLiteral_eq_ok {token : Token} (denotes : token.Denotes) :
    ∃ value, ofLiteral token = .ok value := by
  obtain ⟨kind, lexeme, line, payload⟩ := token
  unfold Token.Denotes at denotes
  split at denotes
  · next number =>
    obtain ⟨value, rfl⟩ := denotes
    obtain rfl := number
    exact ⟨.number value, rfl⟩
  · next string =>
    obtain ⟨text, rfl⟩ := denotes
    obtain rfl := string
    exact ⟨.string text, rfl⟩
  · next yes => exact ⟨.bool true, by simp_all [ofLiteral]⟩
  · next no => exact ⟨.bool false, by simp_all [ofLiteral]⟩
  · next nothing => exact ⟨.nil, by simp_all [ofLiteral]⟩
  · exact denotes.elim

theorem answers_onNumbers (operator : Token) (operation : Float → Float → Value)
    (left right : Value) : Answers (onNumbers operator operation left right) := by
  cases left <;> cases right <;> first | exact .inl ⟨_, rfl⟩ | exact .inr ⟨_, rfl⟩

theorem answers_add (operator : Token) (left right : Value) :
    Answers (add operator left right) := by
  cases left <;> cases right <;> first | exact .inl ⟨_, rfl⟩ | exact .inr ⟨_, rfl⟩

theorem answers_applyUnary {operator : Token} (known : operator.kind ∈ unaryOperators)
    (operand : Value) : Answers (applyUnary operator operand) := by
  unfold applyUnary
  split
  · cases operand <;> first | exact .inl ⟨_, rfl⟩ | exact .inr ⟨_, rfl⟩
  · exact .inl ⟨_, rfl⟩
  · next minus bang =>
    have either : operator.kind = .bang ∨ operator.kind = .minus := by
      simpa [unaryOperators] using known
    exact (either.elim bang minus).elim

theorem answers_applyBinary {operator : Token} {level : Level}
    (known : operator.kind ∈ binaryOperators level) (left right : Value) :
    Answers (applyBinary operator left right) := by
  unfold applyBinary
  split
  · exact answers_add operator left right
  iterate 7
    · exact answers_onNumbers ..
  · exact .inl ⟨_, rfl⟩
  · exact .inl ⟨_, rfl⟩
  · cases level <;> simp_all [binaryOperators]

end Value

namespace Expr

theorem answers_evaluate {e : Expr} (wellFormed : e.WellFormed) : Answers e.evaluate := by
  induction e with
  | literal token => exact .inl (Value.ofLiteral_eq_ok wellFormed)
  | grouping inner ih => exact ih wellFormed
  | unary operator operand ih =>
    obtain ⟨known, inner⟩ := wellFormed
    rcases ih inner with ⟨value, done⟩ | ⟨error, failed⟩
    · rw [evaluate, done]
      exact Value.answers_applyUnary known value
    · rw [evaluate, failed]
      exact .inr ⟨error, rfl⟩
  | binary left operator right ihLeft ihRight =>
    obtain ⟨⟨level, known⟩, first, second⟩ := wellFormed
    rcases ihLeft first with ⟨a, doneLeft⟩ | ⟨error, failed⟩
    · rcases ihRight second with ⟨b, doneRight⟩ | ⟨error, failed⟩
      · rw [evaluate, doneLeft, doneRight]
        exact Value.answers_applyBinary known a b
      · rw [evaluate, doneLeft, failed]
        exact .inr ⟨error, rfl⟩
    · rw [evaluate, failed]
      exact .inr ⟨error, rfl⟩
  | stray text => exact wellFormed.elim

end Expr

end Lox
