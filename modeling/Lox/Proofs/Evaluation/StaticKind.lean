import Lox.Proofs.Evaluation.WellFormed

set_option autoImplicit false

namespace Lox

open Grammar

inductive ValueKind where
  | nil | bool | number | string
  deriving DecidableEq

def Value.kind : Value → ValueKind
  | .nil => .nil
  | .bool _ => .bool
  | .number _ => .number
  | .string _ => .string

namespace ValueKind

def ofLiteral : Kind → ValueKind
  | .number => .number
  | .string => .string
  | .kwTrue | .kwFalse => .bool
  | _ => .nil

def unary? : Kind → ValueKind → Option ValueKind
  | .bang, _ => some .bool
  | .minus, .number => some .number
  | _, _ => none

def binary? : Kind → ValueKind → ValueKind → Option ValueKind
  | .equalEqual, _, _ | .bangEqual, _, _ => some .bool
  | .minus, .number, .number | .star, .number, .number | .slash, .number, .number => some .number
  | .greater, .number, .number | .greaterEqual, .number, .number => some .bool
  | .less, .number, .number | .lessEqual, .number, .number => some .bool
  | .plus, .number, .number => some .number
  | .plus, .string, .string => some .string
  | _, _, _ => none

end ValueKind

def Token.judge (operator : Token) : Option ValueKind → Except Token ValueKind
  | some kind => .ok kind
  | none => .error operator

def Token.complaint (operator : Token) : TypeCause :=
  if operator.kind = .plus then .unfitOperands else .numberExpected

def Token.fault (operator : Token) : Fault :=
  .typing ⟨operator.complaint, operator.line⟩

namespace Expr

def staticKind : Expr → Except Token ValueKind
  | literal token => .ok (.ofLiteral token.kind)
  | grouping inner => inner.staticKind
  | unary operator operand =>
    match operand.staticKind with
    | .error first => .error first
    | .ok kind => operator.judge (ValueKind.unary? operator.kind kind)
  | binary left operator right =>
    match left.staticKind with
    | .error first => .error first
    | .ok a =>
      match right.staticKind with
      | .error first => .error first
      | .ok b => operator.judge (ValueKind.binary? operator.kind a b)
  | stray _ => .ok .nil

end Expr

def Payload.isNumeric : Payload → Bool
  | .number _ => true
  | .text value => (Number.ofText? value.toList).isSome
  | .absent => false

/-- Trees with the literals and the operators of the language. Of the payloads no more is asked than
that a number has its value. -/
def Expr.Proper : Expr → Prop
  | .literal token =>
    token.kind ∈ literals ∧ (token.kind = .number → token.payload.isNumeric = true)
  | .grouping inner => inner.Proper
  | .unary operator operand => operator.kind ∈ unaryOperators ∧ operand.Proper
  | .binary left operator right =>
    (∃ level, operator.kind ∈ binaryOperators level) ∧ left.Proper ∧ right.Proper
  | .stray _ => False

namespace Value

variable {operator token : Token}

theorem map_kind_ofLiteral (stands : token.kind ∈ literals)
    (numeric : token.kind = .number → token.payload.isNumeric = true) :
    (ofLiteral token).map kind = .ok (.ofLiteral token.kind) := by
  obtain ⟨shape, lexeme, line, payload⟩ := token
  simp only [literals, List.mem_cons, List.not_mem_nil, or_false] at stands
  rcases stands with rfl | rfl | rfl | rfl | rfl
  · cases payload with
    | number value => rfl
    | text value =>
      obtain ⟨number, found⟩ := Option.isSome_iff_exists.1 (numeric rfl)
      simp [ofLiteral, found, Except.map, kind, ValueKind.ofLiteral]
    | absent => exact absurd (numeric rfl) Bool.false_ne_true
  · rfl
  · rfl
  · rfl
  · rfl

theorem map_kind_applyUnary (known : operator.kind ∈ unaryOperators) (operand : Value) :
    (applyUnary operator operand).map kind =
      (operator.judge (ValueKind.unary? operator.kind operand.kind)).mapError Token.fault := by
  obtain ⟨shape, lexeme, line, payload⟩ := operator
  simp only [unaryOperators, List.mem_cons, List.not_mem_nil, or_false] at known
  rcases known with rfl | rfl
  · rfl
  · cases operand <;> rfl

theorem map_kind_applyBinary {level : Level} (known : operator.kind ∈ binaryOperators level)
    (left right : Value) :
    (applyBinary operator left right).map kind =
      (operator.judge (ValueKind.binary? operator.kind left.kind right.kind)).mapError
        Token.fault := by
  obtain ⟨shape, lexeme, line, payload⟩ := operator
  cases level <;> simp only [binaryOperators, List.mem_cons, List.not_mem_nil, or_false] at known
  · rcases known with rfl | rfl <;> rfl
  · rcases known with rfl | rfl | rfl | rfl <;> cases left <;> cases right <;> rfl
  · rcases known with rfl | rfl <;> cases left <;> cases right <;> rfl
  · rcases known with rfl | rfl <;> cases left <;> cases right <;> rfl

end Value

theorem kind_or_fault {result : Except Fault Value} {judgement : Except Token ValueKind}
    (same : result.map Value.kind = judgement.mapError Token.fault) :
    (∃ value, result = .ok value ∧ judgement = .ok value.kind) ∨
      ∃ operator, result = .error operator.fault ∧ judgement = .error operator := by
  cases result with
  | ok value =>
    cases judgement with
    | ok kind =>
      obtain rfl : value.kind = kind := Except.ok.inj same
      exact .inl ⟨value, rfl, rfl⟩
    | error operator => cases same
  | error fault =>
    cases judgement with
    | ok kind => cases same
    | error operator =>
      obtain rfl : fault = operator.fault := Except.error.inj same
      exact .inr ⟨operator, rfl, rfl⟩

namespace Expr

variable {e : Expr}

theorem map_kind_evaluate (proper : e.Proper) :
    e.evaluate.map Value.kind = e.staticKind.mapError Token.fault := by
  -- Operands come to what their kinds say, from left to right, before their operator looks at them.
  induction e with
  | literal token => exact Value.map_kind_ofLiteral proper.1 proper.2
  | grouping inner ih => exact ih proper
  | unary operator operand ih =>
    obtain ⟨known, inner⟩ := proper
    rw [evaluate, staticKind]
    rcases kind_or_fault (ih inner) with ⟨value, done, kind⟩ | ⟨first, failed, fault⟩
    · rw [done, kind]
      exact Value.map_kind_applyUnary known value
    · rw [failed, fault]
      rfl
  | binary left operator right ihLeft ihRight =>
    obtain ⟨⟨level, known⟩, first, second⟩ := proper
    rw [evaluate, staticKind]
    rcases kind_or_fault (ihLeft first) with ⟨a, done, kind⟩ | ⟨first, failed, fault⟩
    · rw [done, kind]
      rcases kind_or_fault (ihRight second) with ⟨b, done, kind⟩ | ⟨first, failed, fault⟩
      · rw [done, kind]
        exact Value.map_kind_applyBinary known a b
      · rw [failed, fault]
        rfl
    · rw [failed, fault]
      rfl
  | stray text => exact proper.elim

theorem staticKind_mapTokens {f : Token → Token} (keeps : ∀ token, (f token).kind = token.kind)
    (e : Expr) : (e.mapTokens f).staticKind = e.staticKind.mapError f := by
  have judge (operator : Token) (kind : Option ValueKind) :
      (f operator).judge kind = (operator.judge kind).mapError f := by
    cases kind <;> rfl
  induction e with
  | literal token =>
    exact congrArg (fun kind => Except.ok (ValueKind.ofLiteral kind)) (keeps token)
  | grouping inner ih => exact ih
  | unary operator operand ih =>
    rw [mapTokens, staticKind, staticKind, ih, keeps]
    cases operand.staticKind with
    | error first => rfl
    | ok kind => exact judge operator _
  | binary left operator right ihLeft ihRight =>
    rw [mapTokens, staticKind, staticKind, ihLeft, ihRight, keeps]
    cases left.staticKind with
    | error first => rfl
    | ok a =>
      cases right.staticKind with
      | error first => rfl
      | ok b => exact judge operator _
  | stray text => rfl

end Expr

def Token.outlined (token : Token) : Token :=
  { token with lexeme := "", payload := .absent }

@[simp] theorem Token.kind_outlined (token : Token) : token.outlined.kind = token.kind := rfl

def Expr.outline (e : Expr) : Expr :=
  e.mapTokens Token.outlined

theorem Expr.map_kind_evaluate_of_outline {e e' : Expr} (proper : e.Proper) (proper' : e'.Proper)
    (same : e.outline = e'.outline) :
    e.evaluate.map Value.kind = e'.evaluate.map Value.kind := by
  have faults (judgement : Except Token ValueKind) :
      (judgement.mapError Token.outlined).mapError Token.fault =
        judgement.mapError Token.fault := by
    cases judgement <;> rfl
  have outlines (e : Expr) : e.outline.staticKind = e.staticKind.mapError Token.outlined :=
    staticKind_mapTokens Token.kind_outlined e
  rw [map_kind_evaluate proper, map_kind_evaluate proper', ← faults e.staticKind,
    ← faults e'.staticKind, ← outlines, ← outlines, same]

theorem Expr.evaluate_decided {e : Expr} (proper : e.Proper) :
    (∀ kind, e.staticKind = .ok kind → ∃ value, e.evaluate = .ok value ∧ value.kind = kind) ∧
      (∀ operator, e.staticKind = .error operator →
        ∃ error, e.evaluate = .error (.typing error) ∧ error.line = operator.line ∧
          (operator.kind ≠ .plus → error.diagnostic.message = "Expected number") ∧
          (operator.kind = .plus →
            error.diagnostic.message = "Invalid operand types for '+'")) ∧
      ∀ e' : Expr, e'.Proper → e.outline = e'.outline →
        e.evaluate.map Value.kind = e'.evaluate.map Value.kind := by
  refine ⟨fun kind judged => ?_, fun operator judged => ?_, fun e' proper' same =>
    map_kind_evaluate_of_outline proper proper' same⟩
  · rcases kind_or_fault (map_kind_evaluate proper) with ⟨value, done, same⟩ | ⟨_, _, fault⟩
    · rw [judged] at same
      cases same
      exact ⟨value, done, rfl⟩
    · rw [judged] at fault
      cases fault
  · rcases kind_or_fault (map_kind_evaluate proper) with ⟨value, _, kind⟩ | ⟨first, failed, same⟩
    · rw [judged] at kind
      cases kind
    · rw [judged] at same
      cases same
      refine ⟨_, failed, rfl, fun other => ?_, fun plus => ?_⟩
      · rw [Token.complaint, if_neg other]
        rfl
      · rw [Token.complaint, if_pos plus]
        rfl

-- The tree of a text with three faults, `("a" * nil) + -true` with each operator on its own line.
def Expr.threeFaults : Expr :=
  .binary
    (.grouping (.binary (.literal ⟨.string, "\"a\"", 1, .text "a"⟩) ⟨.star, "*", 1, .absent⟩
      (.literal ⟨.kwNil, "nil", 1, .absent⟩)))
    ⟨.plus, "+", 2, .absent⟩
    (.unary ⟨.minus, "-", 3, .absent⟩ (.literal ⟨.kwTrue, "true", 3, .absent⟩))

theorem Expr.proper_threeFaults : threeFaults.Proper :=
  ⟨⟨.term, by decide⟩, ⟨⟨.factor, by decide⟩, ⟨by decide, nofun⟩, ⟨by decide, nofun⟩⟩,
    ⟨by decide, ⟨by decide, nofun⟩⟩⟩

theorem Expr.evaluate_decided_threeFaults : threeFaults.Proper ∧
    threeFaults.staticKind = .error ⟨.star, "*", 1, .absent⟩ ∧
    ∃ error, threeFaults.evaluate = .error (.typing error) ∧ error.line = 1 ∧
      error.diagnostic.message = "Expected number" := by
  obtain ⟨error, failed, line, message, -⟩ :=
    (evaluate_decided proper_threeFaults).2.1 ⟨.star, "*", 1, .absent⟩ rfl
  exact ⟨proper_threeFaults, rfl, error, failed, line, message (by decide)⟩

end Lox
