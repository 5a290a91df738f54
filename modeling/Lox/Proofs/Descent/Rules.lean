import Lox.Descent.Parse

set_option autoImplicit false

namespace Lox.Descent

inductive Task where
  | level (level : Level)
  | chain (level : Level) (left : Expr)
  | prefixed
  | atom

namespace Task

def operand (l : Level) : Task :=
  match l.tighter? with
  | some tighter => .level tighter
  | none => .prefixed

def run (c : Cursor) : Task → Result Expr
  | .level l => c.parseLevel l
  | .chain l left => c.parseChain l left
  | .prefixed => c.parsePrefixed
  | .atom => c.parseAtom

theorem run_operand (c : Cursor) (l : Level) : (operand l).run c = c.parseOperand l := by
  cases l <;> rfl

end Task

inductive Runs : Task → Cursor → Result Expr → Prop where
  | level {l : Level} {c d : Cursor} {left : Expr} {r : Result Expr}
      (first : Runs (.operand l) c (.ok left d)) (rest : Runs (.chain l left) d r) :
      Runs (.level l) c r
  | levelFails {l : Level} {c d : Cursor} {e : ParseError}
      (first : Runs (.operand l) c (.error e d)) : Runs (.level l) c (.error e d)
  | chainEnds {l : Level} {c : Cursor} {left : Expr} (missing : c.take? l.has = none) :
      Runs (.chain l left) c (.ok left c)
  | chain {l : Level} {c d f : Cursor} {left right : Expr} {operator : Token} {r : Result Expr}
      (taken : c.take? l.has = some (operator, d)) (second : Runs (.operand l) d (.ok right f))
      (rest : Runs (.chain l (.binary left operator right)) f r) : Runs (.chain l left) c r
  | chainFails {l : Level} {c d f : Cursor} {left : Expr} {operator : Token} {e : ParseError}
      (taken : c.take? l.has = some (operator, d)) (second : Runs (.operand l) d (.error e f)) :
      Runs (.chain l left) c (.error e f)
  | unary {c d f : Cursor} {operator : Token} {operand : Expr}
      (taken : c.take? Kind.isUnary = some (operator, d))
      (inner : Runs .prefixed d (.ok operand f)) :
      Runs .prefixed c (.ok (.unary operator operand) f)
  | unaryFails {c d f : Cursor} {operator : Token} {e : ParseError}
      (taken : c.take? Kind.isUnary = some (operator, d)) (inner : Runs .prefixed d (.error e f)) :
      Runs .prefixed c (.error e f)
  | prefixed {c : Cursor} {r : Result Expr} (missing : c.take? Kind.isUnary = none)
      (only : Runs .atom c r) : Runs .prefixed c r
  | literal {c d : Cursor} {token : Token} (taken : c.take? Kind.isLiteral = some (token, d)) :
      Runs .atom c (.ok (.literal token) d)
  | group {c d f g : Cursor} {opening closing : Token} {inner : Expr}
      (missing : c.take? Kind.isLiteral = none)
      (opened : c.take? (· == .leftParen) = some (opening, d))
      (inside : Runs (.level .equality) d (.ok inner f))
      (closed : f.take? (· == .rightParen) = some (closing, g)) :
      Runs .atom c (.ok (.grouping inner) g)
  | groupFails {c d f : Cursor} {opening : Token} {e : ParseError}
      (missing : c.take? Kind.isLiteral = none)
      (opened : c.take? (· == .leftParen) = some (opening, d))
      (inside : Runs (.level .equality) d (.error e f)) : Runs .atom c (.error e f)
  | groupUnclosed {c d f : Cursor} {opening : Token} {inner : Expr}
      (missing : c.take? Kind.isLiteral = none)
      (opened : c.take? (· == .leftParen) = some (opening, d))
      (inside : Runs (.level .equality) d (.ok inner f))
      (unclosed : f.take? (· == .rightParen) = none) :
      Runs .atom c (.error ⟨.groupUnclosed, f.next?⟩ f)
  | nothing {c : Cursor} (missing : c.take? Kind.isLiteral = none)
      (unopened : c.take? (· == .leftParen) = none) :
      Runs .atom c (.error ⟨.expressionExpected, c.next?⟩ c)

def Ruled (c : Cursor) : Prop :=
  ∀ task : Task, Runs task c (task.run c)

variable {c : Cursor}

theorem runs_atom (shorter : ∀ d : Cursor, d.ahead.length < c.ahead.length → Ruled d) :
    Runs .atom c c.parseAtom := by
  rw [Cursor.parseAtom_eq]
  split
  · next token d taken => exact .literal taken
  · next missing =>
    split
    · next opening d opened =>
      have inside := shorter d (by have := Cursor.length_ahead_take? opened; omega)
        (.level .equality)
      have same : (Task.level .equality).run d = d.parseExpr := rfl
      rw [same] at inside
      cases parsed : d.parseExpr with
      | error e f =>
        rw [parsed] at inside
        exact .groupFails missing opened inside
      | ok inner f =>
        rw [parsed] at inside
        dsimp only
        split
        · next closing g closed => exact .group missing opened inside closed
        · next unclosed => exact .groupUnclosed missing opened inside unclosed
    · next unopened => exact .nothing missing unopened

theorem runs_prefixed (shorter : ∀ d : Cursor, d.ahead.length < c.ahead.length → Ruled d) :
    Runs .prefixed c c.parsePrefixed := by
  rw [Cursor.parsePrefixed_eq]
  split
  · next operator d taken =>
    have inner := shorter d (by have := Cursor.length_ahead_take? taken; omega) .prefixed
    have same : Task.prefixed.run d = d.parsePrefixed := rfl
    rw [same] at inner
    cases parsed : d.parsePrefixed with
    | error e f =>
      rw [parsed] at inner
      exact .unaryFails taken inner
    | ok operand f =>
      rw [parsed] at inner
      exact .unary taken inner
  · next missing => exact .prefixed missing (runs_atom shorter)

theorem parseOperand_advances (c : Cursor) (l : Level) : Advances c (c.parseOperand l) := by
  cases l
  · exact c.parseLevel_advances .comparison
  · exact c.parseLevel_advances .term
  · exact c.parseLevel_advances .factor
  · exact c.parsePrefixed_advances

theorem runs_chain (shorter : ∀ d : Cursor, d.ahead.length < c.ahead.length → Ruled d) (l : Level)
    (left : Expr) : Runs (.chain l left) c (c.parseChain l left) := by
  rw [Cursor.parseChain_eq]
  split
  · next missing => exact .chainEnds missing
  · next operator d taken =>
    have less := Cursor.length_ahead_take? taken
    have second := shorter d (by omega) (.operand l)
    rw [Task.run_operand] at second
    have advances := parseOperand_advances d l
    cases parsed : d.parseOperand l with
    | error e f =>
      rw [parsed] at second
      exact .chainFails taken second
    | ok right f =>
      rw [parsed] at second advances
      have further := advances.length_lt
      exact .chain taken second (shorter f (by omega) (.chain l (.binary left operator right)))

theorem runs_level (shorter : ∀ d : Cursor, d.ahead.length < c.ahead.length → Ruled d) (l : Level)
    (operand : Runs (.operand l) c (c.parseOperand l)) : Runs (.level l) c (c.parseLevel l) := by
  rw [Cursor.parseLevel_eq]
  have advances := parseOperand_advances c l
  cases parsed : c.parseOperand l with
  | error e d =>
    rw [parsed] at operand
    exact .levelFails operand
  | ok left d =>
    rw [parsed] at operand advances
    exact .level operand (shorter d advances.length_lt (.chain l left))

theorem ruled (c : Cursor) : Ruled c := by
  -- Levels call each other on the same tokens, so within one length it is the level that decreases.
  induction size : c.ahead.length using Nat.strongRecOn generalizing c with
  | ind n ih =>
    have shorter (d : Cursor) (less : d.ahead.length < c.ahead.length) : Ruled d :=
      ih _ (size ▸ less) d rfl
    have factor := runs_level shorter .factor (runs_prefixed shorter)
    have term := runs_level shorter .term factor
    have comparison := runs_level shorter .comparison term
    have equality := runs_level shorter .equality comparison
    intro task
    match task with
    | .level .equality => exact equality
    | .level .comparison => exact comparison
    | .level .term => exact term
    | .level .factor => exact factor
    | .chain l left => exact runs_chain shorter l left
    | .prefixed => exact runs_prefixed shorter
    | .atom => exact runs_atom shorter

theorem runs_parseExpr (c : Cursor) : Runs (.level .equality) c c.parseExpr :=
  ruled c (.level .equality)

end Lox.Descent
