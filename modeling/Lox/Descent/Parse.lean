import Lox.Descent.Cursor
import Lox.Expr.Basic

set_option autoImplicit false

namespace Lox.Descent

def Advances (start : Cursor) : Result Expr → Prop
  | .ok _ c => c.ahead.length < start.ahead.length
  | .error _ _ => True

def Keeps (start : Cursor) : Result Expr → Prop
  | .ok _ c => c.ahead.length ≤ start.ahead.length
  | .error _ _ => True

theorem advances_error (start : Cursor) (e : ParseError) (c : Cursor) :
    Advances start (.error e c) := trivial

theorem advances_ok {start c : Cursor} (e : Expr) (h : c.ahead.length < start.ahead.length) :
    Advances start (.ok e c) := h

theorem keeps_error (start : Cursor) (e : ParseError) (c : Cursor) :
    Keeps start (.error e c) := trivial

theorem keeps_ok {start c : Cursor} (e : Expr) (h : c.ahead.length ≤ start.ahead.length) :
    Keeps start (.ok e c) := h

theorem Advances.length_lt {start c : Cursor} {e : Expr} (h : Advances start (.ok e c)) :
    c.ahead.length < start.ahead.length := h

theorem Keeps.length_le {start c : Cursor} {e : Expr} (h : Keeps start (.ok e c)) :
    c.ahead.length ≤ start.ahead.length := h

/-- How many steps down the grammar lie between a level and a literal or a group; no level stands
for the unary operators. -/
def height : Option Level → Nat
  | none => 2
  | some level => 6 - level.strength

theorem height_tighter? (level : Level) : height level.tighter? < height (some level) := by
  cases level <;> decide

theorem height_le (level? : Option Level) : height level? ≤ 6 := by
  rcases level? with _ | level
  · decide
  · simp [height]

mutual

-- Every success takes at least one token, which is what ends the recursion.
def climb (level? : Option Level) (c : Cursor) : { r : Result Expr // Advances c r } :=
  match level? with
  | some level =>
    match climb level.tighter? c with
    | ⟨.error e d, _⟩ => ⟨.error e d, advances_error c e d⟩
    | ⟨.ok left d, advances⟩ =>
      have shorter := advances.length_lt
      match chain level left d with
      | ⟨.error e f, _⟩ => ⟨.error e f, advances_error c e f⟩
      | ⟨.ok whole f, keeps⟩ =>
        ⟨.ok whole f, advances_ok whole (Nat.lt_of_le_of_lt keeps.length_le shorter)⟩
  | none =>
    match taken : c.take? Kind.isUnary with
    | some (operator, d) =>
      have shorter := Cursor.length_ahead_take? taken
      match climb none d with
      | ⟨.error e f, _⟩ => ⟨.error e f, advances_error c e f⟩
      | ⟨.ok operand f, advances⟩ =>
        have further := advances.length_lt
        ⟨.ok (.unary operator operand) f, advances_ok _ (by omega)⟩
    | none => atom c
termination_by 8 * c.ahead.length + height level?
decreasing_by
  · have := height_tighter? level
    omega
  · have := height_le (some level)
    omega
  · simp only [height]
    omega
  · simp only [height]
    omega

def chain (level : Level) (left : Expr) (c : Cursor) : { r : Result Expr // Keeps c r } :=
  match taken : c.take? level.has with
  | none => ⟨.ok left c, keeps_ok left (Nat.le_refl _)⟩
  | some (operator, d) =>
    have shorter := Cursor.length_ahead_take? taken
    match climb level.tighter? d with
    | ⟨.error e f, _⟩ => ⟨.error e f, keeps_error c e f⟩
    | ⟨.ok right f, advances⟩ =>
      have further := advances.length_lt
      match chain level (.binary left operator right) f with
      | ⟨.error e g, _⟩ => ⟨.error e g, keeps_error c e g⟩
      | ⟨.ok whole g, keeps⟩ =>
        have last := keeps.length_le
        ⟨.ok whole g, keeps_ok whole (by omega)⟩
termination_by 8 * c.ahead.length + 7
decreasing_by
  · have := height_le level.tighter?
    omega
  · omega

def atom (c : Cursor) : { r : Result Expr // Advances c r } :=
  match taken : c.take? Kind.isLiteral with
  | some (token, d) =>
    have shorter := Cursor.length_ahead_take? taken
    ⟨.ok (.literal token) d, advances_ok _ (by omega)⟩
  | none =>
    match opened : c.take? (· == .leftParen) with
    | some (_, d) =>
      have shorter := Cursor.length_ahead_take? opened
      match climb (some .equality) d with
      | ⟨.error e f, _⟩ => ⟨.error e f, advances_error c e f⟩
      | ⟨.ok inner f, advances⟩ =>
        have further := advances.length_lt
        match closed : f.take? (· == .rightParen) with
        | some (_, g) =>
          have last := Cursor.length_ahead_take? closed
          ⟨.ok (.grouping inner) g, advances_ok _ (by omega)⟩
        | none => ⟨.error ⟨.groupUnclosed, f.next?⟩ f, advances_error c _ f⟩
    | none => ⟨.error ⟨.expressionExpected, c.next?⟩ c, advances_error c _ c⟩
termination_by 8 * c.ahead.length + 1
decreasing_by
  have := height_le (some .equality)
  omega

end

namespace Cursor

def parseLevel (c : Cursor) (level : Level) : Result Expr :=
  (climb (some level) c).val

def parseChain (c : Cursor) (level : Level) (left : Expr) : Result Expr :=
  (chain level left c).val

def parsePrefixed (c : Cursor) : Result Expr :=
  (climb none c).val

def parseAtom (c : Cursor) : Result Expr :=
  (atom c).val

def parseOperand (c : Cursor) (level : Level) : Result Expr :=
  match level.tighter? with
  | some tighter => c.parseLevel tighter
  | none => c.parsePrefixed

def parseExpr (c : Cursor) : Result Expr :=
  c.parseLevel .equality

theorem parseLevel_advances (c : Cursor) (level : Level) : Advances c (c.parseLevel level) :=
  (climb (some level) c).property

theorem parsePrefixed_advances (c : Cursor) : Advances c c.parsePrefixed :=
  (climb none c).property

theorem parseAtom_advances (c : Cursor) : Advances c c.parseAtom :=
  (atom c).property

theorem climb_tighter? (c : Cursor) (level : Level) :
    (climb level.tighter? c).val = c.parseOperand level := by
  cases level <;> rfl

theorem parseLevel_eq (c : Cursor) (level : Level) :
    c.parseLevel level =
      match c.parseOperand level with
      | .ok left d => d.parseChain level left
      | .error e d => .error e d := by
  rw [← climb_tighter?, parseLevel, climb]
  dsimp only
  rcases climb level.tighter? c with ⟨_ | _, _⟩
  · dsimp only [parseChain]
    split <;> simp [*]
  · rfl

theorem parseChain_eq (c : Cursor) (level : Level) (left : Expr) :
    c.parseChain level left =
      match c.take? level.has with
      | none => .ok left c
      | some (operator, d) =>
        match d.parseOperand level with
        | .ok right f => f.parseChain level (.binary left operator right)
        | .error e f => .error e f := by
  rw [parseChain, chain]
  split
  · next taken => simp [taken]
  · next operator d taken =>
    simp only [taken]
    rw [← climb_tighter?]
    rcases climb level.tighter? d with ⟨_ | _, _⟩
    · dsimp only [parseChain]
      split <;> simp [*]
    · rfl

theorem parsePrefixed_eq (c : Cursor) :
    c.parsePrefixed =
      match c.take? Kind.isUnary with
      | some (operator, d) =>
        match d.parsePrefixed with
        | .ok operand f => .ok (.unary operator operand) f
        | .error e f => .error e f
      | none => c.parseAtom := by
  rw [parsePrefixed, climb]
  dsimp only
  split
  · next operator d taken =>
    simp only [taken, parsePrefixed]
    rcases climb none d with ⟨_ | _, _⟩ <;> rfl
  · next taken => simp [taken, parseAtom]

theorem parseAtom_eq (c : Cursor) :
    c.parseAtom =
      match c.take? Kind.isLiteral with
      | some (token, d) => .ok (.literal token) d
      | none =>
        match c.take? (· == .leftParen) with
        | some (_, d) =>
          match d.parseExpr with
          | .ok inner f =>
            match f.take? (· == .rightParen) with
            | some (_, g) => .ok (.grouping inner) g
            | none => .error ⟨.groupUnclosed, f.next?⟩ f
          | .error e f => .error e f
        | none => .error ⟨.expressionExpected, c.next?⟩ c := by
  rw [parseAtom, atom]
  split
  · next taken => simp [taken]
  · next none =>
    simp only [none]
    split
    · next opened =>
      simp only [opened, parseExpr, parseLevel]
      split
      · next same => simp [same]
      · next same =>
        simp only [same]
        split <;> simp [*]
    · next closed => simp [closed]

end Cursor

end Lox.Descent

namespace Lox

def parse (tokens : List Token) : Except ParseError Expr :=
  match (Descent.Cursor.ofTokens tokens).parseExpr with
  | .ok e _ => .ok e
  | .error e _ => .error e

end Lox
