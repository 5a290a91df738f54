import Lox.Automaton.Parse
import Lox.Proofs.Descent.Rules
import Lox.Proofs.Grammar.Viability

set_option autoImplicit false

namespace Lox.Automaton

open Grammar

namespace State

def verdict (state : State) (found : Option Token) : Except ParseError Expr :=
  match state.finish? with
  | some e => .ok e
  | none => .error (state.rejection found)

-- Takes tokens, payloads and all, as long as the state can, and keeps those left over.
def settle (state : State) : List Token → Except ParseError Expr × List Token
  | [] => (state.verdict none, [])
  | token :: rest =>
    match state.shift? token with
    | some next => next.settle rest
    | none => (state.verdict (some token), token :: rest)

theorem settle_of_shift {state next : State} {token : Token} (h : state.shift? token = some next)
    (rest : List Token) : state.settle (token :: rest) = next.settle rest := by
  simp only [settle, h]

theorem settle_of_stop {state : State} {ahead : List Token}
    (h : ∀ token ∈ ahead.head?, state.shift? token = none) :
    state.settle ahead = (state.verdict ahead.head?, ahead) := by
  cases ahead with
  | nil => rfl
  | cons token rest => simp [settle, h token rfl]

theorem settle_append {state next : State} {words : List Token}
    (fed : state.feed? words = some next) (rest : List Token) :
    state.settle (words ++ rest) = next.settle rest := by
  induction words generalizing state with
  | nil =>
    cases fed
    rfl
  | cons token words ih =>
    obtain ⟨middle, shifted, fed⟩ := Option.bind_eq_some_iff.1 fed
    rw [List.cons_append, settle_of_shift shifted, ih fed]

theorem accepts_rightParen (operand : Expr) (frames : List Frame) :
    (holding operand frames).accepts .rightParen =
      !(reduce .equality operand frames).2.isEmpty := by
  rcases reduce_equality_cases operand frames with ⟨no, whole, done⟩ | ⟨yes, whole, outer, done, -⟩
  · simp [accepts, Level.ofKind?, done, no]
  · simp [accepts, Level.ofKind?, done, yes]

end State

-- No operator that binds at least so tightly comes next.
def StopsAt (bound : Nat) (ahead : List Token) : Prop :=
  ∀ token ∈ ahead.head?, ∀ level : Level, Level.ofKind? token.kind = some level →
    level.strength < bound

theorem StopsAt.no_operator {ahead : List Token} (stops : StopsAt 0 ahead) :
    ∀ token ∈ ahead.head?, Level.ofKind? token.kind = none := by
  intro token mem
  cases joins : Level.ofKind? token.kind with
  | none => rfl
  | some level => exact absurd (stops token mem level joins) (Nat.not_lt_zero _)

theorem stopsAt_of_le {bound : Nat} (h : 4 ≤ bound) (ahead : List Token) : StopsAt bound ahead :=
  fun _ _ level _ => Nat.lt_of_lt_of_le (Nat.lt_succ_of_le (Level.strength_le level)) h

theorem settle_congr {bound : Nat} {operand operand' : Expr} {frames frames' : List Frame}
    {ahead : List Token} (stops : StopsAt bound ahead)
    (equality : reduce .equality operand frames = reduce .equality operand' frames')
    (same : ∀ level : Level, level.strength < bound →
      reduce level operand frames = reduce level operand' frames') :
    (State.holding operand frames).settle ahead =
      (State.holding operand' frames').settle ahead := by
  -- A state that holds an operand looks at it only when an operator or an end completes it.
  have verdicts (found : Option Token) :
      (State.holding operand frames).verdict found =
        (State.holding operand' frames').verdict found := by
    simp only [State.verdict, State.finish?, State.rejection, State.accepts_rightParen, equality]
  cases ahead with
  | nil => simp only [State.settle, verdicts]
  | cons token rest =>
    have shifts : (State.holding operand frames).shift? token =
        (State.holding operand' frames').shift? token := by
      simp only [State.shift?, State.close?, equality]
      split
      · next level joins => rw [same level (stops token rfl level joins)]
      · rfl
    simp only [State.settle, shifts, verdicts]

end Lox.Automaton

namespace Lox.Descent

open Automaton Grammar

namespace Cursor

theorem take?_eq_some {c d : Cursor} {test : Kind → Bool} {token : Token}
    (h : c.take? test = some (token, d)) :
    c.ahead = token :: d.ahead ∧ d.behind = token :: c.behind ∧ token.kind ≠ .eof ∧
      test token.kind = true := by
  unfold take? at h
  split at h
  · cases h
  · next ahead =>
    split at h
    · next passes =>
      cases h
      simp only [Bool.and_eq_true, decide_eq_true_eq] at passes
      exact ⟨ahead, rfl, passes.1, passes.2⟩
    · cases h

theorem take?_eq_none {c : Cursor} {test : Kind → Bool} (h : c.take? test = none) :
    ∀ token ∈ c.ahead.head?, token.kind = .eof ∨ test token.kind = false := by
  unfold take? at h
  split at h
  · next ahead => simp [ahead]
  · next token rest ahead =>
    split at h
    · cases h
    · next fails =>
      intro token' mem
      rw [ahead] at mem
      cases mem
      simpa [Classical.or_iff_not_imp_left] using fails

end Cursor

namespace Task

def start (frames : List Frame) : Task → State
  | .chain _ left => .holding left frames
  | .level _ => .wanting frames
  | .prefixed => .wanting frames
  | .atom => .wanting frames

def symbol : Task → Symbol
  | .level l => .level l
  | .chain l _ => .level l
  | .prefixed => .unary
  | .atom => .primary

-- What the callers of a part of the parser have made sure of.
def Ready (ahead : List Token) : Task → Prop
  | .chain l _ => StopsAt (l.strength + 1) ahead
  | .atom => ∀ token ∈ ahead.head?, token.kind = .eof ∨ token.kind.isUnary = false
  | _ => True

theorem symbol_operand (l : Level) : (operand l).symbol = .operand l := by
  cases l <;> rfl

theorem ready_operand (l : Level) (ahead : List Token) : (operand l).Ready ahead := by
  cases l <;> trivial

theorem start_operand (l : Level) (frames : List Frame) :
    (operand l).start frames = .wanting frames := by
  cases l <;> rfl

end Task

theorem stopsAt_of_missing {l : Level} {c : Cursor} (ready : StopsAt (l.strength + 1) c.ahead)
    (missing : c.take? l.has = none) : StopsAt l.strength c.ahead := by
  intro token mem level joins
  have le := ready token mem level joins
  have different : level ≠ l := by
    rintro rfl
    rcases Cursor.take?_eq_none missing token mem with ends | fails
    · simp [ends, Level.ofKind?] at joins
    · rw [(Level.has_iff_ofKind? level token.kind).2 joins] at fails
      cases fails
  have strengths : level.strength ≠ l.strength := by
    intro same
    exact different (by cases level <;> cases l <;> first | rfl | cases same)
  omega

theorem Runs.stops {task : Task} {c d : Cursor} {r : Result Expr} {e : Expr} (h : Runs task c r)
    (ready : task.Ready c.ahead) (ok : r = .ok e d) : StopsAt task.symbol.rank d.ahead := by
  -- Each loop ends where none of its own operators follows; tighter ones ended before it.
  induction h generalizing e d with
  | @level l c middle left r first rest ihFirst ihRest =>
    have stopped := ihFirst (Task.ready_operand l _) rfl
    rw [Task.symbol_operand, Symbol.rank_operand] at stopped
    exact ihRest stopped ok
  | chainEnds missing =>
    cases ok
    exact stopsAt_of_missing ready missing
  | @chain l c middle f left right operator r taken second rest ihSecond ihRest =>
    have stopped := ihSecond (Task.ready_operand l _) rfl
    rw [Task.symbol_operand, Symbol.rank_operand] at stopped
    exact ihRest stopped ok
  | levelFails | chainFails | unaryFails | groupFails | groupUnclosed | nothing => cases ok
  | unary | prefixed => exact stopsAt_of_le (Nat.le_refl _) _
  | literal | group => exact stopsAt_of_le (by decide) _

theorem waits_symbol_operand {l : Level} {frames : List Frame} (h : Blocks l frames) :
    Waits (Task.operand l).symbol frames :=
  Task.symbol_operand l ▸ waits_operand h

theorem waits_symbol_binary (l : Level) (left : Expr) (operator : Token) (frames : List Frame) :
    Waits (Task.operand l).symbol (.binary left l operator :: frames) :=
  Task.symbol_operand l ▸ waits_operand_binary l left operator frames

theorem shift?_of_blocks {l : Level} {frames : List Frame} {operator : Token}
    (joins : l.has operator.kind = true) (waits : Blocks l frames) (left : Expr) :
    (State.holding left frames).shift? operator =
      some (.wanting (.binary left l operator :: frames)) := by
  rw [State.shift?_binary ((has_iff_mem l _).1 joins), reduce_of_blocks waits]

def Settles (frames : List Frame) (settled : Except ParseError Expr × List Token) :
    Result Expr → Prop
  | .ok e d => settled = (State.holding e frames).settle d.ahead
  | .error e d => settled = (.error e, d.ahead)

theorem settle_unclosed {frames : List Frame} {inner : Expr} {f : Cursor}
    (stops : StopsAt 0 f.ahead) (unclosed : f.take? (· == .rightParen) = none) :
    (State.holding inner (.group :: frames)).settle f.ahead =
      (.error ⟨.groupUnclosed, f.next?⟩, f.ahead) := by
  rw [State.settle_of_stop]
  · rfl
  · intro token mem
    have noOperator := stops.no_operator token mem
    have noClosing : token.kind ≠ .rightParen := by
      rcases Cursor.take?_eq_none unclosed token mem with ends | fails
      · simp [ends]
      · simpa using fails
    simp [State.shift?, noOperator, noClosing]

theorem settle_nothing {frames : List Frame} {c : Cursor}
    (ready : ∀ token ∈ c.ahead.head?, token.kind = .eof ∨ token.kind.isUnary = false)
    (missing : c.take? Kind.isLiteral = none) (unopened : c.take? (· == .leftParen) = none) :
    (State.wanting frames).settle c.ahead = (.error ⟨.expressionExpected, c.next?⟩, c.ahead) := by
  rw [State.settle_of_stop]
  · rfl
  · intro token mem
    rcases ready token mem with ends | noUnary
    · simp [State.shift?, ends, Kind.isLiteral, Kind.isUnary]
    · have noLiteral : token.kind.isLiteral = false := by
        rcases Cursor.take?_eq_none missing token mem with ends | fails
        · simp [ends, Kind.isLiteral]
        · exact fails
      have noOpening : token.kind ≠ .leftParen := by
        rcases Cursor.take?_eq_none unopened token mem with ends | fails
        · simp [ends]
        · simpa using fails
      simp [State.shift?, noUnary, noLiteral, noOpening]

theorem Runs.settles {task : Task} {c : Cursor} {r : Result Expr} (h : Runs task c r)
    (frames : List Frame) (waits : Waits task.symbol frames) (ready : task.Ready c.ahead) :
    Settles frames ((task.start frames).settle c.ahead) r := by
  -- The frames are those that wait while the part runs. Each rule of the parser puts at most one on
  -- top of them and takes it off again.
  induction h generalizing frames with
  | @level l c d left r first rest ihFirst ihRest =>
    have same := ihFirst frames (waits_symbol_operand waits) (Task.ready_operand l _)
    have stopped := first.stops (Task.ready_operand l _) rfl
    rw [Task.symbol_operand, Symbol.rank_operand] at stopped
    have goesOn := ihRest frames waits stopped
    rw [Task.start_operand, Settles] at same
    rwa [Task.start, same]
  | @levelFails l c d e first ih =>
    have same := ih frames (waits_symbol_operand waits) (Task.ready_operand l _)
    rwa [Task.start_operand] at same
  | chainEnds missing => rfl
  | @chain l c d f left right operator r taken second rest ihSecond ihRest =>
    obtain ⟨ahead, -, -, joins⟩ := Cursor.take?_eq_some taken
    have same := ihSecond _ (waits_symbol_binary l left operator frames) (Task.ready_operand l _)
    have stopped := second.stops (Task.ready_operand l _) rfl
    rw [Task.symbol_operand, Symbol.rank_operand] at stopped
    have goesOn := ihRest frames waits stopped
    rw [Task.start_operand, Settles] at same
    -- The parser has joined the operands already; the automaton does so at the next operator.
    have merged : (State.holding right (.binary left l operator :: frames)).settle f.ahead =
        (State.holding (.binary left operator right) frames).settle f.ahead :=
      settle_congr stopped (reduce_binary (Nat.zero_le _) ..) fun level less =>
        reduce_binary (Nat.le_of_lt_succ less) ..
    rwa [Task.start, ahead, State.settle_of_shift (shift?_of_blocks joins waits left), same, merged]
  | @chainFails l c d f left operator e taken second ih =>
    obtain ⟨ahead, -, -, joins⟩ := Cursor.take?_eq_some taken
    have same := ih _ (waits_symbol_binary l left operator frames) (Task.ready_operand l _)
    rw [Task.start_operand] at same
    rwa [Task.start, ahead, State.settle_of_shift (shift?_of_blocks joins waits left)]
  | @unary c d f operator operand taken inner ih =>
    obtain ⟨ahead, -, -, begins⟩ := Cursor.take?_eq_some taken
    have shifted := State.shift?_unary ((isUnary_iff_mem _).1 begins) frames
    have same := ih (.unary operator :: frames) trivial trivial
    rw [Task.start, ahead, State.settle_of_shift shifted]
    exact same.trans (settle_congr (stopsAt_of_le (Nat.le_refl 4) _) rfl fun _ _ => rfl)
  | @unaryFails c d f operator e taken inner ih =>
    obtain ⟨ahead, -, -, begins⟩ := Cursor.take?_eq_some taken
    have shifted := State.shift?_unary ((isUnary_iff_mem _).1 begins) frames
    rw [Task.start, ahead, State.settle_of_shift shifted]
    exact ih (.unary operator :: frames) trivial trivial
  | prefixed missing only ih => exact ih frames trivial (Cursor.take?_eq_none missing)
  | @literal c d token taken =>
    obtain ⟨ahead, -, -, stands⟩ := Cursor.take?_eq_some taken
    have shifted := State.shift?_literal ((isLiteral_iff_mem _).1 stands) frames
    rw [Task.start, ahead, State.settle_of_shift shifted]
    rfl
  | @group c d f g opening closing inner missing opened inside closed ih =>
    obtain ⟨ahead, -, -, opens⟩ := Cursor.take?_eq_some opened
    obtain ⟨behind, -, -, closes⟩ := Cursor.take?_eq_some closed
    have shifted := State.shift?_leftParen (eq_of_beq opens) frames
    have same := ih (.group :: frames) trivial trivial
    have completed : (State.holding inner (.group :: frames)).shift? closing =
        some (.holding (.grouping inner) frames) := by
      rw [State.shift?_rightParen (eq_of_beq closes)]
      rfl
    rw [Task.start, ahead, State.settle_of_shift shifted]
    rw [Settles, behind, State.settle_of_shift completed] at same
    exact same
  | @groupFails c d f opening e missing opened inside ih =>
    obtain ⟨ahead, -, -, opens⟩ := Cursor.take?_eq_some opened
    have shifted := State.shift?_leftParen (eq_of_beq opens) frames
    rw [Task.start, ahead, State.settle_of_shift shifted]
    exact ih (.group :: frames) trivial trivial
  | @groupUnclosed c d f opening inner missing opened inside unclosed ih =>
    obtain ⟨ahead, -, -, opens⟩ := Cursor.take?_eq_some opened
    have shifted := State.shift?_leftParen (eq_of_beq opens) frames
    have same := ih (.group :: frames) trivial trivial
    rw [Task.start, ahead, State.settle_of_shift shifted]
    exact same.trans (settle_unclosed (inside.stops trivial rfl) unclosed)
  | nothing missing unopened => exact settle_nothing ready missing unopened

end Lox.Descent
