import Lox.Automaton.State
import Lox.Proofs.Grammar.Derivation

set_option autoImplicit false

namespace Lox.Automaton

open Grammar

-- Completing the level stops at once.
def Blocks (level : Level) : List Frame → Prop
  | .unary _ :: _ => False
  | .binary _ inner _ :: _ => inner.strength < level.strength
  | _ => True

theorem reduce_of_blocks {level : Level} {frames : List Frame} (h : Blocks level frames)
    (operand : Expr) : reduce level operand frames = (operand, frames) := by
  rcases frames with _ | ⟨_ | operator | ⟨left, inner, operator⟩, rest⟩
  · rfl
  · rfl
  · cases h
  · exact if_neg (Nat.not_le_of_lt h)

theorem Blocks.tighten {loose tight : Level} {frames : List Frame} (h : Blocks loose frames)
    (le : loose.strength ≤ tight.strength) : Blocks tight frames := by
  rcases frames with _ | ⟨_ | operator | ⟨left, inner, operator⟩, rest⟩
  · trivial
  · trivial
  · cases h
  · exact Nat.lt_of_lt_of_le h le

theorem reduce_binary {level inner : Level} (le : level.strength ≤ inner.strength)
    (left operand : Expr) (operator : Token) (rest : List Frame) :
    reduce level operand (.binary left inner operator :: rest) =
      reduce level (.binary left operator operand) rest :=
  if_pos le

-- Operands of unary operators and literals may stand anywhere.
def Waits : Symbol → List Frame → Prop
  | .level level, frames => Blocks level frames
  | _, _ => True

theorem waits_operand_binary (level : Level) (left : Expr) (operator : Token)
    (frames : List Frame) : Waits (.operand level) (.binary left level operator :: frames) := by
  cases level <;> first | trivial | exact Nat.lt_succ_self _

theorem waits_operand {level : Level} {frames : List Frame} (h : Blocks level frames) :
    Waits (.operand level) frames := by
  cases level <;> first | trivial | exact h.tighten (by decide)

namespace State

def feed? (state : State) (words : List Token) : Option State :=
  words.foldlM shift? state

@[simp] theorem feed?_nil (state : State) : state.feed? [] = some state := rfl

@[simp] theorem feed?_cons (state : State) (token : Token) (words : List Token) :
    state.feed? (token :: words) = (state.shift? token).bind (·.feed? words) := rfl

@[simp] theorem feed?_append (state : State) (before after : List Token) :
    state.feed? (before ++ after) = (state.feed? before).bind (·.feed? after) := by
  simp [feed?, List.foldlM_append, Option.bind_eq_bind]

theorem shift?_literal {token : Token} (h : token.kind ∈ literals) (frames : List Frame) :
    (wanting frames).shift? token = some (.holding (.literal token) frames) := by
  simp [shift?, (isLiteral_iff_mem _).2 h]

theorem shift?_unary {token : Token} (h : token.kind ∈ unaryOperators) (frames : List Frame) :
    (wanting frames).shift? token = some (.wanting (.unary token :: frames)) := by
  have notLiteral : token.kind.isLiteral = false := by
    generalize token.kind = kind at h
    cases kind <;> first | rfl | exact absurd h (by decide)
  simp [shift?, notLiteral, (isUnary_iff_mem _).2 h]

theorem shift?_leftParen {token : Token} (h : token.kind = .leftParen) (frames : List Frame) :
    (wanting frames).shift? token = some (.wanting (.group :: frames)) := by
  simp [shift?, h, Kind.isLiteral, Kind.isUnary]

theorem shift?_binary {token : Token} {level : Level} (h : token.kind ∈ binaryOperators level)
    (operand : Expr) (frames : List Frame) :
    (holding operand frames).shift? token =
      some (.wanting (.binary (reduce level operand frames).1 level token ::
        (reduce level operand frames).2)) := by
  simp [shift?, (ofKind?_eq_some_iff _ _).2 h]

theorem shift?_rightParen {token : Token} (h : token.kind = .rightParen) (operand : Expr)
    (frames : List Frame) :
    (holding operand frames).shift? token = close? operand frames := by
  simp [shift?, h, Level.ofKind?]

end State

-- The state holds the meaning only once it is completed down to the symbol.
theorem feed?_tokens {symbol : Symbol} (d : Derivation symbol) (frames : List Frame)
    (waits : Waits symbol frames) :
    ∃ operand rest, (State.wanting frames).feed? d.tokens = some (.holding operand rest) ∧
      ∀ level : Level, level.strength ≤ symbol.rank →
        reduce level operand rest = reduce level d.tree frames := by
  induction d generalizing frames with
  | operand level part ih =>
    obtain ⟨operand, rest, fed, same⟩ := ih frames (waits_operand waits)
    refine ⟨operand, rest, fed, fun level' le => same level' ?_⟩
    simp only [Symbol.rank_level] at le
    simp only [Symbol.rank_operand]
    omega
  | binary level left operator joins right ihLeft ihRight =>
    obtain ⟨first, rest, fedLeft, sameLeft⟩ := ihLeft frames waits
    have completed : reduce level first rest = (left.tree, frames) := by
      rw [sameLeft level (Nat.le_refl _), reduce_of_blocks waits]
    obtain ⟨second, rest', fedRight, sameRight⟩ :=
      ihRight (.binary left.tree level operator :: frames) (waits_operand_binary ..)
    -- The operator waits as a frame while its right operand is read.
    refine ⟨second, rest', ?_, fun level' le => ?_⟩
    · simp [Derivation.tokens, fedLeft, State.shift?_binary joins, completed, fedRight]
    · simp only [Symbol.rank_level] at le
      rw [sameRight level' (by simp only [Symbol.rank_operand]; omega), reduce_binary le]
      rfl
  | unary operator begins inner ih =>
    obtain ⟨operand, rest, fed, same⟩ := ih (.unary operator :: frames) trivial
    refine ⟨operand, rest, ?_, same⟩
    simp [Derivation.tokens, State.shift?_unary begins, fed]
  | primary part ih =>
    obtain ⟨operand, rest, fed, same⟩ := ih frames trivial
    exact ⟨operand, rest, fed, fun level le => same level (Nat.le_succ_of_le le)⟩
  | literal token stands =>
    refine ⟨.literal token, frames, ?_, fun _ _ => rfl⟩
    simp [Derivation.tokens, State.shift?_literal stands]
  | group opening opens inner closing closes ih =>
    obtain ⟨operand, rest, fed, same⟩ := ih (.group :: frames) trivial
    have completed : reduce .equality operand rest = (inner.tree, .group :: frames) :=
      same .equality (Nat.le_refl _)
    refine ⟨.grouping inner.tree, frames, ?_, fun _ _ => rfl⟩
    simp [Derivation.tokens, State.shift?_leftParen opens, fed, State.shift?_rightParen closes,
      State.close?, completed]

-- The tokens that frames have read, and the symbol that has to come next.
inductive Pending : List Frame → List Token → Symbol → Prop where
  | start : Pending [] [] .expression
  | group {frames : List Frame} {words : List Token} {symbol : Symbol} {opening : Token}
      (below : Pending frames words symbol) (opens : opening.kind = .leftParen) :
      Pending (.group :: frames) (words ++ [opening]) .expression
  | unary {frames : List Frame} {words : List Token} {symbol : Symbol} {operator : Token}
      (below : Pending frames words symbol) (begins : operator.kind ∈ unaryOperators) :
      Pending (.unary operator :: frames) (words ++ [operator]) .unary
  | binary {frames : List Frame} {words own : List Token} {symbol : Symbol} {level : Level}
      {left : Expr} {operator : Token} (below : Pending frames words symbol)
      (room : symbol.rank ≤ level.strength) (first : Derives (.level level) own left)
      (joins : operator.kind ∈ binaryOperators level) :
      Pending (.binary left level operator :: frames) (words ++ own ++ [operator])
        (.operand level)

theorem Level.strength_le (level : Level) : level.strength ≤ 3 := by
  cases level <;> decide

theorem Pending.rank_le {frames : List Frame} {words : List Token} {symbol : Symbol}
    (h : Pending frames words symbol) : symbol.rank ≤ 4 := by
  cases h with
  | start => decide
  | group => decide
  | unary => decide
  | @binary _ _ _ _ level =>
    have := Level.strength_le level
    simp only [Symbol.rank_operand]
    omega

theorem Pending.reduce {frames : List Frame} {words own : List Token} {symbol inner : Symbol}
    {operand : Expr} {level : Level} (pending : Pending frames words symbol)
    (derived : Derives inner own operand) (fits : symbol.rank ≤ inner.rank)
    (tight : level.strength ≤ inner.rank) :
    ∃ words' symbol' own', Pending (reduce level operand frames).2 words' symbol' ∧
      symbol'.rank ≤ level.strength ∧
      Derives (.level level) own' (Automaton.reduce level operand frames).1 ∧
      words' ++ own' = words ++ own := by
  -- Each frame that is completed moves its tokens from what is read to the operand.
  induction pending generalizing inner own operand with
  | start =>
    exact ⟨[], .expression, own, .start, Nat.zero_le _, derived.loosen tight, rfl⟩
  | @group _ words _ opening below opens =>
    exact ⟨words ++ [opening], .expression, own, .group below opens, Nat.zero_le _,
      derived.loosen tight, rfl⟩
  | @unary _ words _ operator below begins ih =>
    obtain ⟨words', symbol', own', pending', rank, derived', same⟩ :=
      ih (Derives.unary begins (derived.loosen fits)) below.rank_le
        (Nat.le_succ_of_le (Level.strength_le level))
    exact ⟨words', symbol', own', pending', rank, derived', by simpa using same⟩
  | @binary rest words first symbol' joined left operator below room derivedLeft joins ih =>
    by_cases le : level.strength ≤ joined.strength
    · have whole := Derives.binary derivedLeft joins (derived.loosen fits)
      obtain ⟨words', symbol'', own', pending', rank, derived', same⟩ := ih whole room le
      rw [reduce_binary le]
      exact ⟨words', symbol'', own', pending', rank, derived', by simpa using same⟩
    · have blocked : Blocks level (.binary left joined operator :: rest) := by
        simp only [Blocks]
        omega
      rw [reduce_of_blocks blocked]
      refine ⟨_, _, own, .binary below room derivedLeft joins, ?_, derived.loosen tight, rfl⟩
      simp only [Symbol.rank_operand]
      omega

def State.Reads : State → List Token → Prop
  | .wanting frames, words => ∃ symbol, Pending frames words symbol
  | .holding operand frames, words =>
    ∃ symbol before own, Pending frames before symbol ∧ Derives .primary own operand ∧
      before ++ own = words

namespace State

theorem reads_initial : initial.Reads [] :=
  ⟨_, .start⟩

theorem Reads.complete {operand : Expr} {frames : List Frame} {words : List Token}
    (reads : (holding operand frames).Reads words) (level : Level) :
    ∃ before symbol own, Pending (reduce level operand frames).2 before symbol ∧
      symbol.rank ≤ level.strength ∧
      Derives (.level level) own (reduce level operand frames).1 ∧ before ++ own = words := by
  obtain ⟨symbol, before, own, pending, derived, rfl⟩ := reads
  exact pending.reduce derived (Nat.le_succ_of_le pending.rank_le)
    (Nat.le_of_lt (Nat.lt_of_le_of_lt (Level.strength_le level) (by decide)))

theorem Reads.finish {state : State} {words : List Token} {e : Expr} (reads : state.Reads words)
    (finish : state.finish? = some e) : Derives .expression words e := by
  cases state with
  | wanting frames => cases finish
  | holding operand frames =>
    obtain ⟨before, symbol, own, pending, -, derived, rfl⟩ := reads.complete .equality
    simp only [finish?] at finish
    split at finish
    · next whole completed =>
      rw [completed] at pending derived
      cases finish
      cases pending
      exact derived
    · cases finish

theorem Reads.close {operand : Expr} {frames : List Frame} {words : List Token} {closing : Token}
    {next : State} (reads : (holding operand frames).Reads words)
    (closes : closing.kind = .rightParen) (closed : close? operand frames = some next) :
    next.Reads (words ++ [closing]) := by
  obtain ⟨before, symbol, own, pending, -, derived, rfl⟩ := reads.complete .equality
  simp only [close?] at closed
  split at closed
  · next inner outer completed =>
    rw [completed] at pending derived
    cases closed
    cases pending with
    | @group _ words _ opening below opens =>
      exact ⟨_, words, opening :: own ++ [closing], below, .group opens derived closes, by simp⟩
  · cases closed

theorem Reads.shift {state next : State} {words : List Token} {token : Token}
    (reads : state.Reads words) (shifted : state.shift? token = some next) :
    next.Reads (words ++ [token]) := by
  cases state with
  | wanting frames =>
    obtain ⟨symbol, pending⟩ := reads
    simp only [shift?] at shifted
    split at shifted
    · next literal =>
      cases shifted
      exact ⟨symbol, words, [token], pending, .literal ((isLiteral_iff_mem _).1 literal), rfl⟩
    split at shifted
    · next unary =>
      cases shifted
      exact ⟨_, .unary pending ((isUnary_iff_mem _).1 unary)⟩
    split at shifted
    · next opens =>
      cases shifted
      exact ⟨_, .group pending opens⟩
    · cases shifted
  | holding operand frames =>
    simp only [shift?] at shifted
    split at shifted
    · next level joins =>
      cases shifted
      obtain ⟨before, symbol, own, pending, room, derived, rfl⟩ := reads.complete level
      exact ⟨_, .binary pending room derived ((ofKind?_eq_some_iff _ _).1 joins)⟩
    · split at shifted
      · next closes => exact reads.close closes shifted
      · cases shifted

theorem Reads.feed {state next : State} {before words : List Token} (reads : state.Reads before)
    (fed : state.feed? words = some next) : next.Reads (before ++ words) := by
  induction words generalizing state before with
  | nil =>
    cases fed
    simpa using reads
  | cons token rest ih =>
    obtain ⟨middle, shifted, fed⟩ := Option.bind_eq_some_iff.1 fed
    simpa using ih (reads.shift shifted) fed

end State

end Lox.Automaton
