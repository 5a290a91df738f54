import Lox.Proofs.Grammar.Recognition

set_option autoImplicit false

namespace Lox.Automaton

open Grammar

theorem reduce_equality_cases (operand : Expr) (frames : List Frame) :
    (.group ∉ frames ∧ ∃ whole, reduce .equality operand frames = (whole, [])) ∨
      (.group ∈ frames ∧ ∃ whole outer,
        reduce .equality operand frames = (whole, .group :: outer) ∧
          outer.length < frames.length) := by
  induction frames generalizing operand with
  | nil => exact .inl ⟨by simp, operand, rfl⟩
  | cons frame rest ih =>
    cases frame with
    | group => exact .inr ⟨by simp, operand, rest, rfl, by simp⟩
    | unary operator =>
      rcases ih (.unary operator operand) with ⟨no, whole, done⟩ | ⟨yes, whole, outer, done, less⟩
      · exact .inl ⟨by simp [no], whole, done⟩
      · exact .inr ⟨by simp [yes], whole, outer, done, Nat.lt_succ_of_lt less⟩
    | binary left level operator =>
      rw [reduce_binary (Nat.zero_le _)]
      rcases ih (.binary left operator operand) with
        ⟨no, whole, done⟩ | ⟨yes, whole, outer, done, less⟩
      · exact .inl ⟨by simp [no], whole, done⟩
      · exact .inr ⟨by simp [yes], whole, outer, done, Nat.lt_succ_of_lt less⟩

def bare (kind : Kind) : Token :=
  ⟨kind, "", 0, .absent⟩

namespace State

theorem accepts_eq_isSome_shift? (state : State) (token : Token) :
    state.accepts token.kind = (state.shift? token).isSome := by
  cases state with
  | wanting frames =>
    simp only [accepts, shift?]
    split
    · simp [*]
    split
    · simp [*]
    split <;> simp [*]
  | holding operand frames =>
    cases joins : Level.ofKind? token.kind with
    | some level => simp [accepts, shift?, joins]
    | none =>
      by_cases closes : token.kind = .rightParen
      · rw [shift?_rightParen closes, closes]
        rcases reduce_equality_cases operand frames with
          ⟨no, whole, done⟩ | ⟨yes, whole, outer, done, -⟩
        · simp [accepts, Level.ofKind?, close?, done, no]
        · simp [accepts, Level.ofKind?, close?, done, yes]
      · simp [accepts, shift?, joins, closes]

theorem exists_finish_holding (operand : Expr) (frames : List Frame) :
    ∃ words next e, (holding operand frames).feed? words = some next ∧ next.finish? = some e := by
  induction size : frames.length using Nat.strongRecOn generalizing operand frames with
  | ind n ih =>
    -- The groups that are still open are closed one by one.
    rcases reduce_equality_cases operand frames with
      ⟨-, whole, done⟩ | ⟨-, whole, outer, done, less⟩
    · exact ⟨[], _, whole, rfl, by simp [finish?, done]⟩
    · have closed : (holding operand frames).shift? (bare .rightParen) =
          some (.holding (.grouping whole) outer) := by
        rw [shift?_rightParen rfl, close?, done]
      obtain ⟨words, next, e, fed, finish⟩ := ih _ (size ▸ less) (.grouping whole) outer rfl
      exact ⟨bare .rightParen :: words, next, e, by simp [closed, fed], finish⟩

theorem exists_finish (state : State) :
    ∃ words next e, state.feed? words = some next ∧ next.finish? = some e := by
  cases state with
  | holding operand frames => exact exists_finish_holding operand frames
  | wanting frames =>
    obtain ⟨words, next, e, fed, finish⟩ :=
      exists_finish_holding (.literal (bare .kwNil)) frames
    have shifted : (wanting frames).shift? (bare .kwNil) =
        some (.holding (.literal (bare .kwNil)) frames) := rfl
    exact ⟨bare .kwNil :: words, next, e, by simp [shifted, fed], finish⟩

theorem feed?_of_derives {words : List Token} {e : Expr} (h : Derives .expression words e) :
    ∃ state, initial.feed? words = some state ∧ state.finish? = some e := by
  obtain ⟨d, rfl, rfl⟩ := h
  obtain ⟨operand, rest, fed, same⟩ := feed?_tokens d [] trivial
  refine ⟨_, fed, ?_⟩
  have done : reduce .equality operand rest = (d.tree, []) := same .equality (Nat.le_refl _)
  simp [finish?, done]

theorem isSome_feed?_iff (words : List Token) :
    (initial.feed? words).isSome = true ↔ Viable (words.map Token.kind) := by
  constructor
  · intro taken
    -- From any state that has been reached, some more tokens lead to an end.
    obtain ⟨state, fed⟩ := Option.isSome_iff_exists.1 taken
    obtain ⟨more, next, e, fedMore, finish⟩ := state.exists_finish
    have all : initial.feed? (words ++ more) = some next := by simp [fed, fedMore]
    obtain ⟨d, same, -⟩ := (reads_initial.feed all).finish finish
    exact ⟨more.map Token.kind, d, by simp [same]⟩
  · rintro ⟨rest, d, kinds⟩
    have same : (words ++ rest.map bare).map Token.kind = d.tokens.map Token.kind := by
      simp [kinds, bare, Function.comp_def]
    obtain ⟨d', tokens⟩ := d.exists_tokens_eq _ same
    obtain ⟨state, fed, -⟩ := feed?_of_derives ⟨d', tokens, rfl⟩
    rw [feed?_append] at fed
    obtain ⟨middle, fed, -⟩ := Option.bind_eq_some_iff.1 fed
    simp [fed]

variable {state : State} {words : List Token}

theorem viable_of_feed? (fed : initial.feed? words = some state) :
    Viable (words.map Token.kind) :=
  (isSome_feed?_iff words).1 (by simp [fed])

theorem isSome_shift?_iff (fed : initial.feed? words = some state) (token : Token) :
    (state.shift? token).isSome = true ↔ Viable (words.map Token.kind ++ [token.kind]) := by
  have step := isSome_feed?_iff (words ++ [token])
  rw [feed?_append, fed] at step
  cases shifted : state.shift? token <;> simpa [shifted] using step

theorem accepts_iff_viable (fed : initial.feed? words = some state) (kind : Kind) :
    state.accepts kind = true ↔ Viable (words.map Token.kind ++ [kind]) := by
  have step := isSome_shift?_iff fed (bare kind)
  rwa [← accepts_eq_isSome_shift?] at step

theorem finish?_eq_some_iff (fed : initial.feed? words = some state) (e : Expr) :
    state.finish? = some e ↔ Derives .expression words e := by
  constructor
  · exact (reads_initial.feed fed).finish
  · intro derived
    obtain ⟨state', fed', finish⟩ := feed?_of_derives derived
    rw [fed] at fed'
    cases fed'
    exact finish

theorem isSome_finish?_iff (fed : initial.feed? words = some state) :
    state.finish?.isSome = true ↔ Sentence (words.map Token.kind) := by
  constructor
  · intro done
    obtain ⟨e, finish⟩ := Option.isSome_iff_exists.1 done
    obtain ⟨d, rfl, -⟩ := (finish?_eq_some_iff fed e).1 finish
    exact ⟨d, rfl⟩
  · rintro ⟨d, kinds⟩
    obtain ⟨d', rfl⟩ := d.exists_tokens_eq words kinds.symm
    rw [(finish?_eq_some_iff fed d'.tree).2 ⟨d', rfl, rfl⟩]
    rfl

end State

end Lox.Automaton

namespace Lox.Grammar.Derivation

variable {symbol : Symbol}

theorem tree_eq_of_tokens_eq {d d' : Derivation symbol} (same : d.tokens = d'.tokens) :
    d.tree = d'.tree := by
  have free : Automaton.Waits symbol [] := by cases symbol <;> trivial
  -- The automaton reads both meanings off the same words, and it is deterministic.
  obtain ⟨operand, rest, fed, reads⟩ := Automaton.feed?_tokens d [] free
  obtain ⟨operand', rest', fed', reads'⟩ := Automaton.feed?_tokens d' [] free
  rw [same, fed'] at fed
  cases fed
  have first := reads .equality (Nat.zero_le _)
  have second := reads' .equality (Nat.zero_le _)
  rw [second] at first
  exact (congrArg Prod.fst first).symm

theorem level_eq_of_mem {a b : Level} {kind : Kind} (first : kind ∈ binaryOperators a)
    (second : kind ∈ binaryOperators b) : a = b :=
  Option.some.inj
    (((ofKind?_eq_some_iff a kind).2 first).symm.trans ((ofKind?_eq_some_iff b kind).2 second))

theorem rank_le_of_tree_eq_binary {level : Level} {left right : Expr} {operator : Token}
    (joins : operator.kind ∈ binaryOperators level) (d : Derivation symbol)
    (tree : d.tree = .binary left operator right) : symbol.rank ≤ level.strength := by
  induction d with
  | operand level' part ih =>
    have le := ih tree
    simp only [Symbol.rank_operand] at le
    exact Nat.le_of_succ_le le
  | binary level' _ operator' joins' =>
    cases tree
    rw [level_eq_of_mem joins' joins]
    exact Nat.le_refl _
  | unary => cases tree
  | primary part ih => exact Nat.le_of_succ_le (ih tree)
  | literal => cases tree
  | group => cases tree

-- The number of tokens that a tree is read from.
def span : Expr → Nat
  | .literal _ => 1
  | .grouping inner => span inner + 2
  | .unary _ inner => span inner + 1
  | .binary left _ right => span left + (span right + 1)
  | .stray _ => 0

theorem length_tokens (d : Derivation symbol) : d.tokens.length = span d.tree := by
  induction d with
  | operand level part ih => exact ih
  | binary level left operator joins right ihLeft ihRight =>
    simp [tokens, tree, span, ihLeft, ihRight]
  | unary operator begins inner ih => simp [tokens, tree, span, ih]
  | primary part ih => exact ih
  | literal => rfl
  | group opening opens inner closing closes ih => simp [tokens, tree, span, ih]

theorem operand_ne_binary {level : Level} {part : Derivation (.operand level)}
    {left : Derivation (.level level)} {operator : Token}
    (joins : operator.kind ∈ binaryOperators level) {right : Derivation (.operand level)} :
    part.tree ≠ (Derivation.binary level left operator joins right).tree := by
  intro same
  have le := rank_le_of_tree_eq_binary joins part same
  simp only [Symbol.rank_operand] at le
  omega

theorem eq_of_tree_eq {d d' : Derivation symbol} (trees : d.tree = d'.tree)
    (words : d.tokens = d'.tokens) : d = d' := by
  -- Equal trees have their roots from the same production, and their parts span as many tokens.
  induction d with
  | operand level part ih =>
    cases d' with
    | operand _ part' => rw [ih trees words]
    | binary _ left operator joins right => exact absurd trees (operand_ne_binary joins)
  | binary level left operator joins right ihLeft ihRight =>
    cases d' with
    | operand _ part' => exact absurd trees.symm (operand_ne_binary joins)
    | binary _ left' operator' joins' right' =>
      simp only [tree, Expr.binary.injEq] at trees
      obtain ⟨sameLeft, rfl, sameRight⟩ := trees
      have lengths : left.tokens.length = left'.tokens.length := by
        rw [length_tokens, length_tokens, sameLeft]
      obtain ⟨wordsLeft, wordsRest⟩ := List.append_inj words lengths
      rw [ihLeft sameLeft wordsLeft, ihRight sameRight (List.cons.inj wordsRest).2]
  | unary operator begins inner ih =>
    cases d' with
    | unary operator' begins' inner' =>
      simp only [tree, Expr.unary.injEq] at trees
      obtain ⟨rfl, same⟩ := trees
      rw [ih same (List.cons.inj words).2]
    | primary part => cases part <;> cases trees
  | primary part ih =>
    cases d' with
    | unary operator' begins' inner' => cases part <;> cases trees
    | primary part' => rw [ih trees words]
  | literal token stands =>
    cases d' with
    | literal token' stands' =>
      cases trees
      rfl
    | group => cases trees
  | group opening opens inner closing closes ih =>
    cases d' with
    | literal => cases trees
    | group opening' opens' inner' closing' closes' =>
      simp only [tree, Expr.grouping.injEq] at trees
      simp only [tokens, List.cons_append, List.cons.injEq] at words
      obtain ⟨rfl, rest⟩ := words
      have lengths : inner.tokens.length = inner'.tokens.length := by
        rw [length_tokens, length_tokens, trees]
      obtain ⟨same, last⟩ := List.append_inj rest lengths
      cases last
      rw [ih trees same]

theorem eq_of_tokens_eq {d d' : Derivation symbol} (same : d.tokens = d'.tokens) : d = d' :=
  eq_of_tree_eq (tree_eq_of_tokens_eq same) same

end Lox.Grammar.Derivation
