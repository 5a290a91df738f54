import Lox.Proofs.Descent.Onward

set_option autoImplicit false

namespace Lox.Automaton.State

open Grammar

theorem settle_eq (state : State) (tokens : List Token) :
    ∃ words rest next, tokens = words ++ rest ∧ state.feed? words = some next ∧
      (∀ token ∈ rest.head?, next.shift? token = none) ∧
      state.settle tokens = (next.verdict rest.head?, rest) := by
  induction tokens generalizing state with
  | nil => exact ⟨[], [], state, rfl, rfl, by simp, rfl⟩
  | cons token tokens ih =>
    cases shifted : state.shift? token with
    | none =>
      exact ⟨[], token :: tokens, state, rfl, rfl, by simp [shifted], by simp [settle, shifted]⟩
    | some middle =>
      obtain ⟨words, rest, next, rfl, fed, stop, settled⟩ := ih middle
      refine ⟨token :: words, rest, next, rfl, ?_, stop, ?_⟩
      · simp [shifted, fed]
      · rw [settle_of_shift shifted, settled]

theorem shift?_eof {token : Token} (h : token.kind = .eof) (state : State) :
    state.shift? token = none := by
  cases state <;> simp [shift?, h, Kind.isLiteral, Kind.isUnary, Level.ofKind?]

theorem kind_ne_eof_of_feed? {state next : State} {words : List Token}
    (fed : state.feed? words = some next) : ∀ token ∈ words, token.kind ≠ .eof := by
  induction words generalizing state with
  | nil => simp
  | cons token rest ih =>
    obtain ⟨middle, shifted, fed⟩ := Option.bind_eq_some_iff.1 fed
    intro token' mem
    rcases List.mem_cons.1 mem with rfl | later
    · intro ends
      rw [shift?_eof ends] at shifted
      cases shifted
    · exact ih fed token' later

theorem longestViable_of_stop {words rest : List Token} {state : State}
    (fed : initial.feed? words = some state)
    (stop : ∀ token ∈ rest.head?, state.shift? token = none) :
    LongestViable ((words ++ rest).takeWhile (·.kind ≠ .eof)) words := by
  have viable := viable_of_feed? fed
  -- No end token is ever taken, so the words all stand before the first one.
  rw [List.takeWhile_append_of_pos (by simpa using kind_ne_eof_of_feed? fed)]
  cases rest with
  | nil => simpa using LongestViable.self viable
  | cons token rest =>
    by_cases ends : token.kind = .eof
    · simpa [ends] using LongestViable.self viable
    · rw [List.takeWhile_cons_of_pos (by simpa using ends)]
      apply LongestViable.of_stop viable
      rw [← isSome_shift?_iff fed, stop token rfl]
      simp

end Lox.Automaton.State

namespace Lox.Descent

open Automaton Grammar

def Result.outcome {α : Type} : Result α → Except ParseError α
  | .ok value _ => .ok value
  | .error e _ => .error e

theorem settle_whole {e : Expr} {ahead : List Token} (stops : StopsAt 0 ahead) :
    (State.holding e []).settle ahead = (.ok e, ahead) := by
  rw [State.settle_of_stop]
  · rfl
  · intro token mem
    have noOperator := stops.no_operator token mem
    simp [State.shift?, noOperator, State.close?, reduce]

theorem settle_eq_parseExpr (c : Cursor) :
    State.initial.settle c.ahead =
      (Result.outcome c.parseExpr, (Result.cursor c.parseExpr).ahead) := by
  have rules := runs_parseExpr c
  have settled := rules.settles [] trivial trivial
  cases parsed : c.parseExpr with
  | error e d =>
    rw [parsed] at settled
    exact settled
  | ok e d =>
    rw [parsed] at rules settled
    -- With no frame left and no operator next, the automaton holds the result and stops.
    exact settled.trans (settle_whole (rules.stops trivial rfl))

theorem parseExpr_eq (tokens : List Token) :
    ∃ words rest state c, tokens = words ++ rest ∧ State.initial.feed? words = some state ∧
      (∀ token ∈ rest.head?, state.shift? token = none) ∧
      c.tokens = tokens ∧ c.pos = words.length ∧
      (Cursor.ofTokens tokens).parseExpr =
        match state.verdict rest.head? with
        | .ok e => .ok e c
        | .error e => .error e c := by
  have conserved := (runs_parseExpr (.ofTokens tokens)).tokens_eq
  have ended := settle_eq_parseExpr (.ofTokens tokens)
  obtain ⟨words, rest, state, split, fed, stop, settled⟩ := State.initial.settle_eq tokens
  rw [show (Cursor.ofTokens tokens).ahead = tokens from rfl, settled, Prod.mk.injEq] at ended
  obtain ⟨verdict, left⟩ := ended
  refine ⟨words, rest, state, _, split, fed, stop, conserved, ?_, ?_⟩
  · -- No token is lost, so what has been taken is what is not left.
    have rebuilt : (Result.cursor (Cursor.ofTokens tokens).parseExpr).behind.reverse ++ rest =
        words ++ rest := by
      rw [← split, left]
      exact conserved
    rw [Cursor.pos, ← List.append_cancel_right rebuilt, List.length_reverse]
  · rw [verdict]
    cases (Cursor.ofTokens tokens).parseExpr <;> rfl

theorem parseExpr_longestViable (tokens : List Token) :
    ∃ words, LongestViable (tokens.takeWhile (·.kind ≠ .eof)) words ∧
      (Sentence (words.map Token.kind) →
        ∃ d : Derivation .expression, d.tokens = words ∧
          (∀ d' : Derivation .expression, d'.tokens = words → d' = d) ∧
          ∃ c, (Cursor.ofTokens tokens).parseExpr = .ok d.tree c ∧
            c.tokens = tokens ∧ c.pos = words.length) ∧
      (¬ Sentence (words.map Token.kind) →
        ∃ e c, (Cursor.ofTokens tokens).parseExpr = .error e c ∧ e.token = tokens[words.length]? ∧
          (words.length = tokens.length → e.token = none ∧ e.diagnostic.line = 0) ∧
          (Viable (words.map Token.kind ++ [.rightParen]) →
            e.diagnostic.message = "Expected ')' after expression.") ∧
          (¬ Viable (words.map Token.kind ++ [.rightParen]) →
            e.diagnostic.message = "Expected expression.")) := by
  obtain ⟨words, rest, state, c, rfl, fed, stop, conserved, pos, parsed⟩ := parseExpr_eq tokens
  refine ⟨words, State.longestViable_of_stop fed stop, ?_, ?_⟩
  · rintro ⟨d₀, kinds⟩
    obtain ⟨d, same⟩ := d₀.exists_tokens_eq words kinds.symm
    have finish := (State.finish?_eq_some_iff fed d.tree).2 ⟨d, same, rfl⟩
    refine ⟨d, same, fun d' same' => Derivation.eq_of_tokens_eq (same'.trans same.symm), c, ?_,
      conserved, pos⟩
    simpa [State.verdict, finish] using parsed
  · intro noSentence
    have finish : state.finish? = none := by
      cases finish : state.finish? with
      | none => rfl
      | some e => exact absurd ((State.isSome_finish?_iff fed).1 (by simp [finish])) noSentence
    simp only [State.verdict, finish] at parsed
    have found : rest.head? = (words ++ rest)[words.length]? := by
      rw [List.getElem?_append_right (Nat.le_refl _), Nat.sub_self, List.head?_eq_getElem?]
    refine ⟨state.rejection rest.head?, c, parsed, ?_, ?_, ?_, ?_⟩
    · rw [← found, State.rejection]
      split <;> rfl
    · intro exhausted
      have nothing : rest = [] := by
        rw [List.length_append] at exhausted
        exact List.eq_nil_of_length_eq_zero (by omega)
      subst nothing
      rw [State.rejection]
      split <;> exact ⟨rfl, rfl⟩
    · intro closable
      rw [State.rejection, if_pos ((State.accepts_iff_viable fed _).2 closable)]
      rfl
    · intro unclosable
      rw [State.rejection, if_neg (mt (State.accepts_iff_viable fed _).1 unclosable)]
      rfl

end Lox.Descent
