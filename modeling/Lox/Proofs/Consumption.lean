import Lox.Proofs.Agreement

set_option autoImplicit false

namespace Lox

open Grammar

namespace Automaton

namespace State

-- What a run shifts, as it was before it was restored.
def taken (state : State) : List Token → List Token
  | [] => []
  | token :: rest =>
    if token.kind = .eof then []
    else
      match state.shift? token.restored with
      | some next => token :: next.taken rest
      | none => []

theorem taken_append {state next : State} {words rest : List Token}
    (spelled : ∀ token ∈ words ++ rest, token.Spelled) (fed : state.feed? words = some next)
    (stop : ∀ token ∈ rest.head?, next.shift? token = none) :
    state.taken (words ++ rest) = words := by
  induction words generalizing state with
  | nil =>
    obtain rfl : state = next := Option.some.inj fed
    cases rest with
    | nil => rfl
    | cons token rest =>
      have first := shift?_restored (spelled token (by simp)) state
      rw [stop token rfl] at first
      simp [taken, first]
  | cons token words ih =>
    obtain ⟨middle, shifted, fed⟩ := Option.bind_eq_some_iff.1 fed
    have first := shift?_restored (spelled token (by simp)) state
    rw [shifted] at first
    have going : token.kind ≠ .eof := by
      intro ends
      rw [shift?_eof ends] at shifted
      cases shifted
    simp only [List.cons_append, taken, if_neg going, first]
    rw [ih (fun token mem => spelled token (by simp_all)) fed]

theorem shift?_eq_none_iff_of_finish {state : State} {e : Expr} (finish : state.finish? = some e)
    (token : Token) : state.shift? token = none ↔ Level.ofKind? token.kind = none := by
  cases state with
  | wanting frames => cases finish
  | holding operand frames =>
    cases joins : Level.ofKind? token.kind with
    | some level => simp [shift?, joins]
    | none =>
      have closed : close? operand frames = none := by
        rw [finish?] at finish
        rw [close?]
        split at finish
        · next whole => rw [whole]
        · cases finish
      simp [shift?, joins, closed]

end State

namespace Driver

-- What is fed to the parser, which is asked before each token whether it accepts it.
def taken (D : Driver) (state : D.State) : List Token → List Token
  | [] => []
  | token :: rest =>
    if token.kind ≠ .eof ∧ D.accepts state (some token.kind) then
      token :: D.taken (D.feed state token) rest
    else []

theorem Recognises.taken_eq {D : Driver} (lawful : D.Recognises) {words : List Token}
    {state : Automaton.State} (fed : State.initial.feed? (words.map Token.restored) = some state)
    (tokens : List Token) : D.taken (D.fed words) tokens = state.taken tokens := by
  -- As in a run, both have been fed the same words.
  induction tokens generalizing words state with
  | nil => rfl
  | cons token rest ih =>
    by_cases ends : token.kind = .eof
    · simp [taken, State.taken, ends]
    · rw [taken, State.taken, if_neg ends, lawful.accepts_kind_eq fed, ← Token.kind_restored,
        State.accepts_eq_isSome_shift?]
      cases shifted : state.shift? token.restored with
      | none => simp
      | some next =>
        have fed' : State.initial.feed? ((words ++ [token]).map Token.restored) = some next := by
          simp [fed, shifted]
        rw [if_pos ⟨ends, rfl⟩, ← fed_append, ih fed']

end Driver

end Automaton

def Method.taken (method : Method) (tokens : List Token) : List Token :=
  match method with
  | .descent => Descent.taken tokens
  | .automaton => Automaton.State.initial.taken tokens

theorem Method.taken_eq {tokens : List Token} (spelled : ∀ token ∈ tokens, token.Spelled)
    (method : Method) : method.taken tokens = Descent.taken tokens := by
  cases method with
  | descent => rfl
  | automaton =>
    obtain ⟨state, rest, split, fed, stop, -⟩ := Descent.exists_state_taken tokens
    rw [split] at spelled
    exact (congrArg _ split).trans (Automaton.State.taken_append spelled fed stop)

theorem Automaton.Driver.Recognises.taken_eq_descent {D : Driver} (lawful : D.Recognises)
    {tokens : List Token} (spelled : ∀ token ∈ tokens, token.Spelled) :
    D.taken D.initial tokens = Descent.taken tokens := by
  have nothing : State.initial.feed? (List.map Token.restored []) = some .initial := rfl
  exact (lawful.taken_eq nothing tokens).trans (Method.taken_eq spelled .automaton)

theorem ends_of_taken {tokens others : List Token} {stop : Token} {e : Expr}
    (parsed : parse tokens = .ok e) (split : tokens = Descent.taken tokens ++ stop :: others) :
    Level.ofKind? stop.kind = none := by
  obtain ⟨state, rest, split', -, stuck, ended⟩ := Descent.exists_state_taken tokens
  obtain rfl : rest = stop :: others := List.append_cancel_left (split'.symm.trans split)
  rw [ended, Automaton.State.verdict] at parsed
  cases finish : state.finish? with
  | none =>
    rw [finish] at parsed
    cases parsed
  | some e' => exact (Automaton.State.shift?_eq_none_iff_of_finish finish stop).1 (stuck stop rfl)

theorem parse_taken_map {f : Token → Token} (keeps : ∀ token, (f token).kind = token.kind)
    {tokens : List Token} {e : Expr} (parsed : parse tokens = .ok e) {stop : Token}
    (ends : Level.ofKind? stop.kind = none) (others : List Token) :
    parse ((Descent.taken tokens).map f ++ stop :: others) = .ok (e.mapTokens f) := by
  obtain ⟨d, tree, words⟩ := exists_derivation_taken parsed
  have derived : Derives .expression (Descent.taken tokens) e := ⟨d, words, tree⟩
  obtain ⟨state, fed, finish⟩ := Automaton.State.feed?_of_derives (derived.map keeps)
  rw [parse_eq_settle, Automaton.State.settle_append fed, Automaton.State.settle_of_stop,
    Automaton.State.verdict, finish]
  rintro _ ⟨⟩
  exact (Automaton.State.shift?_eq_none_iff_of_finish finish stop).2 ends

end Lox
