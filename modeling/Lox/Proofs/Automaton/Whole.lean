import Lox.Proofs.Agreement

set_option autoImplicit false

namespace Lox.Automaton

open Grammar

namespace State

def conclude (state : State) : Option Token → Except (Option Token) Expr
  | some token => .error (some token)
  | none =>
    match state.finish? with
    | some e => .ok e
    | none => .error none

def consume (state : State) : List Token → Except (Option Token) Expr
  | [] => state.conclude none
  | token :: rest =>
    match state.shift? token.restored with
    | some next => next.consume rest
    | none => state.conclude (some token)

theorem consume_eq_conclude {state next : State} {words rest : List Token}
    (spelled : ∀ token ∈ words ++ rest, token.Spelled) (fed : state.feed? words = some next)
    (stop : ∀ token ∈ rest.head?, next.shift? token = none) :
    state.consume (words ++ rest) = next.conclude rest.head? := by
  induction words generalizing state with
  | nil =>
    obtain rfl : state = next := Option.some.inj fed
    cases rest with
    | nil => rfl
    | cons token rest =>
      have first := shift?_restored (spelled token (by simp)) state
      rw [stop token rfl] at first
      simp [consume, first]
  | cons token words ih =>
    obtain ⟨middle, shifted, fed⟩ := Option.bind_eq_some_iff.1 fed
    have first := shift?_restored (spelled token (by simp)) state
    rw [shifted] at first
    rw [List.cons_append, consume, first]
    exact ih (fun token mem => spelled token (by simp_all)) fed

end State

def Rejection.ofFound (line : Int) (found : Option Token) : Rejection :=
  ⟨found.map Token.kind, (found.map Token.line).getD line⟩

def lastLine (line : Int) (tokens : List Token) : Int :=
  (tokens.getLast?.map endLine).getD line

theorem State.runWhole_eq (state : State) (line : Int) (tokens : List Token) :
    state.runWhole line tokens =
      (state.consume tokens).mapError (Rejection.ofFound (lastLine line tokens)) := by
  induction tokens generalizing state line with
  | nil =>
    simp only [runWhole, consume, conclude]
    cases state.finish? <;> rfl
  | cons token rest ih =>
    have last : lastLine line (token :: rest) = lastLine (endLine token) rest := by
      cases rest <;> simp [lastLine, List.getLast?_cons]
    simp only [runWhole, consume]
    cases state.shift? token.restored with
    | none => rfl
    | some next => rw [last]; exact ih next (endLine token)

namespace Driver

def runWhole (D : Driver) (state : D.State) : List Token → Except (Option Token) Expr
  | [] => if D.accepts state none then .ok (D.finish state) else .error none
  | token :: rest =>
    if D.accepts state (some token.kind) then D.runWhole (D.feed state token) rest
    else .error (some token)

def parseWhole (D : Driver) (tokens : List Token) : Except (Option Token) Expr :=
  (D.runWhole D.initial (tokens.filter (·.kind ≠ .eof))).map (Expr.mapTokens Token.restored)

variable {D : Driver} (lawful : D.Recognises)

include lawful

theorem Recognises.runWhole_eq {words : List Token} {state : Automaton.State}
    (fed : State.initial.feed? (words.map Token.restored) = some state) (tokens : List Token) :
    (D.runWhole (D.fed words) tokens).map (Expr.mapTokens Token.restored) =
      state.consume tokens := by
  induction tokens generalizing words state with
  | nil =>
    rw [runWhole, lawful.accepts_end_eq fed, State.consume, State.conclude]
    cases finish : state.finish? with
    | none => rfl
    | some e => exact congrArg Except.ok (lawful.finish_eq fed finish)
  | cons token rest ih =>
    rw [runWhole, lawful.accepts_kind_eq fed, ← Token.kind_restored,
      State.accepts_eq_isSome_shift?, State.consume]
    cases shifted : state.shift? token.restored with
    | none => rfl
    | some next =>
      have fed' : State.initial.feed? ((words ++ [token]).map Token.restored) = some next := by
        simp [fed, shifted]
      have later := ih fed'
      rw [fed_append] at later
      exact later

theorem Recognises.parseWhole_eq (tokens : List Token) :
    D.parseWhole tokens = State.initial.consume (tokens.filter (·.kind ≠ .eof)) := by
  have nothing : State.initial.feed? (List.map Token.restored []) = some .initial := rfl
  exact lawful.runWhole_eq nothing _

omit lawful

end Driver

theorem consume_cases {words : List Token} (spelled : ∀ token ∈ words, token.Spelled) :
    (∃ e c, (Descent.Cursor.ofTokens words).parseExpr = .ok e c ∧ c.pos = words.length ∧
        State.initial.consume words = .ok e) ∨
      (∃ e c token, (Descent.Cursor.ofTokens words).parseExpr = .ok e c ∧ c.pos < words.length ∧
        words[c.pos]? = some token ∧ State.initial.consume words = .error (some token)) ∨
      ∃ error c, (Descent.Cursor.ofTokens words).parseExpr = .error error c ∧
        State.initial.consume words = .error error.token := by
  obtain ⟨before, rest, state, c, rfl, fed, stop, -, pos, parsed⟩ := Descent.parseExpr_eq words
  rw [State.consume_eq_conclude spelled fed stop, parsed]
  cases finish : state.finish? with
  | none =>
    refine .inr (.inr ⟨state.rejection rest.head?, c, by simp [State.verdict, finish], ?_⟩)
    have found : (state.rejection rest.head?).token = rest.head? := by
      rw [State.rejection]
      split <;> rfl
    rw [found]
    cases rest <;> simp [State.conclude, finish]
  | some e =>
    cases rest with
    | nil =>
      refine .inl ⟨e, c, by simp [State.verdict, finish], by simp [pos], ?_⟩
      simp [State.conclude, finish]
    | cons token rest =>
      refine .inr (.inl ⟨e, c, token, by simp [State.verdict, finish], by simp [pos], ?_, rfl⟩)
      simp [pos]

theorem Driver.parseWhole_matches_parseExpr {D : Driver} (lawful : D.Recognises)
    (tokens : List Token) (spelled : ∀ token ∈ tokens, token.Spelled) :
    let words := tokens.filter (·.kind ≠ .eof)
    let parsed := (Descent.Cursor.ofTokens words).parseExpr
    (∀ e, D.parseWhole tokens = .ok e ↔ ∃ c, parsed = .ok e c ∧ c.pos = words.length) ∧
      (∀ e c, parsed = .ok e c → c.pos ≤ words.length ∧ e.checked = .ok e ∧
        (c.pos < words.length → ∃ token, words[c.pos]? = some token ∧
          D.parseWhole tokens = .error (some token))) ∧
      (∀ error c, parsed = .error error c → D.parseWhole tokens = .error error.token) ∧
      Automaton.parseWhole tokens =
        (D.parseWhole tokens).mapError (Rejection.ofFound (lastLine 1 words)) := by
  intro words parsed
  have spelledWords : ∀ token ∈ words, token.Spelled :=
    fun token mem => spelled token (List.mem_filter.1 mem).1
  have automaton : Automaton.parseWhole tokens =
      (State.initial.consume words).mapError (Rejection.ofFound (lastLine 1 words)) :=
    State.runWhole_eq .initial 1 words
  have checked (e : Expr) (c : Descent.Cursor) (ended : parsed = .ok e c) : e.checked = .ok e := by
    apply checked_of_parse spelledWords
    rw [parse_eq_outcome, show (Descent.Cursor.ofTokens words).parseExpr = .ok e c from ended]
    rfl
  rw [lawful.parseWhole_eq tokens]
  rcases consume_cases spelledWords with ⟨e, c, ended, pos, done⟩ |
    ⟨e, c, token, ended, less, found, failed⟩ | ⟨error, c, ended, failed⟩
  · have ended : parsed = .ok e c := ended
    rw [ended, done]
    refine ⟨fun e' => ⟨?_, ?_⟩, ?_, ?_, by rw [automaton, done]⟩
    · rintro ⟨⟩
      exact ⟨c, rfl, pos⟩
    · rintro ⟨_, ⟨⟩, -⟩
      rfl
    · rintro _ _ ⟨⟩
      exact ⟨Nat.le_of_eq pos, checked e c ended, fun less => absurd pos (Nat.ne_of_lt less)⟩
    · rintro _ _ ⟨⟩
  · have ended : parsed = .ok e c := ended
    rw [ended, failed]
    refine ⟨fun e' => ⟨nofun, ?_⟩, ?_, ?_, by rw [automaton, failed]⟩
    · rintro ⟨_, ⟨⟩, pos⟩
      exact absurd pos (Nat.ne_of_lt less)
    · rintro _ _ ⟨⟩
      exact ⟨Nat.le_of_lt less, checked e c ended, fun _ => ⟨token, found, rfl⟩⟩
    · rintro _ _ ⟨⟩
  · have ended : parsed = .error error c := ended
    rw [ended, failed]
    refine ⟨fun e' => ⟨nofun, nofun⟩, nofun, ?_, by rw [automaton, failed]⟩
    rintro _ _ ⟨⟩
    rfl

-- The tokens of the text !nil, with an end token between them and one behind.
def interrupted : List Token :=
  [⟨.bang, "!", 1, .absent⟩, .eof 1, ⟨.kwNil, "nil", 1, .absent⟩, .eof 1]

theorem spelled_interrupted : ∀ token ∈ interrupted, token.Spelled := by
  simp only [interrupted, List.forall_mem_cons, List.not_mem_nil, false_implies, implies_true,
    and_true]
  exact ⟨⟨nofun, nofun, fun _ _ _ => rfl⟩, .of_not_enters rfl, ⟨nofun, nofun, fun _ _ _ => rfl⟩,
    .of_not_enters rfl⟩

theorem Driver.parseWhole_matches_parseExpr_interrupted :
    automaton.Recognises ∧ (∀ token ∈ interrupted, token.Spelled) ∧
      ∃ c, (Descent.Cursor.ofTokens (interrupted.filter (·.kind ≠ .eof))).parseExpr =
          .ok (.unary ⟨.bang, "!", 1, .absent⟩ (.literal ⟨.kwNil, "nil", 1, .absent⟩)) c ∧
        c.pos = 2 :=
  ⟨recognises_automaton, spelled_interrupted,
    ((parseWhole_matches_parseExpr recognises_automaton interrupted spelled_interrupted).1 _).1 rfl⟩

end Lox.Automaton
