import Lox.Automaton.Parse
import Lox.Proofs.Grammar.Viability

set_option autoImplicit false

namespace Lox.Automaton

open Grammar

structure Driver where
  State : Type
  initial : State
  -- Without a kind, the question is about the end of the input.
  accepts : State → Option Kind → Bool
  feed : State → Token → State
  finish : State → Expr

namespace Driver

def fed (D : Driver) (words : List Token) : D.State :=
  words.foldl D.feed D.initial

/-- What is expected of a parser of the grammar: as long as it is fed viable words, it accepts
exactly what can follow them, and it finishes with the tree of their derivation. -/
structure Recognises (D : Driver) : Prop where
  accepts_kind : ∀ (words : List Token) (kind : Kind), Viable (words.map Token.kind) →
    (D.accepts (D.fed words) (some kind) = true ↔ Viable (words.map Token.kind ++ [kind]))
  accepts_end : ∀ words : List Token, Viable (words.map Token.kind) →
    (D.accepts (D.fed words) none = true ↔ Sentence (words.map Token.kind))
  finish_tokens : ∀ d : Derivation .expression, D.finish (D.fed d.tokens) = d.tree

def rejected (D : Driver) (state : D.State) (opened : Int) (found : Option Token) : ParseError :=
  if 0 < opened ∧ D.accepts state (some .rightParen) = true then ⟨.groupUnclosed, found⟩
  else ⟨.expressionExpected, found⟩

def change : Kind → Int
  | .leftParen => 1
  | .rightParen => -1
  | _ => 0

theorem change_eq_zero {kind : Kind} (left : kind ≠ .leftParen) (right : kind ≠ .rightParen) :
    change kind = 0 := by
  cases kind <;> first | rfl | contradiction

def run (D : Driver) (state : D.State) (opened : Int) : List Token → Except ParseError Expr
  | [] =>
    if D.accepts state none then .ok (D.finish state) else .error (D.rejected state opened none)
  | token :: rest =>
    let sought := if token.kind = .eof then none else some token.kind
    if D.accepts state sought then
      if token.kind = .eof then .ok (D.finish state)
      else D.run (D.feed state token) (opened + change token.kind) rest
    -- A token that cannot be fed ends the input in front of it, if the input may end there.
    else if D.accepts state none then .ok (D.finish state)
    else .error (D.rejected state opened (some token))

def parse (D : Driver) (tokens : List Token) : Except ParseError Expr :=
  (D.run D.initial 0 tokens).map (Expr.mapTokens Token.restored)

end Driver

def State.frames : State → List Frame
  | .wanting frames => frames
  | .holding _ frames => frames

def State.groups (state : State) : Nat :=
  state.frames.count .group

theorem count_group_reduce (level : Level) (operand : Expr) (frames : List Frame) :
    (reduce level operand frames).2.count .group = frames.count .group := by
  induction frames generalizing operand with
  | nil => rfl
  | cons frame rest ih =>
    cases frame with
    | group => rfl
    | unary operator => simpa [reduce, List.count_cons] using ih _
    | binary left inner operator =>
      simp only [reduce]
      split
      · simpa [List.count_cons] using ih _
      · rfl

namespace State

theorem groups_shift? {state next : State} {token : Token}
    (shifted : state.shift? token = some next) :
    (next.groups : Int) = state.groups + Driver.change token.kind := by
  cases state with
  | wanting frames =>
    simp only [shift?] at shifted
    split at shifted
    · next literal =>
      cases shifted
      have plain : Driver.change token.kind = 0 := by
        apply Driver.change_eq_zero <;> intro same <;> rw [same] at literal <;> cases literal
      simp [groups, State.frames, plain]
    split at shifted
    · next unary =>
      cases shifted
      have plain : Driver.change token.kind = 0 := by
        apply Driver.change_eq_zero <;> intro same <;> rw [same] at unary <;> cases unary
      simp [groups, State.frames, plain]
    split at shifted
    · next opens =>
      cases shifted
      simp [groups, State.frames, Driver.change, opens]
    · cases shifted
  | holding operand frames =>
    simp only [shift?] at shifted
    split at shifted
    · next level joins =>
      cases shifted
      have plain : Driver.change token.kind = 0 := by
        apply Driver.change_eq_zero <;> intro same <;> rw [same] at joins <;> cases joins
      simp [groups, State.frames, plain, count_group_reduce]
    · split at shifted
      · next closes =>
        have kept := count_group_reduce .equality operand frames
        simp only [close?] at shifted
        split at shifted
        · next inner outer completed =>
          cases shifted
          rw [completed] at kept
          simp only [groups, State.frames, closes, Driver.change, ← kept, List.count_cons_self]
          omega
        · cases shifted
      · cases shifted

theorem foldl_of_feed? {start next : State} {words : List Token}
    (fed : start.feed? words = some next) :
    words.foldl (fun state token => (state.shift? token).getD state) start = next := by
  induction words generalizing start with
  | nil =>
    cases fed
    rfl
  | cons token rest ih =>
    obtain ⟨middle, shifted, fed⟩ := Option.bind_eq_some_iff.1 fed
    rw [List.foldl_cons, shifted]
    exact ih fed

theorem groups_pos_of_accepts {state : State} (h : state.accepts .rightParen = true) :
    0 < state.groups := by
  cases state with
  | wanting frames => cases h
  | holding operand frames =>
    have open' : Frame.group ∈ frames := by simpa [accepts, Level.ofKind?] using h
    exact List.count_pos_iff.2 open'

end State

namespace Driver

theorem fed_append (D : Driver) (words : List Token) (token : Token) :
    D.fed (words ++ [token]) = D.feed (D.fed words) token := by
  simp [fed]

theorem map_kind_restored (words : List Token) :
    (words.map Token.restored).map Token.kind = words.map Token.kind := by
  simp [Function.comp_def]

namespace Recognises

variable {D : Driver} (lawful : D.Recognises)
variable {words : List Token} {state : Automaton.State}
  (fed : State.initial.feed? (words.map Token.restored) = some state)

include lawful fed

theorem accepts_kind_eq (kind : Kind) :
    D.accepts (D.fed words) (some kind) = state.accepts kind := by
  have viable := State.viable_of_feed? fed
  rw [map_kind_restored] at viable
  rw [Bool.eq_iff_iff, lawful.accepts_kind words kind viable, State.accepts_iff_viable fed,
    map_kind_restored]

theorem accepts_end_eq : D.accepts (D.fed words) none = state.finish?.isSome := by
  have viable := State.viable_of_feed? fed
  rw [map_kind_restored] at viable
  rw [Bool.eq_iff_iff, lawful.accepts_end words viable, State.isSome_finish?_iff fed,
    map_kind_restored]

theorem finish_eq {e : Expr} (finish : state.finish? = some e) :
    (D.finish (D.fed words)).mapTokens Token.restored = e := by
  obtain ⟨d, tokens, rfl⟩ := (State.finish?_eq_some_iff fed e).1 finish
  have kinds : words.map Token.kind = d.tokens.map Token.kind := by
    rw [tokens, map_kind_restored]
  -- The driver has been fed words with any payloads; restored, they are those the automaton saw.
  obtain ⟨d', rfl⟩ := d.exists_tokens_eq words kinds
  rw [lawful.finish_tokens d', ← d'.tree_map Token.restored Token.kind_restored]
  apply Derivation.tree_eq_of_tokens_eq
  rw [Derivation.tokens_map, tokens]

theorem rejected_eq (found : Option Token) :
    D.rejected (D.fed words) state.groups found = state.rejection found := by
  rw [rejected, State.rejection, lawful.accepts_kind_eq fed]
  by_cases closable : state.accepts .rightParen = true
  · have opened : (0 : Int) < state.groups := by exact_mod_cast State.groups_pos_of_accepts closable
    rw [if_pos ⟨opened, closable⟩, if_pos closable]
  · rw [if_neg (fun both => closable both.2), if_neg closable]

theorem stop_eq (found : Option Token) (before : Option Token) :
    (if D.accepts (D.fed words) none then Except.ok (D.finish (D.fed words))
      else .error (D.rejected (D.fed words) state.groups found)).map
        (Expr.mapTokens Token.restored) =
    (match state.finish? with
      | some e => Except.ok (⟨e, before⟩ : Stopped)
      | none => .error (state.rejection found)).map Stopped.expr := by
  rw [lawful.accepts_end_eq fed]
  cases finish : state.finish? with
  | some e => exact congrArg Except.ok (lawful.finish_eq fed finish)
  | none => exact congrArg Except.error (lawful.rejected_eq fed found)

theorem run_eq (tokens : List Token) :
    (D.run (D.fed words) state.groups tokens).map (Expr.mapTokens Token.restored) =
      (state.run tokens).map Stopped.expr := by
  -- The driver and the automaton have been fed the same words, and the count of parentheses is that
  -- of the groups that wait.
  induction tokens generalizing words state with
  | nil => exact lawful.stop_eq fed none none
  | cons token rest ih =>
    by_cases ends : token.kind = .eof
    · simp only [run, State.run, if_pos ends]
      refine Eq.trans ?_ (lawful.stop_eq fed (some token) none)
      cases D.accepts (D.fed words) none <;> rfl
    · simp only [run, State.run, if_neg ends]
      rw [lawful.accepts_kind_eq fed, ← Token.kind_restored, State.accepts_eq_isSome_shift?]
      cases shifted : state.shift? token.restored with
      | some next =>
        have fed' : State.initial.feed? ((words ++ [token]).map Token.restored) = some next := by
          simp [fed, shifted]
        rw [← ih fed', fed_append, State.groups_shift? shifted]
        rfl
      | none => exact lawful.stop_eq fed (some token) (some token)

end Recognises

theorem Recognises.parse_eq {D : Driver} (lawful : D.Recognises) (tokens : List Token) :
    D.parse tokens = (Automaton.parse tokens).map Stopped.expr := by
  have nothing : State.initial.feed? (List.map Token.restored []) = some .initial := rfl
  exact lawful.run_eq nothing tokens

def automaton : Driver where
  State := Automaton.State
  initial := .initial
  accepts state
    | some kind => state.accepts kind
    | none => state.finish?.isSome
  -- What is fallen back on here is never reached: only what is accepted is fed.
  feed state token := (state.shift? token).getD state
  finish state := state.finish?.getD (.stray "")

theorem fed_automaton {words : List Token} {state : Automaton.State}
    (fed : State.initial.feed? words = some state) : automaton.fed words = state :=
  State.foldl_of_feed? fed

theorem recognises_automaton : automaton.Recognises where
  accepts_kind words kind viable := by
    obtain ⟨state, fed⟩ := Option.isSome_iff_exists.1 ((State.isSome_feed?_iff words).2 viable)
    rw [fed_automaton fed]
    exact State.accepts_iff_viable fed kind
  accepts_end words viable := by
    obtain ⟨state, fed⟩ := Option.isSome_iff_exists.1 ((State.isSome_feed?_iff words).2 viable)
    rw [fed_automaton fed]
    exact State.isSome_finish?_iff fed
  finish_tokens d := by
    obtain ⟨state, fed, finish⟩ := State.feed?_of_derives ⟨d, rfl, rfl⟩
    rw [fed_automaton fed]
    simp [automaton, finish]

end Driver

end Lox.Automaton
