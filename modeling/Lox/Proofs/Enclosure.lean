import Lox.Proofs.Automaton.Whole
import Lox.Proofs.Lines

set_option autoImplicit false

namespace Lox

open Grammar

theorem Token.restored_of_isOperator {token : Token} (operates : token.kind.isOperator = true)
    (absent : token.payload = .absent) : token.restored = token := by
  obtain ⟨kind, lexeme, line, payload⟩ := token
  cases absent
  cases kind <;> first | rfl | cases operates

inductive Encloses : Expr → List Token → Prop where
  | literal (token : Token) : Encloses (.literal token) [token]
  | grouping {inner : Expr} {words : List Token} {opening closing : Token}
      (opens : opening.kind = .leftParen) (within : Encloses inner words)
      (closes : closing.kind = .rightParen) :
      Encloses (.grouping inner) (opening :: words ++ [closing])
  | unary {operator : Token} {operand : Expr} {words : List Token} {opening closing : Token}
      (opens : opening.kind = .leftParen) (within : Encloses operand words)
      (closes : closing.kind = .rightParen) :
      Encloses (.unary operator operand) (opening :: (operator :: words) ++ [closing])
  | binary {left right : Expr} {operator : Token} {before after : List Token}
      {opening closing : Token} (opens : opening.kind = .leftParen)
      (first : Encloses left before) (second : Encloses right after)
      (closes : closing.kind = .rightParen) :
      Encloses (.binary left operator right) (opening :: (before ++ operator :: after) ++ [closing])

namespace Expr

def ungrouped : Expr → Expr
  | literal token => literal token
  | grouping inner => inner.ungrouped
  | unary operator operand => unary operator operand.ungrouped
  | binary left operator right => binary left.ungrouped operator right.ungrouped
  | stray text => stray text

def enclosed : Expr → Expr
  | literal token => literal token
  | grouping inner => grouping inner.enclosed
  | unary operator operand => grouping (unary operator operand.enclosed)
  | binary left operator right => grouping (binary left.enclosed operator right.enclosed)
  | stray text => stray text

def operators : Expr → List Token
  | literal _ | stray _ => []
  | grouping inner => inner.operators
  | unary operator operand => operator :: operand.operators
  | binary left operator right => left.operators ++ operator :: right.operators

/-- Trees of the language with any nesting of operators. Literals are as they are scanned; of an
operator only the kind matters. -/
def Spelled : Expr → Prop
  | literal token => token.kind ∈ literals ∧ token.Spelled
  | grouping inner => inner.Spelled
  | unary operator operand => operator.kind ∈ unaryOperators ∧ operand.Spelled
  | binary left operator right =>
    (∃ level, operator.kind ∈ binaryOperators level) ∧ left.Spelled ∧ right.Spelled
  | stray _ => False

@[simp] theorem ungrouped_enclosed (e : Expr) : e.enclosed.ungrouped = e.ungrouped := by
  induction e with
  | literal token => rfl
  | grouping inner ih => exact ih
  | unary operator operand ih => simp [enclosed, ungrouped, ih]
  | binary left operator right ihLeft ihRight => simp [enclosed, ungrouped, ihLeft, ihRight]
  | stray text => rfl

theorem ungrouped_mapTokens (f : Token → Token) (e : Expr) :
    (e.mapTokens f).ungrouped = e.ungrouped.mapTokens f := by
  induction e with
  | literal token => rfl
  | grouping inner ih => exact ih
  | unary operator operand ih => simp [mapTokens, ungrouped, ih]
  | binary left operator right ihLeft ihRight => simp [mapTokens, ungrouped, ihLeft, ihRight]
  | stray text => rfl

theorem enclosed_mapTokens (f : Token → Token) (e : Expr) :
    (e.mapTokens f).enclosed = e.enclosed.mapTokens f := by
  induction e with
  | literal token => rfl
  | grouping inner ih => simp [mapTokens, enclosed, ih]
  | unary operator operand ih => simp [mapTokens, enclosed, ih]
  | binary left operator right ihLeft ihRight => simp [mapTokens, enclosed, ihLeft, ihRight]
  | stray text => rfl

theorem evaluate_ungrouped (e : Expr) : e.ungrouped.evaluate = e.evaluate := by
  induction e with
  | literal token => rfl
  | grouping inner ih => exact ih
  | unary operator operand ih => rw [ungrouped, evaluate, evaluate, ih]
  | binary left operator right ihLeft ihRight =>
    rw [ungrouped, evaluate, evaluate, ihLeft, ihRight]
  | stray text => rfl

theorem evaluate_enclosed (e : Expr) : e.enclosed.evaluate = e.evaluate := by
  rw [← evaluate_ungrouped, ungrouped_enclosed, evaluate_ungrouped]

namespace Spelled

variable {e : Expr}

theorem wellFormed (spelled : e.Spelled) : e.WellFormed := by
  induction e with
  | literal token => exact spelled.2.denotes spelled.1
  | grouping inner ih => exact ih spelled
  | unary operator operand ih => exact ⟨spelled.1, ih spelled.2⟩
  | binary left operator right ihLeft ihRight =>
    exact ⟨spelled.1, ihLeft spelled.2.1, ihRight spelled.2.2⟩
  | stray text => exact spelled.elim

theorem restored (spelled : e.Spelled) : (e.mapTokens Token.restored).Spelled := by
  induction e with
  | literal token =>
    have same := spelled.2.restored (Derivation.enters_of_literal spelled.1)
    rwa [mapTokens, same]
  | grouping inner ih => exact ih spelled
  | unary operator operand ih => exact ⟨spelled.1, ih spelled.2⟩
  | binary left operator right ihLeft ihRight =>
    exact ⟨spelled.1, ihLeft spelled.2.1, ihRight spelled.2.2⟩
  | stray text => exact spelled.elim

theorem unreadable?_enclosed (spelled : e.Spelled) : e.enclosed.unreadable? = none := by
  induction e with
  | literal token => simp [enclosed, unreadable?, spelled.2.isUnreadable]
  | grouping inner ih => exact ih spelled
  | unary operator operand ih => exact ih spelled.2
  | binary left operator right ihLeft ihRight =>
    simp [enclosed, unreadable?, ihLeft spelled.2.1, ihRight spelled.2.2]
  | stray text => exact spelled.elim

theorem checked_enclosed (spelled : e.Spelled) : e.enclosed.checked = .ok e.enclosed := by
  simp [checked, spelled.unreadable?_enclosed]

-- Of an operator, evaluation sees the kind, the text and the line, and these are kept.
theorem evaluate_restored (spelled : e.Spelled) :
    (e.mapTokens Token.restored).evaluate = e.evaluate := by
  induction e with
  | literal token => rw [mapTokens, spelled.2.restored (Derivation.enters_of_literal spelled.1)]
  | grouping inner ih => exact ih spelled
  | unary operator operand ih =>
    rw [mapTokens, evaluate, evaluate, ih spelled.2]
    rfl
  | binary left operator right ihLeft ihRight =>
    rw [mapTokens, evaluate, evaluate, ihLeft spelled.2.1, ihRight spelled.2.2]
    rfl
  | stray text => exact spelled.elim

theorem mapTokens_restored (spelled : e.Spelled)
    (bare : ∀ operator ∈ e.operators, operator.payload = .absent) :
    e.mapTokens Token.restored = e := by
  induction e with
  | literal token => rw [mapTokens, spelled.2.restored (Derivation.enters_of_literal spelled.1)]
  | grouping inner ih => rw [mapTokens, ih spelled bare]
  | unary operator operand ih =>
    obtain ⟨own, below⟩ := List.forall_mem_cons.1 bare
    rw [mapTokens, Token.restored_of_isOperator (isOperator_of_unary spelled.1) own,
      ih spelled.2 below]
  | binary left operator right ihLeft ihRight =>
    obtain ⟨⟨level, joins⟩, first, second⟩ := spelled
    have before := ihLeft first fun token mem => bare token (by simp [operators, mem])
    have after := ihRight second fun token mem => bare token (by simp [operators, mem])
    have own := bare operator (by simp [operators])
    rw [mapTokens, before, after, Token.restored_of_isOperator (isOperator_of_binary joins) own]
  | stray text => exact spelled.elim

end Spelled

end Expr

namespace Automaton.State

variable {state next : State} {words : List Token}

theorem run_append (fed : state.feed? (words.map Token.restored) = some next) (rest : List Token) :
    state.run (words ++ rest) = next.run rest := by
  induction words generalizing state with
  | nil =>
    cases fed
    rfl
  | cons token words ih =>
    obtain ⟨middle, shifted, fed⟩ := Option.bind_eq_some_iff.1 fed
    have going : token.kind ≠ .eof := by
      intro ends
      have stopped : token.restored.kind = .eof := ends
      rw [shift?_eof stopped] at shifted
      cases shifted
    simp only [List.cons_append, run, if_neg going, shifted]
    exact ih fed

theorem consume_append (fed : state.feed? (words.map Token.restored) = some next)
    (rest : List Token) : state.consume (words ++ rest) = next.consume rest := by
  induction words generalizing state with
  | nil =>
    cases fed
    rfl
  | cons token words ih =>
    obtain ⟨middle, shifted, fed⟩ := Option.bind_eq_some_iff.1 fed
    simp only [List.cons_append, consume, shifted]
    exact ih fed

theorem parse_of_fed {e : Expr} (fed : initial.feed? (words.map Token.restored) = some next)
    (finish : next.finish? = some e) {rest : List Token}
    (ends : ∀ token ∈ rest.head?, token.kind = .eof) :
    Automaton.parse (words ++ rest) = .ok ⟨e, none⟩ := by
  rw [Automaton.parse, run_append fed]
  cases rest with
  | nil => simp [run, finish]
  | cons token rest => simp [run, ends token rfl, finish]

end Automaton.State

namespace Grammar.Derives

variable {words : List Token} {e : Expr} (derived : Derives .expression words e)

include derived

theorem parseExpr_eq {rest : List Token} (ends : ∀ token ∈ rest.head?, token.kind = .eof) :
    ∃ c, (Descent.Cursor.ofTokens (words ++ rest)).parseExpr = .ok e c ∧
      c.pos = words.length ∧ c.tokens = words ++ rest := by
  obtain ⟨state, fed, finish⟩ := Automaton.State.feed?_of_derives derived
  have conserved := (Descent.runs_parseExpr (.ofTokens (words ++ rest))).tokens_eq
  have ended := Descent.settle_eq_parseExpr (.ofTokens (words ++ rest))
  have stopped : state.settle rest = (.ok e, rest) := by
    rw [Automaton.State.settle_of_stop fun token mem =>
      Automaton.State.shift?_eof (ends token mem) state, Automaton.State.verdict, finish]
  rw [show (Descent.Cursor.ofTokens (words ++ rest)).ahead = words ++ rest from rfl,
    Automaton.State.settle_append fed, stopped] at ended
  obtain ⟨outcome, left⟩ := Prod.mk.inj ended
  cases parsed : (Descent.Cursor.ofTokens (words ++ rest)).parseExpr with
  | error error c =>
    rw [parsed] at outcome
    cases outcome
  | ok e' c =>
    rw [parsed] at outcome left conserved
    cases outcome
    refine ⟨c, rfl, ?_, conserved⟩
    -- No token is lost, so what has been taken is what is not left.
    have remaining : rest = c.ahead := left
    have taken : c.behind.reverse ++ rest = words ++ rest := by
      have whole : c.tokens = words ++ rest := conserved
      rwa [Descent.Cursor.tokens, ← remaining] at whole
    rw [Descent.Cursor.pos, ← List.append_cancel_right taken, List.length_reverse]

end Grammar.Derives

namespace Encloses

variable {e : Expr} {words : List Token}

theorem exists_words (spelled : e.Spelled) : ∃ words, Encloses e words := by
  have opens : (Automaton.bare .leftParen).kind = .leftParen := rfl
  have closes : (Automaton.bare .rightParen).kind = .rightParen := rfl
  induction e with
  | literal token => exact ⟨_, .literal token⟩
  | grouping inner ih =>
    obtain ⟨words, within⟩ := ih spelled
    exact ⟨_, .grouping opens within closes⟩
  | unary operator operand ih =>
    obtain ⟨words, within⟩ := ih spelled.2
    exact ⟨_, .unary opens within closes⟩
  | binary left operator right ihLeft ihRight =>
    obtain ⟨before, first⟩ := ihLeft spelled.2.1
    obtain ⟨after, second⟩ := ihRight spelled.2.2
    exact ⟨_, .binary opens first second closes⟩
  | stray text => exact spelled.elim

theorem derives (encloses : Encloses e words) (spelled : e.Spelled) :
    Derives .primary words e.enclosed := by
  -- A group is a primary, so an operation in parentheses is an operand of whatever binds tightest.
  induction encloses with
  | literal token => exact .literal spelled.1
  | grouping opens within closes ih =>
    exact .group opens ((ih spelled).loosen (Nat.zero_le _)) closes
  | unary opens within closes ih =>
    have operation := Derives.unary spelled.1 (ih spelled.2).primary
    exact .group opens (operation.loosen (Nat.zero_le _)) closes
  | binary opens first second closes ihFirst ihSecond =>
    obtain ⟨⟨level, joins⟩, left, right⟩ := spelled
    have leftmost : Derives (.level level) _ _ := (ihFirst left).loosen (by cases level <;> decide)
    have rightmost : Derives (.operand level) _ _ :=
      (ihSecond right).loosen (by cases level <;> decide)
    exact .group opens ((leftmost.binary joins rightmost).loosen (Nat.zero_le _)) closes

end Encloses

theorem read_enclosed {D : Automaton.Driver} (lawful : D.Recognises) {e : Expr}
    (spelled : e.Spelled) :
    (∃ words, Encloses e words) ∧
    ∀ words, Encloses e words → ∃ first second : Expr,
      (∀ rest : List Token, (∀ token ∈ rest.head?, token.kind = .eof) →
        (∃ c, (Descent.Cursor.ofTokens (words ++ rest)).parseExpr = .ok first c ∧
          c.pos = words.length ∧ c.tokens = words ++ rest) ∧
        Automaton.parse (words ++ rest) = .ok ⟨second, none⟩ ∧
        D.parse (words ++ rest) = .ok second) ∧
      D.parseWhole words = .ok second ∧ second.checked = .ok second ∧
      first.ungrouped = e.ungrouped ∧
      second.ungrouped = e.ungrouped.mapTokens Token.restored ∧
      ((∀ operator ∈ e.operators, operator.payload = .absent) → second = first) ∧
      first.evaluate = e.evaluate ∧ second.evaluate = e.evaluate ∧ Answers e.evaluate := by
  refine ⟨Encloses.exists_words spelled, fun words encloses => ?_⟩
  have derived : Derives .expression words e.enclosed :=
    (encloses.derives spelled).loosen (Nat.zero_le _)
  obtain ⟨state, fed, finish⟩ := Automaton.State.feed?_of_derives (derived.map Token.kind_restored)
  rw [← Expr.enclosed_mapTokens] at finish
  refine ⟨e.enclosed, (e.mapTokens Token.restored).enclosed, fun rest ends => ?_, ?_,
    spelled.restored.checked_enclosed, e.ungrouped_enclosed, ?_, fun bare => ?_,
    e.evaluate_enclosed, ?_, Expr.answers_evaluate spelled.wellFormed⟩
  · have parsed := Automaton.State.parse_of_fed fed finish ends
    refine ⟨derived.parseExpr_eq ends, parsed, ?_⟩
    rw [lawful.parse_eq, parsed]
    rfl
  · have going : words.filter (·.kind ≠ .eof) = words := by
      refine List.filter_eq_self.2 fun token mem => ?_
      have taken := Automaton.State.kind_ne_eof_of_feed? fed _ (List.mem_map_of_mem mem)
      simpa using taken
    have consumed := Automaton.State.consume_append fed []
    rw [List.append_nil] at consumed
    rw [lawful.parseWhole_eq, going, consumed]
    simp [Automaton.State.consume, Automaton.State.conclude, finish]
  · rw [Expr.ungrouped_enclosed, Expr.ungrouped_mapTokens]
  · rw [spelled.mapTokens_restored bare]
  · rw [Expr.evaluate_enclosed, spelled.evaluate_restored]

-- An equation under a minus sign. No source text has this tree, as equations bind less tightly.
def Expr.negatedEquation : Expr :=
  .unary ⟨.minus, "-", 2, .absent⟩
    (.binary (.literal ⟨.kwNil, "nil", 1, .absent⟩) ⟨.equalEqual, "==", 1, .absent⟩
      (.literal ⟨.kwTrue, "true", 1, .absent⟩))

theorem Expr.spelled_negatedEquation : negatedEquation.Spelled :=
  ⟨by decide, ⟨.equality, by decide⟩, ⟨by decide, nofun, nofun, fun _ _ _ => rfl⟩,
    ⟨by decide, nofun, nofun, fun _ _ _ => rfl⟩⟩

theorem read_enclosed_negatedEquation :
    Automaton.Driver.automaton.Recognises ∧ Expr.negatedEquation.Spelled ∧
      ∃ words, Encloses Expr.negatedEquation words ∧ words.map Token.kind =
        [.leftParen, .minus, .leftParen, .kwNil, .equalEqual, .kwTrue, .rightParen, .rightParen] ∧
      ∃ e c, (Descent.Cursor.ofTokens words).parseExpr = .ok e c ∧ c.pos = 8 ∧
        e.evaluate = .error (.typing ⟨.numberExpected, 2⟩) := by
  have lawful := Automaton.Driver.recognises_automaton
  have opens : (Automaton.bare .leftParen).kind = .leftParen := rfl
  have closes : (Automaton.bare .rightParen).kind = .rightParen := rfl
  have encloses : Encloses Expr.negatedEquation _ :=
    .unary opens (.binary opens (.literal _) (.literal _) closes) closes
  obtain ⟨e, _, reads, -, -, -, -, -, evaluated, -⟩ :=
    (read_enclosed lawful Expr.spelled_negatedEquation).2 _ encloses
  obtain ⟨⟨c, parsed, pos, -⟩, -⟩ := reads [] nofun
  exact ⟨lawful, Expr.spelled_negatedEquation, _, encloses, rfl, e, c, parsed, pos, evaluated⟩

end Lox
