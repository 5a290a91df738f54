import Lox.Pipeline
import Lox.Proofs.Automaton.Driver
import Lox.Proofs.Descent.Exactness
import Lox.Proofs.Lexical.Spelling

set_option autoImplicit false

namespace Lox

open Grammar

namespace Automaton.State

theorem shift?_restored {token : Token} (spelled : token.Spelled) (state : State) :
    state.shift? token.restored = state.shift? token := by
  by_cases enters : token.kind.enters = true
  · rw [spelled.restored enters]
  · -- Of a token that no tree holds, only the kind is looked at.
    simp only [Kind.enters, Bool.or_eq_true, not_or, Bool.not_eq_true, Option.isSome_eq_false_iff,
      Option.isNone_iff_eq_none] at enters
    obtain ⟨⟨literal, unary⟩, binary⟩ := enters
    cases state <;> simp only [shift?, Token.kind_restored, literal, unary, binary] <;> rfl

theorem map_stop_eq (state : State) (found before : Option Token) :
    (match state.finish? with
      | some e => Except.ok (⟨e, before⟩ : Stopped)
      | none => .error (state.rejection found)).map Stopped.expr = state.verdict found := by
  cases finish : state.finish? <;> simp [verdict, finish, Except.map]

theorem run_eq_settle {tokens : List Token} (spelled : ∀ token ∈ tokens, token.Spelled)
    (state : State) : (state.run tokens).map Stopped.expr = (state.settle tokens).1 := by
  -- One takes restored tokens, the other takes them as they are.
  induction tokens generalizing state with
  | nil => exact map_stop_eq state none none
  | cons token rest ih =>
    have first := shift?_restored (spelled token (by simp)) state
    by_cases ends : token.kind = .eof
    · simp only [run, if_pos ends, settle, shift?_eof ends]
      exact map_stop_eq state (some token) none
    · simp only [run, if_neg ends, settle, first]
      cases state.shift? token with
      | none => exact map_stop_eq state (some token) (some token)
      | some next => exact ih (fun token mem => spelled token (by simp [mem])) next

end Automaton.State

theorem parse_eq_outcome (tokens : List Token) :
    parse tokens = Descent.Result.outcome (Descent.Cursor.ofTokens tokens).parseExpr := by
  rw [parse]
  cases (Descent.Cursor.ofTokens tokens).parseExpr <;> rfl

theorem parse_eq_settle (tokens : List Token) :
    parse tokens = (Automaton.State.initial.settle tokens).1 := by
  have settled := Descent.settle_eq_parseExpr (.ofTokens tokens)
  rw [parse_eq_outcome]
  exact (congrArg Prod.fst settled).symm

theorem automaton_parse_eq {tokens : List Token} (spelled : ∀ token ∈ tokens, token.Spelled) :
    Method.automaton.parse tokens = Method.descent.parse tokens :=
  (Automaton.State.run_eq_settle spelled .initial).trans (parse_eq_settle tokens).symm

def Descent.taken (tokens : List Token) : List Token :=
  (Result.cursor (Cursor.ofTokens tokens).parseExpr).behind.reverse

theorem Descent.exists_state_taken (tokens : List Token) :
    ∃ state rest, tokens = taken tokens ++ rest ∧
      Automaton.State.initial.feed? (taken tokens) = some state ∧
      (∀ token ∈ rest.head?, state.shift? token = none) ∧
      parse tokens = state.verdict rest.head? := by
  obtain ⟨words, rest, state, c, split, fed, stop, conserved, pos, parsed⟩ := parseExpr_eq tokens
  have ended : Result.cursor (Cursor.ofTokens tokens).parseExpr = c := by
    rw [parsed]
    cases state.verdict rest.head? <;> rfl
  have whole : c.behind.reverse ++ c.ahead = words ++ rest := conserved.trans split
  have same : taken tokens = words := by
    rw [taken, ended]
    exact (List.append_inj whole (List.length_reverse.trans pos)).1
  refine ⟨state, rest, by rw [same, split], by rw [same, fed], stop, ?_⟩
  rw [parse_eq_outcome, parsed]
  cases state.verdict rest.head? <;> rfl

theorem exists_derivation_taken {tokens : List Token} {e : Expr} (parsed : parse tokens = .ok e) :
    ∃ d : Derivation .expression, d.tree = e ∧ d.tokens = Descent.taken tokens := by
  obtain ⟨state, rest, -, fed, -, ended⟩ := Descent.exists_state_taken tokens
  rw [ended, Automaton.State.verdict] at parsed
  cases finish : state.finish? with
  | none =>
    rw [finish] at parsed
    cases parsed
  | some e' =>
    rw [finish] at parsed
    cases parsed
    obtain ⟨d, words, tree⟩ := (Automaton.State.finish?_eq_some_iff fed e).1 finish
    exact ⟨d, tree, words⟩

theorem exists_derivation {tokens : List Token} {e : Expr} (parsed : parse tokens = .ok e) :
    ∃ d : Derivation .expression, d.tree = e ∧ d.tokens <+: tokens := by
  obtain ⟨d, tree, words⟩ := exists_derivation_taken parsed
  obtain ⟨state, rest, split, -⟩ := Descent.exists_state_taken tokens
  exact ⟨d, tree, rest, by rw [words, ← split]⟩

namespace Grammar.Derivation

theorem enters_of_literal {kind : Kind} (h : kind ∈ literals) : kind.enters = true := by
  simp [Kind.enters, (isLiteral_iff_mem kind).2 h]

variable {symbol : Symbol} (d : Derivation symbol) (spelled : ∀ token ∈ d.tokens, token.Spelled)

include spelled

theorem unreadable?_tree : d.tree.unreadable? = none := by
  refine d.tree_induction (fun e => e.unreadable? = none) ?_ ?_ ?_ ?_ spelled
  · intro token stands spelled
    simp [Expr.unreadable?, spelled.isUnreadable]
  · intro inner readable
    exact readable
  · intro operator inner begins spelled readable
    exact readable
  · intro level left operator right joins spelled first second
    simp [Expr.unreadable?, first, second]

theorem alike_tree : d.tree.alike d.tree = true := by
  refine d.tree_induction (fun e => e.alike e = true) ?_ ?_ ?_ ?_ spelled
  · intro token stands spelled
    simp [Expr.alike, spelled.agrees (enters_of_literal stands)]
  · intro inner same
    exact same
  · intro operator inner begins spelled same
    simp [Expr.alike, same]
  · intro level left operator right joins spelled first second
    simp [Expr.alike, first, second]

end Grammar.Derivation

theorem checked_of_parse {tokens : List Token} {e : Expr}
    (spelled : ∀ token ∈ tokens, token.Spelled) (parsed : parse tokens = .ok e) :
    e.checked = .ok e := by
  obtain ⟨d, rfl, begins⟩ := exists_derivation parsed
  have readable := d.unreadable?_tree fun token mem => spelled token (begins.subset mem)
  simp [Expr.checked, readable]

theorem alike_of_parse {tokens : List Token} {e : Expr}
    (spelled : ∀ token ∈ tokens, token.Spelled) (parsed : parse tokens = .ok e) :
    e.alike e = true := by
  obtain ⟨d, rfl, begins⟩ := exists_derivation parsed
  exact d.alike_tree fun token mem => spelled token (begins.subset mem)

theorem readSource_eq (source : String) :
    readSource .automaton source = readSource .descent source := by
  unfold readSource
  cases scanned : scan source with
  | error e => rfl
  | ok tokens =>
    simp only [automaton_parse_eq (Lexical.spelled_of_scan scanned)]

theorem exists_tokens_of_readSource {source : String} {e : Expr}
    (found : readSource .descent source = .ok e) :
    ∃ tokens, scan source = .ok tokens ∧ parse tokens = .ok e := by
  unfold readSource at found
  cases scanned : scan source with
  | error error =>
    rw [scanned] at found
    cases found
  | ok tokens =>
    simp only [scanned, Method.parse] at found
    cases parsed : parse tokens with
    | error error =>
      rw [parsed] at found
      cases found
    | ok e' =>
      rw [parsed] at found
      cases found
      exact ⟨tokens, rfl, parsed⟩

theorem methodsAgree_ne_false (source : String) : methodsAgree source ≠ .ok false := by
  unfold methodsAgree
  rw [readSource_eq]
  cases found : readSource .descent source with
  | error e => nofun
  | ok e =>
    obtain ⟨tokens, scanned, parsed⟩ := exists_tokens_of_readSource found
    simp [alike_of_parse (Lexical.spelled_of_scan scanned) parsed]

namespace Automaton.Driver

def read (D : Driver) (source : String) : Except SyntaxError Expr :=
  match scan source with
  | .error e => .error (.lexical e)
  | .ok tokens =>
    match D.parse tokens with
    | .error e => .error (.grammatical e)
    | .ok e => .ok e

theorem Recognises.read_eq {D : Driver} (lawful : D.Recognises) (source : String) :
    D.read source = readSource .automaton source := by
  unfold read readSource
  cases scan source with
  | error e => rfl
  | ok tokens =>
    have same : D.parse tokens = Method.automaton.parse tokens := lawful.parse_eq tokens
    cases parsed : Method.automaton.parse tokens <;> simp only [same, parsed]

theorem agrees_with_descent {D : Driver} (lawful : D.Recognises) :
    (∀ tokens : List Token, (∀ token ∈ tokens, token.Spelled) →
      D.parse tokens = Method.descent.parse tokens ∧
        Method.automaton.parse tokens = Method.descent.parse tokens ∧
        ∀ e, Method.descent.parse tokens = .ok e → e.checked = .ok e) ∧
    ∀ source : String, D.read source = readSource .descent source ∧
      readSource .automaton source = readSource .descent source ∧
      methodsAgree source ≠ .ok false := by
  constructor
  · intro tokens spelled
    have same := automaton_parse_eq spelled
    exact ⟨(lawful.parse_eq tokens).trans same, same, fun e => checked_of_parse spelled⟩
  · intro source
    have same := readSource_eq source
    exact ⟨(lawful.read_eq source).trans same, same, methodsAgree_ne_false source⟩

def sum : List Token :=
  [⟨.number, "1", 1, .number (Number.Decimal.mk (Number.ofDigits ['1']) 0).toNumber⟩,
    ⟨.plus, "+", 1, .absent⟩,
    ⟨.number, "2", 1, .number (Number.Decimal.mk (Number.ofDigits ['2']) 0).toNumber⟩]

theorem spelled_sum : ∀ token ∈ sum, token.Spelled := by
  have digits (c : Char) (digit : Text.isDigit c = true) : Lexical.Digits [c] :=
    ⟨by simp, by simpa using digit⟩
  simp only [sum, List.forall_mem_cons, List.not_mem_nil, false_implies, implies_true, and_true]
  refine ⟨⟨fun _ => ⟨_, .whole (digits '1' (by decide)), rfl⟩, nofun, fun _ other => ?_⟩,
    ⟨nofun, nofun, fun _ _ _ => rfl⟩,
    ⟨fun _ => ⟨_, .whole (digits '2' (by decide)), rfl⟩, nofun, fun _ other => ?_⟩⟩
  · exact absurd rfl other
  · exact absurd rfl other

theorem agrees_with_descent_sum : automaton.Recognises ∧ (∀ token ∈ sum, token.Spelled) ∧
    automaton.parse sum = Method.descent.parse sum :=
  ⟨recognises_automaton, spelled_sum,
    ((agrees_with_descent recognises_automaton).1 sum spelled_sum).1⟩

end Automaton.Driver

end Lox
