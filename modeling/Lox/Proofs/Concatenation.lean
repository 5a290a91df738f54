import Lox.Proofs.Consumption
import Lox.Proofs.Enclosure
import Lox.Proofs.Lexical.Layout

set_option autoImplicit false

namespace Lox

open Grammar

namespace Value

theorem ofLiteral_eq_string {token : Token} {text : String}
    (means : ofLiteral token = .ok (.string text)) :
    token.kind = .string ∧ token.payload.contents = text := by
  unfold ofLiteral at means
  split at means
  · cases means
  · split at means <;> cases means
  · cases means
  · next string =>
    cases means
    exact ⟨string, rfl⟩
  all_goals cases means

theorem applyUnary_ne_string (operator : Token) (operand : Value) (text : String) :
    applyUnary operator operand ≠ .ok (.string text) := by
  unfold applyUnary
  split
  · split <;> nofun
  · nofun
  · nofun

theorem onNumbers_ne_string {operator : Token} {operation : Float → Float → Value}
    (apart : ∀ a b text, operation a b ≠ .string text) (left right : Value) (text : String) :
    onNumbers operator operation left right ≠ .ok (.string text) := by
  unfold onNumbers
  split
  · simp [apart]
  · nofun

theorem add_eq_string {operator : Token} {left right : Value} {text : String}
    (added : add operator left right = .ok (.string text)) :
    ∃ a b, left = .string a ∧ right = .string b ∧ a ++ b = text := by
  unfold add at added
  split at added
  · cases added
  · cases added
    exact ⟨_, _, rfl, rfl, rfl⟩
  · cases added

theorem applyBinary_eq_string {operator : Token} {left right : Value} {text : String}
    (applied : applyBinary operator left right = .ok (.string text)) :
    operator.kind = .plus ∧ ∃ a b, left = .string a ∧ right = .string b ∧ a ++ b = text := by
  unfold applyBinary at applied
  split at applied
  · next plus => exact ⟨plus, add_eq_string applied⟩
  iterate 7
    · exact absurd applied (onNumbers_ne_string (by nofun) left right text)
  · cases applied
  · cases applied
  · cases applied

end Value

namespace Expr

def leaves : Expr → List Token
  | literal token => [token]
  | grouping inner => inner.leaves
  | unary _ operand => operand.leaves
  | binary left _ right => left.leaves ++ right.leaves
  | stray _ => []

theorem evaluate_unary_ne_string (operator : Token) (operand : Expr) (text : String) :
    (unary operator operand).evaluate ≠ .ok (.string text) := by
  rw [evaluate]
  cases operand.evaluate with
  | error fault =>
    intro same
    cases same
  | ok value => exact Value.applyUnary_ne_string operator value text

theorem evaluate_binary_eq_string {left right : Expr} {operator : Token} {text : String}
    (evaluated : (binary left operator right).evaluate = .ok (.string text)) :
    operator.kind = .plus ∧ ∃ a b, left.evaluate = .ok (.string a) ∧
      right.evaluate = .ok (.string b) ∧ a ++ b = text := by
  rw [evaluate] at evaluated
  split at evaluated
  · next first doneLeft =>
    split at evaluated
    · next second doneRight =>
      obtain ⟨plus, a, b, rfl, rfl, joined⟩ := Value.applyBinary_eq_string evaluated
      exact ⟨plus, a, b, doneLeft, doneRight, joined⟩
    · cases evaluated
  · cases evaluated

structure Joins (e : Expr) (text : String) : Prop where
  operators : ∀ operator ∈ e.operators, operator.kind = .plus
  leaves : ∀ leaf ∈ e.leaves, leaf.kind = .string
  joined : text = String.join (e.leaves.map fun leaf => leaf.payload.contents)

theorem joins_of_evaluate {e : Expr} {text : String}
    (evaluated : e.evaluate = .ok (.string text)) : e.Joins text := by
  induction e generalizing text with
  | literal token =>
    obtain ⟨string, rfl⟩ := Value.ofLiteral_eq_string evaluated
    exact ⟨nofun, by simpa [leaves] using string, by simp [leaves]⟩
  | grouping inner ih =>
    obtain ⟨operators, strings, joined⟩ := ih evaluated
    exact ⟨operators, strings, joined⟩
  | unary operator operand =>
    exact absurd evaluated (evaluate_unary_ne_string operator operand text)
  | binary left operator right ihLeft ihRight =>
    obtain ⟨plus, a, b, first, second, rfl⟩ := evaluate_binary_eq_string evaluated
    have before := ihLeft first
    have after := ihRight second
    refine ⟨?_, ?_, ?_⟩
    · simp only [operators, List.forall_mem_append, List.forall_mem_cons]
      exact ⟨before.operators, plus, after.operators⟩
    · simp only [leaves, List.forall_mem_append]
      exact ⟨before.leaves, after.leaves⟩
    · rw [before.joined, after.joined, leaves, List.map_append, String.join_append]
  | stray text => cases evaluated

end Expr

theorem Grammar.Derivation.leaves_tree {symbol : Symbol} (d : Derivation symbol) :
    d.tree.leaves = d.tokens.filter fun token => token.kind.isLiteral := by
  induction d with
  | operand level part ih => exact ih
  | binary level left operator joins right ihLeft ihRight =>
    have operates := Kind.isLiteral_of_isOperator (isOperator_of_binary joins)
    simp [tree, tokens, Expr.leaves, ihLeft, ihRight, operates]
  | unary operator begins inner ih =>
    have operates := Kind.isLiteral_of_isOperator (isOperator_of_unary begins)
    simp [tree, tokens, Expr.leaves, ih, operates]
  | primary part ih => exact ih
  | literal token stands => simp [tree, tokens, Expr.leaves, (isLiteral_iff_mem _).2 stands]
  | group opening opens inner closing closes ih =>
    simp [tree, tokens, Expr.leaves, ih, opens, closes, Kind.isLiteral]

theorem Lexical.Lexed.exists_body {token : Token} (lexed : Lexed token)
    (string : token.kind = .string) :
    ∃ body : List Char, '"' ∉ body ∧ token.payload = .text (String.ofList body) := by
  obtain ⟨kind, lexeme, line, payload⟩ := token
  obtain ⟨rule, fits, emits⟩ := lexed
  obtain rfl : kind = .string := string
  generalize written : lexeme.toList = text at fits emits
  cases emits with
  | fixed =>
    have none : ∀ entry ∈ fixedLexemes, entry.2 ≠ .string := by decide
    cases fits with
    | fixed mem => exact absurd rfl (none _ mem)
  | @string body =>
    generalize shape : '"' :: body ++ ['"'] = text at fits
    cases fits with
    | string inside =>
      obtain rfl : body = _ := by simpa using shape
      exact ⟨body, inside, rfl⟩
  | keyword known =>
    have none : ∀ entry ∈ Kind.keywords, entry.2 ≠ .string := by decide
    exact absurd rfl (none _ known)

theorem exists_body_of_scan {source : String} {tokens : List Token}
    (scanned : scan source = .ok tokens) {token : Token} (mem : token ∈ tokens)
    (string : token.kind = .string) :
    ∃ body : List Char, '"' ∉ body ∧ token.payload = .text (String.ofList body) := by
  obtain ⟨words, rfl, lexed⟩ := (Lexical.scans_scan source).lexed tokens scanned
  rcases List.mem_append.1 mem with mem | mem
  · exact (lexed token mem).exists_body string
  · obtain rfl := List.mem_singleton.1 mem
    cases string

namespace Expr.Joins

variable {tokens : List Token} {text : String} {d : Derivation .expression}

theorem leaves_eq (joins : d.tree.Joins text) :
    d.tree.leaves = d.tokens.filter fun token => token.kind = .string := by
  have strings := joins.leaves
  rw [d.leaves_tree] at strings ⊢
  refine List.filter_congr fun token mem => ?_
  by_cases literal : token.kind.isLiteral = true
  · have string := strings token (List.mem_filter.2 ⟨mem, literal⟩)
    simp [string, Kind.isLiteral]
  · have other : token.kind ≠ .string := fun string => literal (by simp [string, Kind.isLiteral])
    simp [literal, other]

theorem exists_texts (joins : d.tree.Joins text)
    (bodies : ∀ token ∈ d.tokens, token.kind = .string →
      ∃ body : List Char, '"' ∉ body ∧ token.payload = .text (String.ofList body)) :
    (∃ texts : List String,
      (d.tokens.filter fun token => token.kind = .string).map Token.payload =
        texts.map Payload.text ∧ text = String.join texts) ∧
    '"' ∉ text.toList := by
  have known : ∀ leaf ∈ d.tokens.filter (fun token => token.kind = .string),
      ∃ body : List Char, '"' ∉ body ∧ leaf.payload = .text (String.ofList body) := by
    intro leaf mem
    obtain ⟨mem, string⟩ := List.mem_filter.1 mem
    exact bodies leaf mem (of_decide_eq_true string)
  have joined := joins.joined
  rw [joins.leaves_eq] at joined
  constructor
  · refine ⟨_, ?_, joined⟩
    rw [List.map_map]
    refine List.map_congr_left fun leaf mem => ?_
    obtain ⟨body, -, payload⟩ := known leaf mem
    simp [payload, Payload.contents]
  · rw [joined, String.toList_join]
    intro quoted
    obtain ⟨part, listed, quoted⟩ := List.mem_flatMap.1 quoted
    obtain ⟨leaf, mem, rfl⟩ := List.mem_map.1 listed
    obtain ⟨body, inside, payload⟩ := known leaf mem
    rw [payload, Payload.contents, String.toList_ofList] at quoted
    exact inside quoted

end Expr.Joins

theorem runSource_concatenates {method : Method} {source text : String}
    (ran : runSource method source = .ok (.string text)) :
    ∃ tokens e, scan source = .ok tokens ∧ readSource method source = .ok e ∧
      (∀ operator ∈ e.operators, operator.kind = .plus) ∧
      (∀ leaf ∈ e.leaves, leaf.kind = .string) ∧
      (∃ texts : List String,
        ((method.taken tokens).filter fun token => token.kind = .string).map Token.payload =
          texts.map Payload.text ∧ text = String.join texts) ∧
      '"' ∉ text.toList ∧
      ∀ D : Automaton.Driver, D.Recognises →
        D.read source = .ok e ∧ D.taken D.initial tokens = method.taken tokens := by
  rcases runSource_cases method source with ⟨error, -, failed⟩ | ⟨e, value, read, evaluated, done⟩ |
    ⟨e, fault, -, -, failed⟩
  · cases failed.symm.trans ran
  · cases done.symm.trans ran
    have found := (readSource_eq_descent method source).symm.trans read
    obtain ⟨tokens, scanned, parsed⟩ := exists_tokens_of_readSource found
    have spelled := Lexical.spelled_of_scan scanned
    obtain ⟨d, rfl, words⟩ := exists_derivation_taken parsed
    have joins := Expr.joins_of_evaluate evaluated
    have taken : d.tokens = method.taken tokens := words.trans (method.taken_eq spelled).symm
    obtain ⟨state, rest, split, -⟩ := Descent.exists_state_taken tokens
    have bodies := joins.exists_texts fun token mem => exists_body_of_scan scanned <| by
      rw [split, ← words]
      exact List.mem_append_left rest mem
    rw [taken] at bodies
    refine ⟨tokens, d.tree, scanned, read, joins.operators, joins.leaves, bodies.1, bodies.2,
      fun D lawful => ⟨?_, ?_⟩⟩
    · exact (lawful.read_eq source).trans ((readSource_eq source).trans found)
    · exact (lawful.taken_eq_descent spelled).trans (method.taken_eq spelled).symm
  · cases failed.symm.trans ran

namespace Lexical.Layout

def joined : Layout :=
  .row space_mem_blanks [⟨.string, "\"a\"", 1, .text "a"⟩, ⟨.plus, "+", 1, .absent⟩,
    ⟨.leftParen, "(", 1, .absent⟩, ⟨.string, "\"b\"", 1, .text "b"⟩,
    ⟨.rightParen, ")", 1, .absent⟩]

theorem lexed_joined : ∀ word ∈ joined.words, Lexed word := by
  have string (c : Char) (proper : '"' ∉ [c]) := Lexed.string proper 1
  simp only [joined, words_row, List.forall_mem_cons, List.not_mem_nil, false_implies,
    implies_true, and_true]
  exact ⟨string 'a' (by decide), .fixed (by decide) 1, .fixed (by decide) 1,
    string 'b' (by decide), .fixed (by decide) 1⟩

end Lexical.Layout

theorem runSource_concatenates_joined :
    runSource .automaton "\"a\" + ( \"b\" )" = .ok (.string ("a" ++ "b")) ∧
      '"' ∉ ("a" ++ "b").toList := by
  have scanned := Lexical.Layout.joined.scan_source Lexical.Layout.lexed_joined
  have ran : runSource .automaton Lexical.Layout.joined.source = .ok (.string ("a" ++ "b")) :=
    runSource_of_parse scanned ((parse_eq_settle _).trans rfl) rfl .automaton
  obtain ⟨tokens, e, -, -, -, -, -, unquoted, -⟩ := runSource_concatenates ran
  exact ⟨ran, unquoted⟩

end Lox
