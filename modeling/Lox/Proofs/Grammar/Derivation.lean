import Lox.Expr.Basic
import Lox.Precedence

set_option autoImplicit false

namespace Lox

def Expr.mapTokens (f : Token → Token) : Expr → Expr
  | .literal token => .literal (f token)
  | .grouping inner => .grouping (inner.mapTokens f)
  | .unary operator operand => .unary (f operator) (operand.mapTokens f)
  | .binary left operator right => .binary (left.mapTokens f) (f operator) (right.mapTokens f)
  | .stray text => .stray text

end Lox

namespace Lox.Grammar

inductive Symbol where
  | level (level : Level)
  | unary
  | primary
  deriving DecidableEq

namespace Symbol

abbrev expression : Symbol := .level .equality

def operand : Level → Symbol
  | .equality => .level .comparison
  | .comparison => .level .term
  | .term => .level .factor
  | .factor => .unary

def rank : Symbol → Nat
  | .level l => l.strength
  | .unary => 4
  | .primary => 5

@[simp] theorem rank_level (l : Level) : (Symbol.level l).rank = l.strength := rfl

@[simp] theorem rank_operand (l : Level) : (operand l).rank = l.strength + 1 := by
  cases l <;> rfl

theorem eq_of_rank_eq {a b : Symbol} (h : a.rank = b.rank) : a = b := by
  rcases a with l | _ | _ <;> rcases b with m | _ | _ <;> try rfl
  · cases l <;> cases m <;> first | rfl | cases h
  · cases l <;> cases h
  · cases l <;> cases h
  · cases m <;> cases h
  · cases h
  · cases m <;> cases h
  · cases h

end Symbol

def binaryOperators : Level → List Kind
  | .equality => [.bangEqual, .equalEqual]
  | .comparison => [.greater, .greaterEqual, .less, .lessEqual]
  | .term => [.minus, .plus]
  | .factor => [.slash, .star]

def unaryOperators : List Kind :=
  [.bang, .minus]

def literals : List Kind :=
  [.number, .string, .kwTrue, .kwFalse, .kwNil]

theorem has_iff_mem (level : Level) (kind : Kind) :
    level.has kind = true ↔ kind ∈ binaryOperators level := by
  cases level <;> cases kind <;> decide

theorem ofKind?_eq_some_iff (level : Level) (kind : Kind) :
    Level.ofKind? kind = some level ↔ kind ∈ binaryOperators level := by
  rw [← Level.has_iff_ofKind?, has_iff_mem]

theorem isUnary_iff_mem (kind : Kind) : kind.isUnary = true ↔ kind ∈ unaryOperators := by
  cases kind <;> decide

theorem isLiteral_iff_mem (kind : Kind) : kind.isLiteral = true ↔ kind ∈ literals := by
  cases kind <;> decide

inductive Derivation : Symbol → Type where
  | operand (level : Level) (part : Derivation (.operand level)) : Derivation (.level level)
  | binary (level : Level) (left : Derivation (.level level)) (operator : Token)
      (joins : operator.kind ∈ binaryOperators level) (right : Derivation (.operand level)) :
      Derivation (.level level)
  | unary (operator : Token) (begins : operator.kind ∈ unaryOperators)
      (inner : Derivation .unary) : Derivation .unary
  | primary (part : Derivation .primary) : Derivation .unary
  | literal (token : Token) (stands : token.kind ∈ literals) : Derivation .primary
  | group (opening : Token) (opens : opening.kind = .leftParen)
      (inner : Derivation .expression) (closing : Token) (closes : closing.kind = .rightParen) :
      Derivation .primary

namespace Derivation

def tokens {symbol : Symbol} : Derivation symbol → List Token
  | .operand _ part => part.tokens
  | .binary _ left operator _ right => left.tokens ++ operator :: right.tokens
  | .unary operator _ inner => operator :: inner.tokens
  | .primary part => part.tokens
  | .literal token _ => [token]
  | .group opening _ inner closing _ => opening :: inner.tokens ++ [closing]

def tree {symbol : Symbol} : Derivation symbol → Expr
  | .operand _ part => part.tree
  | .binary _ left operator _ right => .binary left.tree operator right.tree
  | .unary operator _ inner => .unary operator inner.tree
  | .primary part => part.tree
  | .literal token _ => .literal token
  | .group _ _ inner _ _ => .grouping inner.tree

def map (f : Token → Token) (keeps : ∀ token, (f token).kind = token.kind) {symbol : Symbol} :
    Derivation symbol → Derivation symbol
  | .operand level part => .operand level (part.map f keeps)
  | .binary level left operator joins right =>
    .binary level (left.map f keeps) (f operator) (keeps operator ▸ joins) (right.map f keeps)
  | .unary operator begins inner =>
    .unary (f operator) (keeps operator ▸ begins) (inner.map f keeps)
  | .primary part => .primary (part.map f keeps)
  | .literal token stands => .literal (f token) (keeps token ▸ stands)
  | .group opening opens inner closing closes =>
    .group (f opening) ((keeps opening).trans opens) (inner.map f keeps) (f closing)
      ((keeps closing).trans closes)

theorem tokens_map (f : Token → Token) (keeps : ∀ token, (f token).kind = token.kind)
    {symbol : Symbol} (d : Derivation symbol) : (d.map f keeps).tokens = d.tokens.map f := by
  induction d <;> simp_all [map, tokens]

theorem tree_map (f : Token → Token) (keeps : ∀ token, (f token).kind = token.kind)
    {symbol : Symbol} (d : Derivation symbol) : (d.map f keeps).tree = d.tree.mapTokens f := by
  induction d <;> simp_all [map, tree, Expr.mapTokens]

theorem exists_tokens_eq {symbol : Symbol} (d : Derivation symbol) (words : List Token)
    (kinds : words.map Token.kind = d.tokens.map Token.kind) :
    ∃ d' : Derivation symbol, d'.tokens = words := by
  -- The same productions, with the words dealt out to them by the lengths of the parts.
  induction d generalizing words with
  | operand level part ih =>
    obtain ⟨part', rfl⟩ := ih words kinds
    exact ⟨.operand level part', rfl⟩
  | binary level left operator joins right ihLeft ihRight =>
    simp only [tokens, List.map_append, List.map_cons] at kinds
    obtain ⟨before, after, rfl, sameLeft, sameAfter⟩ := List.map_eq_append_iff.1 kinds
    obtain ⟨operator', rest, rfl, sameKind, sameRight⟩ := List.map_eq_cons_iff.1 sameAfter
    obtain ⟨left', rfl⟩ := ihLeft before sameLeft
    obtain ⟨right', rfl⟩ := ihRight rest sameRight
    exact ⟨.binary level left' operator' (sameKind ▸ joins) right', rfl⟩
  | unary operator begins inner ih =>
    simp only [tokens, List.map_cons] at kinds
    obtain ⟨operator', rest, rfl, sameKind, same⟩ := List.map_eq_cons_iff.1 kinds
    obtain ⟨inner', rfl⟩ := ih rest same
    exact ⟨.unary operator' (sameKind ▸ begins) inner', rfl⟩
  | primary part ih =>
    obtain ⟨part', rfl⟩ := ih words kinds
    exact ⟨.primary part', rfl⟩
  | literal token stands =>
    simp only [tokens, List.map_cons, List.map_nil] at kinds
    obtain ⟨token', rest, rfl, sameKind, same⟩ := List.map_eq_cons_iff.1 kinds
    obtain rfl := List.map_eq_nil_iff.1 same
    exact ⟨.literal token' (sameKind ▸ stands), rfl⟩
  | group opening opens inner closing closes ih =>
    simp only [tokens, List.map_append, List.map_cons, List.map_nil] at kinds
    obtain ⟨before, after, rfl, sameBefore, sameAfter⟩ := List.map_eq_append_iff.1 kinds
    obtain ⟨opening', middle, rfl, sameOpening, sameInner⟩ := List.map_eq_cons_iff.1 sameBefore
    obtain ⟨closing', rest, rfl, sameClosing, none⟩ := List.map_eq_cons_iff.1 sameAfter
    obtain rfl := List.map_eq_nil_iff.1 none
    obtain ⟨inner', rfl⟩ := ih middle sameInner
    exact ⟨.group opening' (sameOpening.trans opens) inner' closing' (sameClosing.trans closes),
      rfl⟩

theorem tree_induction {sort : Token → Prop} (holds : Expr → Prop)
    (literal : ∀ token, token.kind ∈ literals → sort token → holds (.literal token))
    (grouping : ∀ inner, holds inner → holds (.grouping inner))
    (unary : ∀ operator inner, operator.kind ∈ unaryOperators → sort operator → holds inner →
      holds (.unary operator inner))
    (binary : ∀ level left operator right, operator.kind ∈ binaryOperators level →
      sort operator → holds left → holds right → holds (.binary left operator right))
    {symbol : Symbol} (d : Derivation symbol) (all : ∀ token ∈ d.tokens, sort token) :
    holds d.tree := by
  -- Parentheses leave no trace in a tree, so their tokens need not be of the sort.
  induction d with
  | operand level part ih => exact ih all
  | binary level left operator joins right ihLeft ihRight =>
    have first := ihLeft fun token mem => all token (by simp [tokens, mem])
    have second := ihRight fun token mem => all token (by simp [tokens, mem])
    exact binary level _ operator _ joins (all operator (by simp [tokens])) first second
  | unary operator begins inner ih =>
    have below := ih fun token mem => all token (by simp [tokens, mem])
    exact unary operator _ begins (all operator (by simp [tokens])) below
  | primary part ih => exact ih all
  | literal token stands => exact literal token stands (all token (by simp [tokens]))
  | group opening opens inner closing closes ih =>
    exact grouping _ (ih fun token mem => all token (by simp [tokens, mem]))

end Derivation

def Derives (symbol : Symbol) (words : List Token) (e : Expr) : Prop :=
  ∃ d : Derivation symbol, d.tokens = words ∧ d.tree = e

namespace Derives

variable {words before after : List Token} {e left right : Expr} {operator token : Token}

theorem map {symbol : Symbol} {f : Token → Token} (keeps : ∀ token, (f token).kind = token.kind)
    (derived : Derives symbol words e) : Derives symbol (words.map f) (e.mapTokens f) := by
  obtain ⟨d, rfl, rfl⟩ := derived
  exact ⟨d.map f keeps, d.tokens_map .., d.tree_map ..⟩

theorem literal (h : token.kind ∈ literals) : Derives .primary [token] (.literal token) :=
  ⟨.literal token h, rfl, rfl⟩

theorem group {opening closing : Token} (opens : opening.kind = .leftParen)
    (inner : Derives .expression words e) (closes : closing.kind = .rightParen) :
    Derives .primary (opening :: words ++ [closing]) (.grouping e) := by
  obtain ⟨d, rfl, rfl⟩ := inner
  exact ⟨.group opening opens d closing closes, rfl, rfl⟩

theorem unary (begins : operator.kind ∈ unaryOperators) (inner : Derives .unary words e) :
    Derives .unary (operator :: words) (.unary operator e) := by
  obtain ⟨d, rfl, rfl⟩ := inner
  exact ⟨.unary operator begins d, rfl, rfl⟩

theorem binary {level : Level} (first : Derives (.level level) before left)
    (joins : operator.kind ∈ binaryOperators level)
    (second : Derives (.operand level) after right) :
    Derives (.level level) (before ++ operator :: after) (.binary left operator right) := by
  obtain ⟨d, rfl, rfl⟩ := first
  obtain ⟨d', rfl, rfl⟩ := second
  exact ⟨.binary level d operator joins d', rfl, rfl⟩

theorem operand (level : Level) (part : Derives (.operand level) words e) :
    Derives (.level level) words e := by
  obtain ⟨d, rfl, rfl⟩ := part
  exact ⟨.operand level d, rfl, rfl⟩

theorem primary (part : Derives .primary words e) : Derives .unary words e := by
  obtain ⟨d, rfl, rfl⟩ := part
  exact ⟨.primary d, rfl, rfl⟩

theorem exists_looser {inner : Symbol} (h : Derives inner words e) (positive : 0 < inner.rank) :
    ∃ next : Symbol, next.rank + 1 = inner.rank ∧ Derives next words e := by
  match inner, h with
  | .level .equality, _ => exact absurd positive (by decide)
  | .level .comparison, h => exact ⟨.level .equality, rfl, h.operand .equality⟩
  | .level .term, h => exact ⟨.level .comparison, rfl, h.operand .comparison⟩
  | .level .factor, h => exact ⟨.level .term, rfl, h.operand .term⟩
  | .unary, h => exact ⟨.level .factor, rfl, h.operand .factor⟩
  | .primary, h => exact ⟨.unary, rfl, h.primary⟩

theorem loosen {symbol inner : Symbol} (h : Derives inner words e)
    (looser : symbol.rank ≤ inner.rank) : Derives symbol words e := by
  -- One production up at a time, until the symbol is reached.
  induction gap : inner.rank - symbol.rank generalizing inner with
  | zero =>
    have same : symbol = inner := Symbol.eq_of_rank_eq (by omega)
    exact same ▸ h
  | succ n ih =>
    obtain ⟨next, below, h'⟩ := h.exists_looser (by omega)
    exact ih h' (by omega) (by omega)

end Derives

def Sentence (kinds : List Kind) : Prop :=
  ∃ d : Derivation .expression, d.tokens.map Token.kind = kinds

def Viable (kinds : List Kind) : Prop :=
  ∃ rest, Sentence (kinds ++ rest)

structure LongestViable (text words : List Token) : Prop where
  begins : words <+: text
  viable : Viable (words.map Token.kind)
  longest : ∀ other, other <+: text → Viable (other.map Token.kind) → other.length ≤ words.length

theorem Sentence.viable {kinds : List Kind} (h : Sentence kinds) : Viable kinds :=
  ⟨[], by simpa using h⟩

theorem Viable.of_append {kinds more : List Kind} (h : Viable (kinds ++ more)) : Viable kinds := by
  obtain ⟨rest, sentence⟩ := h
  exact ⟨more ++ rest, by simpa using sentence⟩

theorem LongestViable.of_stop {words : List Token} {next : Token} {rest : List Token}
    (viable : Viable (words.map Token.kind))
    (stop : ¬ Viable (words.map Token.kind ++ [next.kind])) :
    LongestViable (words ++ next :: rest) words where
  begins := List.prefix_append words _
  viable := viable
  longest := by
    intro other begins continued
    refine Nat.le_of_not_lt fun longer => ?_
    -- Anything longer takes the next token too, and viability is kept by taking less.
    have longerBegins : words ++ [next] <+: other := by
      refine List.prefix_of_prefix_length_le ?_ begins (by simp; omega)
      exact ⟨rest, by simp⟩
    obtain ⟨more, rfl⟩ := longerBegins
    apply stop
    simp only [List.map_append, List.map_cons, List.map_nil] at continued
    exact continued.of_append

theorem LongestViable.self {words : List Token} (viable : Viable (words.map Token.kind)) :
    LongestViable words words where
  begins := List.prefix_rfl
  viable := viable
  longest := fun _ begins _ => begins.length_le

end Lox.Grammar
