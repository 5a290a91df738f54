import Lox.Expr.Render
import Lox.Proofs.Lexical.Places
import Lox.Proofs.Relayout
import Lox.Proofs.Text.Inspection

set_option autoImplicit false

namespace Lox

open Grammar Lexical

namespace Lexical

theorem cut_unique {α : Type} {test : α → Bool} {a b u v : List α} (first : ∀ x ∈ a, test x = true)
    (second : ∀ x ∈ b, test x = true) (stop : ∀ x ∈ u.head?, test x = false)
    (stop' : ∀ x ∈ v.head?, test x = false) (same : a ++ u = b ++ v) : a = b ∧ u = v := by
  have short : a.length ≤ b.length := length_le_of_stop ⟨u, same⟩ first stop'
  have long : b.length ≤ a.length := length_le_of_stop ⟨v, same.symm⟩ second stop
  exact List.append_inj same (Nat.le_antisymm short long)

theorem space_unique {a b u v : List Char} (first : ' ' ∉ a) (second : ' ' ∉ b)
    (same : a ++ ' ' :: u = b ++ ' ' :: v) : a = b ∧ u = v := by
  have solid {text : List Char} (none : ' ' ∉ text) : ∀ c ∈ text, (c != ' ') = true := by
    intro c mem
    simpa using fun same : c = ' ' => none (same ▸ mem)
  obtain ⟨heads, rest⟩ := cut_unique (solid first) (solid second) (by simp) (by simp) same
  exact ⟨heads, (List.cons.inj rest).2⟩

theorem Lexed.eq_of_lexeme {a b : Token} (first : Lexed a) (second : Lexed b)
    (same : a.lexeme = b.lexeme) : a.unlined = b.unlined := by
  obtain ⟨rule, fits, emits⟩ := first
  obtain ⟨rule', fits', emits'⟩ := second
  rw [← same] at fits' emits'
  obtain rfl := fits.unique fits'
  obtain ⟨kind, payload⟩ := emits.unique emits'
  simp only [Token.unlined, kind, payload, same]

structure Operates (token : Token) : Prop where
  kind : token.kind.isOperator = true
  lexed : Lexed token

theorem Operates.mem_fixedLexemes {token : Token} (h : Operates token) :
    (token.lexeme.toList, token.kind) ∈ fixedLexemes := by
  obtain ⟨rule, fits, emits⟩ := h.lexed
  obtain rfl := emits.eq_fixed h.kind
  cases fits with
  | fixed mem => exact mem

def bounds : List Char :=
  [' ', '(', ')', '\'', '"']

def isBare (c : Char) : Bool :=
  !bounds.contains c && Text.isPrintable c

theorem not_isBare_of_mem_bounds {c : Char} (mem : c ∈ bounds) : isBare c = false := by
  simp [isBare, mem]

theorem isBare_of_isPlain {c : Char} (plain : Number.isPlain c = true) : isBare c = true := by
  have code := Number.toNat_of_isPlain plain
  have shown : ∀ n < 0x3a, 0x2e ≤ n → isBare (Char.ofNat n) = true := by decide
  have bare := shown c.toNat (by omega) code.1
  rwa [Char.ofNat_toNat] at bare

theorem isBare_of_keyword {word : String} {kind : Kind} (known : (word, kind) ∈ Kind.keywords) :
    word.toList ≠ [] ∧ ∀ c ∈ word.toList, isBare c = true := by
  have words : ∀ entry ∈ Kind.keywords, entry.1.toList ≠ [] ∧ entry.1.toList.all isBare = true := by
    decide
  exact (words _ known).imp_right List.all_eq_true.1

end Lexical

namespace Expr

theorem literalForm_cases {token : Token} (lexed : Lexed token) (stands : token.kind ∈ literals) :
    (literalForm token = token.lexeme ∧ token.lexeme.toList ≠ [] ∧
        ∀ c ∈ token.lexeme.toList, isBare c = true) ∨
      ∃ body, token.lexeme.toList = '"' :: body ++ ['"'] ∧
        (literalForm token).toList = Text.inspectChars body := by
  obtain ⟨kind, lexeme, line, payload⟩ := token
  obtain ⟨rule, fits, emits⟩ := lexed
  dsimp only at fits emits stands ⊢
  generalize spelled : lexeme.toList = text at fits emits ⊢
  cases emits with
  | fixed =>
    have none : ∀ entry ∈ fixedLexemes, entry.2 ∉ literals := by decide
    cases fits with
    | fixed mem => exact absurd stands (none _ mem)
  | @string body =>
    refine .inr ⟨body, rfl, ?_⟩
    simp [literalForm, Payload.inspect, Text.inspect]
  | number numeral =>
    exact .inl ⟨rfl, fits.ne_nil, fun c mem => isBare_of_isPlain (numeral.isPlain c mem)⟩
  | keyword known =>
    have word := isBare_of_keyword known
    rw [String.toList_ofList] at word
    have proper : ∀ entry ∈ Kind.keywords, entry.2 ≠ .string := by decide
    exact .inl ⟨if_neg (proper _ known), word⟩
  | identifier => exact absurd stands (by decide)

theorem inspectChars_begins (body : List Char) :
    ∃ mark rest, Text.inspectChars body = mark :: rest ∧ isBare mark = false ∧ mark ≠ '(' := by
  have known : Text.inspectMark body = '\'' ∨ Text.inspectMark body = '"' := by
    simpa [Text.quotes] using Text.inspectMark_mem_quotes body
  refine ⟨_, _, rfl, ?_⟩
  rcases known with mark | mark <;> rw [mark] <;>
    exact ⟨not_isBare_of_mem_bounds (by decide), by decide⟩

theorem bare_ne_inspectChars {text : List Char} (some : text ≠ [])
    (bare : ∀ c ∈ text, isBare c = true) (body u v : List Char) :
    text ++ u ≠ Text.inspectChars body ++ v := by
  obtain ⟨first, text, rfl⟩ := List.exists_cons_of_ne_nil some
  obtain ⟨mark, rest, begins, other, -⟩ := inspectChars_begins body
  intro same
  rw [begins] at same
  obtain ⟨rfl, -⟩ := List.cons.inj same
  rw [bare first (by simp)] at other
  cases other

theorem literalForm_ne_open {token : Token} (lexed : Lexed token) (stands : token.kind ∈ literals)
    (u v : List Char) : (literalForm token).toList ++ u ≠ '(' :: v := by
  intro same
  rcases literalForm_cases lexed stands with ⟨form, some, bare⟩ | ⟨body, -, form⟩
  · obtain ⟨first, rest, begins⟩ := List.exists_cons_of_ne_nil some
    rw [form, begins] at same
    obtain ⟨rfl, -⟩ := List.cons.inj same
    exact absurd (bare '(' (by simp [begins])) (by decide)
  · obtain ⟨mark, rest, begins, -, other⟩ := inspectChars_begins body
    rw [form, begins] at same
    exact other (List.cons.inj same).1

theorem isPrintable_literalForm {token : Token} (lexed : Lexed token)
    (stands : token.kind ∈ literals) :
    ∀ c ∈ (literalForm token).toList, Text.isPrintable c = true := by
  rcases literalForm_cases lexed stands with ⟨form, -, bare⟩ | ⟨body, -, form⟩
  · intro c mem
    rw [form] at mem
    exact (Bool.and_eq_true_iff.1 (bare c mem)).2
  · rw [form]
    exact Text.isPrintable_of_mem_inspectChars body

theorem literalForm_unique {a b : Token} {u v : List Char} (first : Lexed a) (second : Lexed b)
    (stands : a.kind ∈ literals) (stands' : b.kind ∈ literals)
    (stop : ∀ c ∈ u.head?, isBare c = false) (stop' : ∀ c ∈ v.head?, isBare c = false)
    (same : (literalForm a).toList ++ u = (literalForm b).toList ++ v) :
    a.unlined = b.unlined ∧ u = v := by
  rcases literalForm_cases first stands with ⟨form, some, bare⟩ | ⟨body, lexeme, form⟩ <;>
    rcases literalForm_cases second stands' with ⟨form', some', bare'⟩ | ⟨body', lexeme', form'⟩ <;>
    rw [form, form'] at same
  · obtain ⟨lexemes, rest⟩ := cut_unique bare bare' stop stop' same
    exact ⟨first.eq_of_lexeme second (String.toList_inj.1 lexemes), rest⟩
  · exact absurd same (bare_ne_inspectChars some bare body' u v)
  · exact absurd same.symm (bare_ne_inspectChars some' bare' body v u)
  · obtain ⟨rfl, rest⟩ := Text.inspectChars_unique same
    exact ⟨first.eq_of_lexeme second (String.toList_inj.1 (lexeme.trans lexeme'.symm)), rest⟩

def Scanned : Expr → Prop
  | literal token => token.kind ∈ literals ∧ Lexed token
  | grouping inner => inner.Scanned
  | unary operator operand => Operates operator ∧ operand.Scanned
  | binary left operator right => Operates operator ∧ left.Scanned ∧ right.Scanned
  | stray _ => False

def nodes : Expr → Nat
  | literal _ | stray _ => 1
  | grouping inner => 1 + inner.nodes
  | unary _ operand => 1 + operand.nodes
  | binary left _ right => 1 + left.nodes + right.nodes

theorem Scanned.stray?_eq_none {e : Expr} (scanned : e.Scanned) : e.stray? = none := by
  induction e with
  | literal token => rfl
  | grouping inner ih => exact ih scanned
  | unary operator operand ih => exact ih scanned.2
  | binary left operator right ihLeft ihRight =>
    rw [stray?, ihLeft scanned.2.1, ihRight scanned.2.2]
    rfl
  | stray text => exact scanned.elim

theorem Scanned.written {e : Expr} (scanned : e.Scanned) (form : Expr → String) :
    e.written form = .ok (form e) := by
  rw [Expr.written, scanned.stray?_eq_none]

section Parenthesized

variable {u v : List Char}

theorem grouping_append (inner : Expr) (u : List Char) :
    (grouping inner).parenthesized.toList ++ u =
      '(' :: ("group".toList ++ ' ' :: (inner.parenthesized.toList ++ ')' :: u)) := by
  simp [parenthesized]

theorem unary_append (operator : Token) (operand : Expr) (u : List Char) :
    (unary operator operand).parenthesized.toList ++ u =
      '(' :: (operator.lexeme.toList ++ ' ' :: (operand.parenthesized.toList ++ ')' :: u)) := by
  simp [parenthesized]

theorem binary_append (left : Expr) (operator : Token) (right : Expr) (u : List Char) :
    (binary left operator right).parenthesized.toList ++ u =
      '(' :: (operator.lexeme.toList ++ ' ' :: (left.parenthesized.toList ++
        ' ' :: (right.parenthesized.toList ++ ')' :: u))) := by
  simp [parenthesized]

theorem operator_unique {f g : Token} (first : Operates f) (second : Operates g)
    (same : '(' :: (f.lexeme.toList ++ ' ' :: u) = '(' :: (g.lexeme.toList ++ ' ' :: v)) :
    f.unlined = g.unlined ∧ u = v := by
  have solid : ∀ entry ∈ fixedLexemes, ' ' ∉ entry.1 := by decide
  obtain ⟨lexemes, rest⟩ := space_unique (solid _ first.mem_fixedLexemes)
    (solid _ second.mem_fixedLexemes) (List.cons.inj same).2
  exact ⟨first.lexed.eq_of_lexeme second.lexed (String.toList_inj.1 lexemes), rest⟩

theorem operator_ne_group {f : Token} (operates : Operates f) (u v : List Char) :
    '(' :: (f.lexeme.toList ++ ' ' :: u) ≠ '(' :: ("group".toList ++ ' ' :: v) := by
  have solid : ∀ entry ∈ fixedLexemes, ' ' ∉ entry.1 ∧ entry.1 ≠ "group".toList := by decide
  obtain ⟨noSpace, noGroup⟩ := solid _ operates.mem_fixedLexemes
  exact fun same => noGroup (space_unique noSpace (by decide) (List.cons.inj same).2).1

theorem stops_at {c : Char} (mem : c ∈ bounds) (u : List Char) :
    ∀ d ∈ (c :: u).head?, isBare d = false := by
  rintro d ⟨⟩
  exact not_isBare_of_mem_bounds mem

theorem Scanned.parenthesized_unique {a b : Expr} (first : a.Scanned) (second : b.Scanned)
    (stop : ∀ c ∈ u.head?, isBare c = false) (stop' : ∀ c ∈ v.head?, isBare c = false)
    (same : a.parenthesized.toList ++ u = b.parenthesized.toList ++ v) :
    a.mapTokens Token.unlined = b.mapTokens Token.unlined ∧ u = v := by
  have close (u : List Char) : ∀ c ∈ (')' :: u).head?, isBare c = false := stops_at (by decide) u
  have space (u : List Char) : ∀ c ∈ (' ' :: u).head?, isBare c = false := stops_at (by decide) u
  induction a generalizing b u v with
  | literal token =>
    cases b with
    | literal other =>
      obtain ⟨tokens, rest⟩ :=
        literalForm_unique first.2 second.2 first.1 second.1 stop stop' same
      exact ⟨congrArg literal tokens, rest⟩
    | stray text => exact second.elim
    | _ =>
      simp only [grouping_append, unary_append, binary_append] at same
      exact absurd same (literalForm_ne_open first.2 first.1 u _)
  | grouping inner ih =>
    rw [grouping_append] at same
    cases b with
    | literal other => exact absurd same.symm (literalForm_ne_open second.2 second.1 v _)
    | grouping inner' =>
      rw [grouping_append] at same
      obtain ⟨-, inside⟩ := space_unique (by decide) (by decide) (List.cons.inj same).2
      obtain ⟨trees, rest⟩ := ih (b := inner') first second (close u) (close v) inside
      exact ⟨congrArg grouping trees, (List.cons.inj rest).2⟩
    | unary operator operand =>
      rw [unary_append] at same
      exact absurd same.symm (operator_ne_group second.1 _ _)
    | binary left operator right =>
      rw [binary_append] at same
      exact absurd same.symm (operator_ne_group second.1 _ _)
    | stray text => exact second.elim
  | unary operator operand ih =>
    rw [unary_append] at same
    cases b with
    | literal other => exact absurd same.symm (literalForm_ne_open second.2 second.1 v _)
    | grouping inner =>
      rw [grouping_append] at same
      exact absurd same (operator_ne_group first.1 _ _)
    | unary operator' operand' =>
      rw [unary_append] at same
      obtain ⟨tokens, inside⟩ := operator_unique first.1 second.1 same
      obtain ⟨trees, rest⟩ := ih first.2 second.2 (close u) (close v) inside
      exact ⟨congrArg₂ unary tokens trees, (List.cons.inj rest).2⟩
    | binary left operator' right =>
      rw [binary_append] at same
      obtain ⟨-, inside⟩ := operator_unique first.1 second.1 same
      -- An only operand ends at a parenthesis, a left one at a space.
      obtain ⟨-, rest⟩ := ih first.2 second.2.1 (close u) (space _) inside
      exact absurd (List.cons.inj rest).1 (by decide)
    | stray text => exact second.elim
  | binary left operator right ihLeft ihRight =>
    rw [binary_append] at same
    cases b with
    | literal other => exact absurd same.symm (literalForm_ne_open second.2 second.1 v _)
    | grouping inner =>
      rw [grouping_append] at same
      exact absurd same (operator_ne_group first.1 _ _)
    | unary operator' operand =>
      rw [unary_append] at same
      obtain ⟨-, inside⟩ := operator_unique first.1 second.1 same
      obtain ⟨-, rest⟩ := ihLeft first.2.1 second.2 (space _) (close v) inside
      exact absurd (List.cons.inj rest).1 (by decide)
    | binary left' operator' right' =>
      rw [binary_append] at same
      obtain ⟨tokens, inside⟩ := operator_unique first.1 second.1 same
      obtain ⟨lefts, inside⟩ :=
        ihLeft first.2.1 second.2.1 (space _) (space _) inside
      obtain ⟨rights, rest⟩ :=
        ihRight first.2.2 second.2.2 (close u) (close v) (List.cons.inj inside).2
      refine ⟨?_, (List.cons.inj rest).2⟩
      simp only [mapTokens, lefts, tokens, rights]
    | stray text => exact second.elim
  | stray text => exact first.elim

end Parenthesized

end Expr

end Lox
