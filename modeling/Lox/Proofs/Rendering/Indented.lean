import Lox.Proofs.Agreement
import Lox.Proofs.Display
import Lox.Proofs.Lines
import Lox.Proofs.Rendering.Parenthesized
import Lox.Text.Newlines

set_option autoImplicit false

namespace Lox

open Grammar Lexical

namespace Expr

section Indented

def title : Expr → String
  | literal token => "literal\t" ++ (token.kind.name ++ (" " ++ literalForm token))
  | grouping _ => "grouping"
  | unary operator _ => "unary\t" ++ operator.lexeme
  | binary _ operator _ => "binary\t" ++ operator.lexeme
  | stray text => text

def linesBelow (indent : String) (level : Nat) : Expr → List String
  | literal _ | stray _ => []
  | grouping inner => lines indent level inner
  | unary _ operand => lines indent level operand
  | binary left _ right => lines indent level left ++ lines indent level right

def ownToken? : Expr → Option Token
  | literal token => some token
  | unary operator _ => some operator
  | binary _ operator _ => some operator
  | grouping _ | stray _ => none

variable {indent : String}

theorem Scanned.lines_eq {e : Expr} (scanned : e.Scanned) (level : Nat) :
    e.lines indent level =
      (margin indent level ++ e.title) :: e.linesBelow indent (level + 1) := by
  cases e with
  | literal | unary | binary => simp [lines, title, linesBelow, String.append_assoc]
  | grouping => rfl
  | stray => exact scanned.elim

theorem length_lines (e : Expr) (level : Nat) : (e.lines indent level).length = e.nodes := by
  induction e generalizing level with
  | literal | stray => rfl
  | grouping inner ih => simp [lines, nodes, ih, Nat.add_comm]
  | unary operator operand ih => simp [lines, nodes, ih, Nat.add_comm]
  | binary left operator right ihLeft ihRight =>
    simp only [lines, nodes, List.length_cons, List.length_append, ihLeft, ihRight]
    omega

theorem solid_name (kind : Kind) : ' ' ∉ kind.name.toList := by
  have all : (Kind.all.all fun kind => !kind.name.toList.contains ' ') = true := by decide
  simpa using List.all_eq_true.1 all kind kind.mem_all

theorem Scanned.title_unique {a b : Expr} (first : a.Scanned) (second : b.Scanned)
    (same : a.title = b.title) :
    a.label? = b.label? ∧ a.ownToken?.map Token.unlined = b.ownToken?.map Token.unlined := by
  -- Titles of different kinds of nodes have different first characters.
  have heads := congrArg (fun title : String => title.toList.head?) same
  cases a with
  | literal token =>
    cases b with
    | literal other =>
      have texts := congrArg String.toList ((String.append_right_inj _).1 same)
      simp only [String.toList_append] at texts
      obtain ⟨-, forms⟩ := space_unique (solid_name _) (solid_name _) texts
      obtain ⟨tokens, -⟩ := literalForm_unique (u := []) (v := []) first.2 second.2 first.1
        second.1 (by simp) (by simp) (congrArg (· ++ []) forms)
      exact ⟨rfl, congrArg some tokens⟩
    | stray text => exact second.elim
    | _ => simp [title] at heads
  | grouping inner =>
    cases b with
    | grouping inner' => exact ⟨rfl, rfl⟩
    | stray text => exact second.elim
    | _ => simp [title] at heads
  | unary operator operand =>
    cases b with
    | unary operator' operand' =>
      have lexemes := (String.append_right_inj _).1 same
      exact ⟨rfl, congrArg some (first.1.lexed.eq_of_lexeme second.1.lexed lexemes)⟩
    | stray text => exact second.elim
    | _ => simp [title] at heads
  | binary left operator right =>
    cases b with
    | binary left' operator' right' =>
      have lexemes := (String.append_right_inj _).1 same
      exact ⟨rfl, congrArg some (first.1.lexed.eq_of_lexeme second.1.lexed lexemes)⟩
    | stray text => exact second.elim
    | _ => simp [title] at heads
  | stray text => exact first.elim

theorem Scanned.lines_split {a b : Expr} (first : a.Scanned) (second : b.Scanned) {level : Nat}
    {u v : List String} (same : a.lines indent level ++ u = b.lines indent level ++ v) :
    a.label? = b.label? ∧ a.ownToken?.map Token.unlined = b.ownToken?.map Token.unlined ∧
      a.linesBelow indent (level + 1) ++ u = b.linesBelow indent (level + 1) ++ v := by
  rw [first.lines_eq, second.lines_eq] at same
  obtain ⟨title, rest⟩ := List.cons.inj same
  obtain ⟨label, token⟩ := first.title_unique second ((String.append_right_inj _).1 title)
  exact ⟨label, token, rest⟩

theorem Scanned.lines_unique {a b : Expr} (first : a.Scanned) (second : b.Scanned) {level : Nat}
    {u v : List String} (same : a.lines indent level ++ u = b.lines indent level ++ v) :
    a.mapTokens Token.unlined = b.mapTokens Token.unlined ∧ u = v := by
  induction a generalizing b level u v with
  | literal token =>
    obtain ⟨label, tokens, rest⟩ := first.lines_split second same
    cases b with
    | literal other => exact ⟨congrArg literal (Option.some.inj tokens), rest⟩
    | _ => simp [label?] at label
  | grouping inner ih =>
    obtain ⟨label, -, rest⟩ := Scanned.lines_split (a := grouping inner) first second same
    cases b with
    | grouping inner' =>
      obtain ⟨trees, rest⟩ := ih (b := inner') first second rest
      exact ⟨congrArg grouping trees, rest⟩
    | _ => simp [label?] at label
  | unary operator operand ih =>
    obtain ⟨label, tokens, rest⟩ := first.lines_split second same
    cases b with
    | unary operator' operand' =>
      obtain ⟨trees, rest⟩ := ih first.2 second.2 rest
      exact ⟨congrArg₂ unary (Option.some.inj tokens) trees, rest⟩
    | _ => simp [label?] at label
  | binary left operator right ihLeft ihRight =>
    obtain ⟨label, tokens, rest⟩ := first.lines_split second same
    cases b with
    | binary left' operator' right' =>
      simp only [linesBelow, List.append_assoc] at rest
      obtain ⟨lefts, rest⟩ := ihLeft first.2.1 second.2.1 rest
      obtain ⟨rights, rest⟩ := ihRight first.2.2 second.2.2 rest
      refine ⟨?_, rest⟩
      simp only [mapTokens, lefts, Option.some.inj tokens, rights]
    | _ => simp [label?] at label
  | stray text => exact first.elim

def isInLine (c : Char) : Bool :=
  c == '\t' || Text.isPrintable c

theorem isInLine_name (kind : Kind) : kind.name.toList.all isInLine = true := by
  have all : (Kind.all.all fun kind => kind.name.toList.all isInLine) = true := by decide
  exact List.all_eq_true.1 all kind kind.mem_all

theorem isInLine_of_printable {text : List Char} (shown : ∀ c ∈ text, Text.isPrintable c = true) :
    text.all isInLine = true :=
  List.all_eq_true.2 fun c mem => by simp [isInLine, shown c mem]

theorem isInLine_operator {f : Token} (operates : Operates f) :
    f.lexeme.toList.all isInLine = true := by
  have all : ∀ entry ∈ fixedLexemes, entry.1.all isInLine = true := by decide
  exact all _ operates.mem_fixedLexemes

theorem Scanned.isInLine_title {e : Expr} (scanned : e.Scanned) :
    e.title.toList.all isInLine = true := by
  have labels : (["literal\t", " ", "grouping", "unary\t", "binary\t"].all fun label =>
      label.toList.all isInLine) = true := by
    decide
  simp only [List.all_cons, List.all_nil, Bool.and_eq_true, and_true] at labels
  obtain ⟨literal, space, grouping, unary, binary⟩ := labels
  cases e with
  | literal token =>
    have form := isInLine_of_printable (isPrintable_literalForm scanned.2 scanned.1)
    simp only [title, String.toList_append, List.all_append, literal, isInLine_name, space, form,
      Bool.and_self]
  | grouping inner => exact grouping
  | unary operator operand =>
    simp only [title, String.toList_append, List.all_append, unary,
      isInLine_operator scanned.1, Bool.and_self]
  | binary left operator right =>
    simp only [title, String.toList_append, List.all_append, binary,
      isInLine_operator scanned.1, Bool.and_self]
  | stray text => exact scanned.elim

theorem isInLine_margin (inLine : indent.toList.all isInLine = true) (level : Nat) :
    (margin indent level).toList.all isInLine = true := by
  rw [margin, String.toList_join]
  refine List.all_eq_true.2 fun c mem => ?_
  obtain ⟨part, known, mem⟩ := List.mem_flatMap.1 mem
  rw [List.eq_of_mem_replicate known] at mem
  exact List.all_eq_true.1 inLine c mem

theorem Scanned.isInLine_row {e : Expr} (scanned : e.Scanned)
    (inLine : indent.toList.all isInLine = true) (level : Nat) :
    (margin indent level ++ e.title).toList.all isInLine = true := by
  rw [String.toList_append, List.all_append, isInLine_margin inLine, scanned.isInLine_title]
  rfl

theorem Scanned.isInLine_lines {e : Expr} (scanned : e.Scanned)
    (inLine : indent.toList.all isInLine = true) (level : Nat) :
    ∀ line ∈ e.lines indent level, line.toList.all isInLine = true := by
  induction e generalizing level with
  | literal token =>
    rw [scanned.lines_eq]
    exact List.forall_mem_cons.2 ⟨scanned.isInLine_row inLine level, by simp [linesBelow]⟩
  | grouping inner ih =>
    rw [scanned.lines_eq]
    exact List.forall_mem_cons.2 ⟨scanned.isInLine_row inLine level, ih scanned _⟩
  | unary operator operand ih =>
    rw [scanned.lines_eq]
    exact List.forall_mem_cons.2 ⟨scanned.isInLine_row inLine level, ih scanned.2 _⟩
  | binary left operator right ihLeft ihRight =>
    rw [scanned.lines_eq]
    refine List.forall_mem_cons.2 ⟨scanned.isInLine_row inLine level, ?_⟩
    exact List.forall_mem_append.2 ⟨ihLeft scanned.2.1 _, ihRight scanned.2.2 _⟩
  | stray text => exact scanned.elim

theorem Scanned.lines_indented {e : Expr} (scanned : e.Scanned)
    (inLine : indent.toList.all isInLine = true) :
    Text.lines (e.indented indent).toList = (e.lines indent 0).map String.toList := by
  have some : (e.lines indent 0).map String.toList ≠ [] := by simp [scanned.lines_eq]
  rw [indented, String.toList_intercalate]
  refine Text.lines_intercalate some fun row mem breaks => ?_
  obtain ⟨line, known, rfl⟩ := List.mem_map.1 mem
  have newline : isInLine '\n' = true :=
    List.all_eq_true.1 (scanned.isInLine_lines inLine 0 line known) _ breaks
  exact absurd newline (by decide)

theorem Scanned.indented_unique {a b : Expr} (first : a.Scanned) (second : b.Scanned)
    (inLine : indent.toList.all isInLine = true) (same : a.indented indent = b.indented indent) :
    a.mapTokens Token.unlined = b.mapTokens Token.unlined := by
  have rows := first.lines_indented inLine
  rw [same, second.lines_indented inLine] at rows
  have lines := (List.map_inj_right fun _ _ => String.toList_inj.1).1 rows
  exact (first.lines_unique second (u := []) (v := []) (congrArg (· ++ []) lines.symm)).1

end Indented

end Expr

section

variable {method : Method} {source : String} {e : Expr}

theorem scanned_of_readSource (read : readSource method source = .ok e) : e.Scanned := by
  obtain ⟨tokens, d, scanned, begins, rfl⟩ := exists_derivation_of_readSource read
  obtain ⟨words, rfl, lexed⟩ := (scans_scan source).lexed tokens scanned
  have all : ∀ token ∈ d.tokens, token.kind ≠ .eof → Lexed token := by
    intro token mem going
    rcases List.mem_append.1 (begins.subset mem) with mem | mem
    · exact lexed token mem
    · obtain rfl := List.mem_singleton.1 mem
      exact absurd rfl going
  have operator {token : Token} (operates : token.kind.isOperator = true)
      (own : token.kind ≠ .eof → Lexed token) : Operates token := by
    refine ⟨operates, own fun ends => ?_⟩
    rw [ends] at operates
    cases operates
  refine d.tree_induction Expr.Scanned ?_ ?_ ?_ ?_ all
  · intro token stands own
    refine ⟨stands, own fun ends => ?_⟩
    rw [ends] at stands
    exact absurd stands (by decide)
  · intro inner scanned
    exact scanned
  · intro token inner begins own scanned
    exact ⟨operator (isOperator_of_unary begins) own, scanned⟩
  · intro level left token right joins own first second
    exact ⟨operator (isOperator_of_binary joins) own, first, second⟩

theorem alike_of_readSource (read : readSource method source = .ok e) : e.alike e = true := by
  rw [readSource_eq_descent] at read
  obtain ⟨tokens, scanned, parsed⟩ := exists_tokens_of_readSource read
  exact alike_of_parse (spelled_of_scan scanned) parsed

end

theorem Expr.Scanned.forms_unique {a b : Expr} (first : a.Scanned) (second : b.Scanned)
    (same : a.written parenthesized = b.written parenthesized ∨
      a.written (indented defaultIndent) = b.written (indented defaultIndent)) :
    a.mapTokens Token.unlined = b.mapTokens Token.unlined := by
  simp only [first.written, second.written, Except.ok.injEq] at same
  rcases same with same | same
  · exact (first.parenthesized_unique second (u := []) (v := []) (by simp) (by simp)
      (by rw [same])).1
  · exact first.indented_unique second (by decide) same

theorem written_forms_faithful {method method' : Method} {source source' : String} {a b : Expr}
    (first : readSource method source = .ok a) (second : readSource method' source' = .ok b) :
    (a.written Expr.parenthesized = b.written Expr.parenthesized ∨
        a.written (Expr.indented Expr.defaultIndent) =
          b.written (Expr.indented Expr.defaultIndent) →
      a.mapTokens Token.unlined = b.mapTokens Token.unlined ∧ a.alike b = true) ∧
    ∃ text, a.written (Expr.indented Expr.defaultIndent) = .ok text ∧
      (Text.lines text.toList).length = a.nodes ∧
      ∀ c ∈ text.toList, c = '\n' ∨ c = '\t' ∨ Text.isPrintable c = true := by
  have scanned := scanned_of_readSource first
  have inLine : Expr.defaultIndent.toList.all Expr.isInLine = true := by decide
  refine ⟨fun same => ?_, _, scanned.written _, ?_, ?_⟩
  · have trees := scanned.forms_unique (scanned_of_readSource second) same
    refine ⟨trees, ?_⟩
    rw [← Expr.alike_unlined, ← trees, Expr.alike_unlined]
    exact alike_of_readSource first
  · rw [scanned.lines_indented inLine, List.length_map, Expr.length_lines]
  · intro c mem
    refine (Text.newline_or_mem_lines mem).imp_right fun ⟨row, known, mem⟩ => ?_
    rw [scanned.lines_indented inLine] at known
    obtain ⟨line, listed, rfl⟩ := List.mem_map.1 known
    have shown := List.all_eq_true.1 (scanned.isInLine_lines inLine 0 line listed) c mem
    simpa [Expr.isInLine] using shown

-- The text `"')('" - - nil`, whose words can stand on one line or on four.
def differenceWords : List Token :=
  [⟨.string, "\"')('\"", 1, .text "')('"⟩, ⟨.minus, "-", 1, .absent⟩, ⟨.minus, "-", 1, .absent⟩,
    ⟨.kwNil, "nil", 1, .absent⟩]

theorem lexed_difference {c : Char} (mem : c ∈ blanks) :
    ∀ word ∈ (Layout.row mem differenceWords).words, Lexed word := by
  have inside : '"' ∉ ['\'', ')', '(', '\''] := by decide
  have string : Lexed ⟨.string, "\"')('\"", 1, .text "')('"⟩ := .string inside 1
  have minus : Lexed ⟨.minus, "-", 1, .absent⟩ := .fixed (by decide) 1
  have keyword : Lexed ⟨.kwNil, "nil", 1, .absent⟩ := .keyword (by decide) 1
  rw [Layout.words_row]
  simp [differenceWords, string, minus, keyword]

def difference (first second third fourth : Int) : Expr :=
  .binary (.literal ⟨.string, "\"')('\"", first, .text "')('"⟩) ⟨.minus, "-", second, .absent⟩
    (.unary ⟨.minus, "-", third, .absent⟩ (.literal ⟨.kwNil, "nil", fourth, .absent⟩))

theorem written_forms_faithful_difference :
    readSource .descent "\"')('\" - - nil" = .ok (difference 1 1 1 1) ∧
      readSource .automaton "\"')('\"\n-\n-\nnil" = .ok (difference 1 2 3 4) ∧
      (difference 1 1 1 1).written Expr.parenthesized = .ok "(- \"')('\" (- nil))" ∧
      (difference 1 2 3 4).written Expr.parenthesized = .ok "(- \"')('\" (- nil))" ∧
      (difference 1 1 1 1).mapTokens Token.unlined =
        (difference 1 2 3 4).mapTokens Token.unlined ∧
      (difference 1 1 1 1).alike (difference 1 2 3 4) = true := by
  have newline : '\n' ∈ blanks := by decide
  have scanned := (Layout.row space_mem_blanks differenceWords).scan_source
    (lexed_difference space_mem_blanks)
  have scanned' := (Layout.row newline differenceWords).scan_source (lexed_difference newline)
  have first : readSource .descent "\"')('\" - - nil" = .ok (difference 1 1 1 1) :=
    (readSource_of_scan scanned .descent).trans (by rw [parse_eq_settle]; rfl)
  have second : readSource .automaton "\"')('\"\n-\n-\nnil" = .ok (difference 1 2 3 4) :=
    (readSource_of_scan scanned' .automaton).trans (by rw [parse_eq_settle]; rfl)
  have shown (a b c d : Int) : (difference a b c d).written Expr.parenthesized =
      .ok "(- \"')('\" (- nil))" :=
    rfl
  have same := (shown 1 1 1 1).trans (shown 1 2 3 4).symm
  obtain ⟨trees, alike⟩ := (written_forms_faithful first second).1 (.inl same)
  exact ⟨first, second, shown .., shown .., trees, alike⟩

end Lox
