import Lox.Proofs.Evaluation.Safety
import Lox.Proofs.Lexical.Layout
import Lox.Proofs.Number.Packing
import Lox.Proofs.Number.Positional
import Lox.Proofs.Number.Rounding

set_option autoImplicit false

namespace Lox

open Automaton

theorem Automaton.State.settle_literal {token : Token} (stands : token.kind ∈ Grammar.literals)
    (frames : List Frame) (line : Int) :
    (State.wanting frames).settle [token, Token.eof line] =
      ((State.holding (.literal token) frames).verdict (some (Token.eof line)),
        [Token.eof line]) := by
  rw [State.settle_of_shift (State.shift?_literal stands frames), State.settle_of_stop]
  · rfl
  · rintro _ ⟨⟩
    exact State.shift?_eof rfl _

theorem parse_literal {token : Token} (stands : token.kind ∈ Grammar.literals) (line : Int) :
    parse [token, Token.eof line] = .ok (.literal token) := by
  rw [parse_eq_settle, State.initial, State.settle_literal stands]
  rfl

theorem parse_unary_literal {operator token : Token}
    (begins : operator.kind ∈ Grammar.unaryOperators) (stands : token.kind ∈ Grammar.literals)
    (line : Int) :
    parse [operator, token, Token.eof line] = .ok (.unary operator (.literal token)) := by
  rw [parse_eq_settle, State.initial, State.settle_of_shift (State.shift?_unary begins []),
    State.settle_literal stands]
  rfl

namespace Lexical

theorem Scans.only {word : Token} (lexed : Lexed word) (before : List Char) :
    Scans before word.lexeme.toList
      (.ok [{ word with line := lineAfter (before ++ word.lexeme.toList) },
        Token.eof (lineAfter (before ++ word.lexeme.toList))]) := by
  have scans := Scans.word lexed (by simp) (.finished (before ++ word.lexeme.toList))
  rwa [List.append_nil] at scans

theorem scan_only {word : Token} (lexed : Lexed word) :
    scan word.lexeme = .ok [{ word with line := lineAfter word.lexeme.toList },
      Token.eof (lineAfter word.lexeme.toList)] :=
  (scans_scan word.lexeme).unique (Scans.only lexed [])

theorem scan_negated {word : Token} (lexed : Lexed word) :
    scan (String.ofList ('-' :: word.lexeme.toList)) =
      .ok [⟨.minus, "-", lineAfter ['-'], .absent⟩,
        { word with line := lineAfter ('-' :: word.lexeme.toList) },
        Token.eof (lineAfter ('-' :: word.lexeme.toList))] := by
  have longest : Longest (.fixed .minus) ['-'] (['-'] ++ word.lexeme.toList) := longest_single rfl
  have scans := Scans.emitted longest .fixed (Scans.only lexed ([] ++ ['-']))
  refine (scans_scan _).unique ?_
  rw [String.toList_ofList]
  exact scans

end Lexical

theorem readSource_literal {word : Token} (lexed : Lexical.Lexed word)
    (stands : word.kind ∈ Grammar.literals) (method : Method) : readSource method word.lexeme =
      .ok (.literal { word with line := Lexical.lineAfter word.lexeme.toList }) := by
  have parsed (line : Int) : parse [{ word with line }, Token.eof line] =
      .ok (.literal { word with line }) :=
    @parse_literal { word with line } stands line
  rw [readSource_of_scan (Lexical.scan_only lexed), parsed]
  rfl

namespace Number

theorem display_of_isFinite {x : Float} (finite : x.isFinite = true) :
    display x = String.ofList (signed x (shortest (pattern x)).positional) := by
  have finite : x.toModel.unpack.isFinite = true := finite
  have nan : x.isNaN = x.toModel.unpack.isNaN := rfl
  have inf : x.isInf = x.toModel.unpack.isInf := rfl
  rw [display, nan, inf]
  generalize x.toModel.unpack = u at finite
  cases u with
  | notANumber => cases finite
  | infinity s => cases finite
  | zero s => rfl
  | finite s => rfl

theorem exists_numeral {x : Float} (finite : x.isFinite = true) :
    ∃ d, Lexical.Numeral (shortest (pattern x)).positional d ∧
      d.toNumber = ofPattern (pattern x) := by
  obtain ⟨d, numeral, nearest⟩ := (shortest (pattern x)).numeral_positional
  refine ⟨d, numeral, ?_⟩
  rw [Decimal.toNumber, nearest, nearest_shortest (pattern_lt finite)]

end Number

theorem Text.escapeAll_eq {body : List Char}
    (clean : ∀ c ∈ body, c ≠ '"' ∧ c ≠ '\\' ∧ isControl c = false) : escapeAll body = body := by
  induction body with
  | nil => rfl
  | cons c rest ih =>
    obtain ⟨quote, backslash, control⟩ := clean c (by simp)
    have noControl (d : Char) (isControl' : isControl d = true) : c ≠ d := by
      rintro rfl
      rw [control] at isControl'
      cases isControl'
    have kept : escape c = [c] := by
      simp [escape, quote, backslash, control, noControl '\n' rfl, noControl '\r' rfl,
        noControl '\t' rfl, noControl '\x00' rfl]
    rw [escapeAll_cons, kept, ih fun d mem => clean d (by simp [mem])]
    rfl

def Value.Writable : Value → Prop
  | .nil | .bool _ => True
  | .number x => x.isFinite = true
  | .string text => ∀ c ∈ text.toList, c ≠ '"' ∧ c ≠ '\\' ∧ Text.isControl c = false

theorem runSource_number {x : Float} (finite : x.isFinite = true) (method : Method) :
    runSource method (Value.number x).display = .ok (.number x) := by
  obtain ⟨d, numeral, value⟩ := Number.exists_numeral finite
  have signed := Number.signed_ofPattern finite
  have lexed := Lexical.Lexed.number numeral 1
  have stands : Kind.number ∈ Grammar.literals := by decide
  rw [Value.display, Number.display_of_isFinite finite, Number.signed]
  split
  · next negative =>
    have scanned := Lexical.scan_negated lexed
    rw [String.toList_ofList] at scanned
    refine runSource_of_parse scanned (parse_unary_literal (by decide) stands _) ?_ method
    rw [if_pos negative, ← value] at signed
    exact congrArg (fun y => Except.ok (Value.number y)) signed
  · next positive =>
    have scanned := Lexical.scan_only lexed
    refine runSource_of_parse scanned (parse_literal stands _) ?_ method
    rw [if_neg positive, ← value] at signed
    exact congrArg (fun y => Except.ok (Value.number y)) signed

theorem runSource_string {text : String}
    (clean : ∀ c ∈ text.toList, c ≠ '"' ∧ c ≠ '\\' ∧ Text.isControl c = false)
    (method : Method) : runSource method (Value.string text).display = .ok (.string text) := by
  have inside : '"' ∉ text.toList := fun mem => (clean _ mem).1 rfl
  have scanned := Lexical.scan_only (Lexical.Lexed.string inside 1)
  have stands : Kind.string ∈ Grammar.literals := by decide
  rw [Value.display, Text.quote, Text.escapeAll_eq clean]
  refine runSource_of_parse scanned (parse_literal stands _) ?_ method
  simp [Expr.evaluate, Value.ofLiteral, Payload.contents]

theorem runSource_keyword {word : String} {kind : Kind} {value : Value}
    (known : (word, kind) ∈ Kind.keywords ∧ kind ∈ Grammar.literals)
    (means : ∀ line, Value.ofLiteral ⟨kind, word, line, .absent⟩ = .ok value) (method : Method) :
    runSource method word = .ok value :=
  runSource_of_parse (Lexical.scan_only (Lexical.Lexed.keyword known.1 1))
    (parse_literal known.2 _) (means _) method

theorem runSource_display {value : Value} (writable : value.Writable) (method : Method) :
    runSource method value.display = .ok value := by
  cases value with
  | nil =>
    have known : ("nil", Kind.kwNil) ∈ Kind.keywords ∧ Kind.kwNil ∈ Grammar.literals := by decide
    exact runSource_keyword known (fun _ => rfl) method
  | bool b =>
    cases b with
    | false =>
      have known : ("false", Kind.kwFalse) ∈ Kind.keywords ∧ Kind.kwFalse ∈ Grammar.literals := by
        decide
      exact runSource_keyword known (fun _ => rfl) method
    | true =>
      have known : ("true", Kind.kwTrue) ∈ Kind.keywords ∧ Kind.kwTrue ∈ Grammar.literals := by
        decide
      exact runSource_keyword known (fun _ => rfl) method
  | number x => exact runSource_number writable method
  | string text => exact runSource_string writable method

-- The greatest negative number, which lies just below zero.
theorem runSource_display_subnormal :
    (Value.number (-Number.ofPattern 1)).Writable ∧
      runSource .automaton (Value.number (-Number.ofPattern 1)).display =
        .ok (.number (-Number.ofPattern 1)) := by
  have finite : (-Number.ofPattern 1).isFinite = true := by decide
  have writable : (Value.number (-Number.ofPattern 1)).Writable := finite
  exact ⟨writable, runSource_display writable .automaton⟩

end Lox
