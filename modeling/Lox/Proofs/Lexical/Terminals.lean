import Lox.Proofs.Lexical.Layout
import Lox.Proofs.Lexical.Spelling
import Lox.Token.Terminal

set_option autoImplicit false

namespace Lox

theorem Token.payloadOf_other {kind : Kind} (noString : kind ≠ .string) (noNumber : kind ≠ .number)
    (text : List Char) : payloadOf kind text = .absent := by
  cases kind <;> first | rfl | contradiction

namespace Lexical

theorem Rule.Emits.payload_eq {rule : Rule} {text : List Char} {kind : Kind} {payload : Payload}
    (emits : rule.Emits text kind payload) (fits : rule.Fits text) :
    payload = if kind = .identifier then .text (String.ofList text)
      else Token.payloadOf kind text := by
  cases emits with
  | fixed =>
    have apart : ∀ entry ∈ fixedLexemes, entry.2 ≠ .identifier ∧ entry.2 ≠ .string ∧
        entry.2 ≠ .number := by
      decide
    cases fits with
    | fixed mem =>
      obtain ⟨noName, noString, noNumber⟩ := apart _ mem
      rw [if_neg noName, Token.payloadOf_other noString noNumber]
  | string => simp [Token.payloadOf, Token.inner]
  | number numeral => simp [Token.payloadOf, numeral.ofText?]
  | keyword known =>
    have apart : ∀ entry ∈ Kind.keywords, entry.2 ≠ .identifier ∧ entry.2 ≠ .string ∧
        entry.2 ≠ .number := by
      decide
    obtain ⟨noName, noString, noNumber⟩ := apart _ known
    rw [if_neg noName, Token.payloadOf_other noString noNumber]
  | identifier => rfl

theorem Lexed.payload_eq {token : Token} (lexed : Lexed token) :
    token.payload = if token.kind = .identifier then .text token.lexeme
      else Token.payloadOf token.kind token.lexeme.toList := by
  obtain ⟨rule, fits, emits⟩ := lexed
  have payload := emits.payload_eq fits
  rwa [String.ofList_toList] at payload

theorem Lexed.name {text : List Char} (fits : Rule.word.Fits text)
    (unknown : ∀ kind, (String.ofList text, kind) ∉ Kind.keywords) (line : Int) :
    Lexed ⟨.identifier, String.ofList text, line, .text (String.ofList text)⟩ := by
  refine ⟨.word, ?_, ?_⟩
  · rwa [String.toList_ofList]
  · rw [String.toList_ofList]
    exact .identifier unknown

end Lexical

namespace Terminal

theorem toToken_scanned {source : String} {tokens : List Token}
    (scanned : scan source = .ok tokens) : ∀ token ∈ tokens,
      (token.kind ≠ .identifier → (ofToken token).toToken = .ok token) ∧
      (token.kind = .identifier → token.payload = .text token.lexeme ∧
        (ofToken token).toToken = .ok { token with payload := .absent }) := by
  intro token mem
  rw [toToken_ofToken (Lexical.spelled_of_scan scanned token mem).isUnreadable]
  rcases Lexical.lexed_or_eof_of_scan scanned token mem with lexed | ⟨line, rfl⟩
  · have payload := lexed.payload_eq
    constructor
    · intro other
      rw [if_neg other] at payload
      rw [Token.restored, ← payload]
    · intro name
      rw [if_pos name] at payload
      refine ⟨payload, ?_⟩
      rw [Token.restored, name]
      rfl
  · refine ⟨fun _ => rfl, fun name => ?_⟩
    cases name

open Lexical in
def twoLines : Layout :=
  .row space_mem_blanks [⟨.string, "\"a\nb\"", 1, .text "a\nb"⟩, ⟨.identifier, "c", 1, .text "c"⟩]

theorem scan_twoLines : scan "\"a\nb\" c" = .ok [⟨.string, "\"a\nb\"", 2, .text "a\nb"⟩,
    ⟨.identifier, "c", 2, .text "c"⟩, Token.eof 2] := by
  have inside : '"' ∉ ['a', '\n', 'b'] := by decide
  have string : Lexical.Lexed ⟨.string, "\"a\nb\"", 1, .text "a\nb"⟩ := .string inside 1
  have fits : Lexical.Rule.word.Fits ['c'] := .word rfl (by simp)
  have name : Lexical.Lexed ⟨.identifier, "c", 1, .text "c"⟩ :=
    .name fits (by simp [Kind.keywords]) 1
  exact twoLines.scan_source (by simp [twoLines, string, name])

theorem toToken_scanned_lines :
    scan "\"a\nb\" c" = .ok [⟨.string, "\"a\nb\"", 2, .text "a\nb"⟩,
        ⟨.identifier, "c", 2, .text "c"⟩, Token.eof 2] ∧
      (ofToken ⟨.string, "\"a\nb\"", 2, .text "a\nb"⟩).toToken =
        .ok ⟨.string, "\"a\nb\"", 2, .text "a\nb"⟩ ∧
      (ofToken ⟨.identifier, "c", 2, .text "c"⟩).toToken = .ok ⟨.identifier, "c", 2, .absent⟩ ∧
      (ofToken (Token.eof 2)).toToken = .ok (Token.eof 2) := by
  have string := (toToken_scanned scan_twoLines _ (List.mem_cons_self ..)).1 nofun
  have name := (toToken_scanned scan_twoLines ⟨.identifier, "c", 2, .text "c"⟩ (by simp)).2 rfl
  have ended := (toToken_scanned scan_twoLines (Token.eof 2) (by simp)).1 nofun
  exact ⟨scan_twoLines, string, name.2, ended⟩

-- A name loses its payload on the way, though the text that it is made of is kept.
theorem toToken_name :
    scan "foo" = .ok [⟨.identifier, "foo", 1, .text "foo"⟩, Token.eof 1] ∧
      (ofToken ⟨.identifier, "foo", 1, .text "foo"⟩).toToken =
        .ok ⟨.identifier, "foo", 1, .absent⟩ ∧
      (ofToken ⟨.identifier, "foo", 1, .text "foo"⟩).toToken ≠
        .ok ⟨.identifier, "foo", 1, .text "foo"⟩ := by
  have fits : Lexical.Rule.word.Fits ['f', 'o', 'o'] := .word rfl (List.all_eq_true.1 rfl)
  have lexed : Lexical.Lexed ⟨.identifier, "foo", 1, .text "foo"⟩ :=
    .name fits (by simp [Kind.keywords]) 1
  have scans : Lexical.Scans [] ("foo".toList ++ []) _ :=
    .word lexed (by simp) (.finished ([] ++ "foo".toList))
  have scanned : scan "foo" = .ok [⟨.identifier, "foo", 1, .text "foo"⟩, Token.eof 1] :=
    (Lexical.scans_scan _).unique scans
  have lost : (ofToken ⟨.identifier, "foo", 1, .text "foo"⟩).toToken =
      .ok ⟨.identifier, "foo", 1, .absent⟩ :=
    toToken_ofToken rfl
  refine ⟨scanned, lost, ?_⟩
  rw [lost]
  simp

end Terminal

end Lox
