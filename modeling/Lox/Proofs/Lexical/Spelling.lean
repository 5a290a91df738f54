import Lox.Precedence
import Lox.Proofs.Lexical.Scanner
import Lox.Proofs.Number.Comparable

set_option autoImplicit false

namespace Lox

-- Tokens of the kind are held by trees. Parentheses are not.
def Kind.enters (kind : Kind) : Bool :=
  kind.isLiteral || kind.isUnary || (Level.ofKind? kind).isSome

namespace Token

structure Spelled (token : Token) : Prop where
  number : token.kind = .number → ∃ d, Lexical.Numeral token.lexeme.toList d ∧
    token.payload = .number d.toNumber
  string : token.kind = .string → token.payload = .text (String.ofList (inner token.lexeme.toList))
  absent : token.kind.enters = true → token.kind ≠ .number → token.kind ≠ .string →
    token.payload = .absent

theorem Spelled.of_not_enters {token : Token} (out : token.kind.enters = false) :
    token.Spelled where
  number same := by
    rw [same] at out
    cases out
  string same := by
    rw [same] at out
    cases out
  absent enters := by
    rw [out] at enters
    cases enters

namespace Spelled

variable {token : Token} (spelled : token.Spelled)

include spelled

theorem isUnreadable : token.isUnreadable = false := by
  by_cases number : token.kind = .number
  · obtain ⟨d, numeral, -⟩ := spelled.number number
    simp [Token.isUnreadable, numeral.ofText?]
  · simp [Token.isUnreadable, number]

theorem restored (enters : token.kind.enters = true) : token.restored = token := by
  have payload : payloadOf token.kind token.lexeme.toList = token.payload := by
    by_cases number : token.kind = .number
    · obtain ⟨d, numeral, payload⟩ := spelled.number number
      simp only [number, payloadOf, numeral.ofText?, payload]
    · by_cases string : token.kind = .string
      · rw [spelled.string string, string]
        rfl
      · rw [spelled.absent enters number string]
        unfold payloadOf
        split <;> first | contradiction | rfl
  rw [Token.restored, payload]

theorem agrees (enters : token.kind.enters = true) :
    token.payload.agrees token.payload = true := by
  by_cases number : token.kind = .number
  · obtain ⟨d, -, payload⟩ := spelled.number number
    rw [payload]
    exact d.toNumber_beq_self
  · by_cases string : token.kind = .string
    · rw [spelled.string string]
      exact beq_self_eq_true _
    · rw [spelled.absent enters number string]
      rfl

end Spelled

end Token

namespace Lexical

theorem Rule.Emits.spelled {rule : Rule} {text : List Char} {kind : Kind} {payload : Payload}
    (emits : rule.Emits text kind payload) (fits : rule.Fits text) (line : Int) :
    Token.Spelled ⟨kind, String.ofList text, line, payload⟩ := by
  cases emits with
  | fixed =>
    have apart : ∀ entry ∈ fixedLexemes, entry.2 ≠ .number ∧ entry.2 ≠ .string := by decide
    cases fits with
    | fixed mem =>
      exact ⟨fun same => absurd same (apart _ mem).1, fun same => absurd same (apart _ mem).2,
        fun _ _ _ => rfl⟩
  | @string body =>
    have contents : Token.inner (String.ofList ('"' :: body ++ ['"'])).toList = body := by
      simp [Token.inner]
    refine ⟨fun same => ?_, fun _ => by rw [contents], fun _ _ other => absurd rfl other⟩
    cases same
  | @number _ d numeral =>
    refine ⟨fun _ => ⟨d, by simpa using numeral, rfl⟩, fun same => ?_,
      fun _ other => absurd rfl other⟩
    cases same
  | keyword known =>
    have apart : ∀ entry ∈ Kind.keywords, entry.2 ≠ .number ∧ entry.2 ≠ .string := by decide
    exact ⟨fun same => absurd same (apart _ known).1, fun same => absurd same (apart _ known).2,
      fun _ _ _ => rfl⟩
  | identifier => exact .of_not_enters rfl

theorem Scans.spelled {before ahead : List Char} {result : Except ScanError (List Token)}
    (scans : Scans before ahead result) :
    ∀ tokens, result = .ok tokens → ∀ token ∈ tokens, token.Spelled := by
  induction scans with
  | finished =>
    rintro _ ⟨⟩ token mem
    obtain rfl := List.mem_singleton.1 mem
    exact .of_not_enters rfl
  | skipped longest skips later ih => exact ih
  | @emitted _ _ _ _ _ _ result longest emits later ih =>
    intro tokens same token mem
    cases result with
    | error e => cases same
    | ok rest =>
      cases same
      rcases List.mem_cons.1 mem with rfl | mem
      · exact emits.spelled longest.fits _
      · exact ih rest rfl token mem
  | stuck nothing => nofun

theorem spelled_of_scan {source : String} {tokens : List Token}
    (scanned : scan source = .ok tokens) : ∀ token ∈ tokens, token.Spelled :=
  (scans_scan source).spelled tokens scanned

end Lexical

end Lox
