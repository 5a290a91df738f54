import Lox.Precedence
import Lox.Proofs.Lexical.Scanner

set_option autoImplicit false

namespace Lox

def Kind.isOperator (kind : Kind) : Bool :=
  kind.isUnary || (Level.ofKind? kind).isSome

theorem Kind.isLiteral_of_isOperator {kind : Kind} (operates : kind.isOperator = true) :
    kind.isLiteral = false := by
  cases kind <;> first | rfl | cases operates

def HasLine (source : List Char) (line : Int) : Prop :=
  1 ≤ line ∧ line ≤ 1 + source.count '\n'

namespace Lexical

inductive Reaches (source : List Char) : List Char → List Char → Prop where
  | start : Reaches source [] source
  | step {before text rest : List Char} {rule : Rule}
      (reached : Reaches source before (text ++ rest))
      (longest : Longest rule text (text ++ rest)) : Reaches source (before ++ text) rest

inductive Stands (source : List Char) : Token → Prop where
  | lexeme {before text rest : List Char} {rule : Rule} {kind : Kind} {payload : Payload}
      (reached : Reaches source before (text ++ rest))
      (longest : Longest rule text (text ++ rest)) (emits : rule.Emits text kind payload) :
      Stands source ⟨kind, String.ofList text, lineAfter (before ++ text), payload⟩
  | ended : Stands source (Token.eof (lineAfter source))

variable {source before ahead : List Char}

theorem Reaches.split (h : Reaches source before ahead) : before ++ ahead = source := by
  induction h with
  | start => rfl
  | step reached longest ih => rwa [List.append_assoc]

theorem hasLine_lineAfter (begins : before <+: source) : HasLine source (lineAfter before) := by
  have fewer := begins.sublist.count_le '\n'
  constructor <;> simp only [lineAfter] <;> omega

theorem Reaches.hasLine (h : Reaches source before ahead) : HasLine source (lineAfter before) :=
  hasLine_lineAfter ⟨ahead, h.split⟩

theorem Stands.hasLine {token : Token} (stands : Stands source token) :
    HasLine source token.line := by
  cases stands with
  | lexeme reached longest emits => exact (reached.step longest).hasLine
  | ended => exact hasLine_lineAfter List.prefix_rfl

theorem Rule.Emits.eq_fixed {rule : Rule} {text : List Char} {kind : Kind} {payload : Payload}
    (emits : rule.Emits text kind payload) (operates : kind.isOperator = true) :
    rule = .fixed kind := by
  cases emits with
  | fixed => rfl
  | string | number | identifier => cases operates
  | keyword known =>
    have none : ∀ entry ∈ Kind.keywords, entry.2.isOperator = false := by decide
    rw [none _ known] at operates
    cases operates

theorem newline_notMem_of_fixed {text : List Char} {kind : Kind}
    (mem : (text, kind) ∈ fixedLexemes) : '\n' ∉ text := by
  have none : ∀ entry ∈ fixedLexemes, '\n' ∉ entry.1 := by decide
  exact none _ mem

theorem Stands.operator {token : Token} (stands : Stands source token)
    (operates : token.kind.isOperator = true) :
    ∃ before rest, Reaches source before (token.lexeme.toList ++ rest) ∧
      token.line = lineAfter before := by
  cases stands with
  | @lexeme before text rest rule kind payload reached longest emits =>
    obtain rfl := emits.eq_fixed operates
    have inLine : text.count '\n' = 0 := by
      cases longest.fits with
      | fixed mem => exact List.count_eq_zero.2 (newline_notMem_of_fixed mem)
    refine ⟨before, rest, ?_, ?_⟩
    · rwa [String.toList_ofList]
    · simp [lineAfter_append, inLine]
  | ended => cases operates

namespace Scans

variable {result : Except ScanError (List Token)}

theorem stands (scans : Scans before ahead result) (reached : Reaches source before ahead) :
    ∀ tokens, result = .ok tokens → ∀ token ∈ tokens, Stands source token := by
  induction scans with
  | finished before =>
    rintro _ ⟨⟩ token mem
    obtain rfl := List.mem_singleton.1 mem
    obtain rfl : before = source := by simpa using reached.split
    exact .ended
  | skipped longest skips later ih => exact ih (reached.step longest)
  | @emitted _ _ _ _ _ _ result longest emits later ih =>
    intro tokens same token mem
    cases result with
    | error e => cases same
    | ok rest =>
      cases same
      rcases List.mem_cons.1 mem with rfl | mem
      · exact .lexeme reached longest emits
      · exact ih (reached.step longest) rest rfl token mem
  | stuck nothing => nofun

theorem stuck_at (scans : Scans before ahead result) (reached : Reaches source before ahead) :
    ∀ error, result = .error error → ∃ before next rest, Reaches source before (next :: rest) ∧
      (∀ (rule : Rule) (text : List Char), rule.Fits text → ¬ text <+: next :: rest) ∧
      error = ⟨if next = '"' then .unterminatedString else .unexpectedCharacter,
        lineAfter before⟩ := by
  induction scans with
  | finished => nofun
  | skipped longest skips later ih => exact ih (reached.step longest)
  | @emitted _ _ _ _ _ _ result longest emits later ih =>
    intro error same
    cases result with
    | error e =>
      cases same
      exact ih (reached.step longest) error rfl
    | ok rest => cases same
  | @stuck before rest next nothing =>
    rintro error ⟨⟩
    exact ⟨before, next, rest, reached, nothing, rfl⟩

theorem sorted (scans : Scans before ahead result) : ∀ tokens, result = .ok tokens →
    (∀ token ∈ tokens, (lineAfter before : Int) ≤ token.line) ∧
      tokens.Pairwise fun first second => first.line ≤ second.line := by
  -- The line of a token is counted up to where its lexeme ends, and there the rest begins.
  induction scans with
  | finished =>
    rintro _ ⟨⟩
    simp [Token.eof]
  | @skipped before text _ _ _ longest skips later ih =>
    intro tokens same
    obtain ⟨above, sorted⟩ := ih tokens same
    refine ⟨fun token mem => ?_, sorted⟩
    have below := above token mem
    rw [lineAfter_append] at below
    omega
  | @emitted before text _ _ _ _ result longest emits later ih =>
    intro tokens same
    cases result with
    | error e => cases same
    | ok rest =>
      cases same
      obtain ⟨above, sorted⟩ := ih rest rfl
      refine ⟨List.forall_mem_cons.2 ⟨?_, fun token mem => ?_⟩,
        List.pairwise_cons.2 ⟨above, sorted⟩⟩
      · simp only [lineAfter_append]
        omega
      · have below := above token mem
        rw [lineAfter_append] at below
        omega
  | stuck nothing => nofun

end Scans

variable {source : String}

theorem stands_of_scan {tokens : List Token} (scanned : scan source = .ok tokens) :
    ∀ token ∈ tokens, Stands source.toList token :=
  (scans_scan source).stands .start tokens scanned

theorem sorted_of_scan {tokens : List Token} (scanned : scan source = .ok tokens) :
    tokens.Pairwise fun first second => first.line ≤ second.line :=
  ((scans_scan source).sorted tokens scanned).2

theorem stuck_of_scan {error : ScanError} (failed : scan source = .error error) :
    ∃ before next rest, Reaches source.toList before (next :: rest) ∧
      (∀ (rule : Rule) (text : List Char), rule.Fits text → ¬ text <+: next :: rest) ∧
      error = ⟨if next = '"' then .unterminatedString else .unexpectedCharacter,
        lineAfter before⟩ :=
  (scans_scan source).stuck_at .start error failed

end Lexical

end Lox
