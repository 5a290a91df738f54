import Lox.Proofs.Lexical.Scanner

set_option autoImplicit false

namespace Lox.Lexical

open Scan

/-- A text that longest matches cut off the head of what stands behind another one, the text that
is left, and the tokens emitted on the way. -/
inductive Cuts : List Char → List Char → List Char → List Token → Prop where
  | done (before rest : List Char) : Cuts before [] rest []
  | skipped {before text cut rest : List Char} {rule : Rule} {tokens : List Token}
      (longest : Longest rule text (text ++ (cut ++ rest)))
      (skips : rule = .blank ∨ rule = .comment) (later : Cuts (before ++ text) cut rest tokens) :
      Cuts before (text ++ cut) rest tokens
  | emitted {before text cut rest : List Char} {rule : Rule} {kind : Kind} {payload : Payload}
      {tokens : List Token} (longest : Longest rule text (text ++ (cut ++ rest)))
      (emits : rule.Emits text kind payload) (later : Cuts (before ++ text) cut rest tokens) :
      Cuts before (text ++ cut) rest
        (⟨kind, String.ofList text, lineAfter (before ++ text), payload⟩ :: tokens)

def Stuck (ahead : List Char) : Prop :=
  ∀ (rule : Rule) (text : List Char), rule.Fits text → ¬ text <+: ahead

-- The fault at a place where no match leads on, which only a string without an end hides.
def faultAt (before : List Char) (next : Char) : ScanError :=
  ⟨if next = '"' then .unterminatedString else .unexpectedCharacter, lineAfter before⟩

theorem kind_ne_eof_of_emits {rule : Rule} {text : List Char} {kind : Kind} {payload : Payload}
    (fits : rule.Fits text) (emits : rule.Emits text kind payload) : kind ≠ .eof := by
  cases emits with
  | fixed =>
    have all : ∀ entry ∈ fixedLexemes, entry.2 ≠ .eof := by decide
    cases fits with
    | fixed mem => exact all _ mem
  | keyword known =>
    have all : ∀ entry ∈ Kind.keywords, entry.2 ≠ .eof := by decide
    exact all _ known
  | string | number | identifier => decide

theorem Longest.shorten {rule : Rule} {text ahead more : List Char}
    (h : Longest rule text (text ++ (ahead ++ more))) : Longest rule text (text ++ ahead) where
  fits := h.fits
  begins := List.prefix_append text ahead
  longest other longer also within := by
    refine h.longest other longer also ?_
    rw [← List.append_assoc]
    exact within.trans (List.prefix_append _ _)

theorem Longest.not_string {rule : Rule} {text ahead extra : List Char}
    (h : Longest rule text ahead) (some : extra ≠ []) : ¬ Rule.string.Fits (ahead ++ extra) := by
  intro also
  obtain ⟨first, tail, rfl, opens⟩ := h.fits.opens
  obtain ⟨rest, rfl⟩ := h.begins
  simp only [List.cons_append] at also
  -- A quote opens no other rule, so that the match is a string itself, with its own last quote.
  obtain rfl : rule = .string :=
    Rule.eq_of_opening (Opening.eq_of_has opens also.has) (by decide)
  obtain ⟨body, rfl, inside⟩ := h.fits.tail_of_string
  obtain ⟨whole, same, inside'⟩ := also.tail_of_string
  have first : body ++ ['"'] <+: body ++ ['"'] ++ rest ++ extra := by
    rw [List.append_assoc _ rest]
    exact List.prefix_append _ _
  obtain rfl : body = whole :=
    (quoted_unique inside first).1.symm.trans (quoted_unique inside' (same ▸ List.prefix_rfl)).1
  simp [some] at same

theorem Longest.extend {rule : Rule} {text ahead more : List Char} (h : Longest rule text ahead)
    (none : ∀ (other : Rule) (extra : List Char), extra ≠ [] → extra <+: more →
      other ≠ .blank → other ≠ .string → ¬ other.Fits (ahead ++ extra)) :
    Longest rule text (ahead ++ more) where
  fits := h.fits
  begins := h.begins.trans (List.prefix_append _ _)
  longest other longer also within := by
    -- What reaches into the text behind takes all that was ahead.
    by_cases short : longer.length ≤ ahead.length
    · exact h.longest other longer also
        (List.prefix_of_prefix_length_le within (List.prefix_append _ _) short)
    have whole : ahead <+: longer :=
      List.prefix_of_prefix_length_le (List.prefix_append _ _) within (by omega)
    obtain ⟨extra, rfl⟩ := whole
    have some : extra ≠ [] := by
      rintro rfl
      simp at short
    have notString : other ≠ .string := by
      rintro rfl
      exact h.not_string some also
    have notBlank : other ≠ .blank := by
      rintro rfl
      obtain ⟨first, tail, same⟩ := List.exists_cons_of_ne_nil h.ne_nil
      rw [same] at also
      exact some (List.append_eq_nil_iff.1 also.tail_of_blank).2
    exact absurd also (none other extra some
      ((List.prefix_append_right_inj ahead).1 within) notBlank notString)

namespace Cuts

variable {before cut rest : List Char} {tokens : List Token}

theorem scans {result : Except ScanError (List Token)} (cuts : Cuts before cut rest tokens)
    (later : Scans (before ++ cut) rest result) :
    Scans before (cut ++ rest) (result.map (tokens ++ ·)) := by
  induction cuts with
  | done before rest =>
    rw [List.append_nil] at later
    cases result <;> exact later
  | skipped longest skips cuts ih =>
    rw [List.append_assoc]
    exact .skipped longest skips (ih (by simpa using later))
  | emitted longest emits cuts ih =>
    rw [List.append_assoc]
    have scans := Scans.emitted longest emits (ih (by simpa using later))
    cases result <;> exact scans

theorem tokens_eq_nil (cuts : Cuts before cut rest tokens) (none : cut = []) : tokens = [] := by
  cases cuts with
  | done => rfl
  | skipped longest | emitted longest =>
    exact absurd (List.append_eq_nil_iff.1 none).1 longest.fits.ne_nil

theorem replace {other : List Char}
    (keeps : ∀ (rule : Rule) (text between : List Char),
      Longest rule text (text ++ (between ++ rest)) →
      Longest rule text (text ++ (between ++ other)))
    (cuts : Cuts before cut rest tokens) : Cuts before cut other tokens := by
  induction cuts with
  | done => exact .done _ _
  | skipped longest skips later ih => exact .skipped (keeps _ _ _ longest) skips (ih keeps)
  | emitted longest emits later ih => exact .emitted (keeps _ _ _ longest) emits (ih keeps)

theorem shorten {more : List Char} (cuts : Cuts before cut (rest ++ more) tokens) :
    Cuts before cut rest tokens :=
  cuts.replace fun _ _ between longest => by
    rw [← List.append_assoc between] at longest
    exact longest.shorten

theorem extend {more : List Char}
    (keeps : ∀ (rule : Rule) (text between : List Char),
      Longest rule text (text ++ (between ++ rest)) →
      Longest rule text (text ++ (between ++ rest) ++ more))
    (cuts : Cuts before cut rest tokens) : Cuts before cut (rest ++ more) tokens :=
  cuts.replace fun rule text between longest => by
    have kept := keeps rule text between longest
    rwa [List.append_assoc, List.append_assoc] at kept

theorem kind_ne_eof (cuts : Cuts before cut rest tokens) :
    ∀ token ∈ tokens, token.kind ≠ .eof := by
  induction cuts with
  | done => simp
  | skipped longest skips later ih => exact ih
  | emitted longest emits later ih =>
    exact List.forall_mem_cons.2 ⟨kind_ne_eof_of_emits longest.fits emits, ih⟩

end Cuts

namespace Scans

variable {before ahead : List Char} {result : Except ScanError (List Token)}

theorem cuts_of_ok (scans : Scans before ahead result) : ∀ tokens, result = .ok tokens →
    ∃ words, tokens = words ++ [Token.eof (lineAfter (before ++ ahead))] ∧
      Cuts before ahead [] words := by
  induction scans with
  | finished before =>
    rintro _ ⟨⟩
    exact ⟨[], by simp, .done before []⟩
  | @skipped before text rest rule result longest skips later ih =>
    intro tokens same
    obtain ⟨words, rfl, cuts⟩ := ih tokens same
    exact ⟨words, by simp, .skipped (by simpa using longest) skips cuts⟩
  | @emitted before text rest rule kind payload result longest emits later ih =>
    intro tokens same
    cases result with
    | error e => cases same
    | ok tokens =>
      cases same
      obtain ⟨words, rfl, cuts⟩ := ih tokens rfl
      exact ⟨_ :: words, by simp, .emitted (by simpa using longest) emits cuts⟩
  | stuck nothing => nofun

theorem cuts_of_error (scans : Scans before ahead result) : ∀ error, result = .error error →
    ∃ cut next rest tokens, ahead = cut ++ next :: rest ∧ Cuts before cut (next :: rest) tokens ∧
      Stuck (next :: rest) ∧ error = faultAt (before ++ cut) next := by
  induction scans with
  | finished => nofun
  | skipped longest skips later ih =>
    intro error same
    obtain ⟨cut, next, rest, tokens, rfl, cuts, stuck, rfl⟩ := ih error same
    exact ⟨_ ++ cut, next, rest, tokens, by simp, .skipped longest skips cuts, stuck, by simp⟩
  | @emitted before text rest rule kind payload result longest emits later ih =>
    intro error same
    cases result with
    | ok tokens => cases same
    | error e =>
      cases same
      obtain ⟨cut, next, rest, tokens, rfl, cuts, stuck, rfl⟩ := ih error rfl
      exact ⟨text ++ cut, next, rest, _, by simp, .emitted longest emits cuts, stuck, by simp⟩
  | @stuck before rest next nothing =>
    rintro error ⟨⟩
    exact ⟨[], next, rest, [], rfl, .done _ _, nothing, by simp [faultAt]⟩

end Scans

end Lox.Lexical
