import Lox.Proofs.Display
import Lox.Proofs.Lexical.Cuts
import Lox.Proofs.Lexical.Places

set_option autoImplicit false

namespace Lox

def Token.moved (lines : Nat) (token : Token) : Token :=
  { token with line := token.line + lines }

def ScanError.moved (lines : Nat) (error : ScanError) : ScanError :=
  { error with line := error.line + lines }

namespace Lexical

def movedOutcome (lines : Nat) : Except ScanError (List Token) → Except ScanError (List Token)
  | .ok tokens => .ok (tokens.map (Token.moved lines))
  | .error error => .error (error.moved lines)

theorem lineAfter_lead (lead before : List Char) :
    lineAfter (lead ++ before) = lineAfter before + lead.count '\n' := by
  simp only [lineAfter, List.count_append]
  omega

theorem Scans.moved {before ahead : List Char} {result : Except ScanError (List Token)}
    (scans : Scans before ahead result) (lead : List Char) :
    Scans (lead ++ before) ahead (movedOutcome (lead.count '\n') result) := by
  induction scans with
  | finished before =>
    have ended := Scans.finished (lead ++ before)
    rwa [lineAfter_lead] at ended
  | skipped longest skips later ih => exact .skipped longest skips (by simpa using ih)
  | @emitted before text _ _ _ _ result longest emits later ih =>
    rw [← List.append_assoc] at ih
    have scans := Scans.emitted longest emits ih
    rw [List.append_assoc, lineAfter_lead] at scans
    cases result <;> exact scans
  | @stuck before rest next nothing =>
    have failed : Scans (lead ++ before) (next :: rest) _ := .stuck nothing
    rwa [lineAfter_lead] at failed

-- A lexeme that goes beyond its line is a string; the newline that ends a line is a blank.
theorem Rule.Fits.newline {rule : Rule} {text : List Char} (fits : rule.Fits text)
    (mem : '\n' ∈ text) : rule = .blank ∨ rule = .string := by
  cases fits with
  | blank => exact .inl rfl
  | comment line => simp [line] at mem
  | fixed known => exact absurd mem (newline_notMem_of_fixed known)
  | string => exact .inr rfl
  | number numeral => exact absurd (numeral.isPlain _ mem) (by decide)
  | word starts continues =>
    rcases List.mem_cons.1 mem with rfl | mem
    · cases starts
    · exact absurd (continues _ mem) (by decide)

theorem Longest.extend_line {rule : Rule} {text ahead : List Char} (h : Longest rule text ahead)
    (second : List Char) : Longest rule text (ahead ++ '\n' :: second) := by
  refine h.extend fun other extra some within notBlank notString also => ?_
  obtain ⟨next, extra, rfl⟩ := List.exists_cons_of_ne_nil some
  obtain ⟨rfl, -⟩ := List.cons_prefix_cons.1 within
  rcases also.newline (by simp) with rfl | rfl
  · exact notBlank rfl
  · exact notString rfl

theorem Scans.joined {first second : List Char} {tokens : List Token}
    {result : Except ScanError (List Token)} (scans : Scans [] first (.ok tokens))
    (later : Scans [] second result) :
    ∃ words, tokens = words ++ [Token.eof (lineAfter first)] ∧
      Scans [] (first ++ '\n' :: second)
        ((movedOutcome (lineAfter first) result).map (words ++ ·)) := by
  obtain ⟨words, same, cuts⟩ := scans.cuts_of_ok tokens rfl
  refine ⟨words, same, ?_⟩
  have reached : Cuts [] first ('\n' :: second) words :=
    cuts.extend fun rule text between longest => longest.extend_line second
  have begun := later.moved (first ++ ['\n'])
  rw [List.append_nil, List.count_append, List.count_singleton_self, Nat.add_comm] at begun
  exact reached.scans (.blank (by decide) begun)

end Lexical

open Lexical

theorem scan_joined {first : String} {tokens : List Token} (scanned : scan first = .ok tokens)
    (second : String) :
    ∃ words, tokens = words ++ [Token.eof (1 + first.toList.count '\n')] ∧
      (∀ later, scan second = .ok later → scan (first ++ "\n" ++ second) =
        .ok (words ++ later.map (Token.moved (1 + first.toList.count '\n')))) ∧
      ∀ error, scan second = .error error → scan (first ++ "\n" ++ second) =
        .error (error.moved (1 + first.toList.count '\n')) := by
  obtain ⟨words, same, joined⟩ := (scanned ▸ scans_scan first).joined (scans_scan second)
  have scans := scans_scan (first ++ "\n" ++ second)
  have text : (first ++ "\n" ++ second).toList = first.toList ++ '\n' :: second.toList := by
    simp [String.toList_append]
  rw [text] at scans
  rw [scans.unique joined]
  refine ⟨words, same, fun later read => ?_, fun error failed => ?_⟩
  · rw [read]
    rfl
  · rw [failed]
    rfl

-- An exclamation mark at the end of a line takes no equals sign from the next one.
theorem scan_joined_bang :
    scan "!" = .ok [⟨.bang, "!", 1, .absent⟩, Token.eof 1] ∧
      scan "=" = .ok [⟨.equal, "=", 1, .absent⟩, Token.eof 1] ∧
      scan ("!" ++ "\n" ++ "=") =
        .ok [⟨.bang, "!", 1, .absent⟩, ⟨.equal, "=", 2, .absent⟩, Token.eof 2] ∧
      scan "\"" = .error ⟨.unterminatedString, 1⟩ ∧
      scan ("!" ++ "\n" ++ "\"") = .error ⟨.unterminatedString, 2⟩ := by
  have bang : scan "!" = .ok [⟨.bang, "!", 1, .absent⟩, Token.eof 1] :=
    scan_only (Lexed.fixed (by decide) 1)
  have equal : scan "=" = .ok [⟨.equal, "=", 1, .absent⟩, Token.eof 1] :=
    scan_only (Lexed.fixed (by decide) 1)
  have quote : scan "\"" = .error ⟨.unterminatedString, 1⟩ :=
    (scans_scan "\"").unique (.stuck (nothing_unclosed rfl))
  obtain ⟨words, same, joins, -⟩ := scan_joined bang "="
  obtain ⟨-, -, -, fails⟩ := scan_joined bang "\""
  obtain rfl : [⟨.bang, "!", 1, .absent⟩] = words := by
    simpa using congrArg List.dropLast same
  exact ⟨bang, equal, joins _ equal, quote, fails _ quote⟩

end Lox
