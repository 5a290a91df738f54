import Lox.Proofs.Lexical.LongestMatch

set_option autoImplicit false

namespace Lox.Lexical

open Scan

structure Passed (c d : Cursor) (text : List Char) : Prop where
  taken : d.taken = text
  ahead : text ++ d.ahead = c.ahead
  line : d.line = c.line + text.count '\n'
  tokens : d.tokens = c.tokens

namespace Passed

variable {c d : Cursor} {text : List Char}

theorem start (fresh : c.taken = []) : Passed c c [] :=
  ⟨fresh, rfl, by simp, rfl⟩

theorem takeOne (h : Passed c d text) {next : Char} {rest : List Char}
    (ahead : d.ahead = next :: rest) (inLine : next ≠ '\n') :
    Passed c d.takeOne (text ++ [next]) where
  taken := by simp [Cursor.takeOne, h.taken, ahead]
  ahead := by simp [← h.ahead, ahead]
  line := by simp [Cursor.takeOne, h.line, inLine]
  tokens := h.tokens

theorem passWhile (h : Passed c d text) (test : Char → Bool) (inLine : test '\n' = false) :
    Passed c (d.passWhile test) (text ++ d.ahead.takeWhile test) where
  taken := by simp [Cursor.passWhile, h.taken]
  ahead := by simp [← h.ahead]
  line := by
    have none : (d.ahead.takeWhile test).count '\n' = 0 := by
      refine List.count_eq_zero.2 fun mem => ?_
      simp [of_mem_takeWhile _ mem] at inLine
    simp [Cursor.passWhile, h.line, none]
  tokens := h.tokens

theorem passLines (h : Passed c d text) (test : Char → Bool) :
    Passed c ((d.passWhile test).countLines (d.ahead.takeWhile test))
      (text ++ d.ahead.takeWhile test) where
  taken := by simp [Cursor.passWhile, Cursor.countLines, h.taken]
  ahead := by simp [← h.ahead]
  line := by simp [Cursor.passWhile, Cursor.countLines, h.line, Nat.add_assoc]
  tokens := h.tokens

end Passed

inductive Step (c : Cursor) : Result → Prop where
  | skipped {d : Cursor} {rule : Rule} {text : List Char} (passed : Passed c d text)
      (longest : Longest rule text c.ahead) (skips : rule = .blank ∨ rule = .comment) :
      Step c (.ok () d)
  | emitted {d : Cursor} {rule : Rule} {text : List Char} {kind : Kind} {payload : Payload}
      (passed : Passed c d text) (longest : Longest rule text c.ahead)
      (emits : rule.Emits text kind payload) : Step c (.ok () (d.addToken kind payload))
  | stuck {d : Cursor} {next : Char} {rest : List Char} (ahead : c.ahead = next :: rest)
      (nothing : ∀ (rule : Rule) (text : List Char), rule.Fits text → ¬ text <+: next :: rest) :
      Step c (.error ⟨if next = '"' then .unterminatedString else .unexpectedCharacter, c.line⟩ d)

variable {c : Cursor} {first : Char} {rest : List Char}

theorem step_string (fresh : c.taken = []) (ahead : c.ahead = '"' :: rest) :
    Step c c.takeOne.finishString := by
  have begun := (Passed.start fresh).takeOne ahead (by decide)
  have inside := begun.passLines (· != '"')
  have next : c.takeOne.ahead = rest := by simp [ahead]
  rw [next] at inside
  simp only [Cursor.finishString, next]
  split
  · next ended =>
    have unclosed : rest.dropWhile (· != '"') = [] := by
      simpa [Cursor.atEnd, ahead] using ended
    exact .stuck ahead (nothing_unclosed unclosed)
  · next more =>
    obtain ⟨quote, behind, closes⟩ : ∃ quote behind,
        rest.dropWhile (· != '"') = quote :: behind := by
      apply List.exists_cons_of_ne_nil
      simpa [Cursor.atEnd, ahead] using more
    obtain rfl : quote = '"' := by
      have stop := List.head?_dropWhile_not (· != '"') rest
      simpa [closes] using stop
    have closed := inside.takeOne
      (by simp [ahead, closes] : _ = '"' :: behind) (by decide)
    have longest := longest_string closes
    rw [← ahead] at longest
    rw [closed.taken]
    have contents : Token.inner ([] ++ ['"'] ++ rest.takeWhile (· != '"') ++ ['"']) =
        rest.takeWhile (· != '"') := by
      simp [Token.inner]
    rw [contents]
    exact .emitted closed longest .string

theorem passed_number (fresh : c.taken = []) (ahead : c.ahead = first :: rest)
    (digit : Text.isDigit first = true) :
    ∃ text, Passed c c.takeOne.passNumber text ∧ Longest .number text c.ahead := by
  have inLine : first ≠ '\n' := by
    rintro rfl
    cases digit
  have next : c.takeOne.ahead = rest := by simp [ahead]
  have whole := ((Passed.start fresh).takeOne ahead inLine).passWhile Text.isDigit rfl
  rw [next] at whole
  have left : (c.takeOne.passWhile Text.isDigit).ahead = rest.dropWhile Text.isDigit := by
    simp [ahead]
  simp only [Cursor.passNumber, Cursor.charAt, left]
  -- Beyond the end the scanner sees a null character, which is no point and no digit.
  split
  · next fraction =>
    obtain ⟨digit', later, point, goesOn⟩ : ∃ digit' later,
        rest.dropWhile Text.isDigit = '.' :: digit' :: later ∧ Text.isDigit digit' = true := by
      generalize rest.dropWhile Text.isDigit = tail at fraction
      rcases tail with _ | ⟨a, _ | ⟨b, later⟩⟩
      · simp [Text.isDigit] at fraction
      · simp [Text.isDigit] at fraction
      · simp only [List.getD_cons_zero, List.getD_cons_succ, Bool.and_eq_true, beq_iff_eq]
          at fraction
        exact ⟨b, later, by rw [fraction.1], fraction.2⟩
    have pointed := whole.takeOne (left.trans point) (by decide)
    have all := pointed.passWhile Text.isDigit rfl
    have longest := longest_fraction digit point goesOn
    rw [← ahead] at longest
    exact ⟨_, all, by simpa [ahead, point] using longest⟩
  · next noFraction =>
    have longest : Longest .number (first :: rest.takeWhile Text.isDigit) (first :: rest) :=
      longest_whole digit fun next later point => by simpa [point] using noFraction
    rw [← ahead] at longest
    exact ⟨_, whole, longest⟩

theorem step_number (fresh : c.taken = []) (ahead : c.ahead = first :: rest)
    (digit : Text.isDigit first = true) : Step c c.takeOne.finishNumber := by
  obtain ⟨text, passed, longest⟩ := passed_number fresh ahead digit
  have fits := longest.fits
  cases fits with
  | number numeral =>
    simp only [Cursor.finishNumber, passed.taken, numeral.ofText?]
    exact .emitted passed longest (.number numeral)

theorem ofWord_cases (word : String) :
    (Kind.ofWord word = .identifier ∧ ∀ kind, (word, kind) ∉ Kind.keywords) ∨
      (Kind.ofWord word ≠ .identifier ∧ (word, Kind.ofWord word) ∈ Kind.keywords) := by
  cases found : Kind.keywords.lookup word with
  | none =>
    refine .inl ⟨by simp [Kind.ofWord, found], fun kind mem => ?_⟩
    simpa using List.lookup_eq_none_iff.1 found _ mem
  | some kind =>
    obtain ⟨before, after, entries, -⟩ := List.lookup_eq_some_iff.1 found
    have mem : (word, kind) ∈ Kind.keywords := by simp [entries]
    have proper : ∀ entry ∈ Kind.keywords, entry.2 ≠ .identifier := by decide
    have same : Kind.ofWord word = kind := by simp [Kind.ofWord, found]
    exact .inr ⟨same ▸ proper _ mem, same ▸ mem⟩

theorem step_word (fresh : c.taken = []) (ahead : c.ahead = first :: rest)
    (starts : Text.startsWord first = true) : Step c (.ok () c.takeOne.finishWord) := by
  have inLine : first ≠ '\n' := by
    rintro rfl
    cases starts
  have passed := ((Passed.start fresh).takeOne ahead inLine).passWhile
    Text.continuesWord rfl
  have next : c.takeOne.ahead = rest := by simp [ahead]
  rw [next] at passed
  have longest : Longest .word _ (first :: rest) := longest_word starts
  rw [← ahead] at longest
  simp only [Cursor.finishWord, Cursor.lexeme, passed.taken]
  rcases ofWord_cases (String.ofList ([] ++ [first] ++ rest.takeWhile Text.continuesWord)) with
    ⟨kind, unknown⟩ | ⟨kind, known⟩
  · rw [kind]
    exact .emitted passed longest (.identifier unknown)
  · split
    · contradiction
    · exact .emitted passed longest (.keyword known)

theorem Passed.accept {d e : Cursor} {text : List Char} {expected : Char} (h : Passed c d text)
    (inLine : expected ≠ '\n') (found : d.accept? expected = some e) :
    Passed c e (text ++ [expected]) ∧ ∃ behind, d.ahead = expected :: behind := by
  simp only [Cursor.accept?] at found
  split at found
  · next head =>
    obtain ⟨behind, ahead⟩ := List.head?_eq_some_iff.1 head
    cases found
    exact ⟨h.takeOne ahead inLine, behind, ahead⟩
  · cases found

theorem head?_ne_of_accept? {expected : Char} (ahead : c.ahead = first :: rest)
    (missing : c.takeOne.accept? expected = none) : rest.head? ≠ some expected := by
  intro found
  simp [Cursor.accept?, ahead, found] at missing

theorem step_single {kind : Kind} (fresh : c.taken = []) (ahead : c.ahead = first :: rest)
    (single : single? first = some kind) : Step c (.ok () (c.takeOne.addToken kind .absent)) := by
  have inLine : first ≠ '\n' := by
    rintro rfl
    cases single
  have longest : Longest (.fixed kind) [first] (first :: rest) := longest_single single
  rw [← ahead] at longest
  exact .emitted ((Passed.start fresh).takeOne ahead inLine) longest .fixed

theorem step_extensible {long short : Kind} (fresh : c.taken = []) (ahead : c.ahead = first :: rest)
    (extensible : extensible? first = some (long, short)) :
    Step c (match c.takeOne.accept? '=' with
      | some longer => .ok () (longer.addToken long .absent)
      | none => .ok () (c.takeOne.addToken short .absent)) := by
  have inLine : first ≠ '\n' := by
    rintro rfl
    cases extensible
  have begun := (Passed.start fresh).takeOne ahead inLine
  split
  · next longer found =>
    obtain ⟨passed, behind, equals⟩ := begun.accept (by decide) found
    obtain rfl : rest = '=' :: behind := by simpa [ahead] using equals
    have longest : Longest (.fixed long) [first, '='] (first :: '=' :: behind) :=
      longest_extended extensible
    rw [← ahead] at longest
    exact .emitted passed longest .fixed
  · next missing =>
    have longest := longest_unextended extensible (head?_ne_of_accept? ahead missing)
    rw [← ahead] at longest
    exact .emitted begun longest .fixed

theorem step_slash (fresh : c.taken = []) (ahead : c.ahead = '/' :: rest) :
    Step c (match c.takeOne.accept? '/' with
      | some comment => .ok () comment.passComment
      | none => .ok () (c.takeOne.addToken .slash .absent)) := by
  have begun := (Passed.start fresh).takeOne ahead (by decide)
  split
  · next comment found =>
    obtain ⟨opened, behind, slashes⟩ := begun.accept (by decide) found
    obtain rfl : rest = '/' :: behind := by simpa [ahead] using slashes
    have left : comment.ahead = behind := by simpa [ahead] using opened.ahead
    have passed := opened.passWhile (· != '\n') rfl
    rw [left] at passed
    have longest : Longest .comment _ ('/' :: '/' :: behind) := longest_comment
    rw [← ahead] at longest
    exact .skipped passed longest (.inr rfl)
  · next missing =>
    have longest := longest_slash (head?_ne_of_accept? ahead missing)
    rw [← ahead] at longest
    exact .emitted begun longest .fixed

theorem step_space (fresh : c.taken = []) (ahead : c.ahead = first :: rest)
    (space : isSpace first = true) : Step c (.ok () c.takeOne) := by
  have inLine : first ≠ '\n' := by
    rintro rfl
    cases space
  have mem : first ∈ blanks := by
    simp only [isSpace, Bool.or_eq_true, beq_iff_eq] at space
    rcases space with (rfl | rfl) | rfl <;> decide
  have longest : Longest .blank [first] (first :: rest) := longest_blank mem
  rw [← ahead] at longest
  exact .skipped ((Passed.start fresh).takeOne ahead inLine) longest (.inl rfl)

theorem step_newline (fresh : c.taken = []) (ahead : c.ahead = '\n' :: rest) :
    Step c (.ok () (c.takeOne.countLines ['\n'])) := by
  have passed : Passed c (c.takeOne.countLines ['\n']) ['\n'] :=
    ⟨by simp [Cursor.takeOne, Cursor.countLines, fresh, ahead], by simp [ahead], rfl, rfl⟩
  have longest : Longest .blank ['\n'] ('\n' :: rest) := longest_blank (by decide)
  rw [← ahead] at longest
  exact .skipped passed longest (.inl rfl)

theorem step_scanLexeme (fresh : c.taken = []) (ahead : c.ahead = first :: rest) :
    Step c c.scanLexeme := by
  have head : c.charAt 0 = first := by simp [Cursor.charAt, ahead]
  simp only [Cursor.scanLexeme, head, Cursor.finishLexeme]
  split
  · next single => exact step_single fresh ahead single
  next noSingle =>
  split
  · next extensible => exact step_extensible fresh ahead extensible
  next noExtensible =>
  split
  · next slash => exact step_slash fresh (slash ▸ ahead)
  next noSlash =>
  split
  · next space => exact step_space fresh ahead space
  next noSpace =>
  split
  · next newline =>
    subst newline
    exact step_newline fresh ahead
  next noNewline =>
  split
  · next quote => exact step_string fresh (quote ▸ ahead)
  next noQuote =>
  split
  · next digit => exact step_number fresh ahead digit
  next noDigit =>
  split
  · next letter => exact step_word fresh ahead letter
  next noLetter =>
  -- Only here is the first character one that no rule begins with.
  have nothing := nothing_unknown noSingle noExtensible noSlash (by simpa using noSpace) noNewline
    noQuote (by simpa using noDigit) (by simpa using noLetter) rest
  have stuck : Step c (.error ⟨_, c.line⟩ c.takeOne) := .stuck ahead nothing
  rwa [if_neg noQuote] at stuck

def outcome : Result → Except ScanError (List Token)
  | .ok _ c => .ok c.tokens.toList
  | .error e _ => .error e

theorem scanAll_of_ok {d : Cursor} (more : c.ahead ≠ [])
    (step : c.beginLexeme.scanLexeme = .ok () d) : c.scanAll = d.scanAll := by
  rw [Cursor.scanAll, dif_neg more]
  split
  · next failed =>
    rw [step] at failed
    cases failed
  · next passed =>
    rw [step] at passed
    cases passed
    rfl

theorem scanAll_of_error {d : Cursor} {e : ScanError} (more : c.ahead ≠ [])
    (step : c.beginLexeme.scanLexeme = .error e d) : c.scanAll = .error e d := by
  rw [Cursor.scanAll, dif_neg more]
  split
  · next failed =>
    rw [step] at failed
    cases failed
    rfl
  · next passed =>
    rw [step] at passed
    cases passed

theorem lineAfter_append (before text : List Char) :
    lineAfter (before ++ text) = lineAfter before + text.count '\n' := by
  simp [lineAfter, Nat.add_assoc]

theorem Passed.goes_on {d : Cursor} {rule : Rule} {before text : List Char}
    (passed : Passed c.beginLexeme d text) (longest : Longest rule text c.beginLexeme.ahead)
    (line : c.line = lineAfter before) : text ++ d.ahead = c.ahead ∧
      d.line = lineAfter (before ++ text) ∧ d.ahead.length < c.ahead.length := by
  have split : text ++ d.ahead = c.ahead := passed.ahead
  refine ⟨split, ?_, ?_⟩
  · rw [lineAfter_append, ← line]
    exact passed.line
  · have some := List.length_pos_iff.2 longest.fits.ne_nil
    rw [← split, List.length_append]
    omega

theorem scans_scanAll (c : Cursor) (before : List Char) (line : c.line = lineAfter before) :
    ∃ result, Scans before c.ahead result ∧
      outcome c.scanAll = result.map (c.tokens.toList ++ ·) := by
  -- A match is never empty, so what is ahead gets shorter with every lexeme.
  induction size : c.ahead.length using Nat.strongRecOn generalizing c before with
  | ind n ih =>
    by_cases more : c.ahead = []
    · refine ⟨.ok [Token.eof (lineAfter before)], more ▸ .finished before, ?_⟩
      rw [Cursor.scanAll, dif_pos more]
      simp [outcome, Cursor.close, line, Except.map]
    · obtain ⟨first, rest, ahead⟩ := List.exists_cons_of_ne_nil more
      have step : Step c.beginLexeme c.beginLexeme.scanLexeme := step_scanLexeme rfl ahead
      generalize scanned : c.beginLexeme.scanLexeme = r at step
      cases step with
      | @skipped d rule text passed longest skips =>
        obtain ⟨split, line', less⟩ := passed.goes_on longest line
        obtain ⟨result, scans, same⟩ := ih _ (size ▸ less) d _ line' rfl
        rw [← split]
        refine ⟨result, .skipped (split ▸ longest) skips scans, ?_⟩
        rw [scanAll_of_ok more scanned, same, passed.tokens]
        rfl
      | @emitted d rule text kind payload passed longest emits =>
        obtain ⟨split, line', less⟩ := passed.goes_on longest line
        obtain ⟨result, scans, same⟩ := ih _ (size ▸ less) (d.addToken kind payload) _ line' rfl
        rw [← split]
        refine ⟨_, .emitted (split ▸ longest) emits scans, ?_⟩
        have added : (d.addToken kind payload).tokens.toList = c.tokens.toList ++
            [⟨kind, String.ofList text, lineAfter (before ++ text), payload⟩] := by
          simp [Cursor.addToken, Cursor.lexeme, passed.taken, line', passed.tokens,
            Cursor.beginLexeme]
        rw [scanAll_of_ok more scanned, same, added]
        cases result <;> simp [Except.map]
      | @stuck d next rest' ahead' nothing =>
        rw [show c.ahead = next :: rest' from ahead']
        refine ⟨_, .stuck nothing, ?_⟩
        rw [scanAll_of_error more scanned, ← line]
        rfl

theorem scans_scan (source : String) : Scans [] source.toList (scan source) := by
  obtain ⟨result, scans, same⟩ := scans_scanAll (.ofText source) [] rfl
  have kept : result.map ((Cursor.ofText source).tokens.toList ++ ·) = result := by
    cases result <;> rfl
  have found : scan source = result := by
    rw [← kept, ← same, scan]
    cases (Cursor.ofText source).scanAll <;> rfl
  rw [found]
  exact scans

theorem scan_eq_iff (source : String) (result : Except ScanError (List Token)) :
    scan source = result ↔ Scans [] source.toList result := by
  constructor
  · rintro rfl
    exact scans_scan source
  · exact (scans_scan source).unique

end Lox.Lexical
