import Lox.Proofs.Lexical.Cuts

set_option autoImplicit false

namespace Lox.Lexical

open Scan

structure Onward (c d : Cursor) : Prop where
  start : d.start = c.start
  length : d.pos + d.ahead.length = c.pos + c.ahead.length

namespace Onward

variable {c d e : Cursor}

theorem trans (first : Onward c d) (second : Onward d e) : Onward c e :=
  ⟨second.start.trans first.start, second.length.trans first.length⟩

theorem takeOne (more : c.ahead ≠ []) : Onward c c.takeOne where
  start := rfl
  length := by
    have some := List.length_pos_iff.2 more
    simp only [Cursor.takeOne, List.length_drop]
    omega

theorem passWhile (c : Cursor) (test : Char → Bool) : Onward c (c.passWhile test) where
  start := rfl
  length := by
    have split := congrArg List.length (List.takeWhile_append_dropWhile (p := test) (l := c.ahead))
    rw [List.length_append] at split
    simp only [Cursor.passWhile]
    omega

theorem countLines (c : Cursor) (text : List Char) : Onward c (c.countLines text) :=
  ⟨rfl, rfl⟩

theorem addToken (c : Cursor) (kind : Kind) (payload : Payload) :
    Onward c (c.addToken kind payload) :=
  ⟨rfl, rfl⟩

theorem accept {expected : Char} (found : c.accept? expected = some d) : Onward c d := by
  simp only [Cursor.accept?] at found
  split at found
  · next head =>
    cases found
    refine takeOne fun none => ?_
    rw [none] at head
    cases head
  · cases found

theorem passNumber (c : Cursor) : Onward c c.passNumber := by
  have whole := passWhile c Text.isDigit
  rw [Cursor.passNumber]
  split
  · next fraction =>
    -- Beyond the end the scanner sees a null character, which is no point.
    have more : (c.passWhile Text.isDigit).ahead ≠ [] := by
      intro none
      rw [Cursor.charAt, none] at fraction
      cases fraction
    exact whole.trans ((takeOne more).trans (passWhile _ _))
  · exact whole

theorem finishString (c : Cursor) : Onward c c.finishString.cursor := by
  have inside := (passWhile c (· != '"')).trans
    (countLines _ (c.ahead.takeWhile (· != '"')))
  rw [Cursor.finishString]
  dsimp only
  split
  · exact inside
  · next more =>
    refine inside.trans ((takeOne fun none => ?_).trans (addToken _ _ _))
    rw [Cursor.atEnd, none] at more
    exact more rfl

theorem finishNumber (c : Cursor) : Onward c c.finishNumber.cursor := by
  rw [Cursor.finishNumber]
  split
  · exact (passNumber c).trans (addToken _ _ _)
  · exact passNumber c

theorem finishWord (c : Cursor) : Onward c c.finishWord := by
  rw [Cursor.finishWord]
  split <;> exact (passWhile c Text.continuesWord).trans (addToken _ _ _)

theorem finishLexeme (c : Cursor) (first : Char) : Onward c (c.finishLexeme first).cursor := by
  rw [Cursor.finishLexeme]
  split
  · exact addToken _ _ _
  split
  · split
    · next found => exact (accept found).trans (addToken _ _ _)
    · exact addToken _ _ _
  split
  · split
    · next found => exact (accept found).trans (passWhile _ _)
    · exact addToken _ _ _
  split
  · exact ⟨rfl, rfl⟩
  split
  · exact countLines _ _
  split
  · exact finishString c
  split
  · exact finishNumber c
  split
  · exact finishWord c
  · exact ⟨rfl, rfl⟩

theorem scanLexeme (more : c.ahead ≠ []) : Onward c c.scanLexeme.cursor :=
  (takeOne more).trans (finishLexeme _ _)

end Onward

structure Advances (c d : Cursor) (cut : List Char) (tokens : List Token) : Prop where
  scanAll : c.scanAll = d.scanAll
  ahead : cut ++ d.ahead = c.ahead
  pos : d.pos = c.pos + cut.length
  line : d.line = c.line + cut.count '\n'
  tokens : d.tokens.toList = c.tokens.toList ++ tokens

namespace Advances

variable {c d e : Cursor} {text cut : List Char} {tokens others : List Token}

theorem refl (c : Cursor) : Advances c c [] [] where
  scanAll := rfl
  ahead := rfl
  pos := rfl
  line := rfl
  tokens := by simp

theorem trans (first : Advances c d text tokens) (second : Advances d e cut others) :
    Advances c e (text ++ cut) (tokens ++ others) where
  scanAll := first.scanAll.trans second.scanAll
  ahead := by rw [List.append_assoc, second.ahead, first.ahead]
  pos := by
    rw [second.pos, first.pos, List.length_append]
    omega
  line := by
    rw [second.line, first.line, List.count_append]
    omega
  tokens := by rw [second.tokens, first.tokens, List.append_assoc]

theorem ahead_eq {rest : List Char} (h : Advances c d text tokens)
    (ahead : c.ahead = text ++ rest) : d.ahead = rest :=
  List.append_cancel_left (h.ahead.trans ahead)

theorem line_eq {before : List Char} (h : Advances c d text tokens)
    (line : c.line = lineAfter before) : d.line = lineAfter (before ++ text) := by
  rw [h.line, line, lineAfter_append]

theorem of_step (more : c.ahead ≠ []) (passed : Passed c.beginLexeme d text)
    (step : c.beginLexeme.scanLexeme = .ok () e) (ahead : e.ahead = d.ahead)
    (line : e.line = d.line) (added : e.tokens.toList = c.tokens.toList ++ tokens) :
    Advances c e text tokens where
  scanAll := scanAll_of_ok more step
  ahead := by
    rw [ahead]
    exact passed.ahead
  pos := by
    have onward : Onward c.beginLexeme c.beginLexeme.scanLexeme.cursor := .scanLexeme more
    have length := onward.length
    have split := congrArg List.length passed.ahead
    rw [step] at length
    simp only [Result.cursor, Cursor.beginLexeme, ahead, List.length_append] at length split
    omega
  line := by
    rw [line]
    exact passed.line
  tokens := added

end Advances

variable {c : Cursor} {rule : Rule} {before text cut rest : List Char} {tokens : List Token}

theorem step_of_longest (longest : Longest rule text c.ahead) :
    ∃ d, Passed c.beginLexeme d text ∧
      (c.beginLexeme.scanLexeme = .ok () d ∧ (rule = .blank ∨ rule = .comment) ∨
        ∃ kind payload, rule.Emits text kind payload ∧
          c.beginLexeme.scanLexeme = .ok () (d.addToken kind payload)) := by
  obtain ⟨first, behind, ahead⟩ := List.exists_cons_of_ne_nil longest.ne_nil
  have step : Step c.beginLexeme c.beginLexeme.scanLexeme := step_scanLexeme rfl ahead
  generalize c.beginLexeme.scanLexeme = result at step
  cases step with
  | @skipped d _ _ passed longest' skips =>
    obtain ⟨rfl, rfl⟩ := longest.unique longest'
    exact ⟨d, passed, .inl ⟨rfl, skips⟩⟩
  | @emitted d _ _ kind payload passed longest' emits =>
    obtain ⟨rfl, rfl⟩ := longest.unique longest'
    exact ⟨d, passed, .inr ⟨kind, payload, emits, rfl⟩⟩
  | stuck ahead nothing => exact absurd (ahead ▸ longest.begins) (nothing _ _ longest.fits)

theorem exists_step_skipped (longest : Longest rule text c.ahead)
    (skips : rule = .blank ∨ rule = .comment) :
    ∃ d, c.beginLexeme.scanLexeme = .ok () d ∧ Advances c d text [] := by
  obtain ⟨d, passed, ⟨step, -⟩ | ⟨_, _, emits, -⟩⟩ := step_of_longest longest
  · refine ⟨d, step, .of_step longest.ne_nil passed step rfl rfl ?_⟩
    rw [passed.tokens, List.append_nil]
    rfl
  · exact absurd skips emits.not_skips

theorem exists_step_emitted {kind : Kind} {payload : Payload}
    (longest : Longest rule text c.ahead) (emits : rule.Emits text kind payload)
    (line : c.line = lineAfter before) : ∃ d, c.beginLexeme.scanLexeme = .ok () d ∧
      Advances c d text [⟨kind, String.ofList text, lineAfter (before ++ text), payload⟩] := by
  obtain ⟨d, passed, ⟨-, skips⟩ | ⟨_, _, emits', step⟩⟩ := step_of_longest longest
  · exact absurd skips emits.not_skips
  · obtain ⟨rfl, rfl⟩ := emits.unique emits'
    refine ⟨_, step, .of_step longest.ne_nil passed step rfl rfl ?_⟩
    simp [Cursor.addToken, Cursor.lexeme, passed.taken, passed.line, passed.tokens,
      Cursor.beginLexeme, line, lineAfter_append]

theorem Cuts.exists_advances (cuts : Cuts before cut rest tokens) (ahead : c.ahead = cut ++ rest)
    (line : c.line = lineAfter before) : ∃ d, Advances c d cut tokens := by
  induction cuts generalizing c with
  | done => exact ⟨c, .refl c⟩
  | skipped longest skips later ih =>
    rw [List.append_assoc] at ahead
    obtain ⟨d, -, passed⟩ := exists_step_skipped (ahead ▸ longest) skips
    obtain ⟨e, further⟩ := ih (passed.ahead_eq ahead) (passed.line_eq line)
    exact ⟨e, passed.trans further⟩
  | emitted longest emits later ih =>
    rw [List.append_assoc] at ahead
    obtain ⟨d, -, passed⟩ := exists_step_emitted (ahead ▸ longest) emits line
    obtain ⟨e, further⟩ := ih (passed.ahead_eq ahead) (passed.line_eq line)
    exact ⟨e, passed.trans further⟩

theorem finishLexeme_failed {first : Char} {error : ScanError} {d : Cursor}
    (failed : c.finishLexeme first = .error error d) :
    error.cause = .unexpectedCharacter ∧ d = c ∨
      error.cause = .unterminatedString ∧ d.ahead = [] ∧
        d.line = c.line + c.ahead.count '\n' ∧ d.tokens = c.tokens ∨
      error.cause = .invalidNumber := by
  rw [Cursor.finishLexeme] at failed
  split at failed
  · cases failed
  split at failed
  · split at failed <;> cases failed
  split at failed
  · split at failed <;> cases failed
  split at failed
  · cases failed
  split at failed
  · cases failed
  split at failed
  · rw [Cursor.finishString] at failed
    dsimp only at failed
    split at failed
    · next ended =>
      cases failed
      have none : c.ahead.dropWhile (· != '"') = [] := List.isEmpty_iff.1 ended
      have all := List.takeWhile_append_dropWhile (p := (· != '"')) (l := c.ahead)
      rw [none, List.append_nil] at all
      refine .inr (.inl ⟨rfl, none, ?_, rfl⟩)
      simp only [Cursor.countLines, Cursor.passWhile, all]
    · cases failed
  split at failed
  · rw [Cursor.finishNumber] at failed
    split at failed
    · cases failed
    · cases failed
      exact .inr (.inr rfl)
  split at failed
  · cases failed
  · cases failed
    exact .inl ⟨rfl, rfl⟩

structure Halted (c : Cursor) (next : Char) (rest : List Char) (d : Cursor) : Prop where
  start : d.start = c.pos
  tokens : d.tokens = c.tokens
  unexpected : next ≠ '"' → d.pos = c.pos + 1 ∧ d.ahead = rest ∧ d.line = c.line
  unterminated : next = '"' → d.pos = c.pos + c.ahead.length ∧ d.ahead = [] ∧
    d.line = c.line + rest.count '\n'

theorem Stuck.scanAll {next : Char} (stuck : Stuck (next :: rest)) (ahead : c.ahead = next :: rest)
    (line : c.line = lineAfter before) :
    ∃ d, c.scanAll = .error (faultAt before next) d ∧ Halted c next rest d := by
  have more : c.ahead ≠ [] := by simp [ahead]
  have step : Step c.beginLexeme c.beginLexeme.scanLexeme := step_scanLexeme rfl ahead
  have onward : Onward c.beginLexeme c.beginLexeme.scanLexeme.cursor := .scanLexeme more
  have taken : c.beginLexeme.takeOne.ahead = rest := by simp [ahead]
  generalize scanned : c.beginLexeme.scanLexeme = result at step onward
  cases step with
  | skipped _ longest | emitted _ longest =>
    rw [Cursor.ahead_beginLexeme, ahead] at longest
    exact absurd longest.begins (stuck _ _ longest.fits)
  | @stuck d next' rest' ahead' nothing =>
    obtain ⟨rfl, rfl⟩ := List.cons.inj (ahead.symm.trans ahead')
    refine ⟨d, ?_, ?_⟩
    · rw [scanAll_of_error more scanned, faultAt, ← line]
      rfl
    have length : d.pos + d.ahead.length = c.pos + c.ahead.length := onward.length
    rcases finishLexeme_failed scanned with ⟨cause, rfl⟩ | ⟨cause, ended, lines, tokens⟩ | cause
    · have noQuote : next ≠ '"' := by
        rintro rfl
        cases cause
      exact ⟨rfl, rfl, fun _ => ⟨rfl, taken, rfl⟩, fun quote => absurd quote noQuote⟩
    · have quote : next = '"' := by
        by_cases quote : next = '"'
        · exact quote
        · rw [if_neg quote] at cause
          cases cause
      rw [taken] at lines
      rw [ended, List.length_nil, Nat.add_zero] at length
      exact ⟨onward.start, tokens, fun other => absurd quote other, fun _ => ⟨length, ended, lines⟩⟩
    · dsimp only at cause
      split at cause <;> cases cause

theorem Cuts.scanAll_halted {next : Char} (cuts : Cuts before cut (next :: rest) tokens)
    (stuck : Stuck (next :: rest)) (split : c.ahead = cut ++ next :: rest)
    (line : c.line = lineAfter before) :
    ∃ d e, c.scanAll = .error (faultAt (before ++ cut) next) e ∧ Advances c d cut tokens ∧
      Halted d next rest e := by
  obtain ⟨d, passed⟩ := cuts.exists_advances split line
  obtain ⟨e, failed, halted⟩ := stuck.scanAll (passed.ahead_eq split) (passed.line_eq line)
  exact ⟨d, e, passed.scanAll.trans failed, passed, halted⟩

theorem Cuts.scanAll_ofText {source : String} {next : Char}
    (cuts : Cuts [] cut (next :: rest) tokens) (stuck : Stuck (next :: rest))
    (split : source.toList = cut ++ next :: rest) :
    ∃ d, (Cursor.ofText source).scanAll = .error (faultAt cut next) d ∧ d.start = cut.length ∧
      d.tokens.toList = tokens ∧ (next = '"' → d.pos = source.length) ∧
      (next ≠ '"' → d.pos = cut.length + 1) := by
  obtain ⟨c, d, failed, passed, halted⟩ :=
    cuts.scanAll_halted (c := .ofText source) stuck split rfl
  have pos : c.pos = cut.length := passed.pos.trans (Nat.zero_add _)
  refine ⟨d, failed, halted.start.trans pos, ?_, fun quote => ?_, fun noQuote => ?_⟩
  · rw [halted.tokens, passed.tokens]
    rfl
  · rw [(halted.unterminated quote).1, pos, passed.ahead_eq split, ← List.length_append, ← split,
      String.length_toList]
  · rw [(halted.unexpected noQuote).1, pos]

end Lox.Lexical
