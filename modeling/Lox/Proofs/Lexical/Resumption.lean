import Lox.Proofs.Lexical.Failure

set_option autoImplicit false

namespace Lox

namespace Scan

structure Fault where
  error : ScanError
  -- The cursor that the failed scan left.
  cursor : Cursor

inductive Resumes : Cursor → List Fault → Cursor → Prop where
  | ended {c d : Cursor} (run : c.scanAll = .ok () d) : Resumes c [] d
  | failed {c d last : Cursor} {error : ScanError} {faults : List Fault}
      (run : c.scanAll = .error error d) (later : Resumes d faults last) :
      Resumes c (⟨error, d⟩ :: faults) last

def newlines (text : List Char) : List Char :=
  text.filter (· = '\n')

def mend (text : List Char) (fault : Fault) : List Char :=
  match fault.error.cause with
  | .unexpectedCharacter => text.set fault.cursor.start ' '
  | .unterminatedString =>
    text.take fault.cursor.start ++ newlines (text.drop fault.cursor.start)
  | .invalidNumber => text

end Scan

open Scan

namespace Lexical

variable {rule : Rule} {before text between cut rest tail : List Char} {first next c : Char}

theorem Rule.Fits.comment_or_string (fits : rule.Fits (first :: text)) (mem : c ∈ text)
    (blank : c ∈ blanks) : rule = .comment ∨ rule = .string := by
  obtain ⟨plain, letter, equals, -⟩ := not_extends_of_mem_blanks c blank
  cases fits with
  | blank => simp at mem
  | comment => exact .inl rfl
  | fixed known =>
    rcases tail_of_fixed known with rfl | ⟨rfl, -, -⟩
    · simp at mem
    · exact absurd (List.mem_singleton.1 mem) equals
  | string => exact .inr rfl
  | number numeral =>
    rw [numeral.isPlain c (by simp [mem])] at plain
    cases plain
  | word starts continues =>
    rw [continues c mem] at letter
    cases letter

theorem Stuck.notMem_blanks (stuck : Stuck (next :: rest)) : next ∉ blanks := fun mem =>
  stuck .blank [next] (.blank mem) (by simp)

theorem Longest.exchange_stuck (longest : Longest rule text (text ++ (between ++ next :: rest)))
    (stuck : Stuck (next :: rest)) (blank : ∀ c ∈ tail.head?, c ∈ blanks) :
    Longest rule text (text ++ (between ++ tail)) := by
  rw [← List.append_assoc]
  refine longest.shorten.extend fun other extra some within _ notString also => ?_
  obtain ⟨c, extra, rfl⟩ := List.exists_cons_of_ne_nil some
  have mem : c ∈ blanks := blank c (mem_head?_of_begins within)
  obtain ⟨first, more, same⟩ := List.exists_cons_of_ne_nil longest.fits.ne_nil
  have grown := also
  rw [same, List.cons_append, List.cons_append] at grown
  obtain rfl := (grown.comment_or_string (by simp) mem).resolve_right notString
  by_cases long : 2 ≤ (text ++ between).length
  · -- A comment that ends at the fault would have gone on there.
    have line : next ≠ '\n' := by
      rintro rfl
      exact stuck.notMem_blanks (by decide)
    have whole : Rule.comment.Fits (text ++ between ++ [next]) := by
      generalize text ++ between = ahead at also long
      cases also.comment_left long with
      | comment body => exact .comment (by simp [body, line.symm])
    have bound := longest.longest _ _ whole ⟨rest, by simp⟩
    simp only [List.length_append, List.length_singleton] at bound
    omega
  · have none : more ++ between = [] := by
      rw [same] at long
      exact List.length_eq_zero_iff.1 (by simp at long ⊢; omega)
    rw [none, List.nil_append] at grown
    obtain ⟨-, body, slash, -⟩ := grown.tail_of_comment
    exact absurd (List.cons.inj slash).1 (not_extends_of_mem_blanks c mem).2.2.2

theorem Cuts.exchange_stuck {tokens : List Token} (cuts : Cuts before cut (next :: rest) tokens)
    (stuck : Stuck (next :: rest)) (blank : ∀ c ∈ tail.head?, c ∈ blanks) :
    Cuts before cut tail tokens :=
  cuts.replace fun _ _ _ longest => longest.exchange_stuck stuck blank

theorem Halted.start_lt_pos {c d : Cursor} (halted : Halted c next rest d)
    (ahead : c.ahead = next :: rest) : d.start < d.pos := by
  rw [halted.start]
  by_cases quote : next = '"'
  · rw [(halted.unterminated quote).1, ahead, List.length_cons]
    omega
  · rw [(halted.unexpected quote).1]
    omega

theorem gap_newlines (text : List Char) : Gap (newlines text) := by
  induction text with
  | nil => exact .empty
  | cons c text ih =>
    by_cases newline : c = '\n'
    · rw [newlines, List.filter_cons_of_pos (by simpa using newline)]
      exact .blank (newline ▸ by decide) ih
    · rwa [newlines, List.filter_cons_of_neg (by simpa using newline)]

theorem head?_newlines (text : List Char) : ∀ c ∈ (newlines text).head?, c ∈ blanks := by
  intro c mem
  have newline := (List.mem_filter.1 (List.mem_of_mem_head? mem)).2
  obtain rfl : c = '\n' := by simpa using newline
  decide

theorem count_newlines (text : List Char) : (newlines text).count '\n' = text.count '\n' :=
  List.count_filter (by simp)

theorem mend_unexpected {fault : Fault} (cause : fault.error.cause = .unexpectedCharacter)
    (start : fault.cursor.start = before.length) :
    mend (before ++ next :: rest) fault = before ++ ' ' :: rest := by
  rw [mend, cause, start]
  simp

theorem mend_unterminated {fault : Fault} (cause : fault.error.cause = .unterminatedString)
    (start : fault.cursor.start = before.length) :
    mend (before ++ rest) fault = before ++ newlines rest := by
  rw [mend, cause, start]
  simp

end Lexical

open Lexical

namespace Scan

theorem length_ahead_lt_of_failed {c d : Cursor} {error : ScanError}
    (failed : c.scanAll = .error error d) : d.ahead.length < c.ahead.length := by
  fun_induction Cursor.scanAll c with
  | case1 c ended => cases failed
  | case2 c more less e d' step =>
    cases failed
    simpa [step, Result.cursor] using less
  | case3 c more less _ d' step short ih => exact Nat.lt_trans (ih failed) short

theorem exists_resumes (c : Cursor) : ∃ faults d, Resumes c faults d := by
  -- On what is ahead, of which every failed scan takes something.
  induction size : c.ahead.length using Nat.strongRecOn generalizing c with
  | ind n ih =>
    cases run : c.scanAll with
    | ok _ d => exact ⟨[], d, .ended run⟩
    | error error d =>
      obtain ⟨faults, last, later⟩ := ih _ (size ▸ length_ahead_lt_of_failed run) d rfl
      exact ⟨_, last, .failed run later⟩

structure Faulted (before : List Char) (c : Cursor) (cut : List Char) (next : Char)
    (rest : List Char) (words : List Token) (d : Cursor) : Prop where
  ahead : c.ahead = cut ++ next :: rest
  cuts : Cuts before cut (next :: rest) words
  stuck : Stuck (next :: rest)
  tokens : d.tokens.toList = c.tokens.toList ++ words
  start : d.start = (before ++ cut).length
  further : d.start < d.pos
  -- In both cases the place that is left is the place behind what mends the text.
  unexpected : next ≠ '"' → d.ahead = rest ∧ d.pos = (before ++ cut ++ [' ']).length ∧
    d.line = lineAfter (before ++ cut ++ [' '])
  unterminated : next = '"' → d.ahead = [] ∧
    d.line = lineAfter (before ++ cut ++ newlines (next :: rest))

theorem exists_faulted {before : List Char} {c d : Cursor} {error : ScanError}
    (pos : c.pos = before.length) (line : c.line = lineAfter before)
    (run : c.scanAll = .error error d) :
    ∃ cut next rest words, error = faultAt (before ++ cut) next ∧
      Faulted before c cut next rest words d := by
  obtain ⟨result, scans, same⟩ := scans_scanAll c before line
  rw [run] at same
  cases result with
  | ok tokens => cases same
  | error e =>
    obtain ⟨cut, next, rest, words, split, cuts, stuck, rfl⟩ := scans.cuts_of_error e rfl
    obtain ⟨reached, _, run', passed, halted⟩ := cuts.scanAll_halted stuck split line
    cases run.symm.trans run'
    have start : d.start = (before ++ cut).length := by
      rw [halted.start, passed.pos, pos, List.length_append]
    refine ⟨cut, next, rest, words, rfl, split, cuts, stuck, ?_, start,
      halted.start_lt_pos (passed.ahead_eq split), fun noQuote => ?_, fun quote => ?_⟩
    · rw [halted.tokens, passed.tokens]
    · obtain ⟨near, ahead, same⟩ := halted.unexpected noQuote
      refine ⟨ahead, ?_, ?_⟩
      · rw [near, ← halted.start, start]
        simp only [List.length_append, List.length_singleton]
      · rw [same, passed.line_eq line, lineAfter_append _ [' ']]
        rfl
    · obtain ⟨-, ended, lines⟩ := halted.unterminated quote
      refine ⟨ended, ?_⟩
      rw [lines, passed.line_eq line, lineAfter_append _ (newlines _), count_newlines,
        List.count_cons_of_ne (by simp [quote])]

theorem Faulted.scans {before cut rest tail : List Char} {c d : Cursor} {next : Char}
    {words tokens : List Token} (faulted : Faulted before c cut next rest words d)
    (blank : ∀ c ∈ tail.head?, c ∈ blanks) (behind : Scans (before ++ cut) tail (.ok tokens)) :
    Scans before (cut ++ tail) (.ok (words ++ tokens)) :=
  (faulted.cuts.exchange_stuck faulted.stuck blank).scans behind

namespace Resumes

variable {c d : Cursor} {faults : List Fault}

theorem length_le (resumes : Resumes c faults d) : faults.length ≤ c.ahead.length := by
  induction resumes with
  | ended => exact Nat.zero_le _
  | failed run later ih => exact Nat.lt_of_le_of_lt ih (length_ahead_lt_of_failed run)

theorem tokens_of_ended (resumes : Resumes c faults d) (ended : c.ahead = []) :
    faults = [] ∧ d.tokens.toList = c.tokens.toList ++ [Token.eof c.line] := by
  have run : c.scanAll = .ok () c.close := by rw [Cursor.scanAll, dif_pos ended]
  cases resumes with
  | ended run' =>
    cases run.symm.trans run'
    simp [Cursor.close]
  | failed run' => cases run.symm.trans run'

theorem scans_mended (resumes : Resumes c faults d) {before : List Char}
    (pos : c.pos = before.length) (line : c.line = lineAfter before) :
    ∃ tail tokens, faults.foldl mend (before ++ c.ahead) = before ++ tail ∧
      Scans before tail (.ok tokens) ∧ d.tokens.toList = c.tokens.toList ++ tokens ∧
      ∀ fault ∈ faults, fault.cursor.start < fault.cursor.pos := by
  induction resumes generalizing before with
  | @ended c d run =>
    obtain ⟨result, scans, same⟩ := scans_scanAll c before line
    rw [run] at same
    cases result with
    | error e => cases same
    | ok tokens => exact ⟨c.ahead, tokens, rfl, scans, Except.ok.inj same, by simp⟩
  | @failed c d last error faults run later ih =>
    obtain ⟨cut, next, rest, words, rfl, faulted⟩ := exists_faulted pos line run
    rw [List.foldl_cons, faulted.ahead, ← List.append_assoc]
    by_cases quote : next = '"'
    · -- Nothing is left behind the string, and its newlines are blanks.
      obtain ⟨ended, lines⟩ := faulted.unterminated quote
      obtain ⟨rfl, closed⟩ := later.tokens_of_ended ended
      have behind : Scans (before ++ cut) (newlines (next :: rest)) _ :=
        Scans.lastGap (.closed (gap_newlines _))
      refine ⟨cut ++ newlines (next :: rest), _, ?_,
        faulted.scans (head?_newlines _) behind, ?_, ?_⟩
      · rw [List.foldl_nil, mend_unterminated (by simp [faultAt, quote]) faulted.start,
          List.append_assoc]
      · rw [closed, faulted.tokens, lines, List.append_assoc]
      · simpa using faulted.further
    · obtain ⟨ahead, pos', line'⟩ := faulted.unexpected quote
      obtain ⟨tail, tokens, mended, scans', emitted, later'⟩ := ih pos' line'
      have behind : Scans (before ++ cut) (' ' :: tail) (.ok tokens) := .blank (by decide) scans'
      refine ⟨cut ++ ' ' :: tail, _, ?_, faulted.scans (by simp; decide) behind, ?_, ?_⟩
      · rw [mend_unexpected (by simp [faultAt, quote]) faulted.start]
        rw [ahead] at mended
        simpa using mended
      · rw [emitted, faulted.tokens, List.append_assoc]
      · exact List.forall_mem_cons.2 ⟨faulted.further, later'⟩

end Resumes

end Scan

theorem scan_resumed (source : String) :
    (∃ faults d, Resumes (Cursor.ofText source) faults d) ∧
      ∀ faults d, Resumes (Cursor.ofText source) faults d →
        faults.length ≤ source.length ∧
        (∀ fault ∈ faults, fault.cursor.start < fault.cursor.pos) ∧
        scan (String.ofList (faults.foldl mend source.toList)) = .ok d.tokens.toList ∧
        ∃ words line, d.tokens.toList = words ++ [Token.eof line] ∧
          ∀ word ∈ words, word.kind ≠ .eof := by
  refine ⟨exists_resumes _, fun faults d resumes => ?_⟩
  have pos : (Cursor.ofText source).pos = ([] : List Char).length := rfl
  obtain ⟨tail, tokens, mended, scans, emitted, further⟩ := resumes.scans_mended pos rfl
  obtain rfl : d.tokens.toList = tokens := emitted
  obtain ⟨words, closed, cuts⟩ := scans.cuts_of_ok _ rfl
  refine ⟨resumes.length_le, further, ?_, words, _, closed, cuts.kind_ne_eof⟩
  refine (scans_scan _).unique ?_
  rw [String.toList_ofList, show source.toList = [] ++ (Cursor.ofText source).ahead from rfl,
    mended]
  exact scans

end Lox
