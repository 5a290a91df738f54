import Lox.Proofs.Lexical.Layout
import Lox.Proofs.Lexical.Progress

set_option autoImplicit false

namespace Lox

open Scan

namespace Lexical

variable {rule : Rule} {text between rest : List Char} {first next : Char}

theorem Rule.Fits.single (fits : rule.Fits (first :: rest)) (noQuote : first ≠ '"') :
    ∃ other : Rule, other.Fits [first] := by
  cases fits with
  | blank mem => exact ⟨.blank, .blank mem⟩
  | comment => exact ⟨.fixed .slash, .fixed (by decide)⟩
  | fixed mem =>
    have begins : ∀ entry ∈ fixedLexemes, ∃ other ∈ fixedLexemes, other.1 = entry.1.take 1 := by
      decide
    obtain ⟨⟨_, kind⟩, known, rfl⟩ := begins _ mem
    exact ⟨.fixed kind, .fixed known⟩
  | string => exact absurd rfl noQuote
  | number numeral =>
    obtain ⟨_, _, same, digit⟩ := numeral.exists_digit
    cases same
    exact ⟨.number, .number (.whole ⟨by simp, by simpa using digit⟩)⟩
  | word starts => exact ⟨.word, .word starts (by simp)⟩

theorem Stuck.behind (stuck : Stuck (next :: rest)) (noQuote : next ≠ '"') (more : List Char) :
    Stuck (next :: more) := by
  intro rule text fits begins
  obtain ⟨first, tail, rfl, -⟩ := fits.opens
  obtain ⟨rfl, -⟩ := List.cons_prefix_cons.1 begins
  obtain ⟨other, single⟩ := fits.single noQuote
  exact stuck other _ single (by simp)

theorem Stuck.unclosed (stuck : Stuck ('"' :: rest)) : '"' ∉ rest := by
  intro mem
  obtain ⟨body, behind, rfl, inside⟩ := List.eq_append_cons_of_mem mem
  exact stuck .string _ (.string inside) ⟨behind, by simp⟩

theorem Rule.Fits.comment_left {ahead extra : List Char}
    (fits : Rule.comment.Fits (ahead ++ extra)) (long : 2 ≤ ahead.length) :
    Rule.comment.Fits ahead := by
  match ahead, long with
  | first :: second :: ahead, _ =>
    obtain ⟨rfl, body, same, line⟩ := fits.tail_of_comment
    obtain ⟨rfl, rfl⟩ := List.cons.inj same
    exact .comment fun mem => line (by simp [mem])

theorem Rule.Fits.word_left {ahead extra : List Char} (fits : Rule.word.Fits (ahead ++ extra))
    (some : ahead ≠ []) : Rule.word.Fits ahead := by
  obtain ⟨first, ahead, rfl⟩ := List.exists_cons_of_ne_nil some
  exact .word fits.has fun c mem => fits.tail_of_word c (by simp [mem])

theorem Stuck.not_isPlain (stuck : Stuck (next :: rest)) : Number.isPlain next = false := by
  cases plain : Number.isPlain next with
  | false => rfl
  | true =>
    simp only [Number.isPlain, Bool.or_eq_true, beq_iff_eq] at plain
    rcases plain with digit | rfl
    · exact absurd (by simp)
        (stuck .number [next] (.number (.whole ⟨by simp, by simpa using digit⟩)))
    · exact absurd (by simp) (stuck (.fixed .dot) ['.'] (.fixed (by decide)))

theorem Longest.extend_stuck (longest : Longest rule text (text ++ (between ++ next :: rest)))
    (stuck : Stuck (next :: rest)) (more : List Char) :
    Longest rule text (text ++ (between ++ next :: rest) ++ more) := by
  refine longest.extend fun other extra some _ notBlank notString also => ?_
  have matched := List.length_pos_iff.2 longest.fits.ne_nil
  have beyond := List.length_pos_iff.2 some
  -- A comment or a word that reaches the end would have been the longer match before.
  have outdone {other : Rule} : ¬ other.Fits (text ++ (between ++ next :: rest)) := by
    intro whole
    have bound := longest.longest other _ whole List.prefix_rfl
    simp only [List.length_append, List.length_cons] at bound
    omega
  cases other with
  | blank => exact notBlank rfl
  | string => exact notString rfl
  | comment =>
    refine outdone (also.comment_left ?_)
    simp only [List.length_append, List.length_cons]
    omega
  | word => exact outdone (also.word_left (by simp))
  | fixed kind =>
    have short : ∀ entry ∈ fixedLexemes, entry.1.length ≤ 2 := by decide
    generalize same : text ++ (between ++ next :: rest) ++ extra = whole at also
    cases also with
    | fixed mem =>
      have length := short _ mem
      simp only [← same, List.length_append, List.length_cons] at length
      omega
  | number =>
    cases also with
    | number numeral =>
      have plain := numeral.isPlain next (by simp)
      rw [stuck.not_isPlain] at plain
      cases plain

theorem Cuts.scan_take {cut : List Char} {tokens : List Token}
    (cuts : Cuts [] cut rest tokens) :
    scan (String.ofList cut) = .ok (tokens ++ [Token.eof (lineAfter cut)]) := by
  refine (scans_scan _).unique ?_
  rw [String.toList_ofList]
  have whole : Cuts [] cut [] tokens := Cuts.shorten cuts
  have ended := whole.scans (.finished cut)
  rwa [List.append_nil] at ended

end Lexical

open Lexical

theorem scan_failed_behind {source : String} {error : ScanError}
    (failed : scan source = .error error) :
    ∃ d : Cursor, (Cursor.ofText source).scanAll = .error error d ∧ d.start < source.length ∧
      scan (String.ofList (source.toList.take d.start)) = .ok (d.tokens.toList ++
        [Token.eof (1 + (source.toList.take d.start).count '\n')]) ∧
      error.line = 1 + (source.toList.take d.start).count '\n' ∧
      ((error.cause.message = "Unexpected character." ∧ d.pos = d.start + 1 ∧
          ∀ more : String, scan (source ++ more) = .error error ∧
            ∃ d' : Cursor, (Cursor.ofText (source ++ more)).scanAll = .error error d' ∧
              d'.tokens = d.tokens) ∨
        (error.cause.message = "Unterminated string." ∧
          source.toList[d.start]? = some '"' ∧ '"' ∉ source.toList.drop (d.start + 1) ∧
          d.pos = source.length)) := by
  obtain ⟨cut, next, rest, tokens, split, cuts, stuck, rfl⟩ :=
    (scans_scan source).cuts_of_error error failed
  obtain ⟨d, run, start, emitted, string, other⟩ := cuts.scanAll_ofText stuck split
  have before : source.toList.take d.start = cut := by
    rw [split, start, List.take_left']
    rfl
  refine ⟨d, run, ?_, ?_, ?_, ?_⟩
  · rw [start, ← String.length_toList, split, List.length_append, List.length_cons]
    omega
  · rw [before, emitted]
    exact cuts.scan_take
  · rw [before]
    rfl
  by_cases quote : next = '"'
  · subst quote
    refine .inr ⟨rfl, ?_, ?_, string rfl⟩
    · rw [split, start, List.getElem?_append_right (Nat.le_refl _), Nat.sub_self]
      rfl
    · rw [split, start, ← List.drop_drop, List.drop_left]
      exact stuck.unclosed
  · refine .inl ⟨?_, ?_, fun more => ?_⟩
    · rw [faultAt, if_neg quote]
      rfl
    · rw [other quote, start]
    · have longer : Cuts [] cut (next :: rest ++ more.toList) tokens :=
        cuts.extend fun rule text between longest => longest.extend_stuck stuck more.toList
      have split' : (source ++ more).toList = cut ++ next :: (rest ++ more.toList) := by
        rw [String.toList_append, split]
        simp
      obtain ⟨d', run', -, emitted', -⟩ :=
        longer.scanAll_ofText (stuck.behind quote (rest ++ more.toList)) split'
      refine ⟨?_, d', run', Array.toList_inj.1 (emitted'.trans emitted.symm)⟩
      rw [scan, run']
      rfl

-- The string without an end begins on the second line and reaches to the third.
theorem scan_failed_behind_string : scan "\n\"\n" = .error ⟨.unterminatedString, 2⟩ ∧
    ∃ d : Cursor, (Cursor.ofText "\n\"\n").scanAll = .error ⟨.unterminatedString, 2⟩ d ∧
      d.start < 3 ∧ d.pos = 3 := by
  have failed : scan "\n\"\n" = .error ⟨.unterminatedString, 2⟩ :=
    (scans_scan _).unique (.blank (by decide) (.stuck (nothing_unclosed rfl)))
  obtain ⟨d, run, start, -, -, unexpected | ⟨-, -, -, pos⟩⟩ := scan_failed_behind failed
  · exact absurd unexpected.1 (by decide)
  · exact ⟨failed, d, run, start, pos⟩

end Lox
