import Lox.Proofs.Lexical.Layout

set_option autoImplicit false

namespace Lox.Lexical

/-- A text on one line, cut loosely: digits and marks may belong together. -/
inductive Scannable : List Char → Prop where
  | nil : Scannable []
  | alone {c : Char} {rest : List Char} {rule : Rule} (fits : rule.Fits [c])
      (later : Scannable rest) : Scannable (c :: rest)
  | word {text rest : List Char} (fits : Rule.word.Fits text) (later : Scannable rest) :
      Scannable (text ++ rest)
  | string {text rest : List Char} (fits : Rule.string.Fits text) (later : Scannable rest) :
      Scannable (text ++ rest)
  | comment (body : List Char) : Scannable ('/' :: '/' :: body)

variable {rule : Rule} {before text ahead rest : List Char} {first : Char}

theorem Rule.Fits.alone_of_isPlain (plain : Number.isPlain first = true) :
    ∃ rule : Rule, rule.Fits [first] := by
  simp only [Number.isPlain, Bool.or_eq_true, beq_iff_eq] at plain
  rcases plain with digit | rfl
  · exact ⟨.number, .number (.whole ⟨by simp, by simpa using digit⟩)⟩
  · exact ⟨.fixed .dot, .fixed (by decide)⟩

theorem Rule.Fits.alone_of_mem_fixed {kind : Kind} (known : (text, kind) ∈ fixedLexemes)
    (mem : first ∈ text) : ∃ rule : Rule, rule.Fits [first] := by
  have parts : ∀ entry ∈ fixedLexemes, (entry.1.all fun c =>
      fixedLexemes.any fun part => part.1 == [c]) = true := by
    decide
  obtain ⟨⟨own, kind⟩, part, same⟩ := List.any_eq_true.1 (List.all_eq_true.1 (parts _ known) _ mem)
  obtain rfl : own = [first] := eq_of_beq same
  exact ⟨.fixed kind, .fixed part⟩

theorem Rule.Fits.not_quote : ¬ rule.Fits ['"'] := by
  intro fits
  have quote : rule.opening = Rule.string.opening := Opening.eq_of_has fits.has (by decide)
  obtain rfl := Rule.eq_of_opening quote (by decide)
  obtain ⟨body, none, -⟩ := fits.tail_of_string
  simp at none

theorem Longest.dropWhile_word (longest : Longest .word text (text ++ rest)) :
    (text ++ rest).dropWhile Text.continuesWord = rest := by
  obtain ⟨first, more, rfl, starts⟩ := longest.fits.opens
  have whole : Longest .word _ (first :: (more ++ rest)) := longest_word starts
  obtain ⟨-, taken⟩ := List.cons.inj (longest.unique whole).1
  rw [List.cons_append, List.dropWhile_cons_of_pos (Text.continuesWord_of_startsWord starts)]
  have split := List.takeWhile_append_dropWhile (p := Text.continuesWord) (l := more ++ rest)
  rw [← taken] at split
  exact List.append_cancel_left split

namespace Scannable

theorem append_alone (each : ∀ c ∈ text, ∃ rule : Rule, rule.Fits [c]) (later : Scannable rest) :
    Scannable (text ++ rest) := by
  induction text with
  | nil => exact later
  | cons c text ih =>
    obtain ⟨rule, fits⟩ := each c (by simp)
    exact .alone fits (ih fun c mem => each c (by simp [mem]))

theorem not_stuck (scannable : Scannable (first :: rest)) :
    ∃ (rule : Rule) (text : List Char), rule.Fits text ∧ text <+: first :: rest := by
  generalize same : first :: rest = ahead at scannable
  cases scannable with
  | nil => cases same
  | alone fits => exact ⟨_, _, fits, by simp⟩
  | word fits | string fits => exact ⟨_, _, fits, List.prefix_append ..⟩
  | comment body => exact ⟨.comment, ['/', '/'], .comment (by simp), by simp⟩

theorem tail {opening : Opening} (scannable : Scannable (first :: rest))
    (opens : opening.has first = true) (noQuote : opening ≠ .quote) (noLetter : opening ≠ .letter)
    (noComment : ¬ ['/', '/'] <+: first :: rest) : Scannable rest := by
  generalize same : first :: rest = ahead at scannable
  cases scannable with
  | nil => cases same
  | alone fits later =>
    cases same
    exact later
  | word fits | string fits =>
    obtain ⟨c, more, rfl, opens'⟩ := fits.opens
    obtain ⟨rfl, -⟩ := List.cons.inj same
    have other := Opening.eq_of_has opens opens'
    contradiction
  | comment body =>
    rw [same] at noComment
    exact absurd (by simp) noComment

theorem tail_of_isPlain (scannable : Scannable (text ++ rest))
    (plain : ∀ c ∈ text, Number.isPlain c = true) : Scannable rest := by
  induction text with
  | nil => exact scannable
  | cons c text ih =>
    have own := plain c (by simp)
    have noComment : ¬ ['/', '/'] <+: c :: (text ++ rest) := by
      intro slashes
      obtain ⟨rfl, -⟩ := List.cons_prefix_cons.1 slashes
      cases own
    refine ih ?_ fun c mem => plain c (by simp [mem])
    simp only [Number.isPlain, Bool.or_eq_true, beq_iff_eq] at own
    rcases own with digit | rfl
    · have opens : Opening.digit.has c = true := digit
      exact scannable.tail opens (by decide) (by decide) noComment
    · have opens : Opening.mark.has '.' = true := by decide
      exact scannable.tail opens (by decide) (by decide) noComment

theorem tail_of_string (scannable : Scannable (text ++ rest)) (fits : Rule.string.Fits text) :
    Scannable rest := by
  cases fits with
  | @string body inside =>
    generalize same : '"' :: body ++ ['"'] ++ rest = ahead at scannable
    cases scannable with
    | nil => cases same
    | alone fits =>
      obtain ⟨rfl, -⟩ := List.cons.inj same
      exact absurd fits Rule.Fits.not_quote
    | word fits =>
      obtain ⟨c, more, rfl, opens⟩ := fits.opens
      obtain ⟨rfl, -⟩ := List.cons.inj same
      cases opens
    | string fits later =>
      cases fits with
      | string inside' =>
        obtain ⟨-, -, rfl⟩ := (Rule.Fits.longest_quoted inside rest).cut_unique
          (Rule.Fits.longest_quoted inside' _) same
        exact later
    | comment body => cases same

theorem dropWhile_word (scannable : Scannable ahead) :
    Scannable (ahead.dropWhile Text.continuesWord) := by
  induction scannable with
  | nil => exact .nil
  | @alone c rest _ fits later ih =>
    cases continues : Text.continuesWord c with
    | true => simpa [continues] using ih
    | false => simpa [continues] using Scannable.alone fits later
  | @word text rest fits later ih =>
    have all : ∀ c ∈ text, Text.continuesWord c = true := by
      cases fits with
      | word starts continues =>
        exact List.forall_mem_cons.2 ⟨Text.continuesWord_of_startsWord starts, continues⟩
    rwa [List.dropWhile_append_of_pos all]
  | @string text rest fits later ih =>
    have same : (text ++ rest).dropWhile Text.continuesWord = text ++ rest := by
      cases fits with
      | string inside => rfl
    rw [same]
    exact .string fits later
  | comment body => exact .comment body

theorem rest_of_longest (scannable : Scannable (text ++ rest)) (single : '\n' ∉ text ++ rest)
    (longest : Longest rule text (text ++ rest)) : Scannable rest := by
  have fits := longest.fits
  cases fits with
  | blank mem =>
    refine scannable.tail (Rule.Fits.blank mem).has (by decide) (by decide) fun slashes => ?_
    obtain ⟨rfl, -⟩ := List.cons_prefix_cons.1 slashes
    exact absurd mem (by decide)
  | comment line =>
    rw [rest_eq_nil_of_comment longest single]
    exact .nil
  | @fixed _ kind known =>
    obtain ⟨first, more, rfl, opens⟩ := longest.fits.opens
    have noComment : ¬ ['/', '/'] <+: first :: (more ++ rest) := by
      intro slashes
      have long := longest.longest .comment ['/', '/'] (.comment (by simp)) slashes
      obtain ⟨rfl, -⟩ := List.cons_prefix_cons.1 slashes
      rcases tail_of_fixed known with rfl | ⟨-, -, other⟩
      · simp at long
      · exact other rfl
    have left := scannable.tail opens nofun nofun noComment
    rcases tail_of_fixed known with rfl | ⟨rfl, -, -⟩
    · exact left
    · have equals : Opening.mark.has '=' = true := by decide
      exact left.tail equals (by decide) (by decide) (by simp)
  | string inside => exact scannable.tail_of_string (.string inside)
  | number numeral => exact scannable.tail_of_isPlain numeral.isPlain
  | word starts continues =>
    rw [← longest.dropWhile_word]
    exact scannable.dropWhile_word

end Scannable

theorem exists_scans (before ahead : List Char) : ∃ result, Scans before ahead result := by
  obtain ⟨result, scans, -⟩ :=
    scans_scanAll ⟨0, 0, lineAfter before, [], [], ahead, #[]⟩ before rfl
  exact ⟨result, scans⟩

theorem Scans.scannable {result : Except ScanError (List Token)} (scans : Scans before ahead result)
    (single : '\n' ∉ ahead) : ∀ tokens, result = .ok tokens → Scannable ahead := by
  induction scans with
  | finished => exact fun _ _ => .nil
  | @skipped before text rest rule result longest skips later ih =>
    intro tokens same
    have left := ih (fun mem => single (by simp [mem])) tokens same
    have fits := longest.fits
    rcases skips with rfl | rfl
    · cases fits with
      | blank mem => exact .alone (.blank mem) left
    · cases fits with
      | @comment body line => exact .comment (body ++ rest)
  | @emitted before text rest rule kind payload result longest emits later ih =>
    intro tokens same
    obtain ⟨others, ended⟩ : ∃ others, result = .ok others := by
      cases result with
      | ok others => exact ⟨others, rfl⟩
      | error e => cases same
    have left := ih (fun mem => single (by simp [mem])) others ended
    have fits := longest.fits
    cases fits with
    | blank | comment => cases emits
    | fixed known => exact .append_alone (fun _ => Rule.Fits.alone_of_mem_fixed known) left
    | string inside => exact .string (.string inside) left
    | number numeral =>
      exact .append_alone (fun c mem => Rule.Fits.alone_of_isPlain (numeral.isPlain c mem)) left
    | word starts continues => exact .word (.word starts continues) left
  | stuck nothing => nofun

theorem Scans.ok_of_scannable {result : Except ScanError (List Token)}
    (scans : Scans before ahead result) (single : '\n' ∉ ahead) (scannable : Scannable ahead) :
    ∃ tokens, result = .ok tokens := by
  induction scans with
  | finished => exact ⟨_, rfl⟩
  | skipped longest skips later ih =>
    exact ih (fun mem => single (by simp [mem])) (scannable.rest_of_longest single longest)
  | emitted longest emits later ih =>
    obtain ⟨tokens, rfl⟩ :=
      ih (fun mem => single (by simp [mem])) (scannable.rest_of_longest single longest)
    exact ⟨_, rfl⟩
  | stuck nothing =>
    obtain ⟨rule, text, fits, begins⟩ := scannable.not_stuck
    exact absurd begins (nothing rule text fits)

end Lox.Lexical
