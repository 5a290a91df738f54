import Lox.Proofs.Lexical.Rules
import Lox.Scan.Lexeme

set_option autoImplicit false

namespace Lox.Lexical

theorem length_le_takeWhile {α : Type} {test : α → Bool} {text ahead : List α}
    (begins : text <+: ahead) (all : ∀ a ∈ text, test a = true) :
    text.length ≤ (ahead.takeWhile test).length := by
  obtain ⟨rest, rfl⟩ := begins
  rw [List.takeWhile_append_of_pos all]
  simp

theorem of_mem_takeWhile {α : Type} {test : α → Bool} {ahead : List α} :
    ∀ a ∈ ahead.takeWhile test, test a = true :=
  List.all_eq_true.1 List.all_takeWhile

variable {rule : Rule} {first : Char} {text rest : List Char}

theorem Longest.of_opening (fits : rule.Fits (first :: text)) (begins : text <+: rest)
    (longest : ∀ (other : Rule) (more : List Char), other.opening = rule.opening →
      other.Fits (first :: more) → more <+: rest → more.length ≤ text.length) :
    Longest rule (first :: text) (first :: rest) where
  fits := fits
  begins := by simpa using begins
  longest := by
    intro other more also within
    -- What it begins with is a first character of both rules.
    obtain ⟨c, tail, rfl, opens⟩ := also.opens
    obtain ⟨rfl, later⟩ := List.cons_prefix_cons.1 within
    simpa using longest other tail (Opening.eq_of_has opens fits.has) also later

theorem Longest.of_alone (fits : rule.Fits (first :: text)) (alone : rule.opening ≠ .mark)
    (begins : text <+: rest)
    (longest : ∀ more, rule.Fits (first :: more) → more <+: rest → more.length ≤ text.length) :
    Longest rule (first :: text) (first :: rest) := by
  refine .of_opening fits begins fun other more same also within => ?_
  obtain rfl := Rule.eq_of_opening same alone
  exact longest more also within

theorem nothing_of_opening (stuck : ∀ (other : Rule) (more : List Char),
    other.opening.has first = true → other.Fits (first :: more) → ¬ more <+: rest) :
    ∀ (rule : Rule) (text : List Char), rule.Fits text → ¬ text <+: first :: rest := by
  intro rule text fits within
  obtain ⟨c, tail, rfl, opens⟩ := fits.opens
  obtain ⟨rfl, later⟩ := List.cons_prefix_cons.1 within
  exact stuck rule tail opens fits later

theorem longest_blank (mem : first ∈ blanks) : Longest .blank [first] (first :: rest) := by
  refine .of_alone (.blank mem) (by decide) List.nil_prefix fun more also _ => ?_
  simp [also.tail_of_blank]

theorem longest_word (starts : Text.startsWord first = true) :
    Longest .word (first :: rest.takeWhile Text.continuesWord) (first :: rest) :=
  .of_alone (.word starts of_mem_takeWhile) (by decide) (List.takeWhile_prefix _)
    fun _ also within => length_le_takeWhile within also.tail_of_word

theorem quoted_unique {body ahead : List Char} (inside : '"' ∉ body)
    (begins : body ++ ['"'] <+: ahead) :
    ahead.takeWhile (· != '"') = body ∧ ∃ behind, ahead.dropWhile (· != '"') = '"' :: behind := by
  obtain ⟨behind, rfl⟩ := begins
  have all : ∀ c ∈ body, (c != '"') = true := by
    intro c mem
    simpa using fun same : c = '"' => inside (same ▸ mem)
  rw [List.append_assoc, List.takeWhile_append_of_pos all, List.dropWhile_append_of_pos all]
  exact ⟨by simp, behind, rfl⟩

theorem longest_string {behind : List Char} (closes : rest.dropWhile (· != '"') = '"' :: behind) :
    Longest .string ('"' :: rest.takeWhile (· != '"') ++ ['"']) ('"' :: rest) := by
  have inside : '"' ∉ rest.takeWhile (· != '"') := fun mem => by
    simpa using of_mem_takeWhile _ mem
  have split : rest = rest.takeWhile (· != '"') ++ ['"'] ++ behind := by
    rw [List.append_assoc, List.singleton_append, ← closes, List.takeWhile_append_dropWhile]
  refine .of_alone (.string inside) (by decide) ⟨behind, split.symm⟩ fun more also within => ?_
  obtain ⟨body, rfl, inside'⟩ := also.tail_of_string
  rw [(quoted_unique inside' within).1]
  exact Nat.le_refl _

theorem nothing_unclosed (unclosed : rest.dropWhile (· != '"') = []) :
    ∀ (rule : Rule) (text : List Char), rule.Fits text → ¬ text <+: '"' :: rest := by
  refine nothing_of_opening fun other more opens also within => ?_
  have same : other.opening = Rule.string.opening := Opening.eq_of_has opens (by decide)
  obtain rfl := Rule.eq_of_opening same (by decide)
  obtain ⟨body, rfl, inside⟩ := also.tail_of_string
  obtain ⟨-, behind, closes⟩ := quoted_unique inside within
  rw [unclosed] at closes
  cases closes

theorem Numeral.within {more : List Char} {d : Number.Decimal} (h : Numeral (first :: more) d)
    (begins : more <+: rest) :
    more.length ≤ (rest.takeWhile Text.isDigit).length ∨
      ∃ digit later, rest.dropWhile Text.isDigit = '.' :: digit :: later ∧
        Text.isDigit digit = true ∧
          more.length ≤ (rest.takeWhile Text.isDigit ++
            '.' :: (digit :: later).takeWhile Text.isDigit).length := by
  generalize same : first :: more = text at h
  cases h with
  | whole digits =>
    subst same
    exact .inl (length_le_takeWhile begins fun c mem => digits.2 c (by simp [mem]))
  | @fraction whole fraction before behind =>
    obtain ⟨_, whole, rfl⟩ := List.exists_cons_of_ne_nil before.1
    rw [List.cons_append] at same
    obtain ⟨rfl, rfl⟩ := List.cons.inj same
    obtain ⟨digit, tail, rfl⟩ := List.exists_cons_of_ne_nil behind.1
    obtain ⟨after, rfl⟩ := begins
    have digits : ∀ c ∈ whole, Text.isDigit c = true := fun c mem => before.2 c (by simp [mem])
    have point : Text.isDigit '.' = false := rfl
    have reach := length_le_takeWhile (List.prefix_append (digit :: tail) after) behind.2
    refine .inr ⟨digit, tail ++ after, ?_, behind.2 digit (by simp), ?_⟩
    · rw [List.append_assoc, List.dropWhile_append_of_pos digits]
      simp [point]
    · rw [List.append_assoc, List.takeWhile_append_of_pos digits]
      simpa [point] using reach

theorem longest_whole (digit : Text.isDigit first = true)
    (stop : ∀ next later, rest.dropWhile Text.isDigit = '.' :: next :: later →
      Text.isDigit next = false) :
    Longest .number (first :: rest.takeWhile Text.isDigit) (first :: rest) := by
  have digits : Digits (first :: rest.takeWhile Text.isDigit) :=
    ⟨by simp, List.forall_mem_cons.2 ⟨digit, of_mem_takeWhile⟩⟩
  refine .of_alone (.number (.whole digits)) (by decide) (List.takeWhile_prefix _)
    fun more also begins => ?_
  cases also with
  | number numeral =>
    rcases numeral.within begins with short | ⟨next, later, point, more, -⟩
    · exact short
    · simp [stop next later point] at more

theorem longest_fraction {next : Char} {later : List Char} (digit : Text.isDigit first = true)
    (point : rest.dropWhile Text.isDigit = '.' :: next :: later)
    (goesOn : Text.isDigit next = true) :
    Longest .number
      (first :: rest.takeWhile Text.isDigit ++ '.' :: (next :: later).takeWhile Text.isDigit)
      (first :: rest) := by
  have whole : Digits (first :: rest.takeWhile Text.isDigit) :=
    ⟨by simp, List.forall_mem_cons.2 ⟨digit, of_mem_takeWhile⟩⟩
  have fraction : Digits ((next :: later).takeWhile Text.isDigit) :=
    ⟨by simp [goesOn], of_mem_takeWhile⟩
  have split : rest.takeWhile Text.isDigit ++ '.' :: (next :: later).takeWhile Text.isDigit ++
      (next :: later).dropWhile Text.isDigit = rest := by
    rw [List.append_assoc, List.cons_append, List.takeWhile_append_dropWhile, ← point,
      List.takeWhile_append_dropWhile]
  refine .of_alone (.number (.fraction whole fraction)) (by decide) ⟨_, split⟩
    fun more also begins => ?_
  cases also with
  | number numeral =>
    rcases numeral.within begins with short | ⟨next', later', point', -, long⟩
    · exact Nat.le_trans short (by simp)
    · rw [point] at point'
      cases point'
      exact long

open Scan

theorem mem_fixed_of_single {kind : Kind} (h : single? first = some kind) :
    ([first], kind) ∈ fixedLexemes := by
  unfold single? at h
  split at h <;> cases h <;> decide

theorem mem_fixed_of_extensible {long short : Kind} (h : extensible? first = some (long, short)) :
    ([first, '='], long) ∈ fixedLexemes ∧ ([first], short) ∈ fixedLexemes := by
  unfold extensible? at h
  split at h <;> cases h <;> decide

theorem tail_of_fixed {more : List Char} {kind : Kind}
    (mem : (first :: more, kind) ∈ fixedLexemes) :
    more = [] ∨ more = ['='] ∧ single? first = none ∧ first ≠ '/' := by
  have tails : ∀ entry ∈ fixedLexemes, entry.1.tail = [] ∨ entry.1.tail = ['='] ∧
      entry.1.head?.bind single? = none ∧ entry.1.head? ≠ some '/' := by
    decide
  simpa using tails _ mem

theorem not_comment_of_single {kind : Kind} (h : single? first = some kind) : first ≠ '/' := by
  rintro rfl
  cases h

theorem not_comment_of_extensible {pair : Kind × Kind} (h : extensible? first = some pair) :
    first ≠ '/' := by
  rintro rfl
  cases h

theorem tail_of_mark {other : Rule} {more : List Char} (opening : other.opening = .mark)
    (also : other.Fits (first :: more)) :
    more = [] ∨ (more = ['='] ∧ single? first = none ∧ first ≠ '/') ∨
      (first = '/' ∧ ∃ body, more = '/' :: body ∧ '\n' ∉ body) := by
  cases other with
  | comment => exact .inr (.inr also.tail_of_comment)
  | fixed kind =>
    cases also with
    | fixed mem => exact (tail_of_fixed mem).imp_right .inl
  | _ => cases opening

theorem longest_single {kind : Kind} (h : single? first = some kind) :
    Longest (.fixed kind) [first] (first :: rest) := by
  refine .of_opening (.fixed (mem_fixed_of_single h)) List.nil_prefix
    fun other more opening also _ => ?_
  rcases tail_of_mark opening also with rfl | ⟨-, none, -⟩ | ⟨slash, -⟩
  · exact Nat.le_refl _
  · rw [h] at none
    cases none
  · exact absurd slash (not_comment_of_single h)

theorem longest_extended {long short : Kind} (h : extensible? first = some (long, short)) :
    Longest (.fixed long) [first, '='] (first :: '=' :: rest) := by
  refine .of_opening (.fixed (mem_fixed_of_extensible h).1) ⟨rest, rfl⟩
    fun other more opening also _ => ?_
  rcases tail_of_mark opening also with rfl | ⟨rfl, -, -⟩ | ⟨slash, -⟩
  · exact Nat.zero_le _
  · exact Nat.le_refl _
  · exact absurd slash (not_comment_of_extensible h)

theorem longest_unextended {long short : Kind} (h : extensible? first = some (long, short))
    (stop : rest.head? ≠ some '=') : Longest (.fixed short) [first] (first :: rest) := by
  refine .of_opening (.fixed (mem_fixed_of_extensible h).2) List.nil_prefix
    fun other more opening also within => ?_
  rcases tail_of_mark opening also with rfl | ⟨rfl, -, -⟩ | ⟨slash, -⟩
  · exact Nat.le_refl _
  · obtain ⟨behind, rfl⟩ := within
    exact absurd rfl stop
  · exact absurd slash (not_comment_of_extensible h)

theorem longest_slash (stop : rest.head? ≠ some '/') :
    Longest (.fixed .slash) ['/'] ('/' :: rest) := by
  refine .of_opening (.fixed (by decide)) List.nil_prefix fun other more opening also within => ?_
  rcases tail_of_mark opening also with rfl | ⟨-, -, other⟩ | ⟨-, body, rfl, -⟩
  · exact Nat.le_refl _
  · exact absurd rfl other
  · obtain ⟨behind, rfl⟩ := within
    exact absurd rfl stop

theorem longest_comment :
    Longest .comment ('/' :: '/' :: rest.takeWhile (· != '\n')) ('/' :: '/' :: rest) := by
  have line : '\n' ∉ rest.takeWhile (· != '\n') := fun mem => by
    simpa using of_mem_takeWhile _ mem
  refine .of_opening (.comment line)
    (by simpa using List.takeWhile_prefix (l := rest) (· != '\n'))
    fun other more opening also within => ?_
  rcases tail_of_mark opening also with rfl | ⟨-, -, other⟩ | ⟨-, body, rfl, line'⟩
  · exact Nat.zero_le _
  · exact absurd rfl other
  · have all : ∀ c ∈ body, (c != '\n') = true := by
      intro c mem
      simpa using fun same : c = '\n' => line' (same ▸ mem)
    have inside : body <+: rest := (List.cons_prefix_cons.1 within).2
    simpa using length_le_takeWhile inside all

-- On one line a comment takes all that is left.
theorem rest_eq_nil_of_comment (longest : Longest .comment text (text ++ rest))
    (inLine : '\n' ∉ text ++ rest) : rest = [] := by
  obtain ⟨first, more, rfl, -⟩ := longest.fits.opens
  obtain ⟨rfl, body, rfl, -⟩ := longest.fits.tail_of_comment
  have whole : Rule.comment.Fits ('/' :: '/' :: (body ++ rest)) := .comment (by simpa using inLine)
  have short := longest.longest _ _ whole List.prefix_rfl
  simp only [List.length_cons, List.length_append] at short
  exact List.length_eq_zero_iff.1 (by omega)

theorem nothing_unknown (single : single? first = none) (extensible : extensible? first = none)
    (slash : first ≠ '/') (space : isSpace first = false) (newline : first ≠ '\n')
    (quote : first ≠ '"') (digit : Text.isDigit first = false)
    (letter : Text.startsWord first = false) (rest : List Char) :
    ∀ (rule : Rule) (text : List Char), rule.Fits text → ¬ text <+: first :: rest := by
  refine nothing_of_opening fun other more opens _ _ => ?_
  -- The scanner has a case for each class of first characters, and has ruled them all out.
  cases class' : other.opening with
  | blank => simp_all [Opening.has, blanks, isSpace]
  | mark =>
    have known : ∀ entry ∈ fixedLexemes, entry.1.head? = some '/' ∨
        entry.1.head?.bind single? ≠ none ∨ entry.1.head?.bind extensible? ≠ none := by
      decide
    rw [class', Opening.has, List.any_eq_true] at opens
    obtain ⟨entry, mem, head⟩ := opens
    have choice := known entry mem
    rw [of_decide_eq_true head] at choice
    rcases choice with same | same | same
    · exact slash (Option.some.inj same)
    · exact same single
    · exact same extensible
  | quote => simp_all [Opening.has]
  | digit => simp_all [Opening.has]
  | letter => simp_all [Opening.has]

end Lox.Lexical
