import Lox.Diagnostic

set_option autoImplicit false

namespace Lox.Lexical

def blanks : List Char :=
  [' ', '\r', '\t', '\n']

def fixedLexemes : List (List Char × Kind) :=
  [(['('], .leftParen), ([')'], .rightParen), (['{'], .leftBrace), (['}'], .rightBrace),
   ([','], .comma), (['.'], .dot), (['-'], .minus), (['+'], .plus), ([';'], .semicolon),
   (['/'], .slash), (['*'], .star), (['!'], .bang), (['!', '='], .bangEqual), (['='], .equal),
   (['=', '='], .equalEqual), (['>'], .greater), (['>', '='], .greaterEqual), (['<'], .less),
   (['<', '='], .lessEqual)]

def Digits (text : List Char) : Prop :=
  text ≠ [] ∧ ∀ c ∈ text, Text.isDigit c = true

inductive Numeral : List Char → Number.Decimal → Prop where
  | whole {text : List Char} (digits : Digits text) : Numeral text ⟨Number.ofDigits text, 0⟩
  | fraction {whole fraction : List Char} (before : Digits whole) (behind : Digits fraction) :
      Numeral (whole ++ '.' :: fraction)
        ⟨Number.ofDigits (whole ++ fraction), -(fraction.length : Int)⟩

inductive Rule where
  | blank
  | comment
  | fixed (kind : Kind)
  | string
  | number
  | word
  deriving DecidableEq

namespace Rule

inductive Fits : Rule → List Char → Prop where
  | blank {c : Char} (mem : c ∈ blanks) : Fits .blank [c]
  | comment {body : List Char} (line : '\n' ∉ body) : Fits .comment ('/' :: '/' :: body)
  | fixed {text : List Char} {kind : Kind} (mem : (text, kind) ∈ fixedLexemes) :
      Fits (.fixed kind) text
  | string {body : List Char} (inside : '"' ∉ body) : Fits .string ('"' :: body ++ ['"'])
  | number {text : List Char} {d : Number.Decimal} (numeral : Numeral text d) : Fits .number text
  | word {first : Char} {rest : List Char} (starts : Text.startsWord first = true)
      (continues : ∀ c ∈ rest, Text.continuesWord c = true) : Fits .word (first :: rest)

-- The blank and the comment rule emit nothing.
inductive Emits : Rule → List Char → Kind → Payload → Prop where
  | fixed {text : List Char} {kind : Kind} : Emits (.fixed kind) text kind .absent
  | string {body : List Char} :
      Emits .string ('"' :: body ++ ['"']) .string (.text (String.ofList body))
  | number {text : List Char} {d : Number.Decimal} (numeral : Numeral text d) :
      Emits .number text .number (.number d.toNumber)
  | keyword {text : List Char} {kind : Kind} (known : (String.ofList text, kind) ∈ Kind.keywords) :
      Emits .word text kind .absent
  | identifier {text : List Char} (unknown : ∀ kind, (String.ofList text, kind) ∉ Kind.keywords) :
      Emits .word text .identifier (.text (String.ofList text))

end Rule

structure Longest (rule : Rule) (text ahead : List Char) : Prop where
  fits : rule.Fits text
  begins : text <+: ahead
  longest : ∀ (other : Rule) (more : List Char), other.Fits more → more <+: ahead →
    more.length ≤ text.length

def lineAfter (text : List Char) : Nat :=
  1 + text.count '\n'

/-- What the rules make of a text that stands behind another one. -/
inductive Scans : List Char → List Char → Except ScanError (List Token) → Prop where
  | finished (before : List Char) : Scans before [] (.ok [Token.eof (lineAfter before)])
  | skipped {before text rest : List Char} {rule : Rule} {result : Except ScanError (List Token)}
      (longest : Longest rule text (text ++ rest)) (skips : rule = .blank ∨ rule = .comment)
      (later : Scans (before ++ text) rest result) : Scans before (text ++ rest) result
  | emitted {before text rest : List Char} {rule : Rule} {kind : Kind} {payload : Payload}
      {result : Except ScanError (List Token)} (longest : Longest rule text (text ++ rest))
      (emits : rule.Emits text kind payload) (later : Scans (before ++ text) rest result) :
      Scans before (text ++ rest)
        (result.map (⟨kind, String.ofList text, lineAfter (before ++ text), payload⟩ :: ·))
  | stuck {before rest : List Char} {next : Char}
      (nothing : ∀ (rule : Rule) (text : List Char), rule.Fits text → ¬ text <+: next :: rest) :
      Scans before (next :: rest) (.error
        ⟨if next = '"' then .unterminatedString else .unexpectedCharacter, lineAfter before⟩)

theorem Digits.span {digits : List Char} (h : Digits digits) (rest : List Char)
    (stop : ∀ c ∈ rest.head?, Text.isDigit c = false) :
    (digits ++ rest).takeWhile Text.isDigit = digits ∧
      (digits ++ rest).dropWhile Text.isDigit = rest := by
  rw [List.takeWhile_append_of_pos h.2, List.dropWhile_append_of_pos h.2]
  cases rest with
  | nil => simp
  | cons c rest => simp [stop c rfl]

namespace Numeral

variable {text : List Char} {d d' : Number.Decimal}

theorem exists_digit (h : Numeral text d) :
    ∃ first rest, text = first :: rest ∧ Text.isDigit first = true := by
  cases h with
  | whole digits =>
    obtain ⟨first, rest, rfl⟩ := List.exists_cons_of_ne_nil digits.1
    exact ⟨first, rest, rfl, digits.2 first (by simp)⟩
  | @fraction _ fraction before behind =>
    obtain ⟨first, rest, rfl⟩ := List.exists_cons_of_ne_nil before.1
    exact ⟨first, rest ++ '.' :: fraction, rfl, before.2 first (by simp)⟩

theorem isPlain (h : Numeral text d) : ∀ c ∈ text, Number.isPlain c = true := by
  intro c mem
  cases h with
  | whole digits => simp [Number.isPlain, digits.2 c mem]
  | fraction before behind =>
    simp only [List.mem_append, List.mem_cons] at mem
    rcases mem with mem | rfl | mem
    · simp [Number.isPlain, before.2 c mem]
    · decide
    · simp [Number.isPlain, behind.2 c mem]

theorem decimal_ofText? (h : Numeral text d) : Number.Decimal.ofText? text = some d := by
  cases h with
  | whole digits =>
    have spanned := digits.span [] (by simp)
    simp only [List.append_nil] at spanned
    simp [Number.Decimal.ofText?, spanned, digits.1]
  | @fraction whole fraction before behind =>
    have spanned := before.span ('.' :: fraction) (by simp; decide)
    simp only [Number.Decimal.ofText?, spanned]
    simpa [before.1] using behind.2

theorem ofText? (h : Numeral text d) : Number.ofText? text = some d.toNumber := by
  rw [Number.ofText?_of_isPlain h.isPlain, h.decimal_ofText?]
  rfl

theorem unique (h : Numeral text d) (h' : Numeral text d') : d = d' :=
  Option.some.inj (h.decimal_ofText?.symm.trans h'.decimal_ofText?)

end Numeral

inductive Opening where
  | blank | mark | quote | digit | letter
  deriving DecidableEq

namespace Opening

def has : Opening → Char → Bool
  | .blank, c => blanks.contains c
  | .mark, c => fixedLexemes.any fun entry => entry.1.head? = some c
  | .quote, c => c == '"'
  | .digit, c => Text.isDigit c
  | .letter, c => Text.startsWord c

theorem startsWord_of_isDigit {c : Char} (h : Text.isDigit c = true) :
    Text.startsWord c = false := by
  have code := Number.toNat_of_isPlain (c := c) (by simp [Number.isPlain, h])
  have ascii : c.toNat < 0x80 := by omega
  have letters : ∀ n < 0x3a, (Char.ofNat n).isAlpha = false ∧ Char.ofNat n ≠ '_' := by decide
  have out := letters c.toNat (by omega)
  rw [Char.ofNat_toNat] at out
  simp [Text.startsWord, Text.isLetter, ascii, out]

def all : List Opening :=
  [.blank, .mark, .quote, .digit, .letter]

def singled : List Char :=
  blanks ++ fixedLexemes.filterMap (·.1.head?) ++ ['"']

theorem mem_singled {a : Opening} {c : Char} (h : a.has c = true) :
    c ∈ singled ∨ a = .digit ∨ a = .letter := by
  cases a with
  | blank => exact .inl (by simp_all [has, singled])
  | mark => exact .inl (by simp_all [has, singled])
  | quote => exact .inl (by simp_all [has, singled])
  | digit => exact .inr (.inl rfl)
  | letter => exact .inr (.inr rfl)

theorem eq_of_has {a b : Opening} {c : Char} (first : a.has c = true) (second : b.has c = true) :
    a = b := by
  -- Digits and letters are too many to be listed; all other openings are.
  by_cases single : c ∈ singled
  · have apart : (singled.all fun c => all.all fun a => all.all fun b =>
        !(a.has c && b.has c) || decide (a = b)) = true := by
      decide
    have listed (o : Opening) : o ∈ all := by cases o <;> decide
    have chosen := List.all_eq_true.1 (List.all_eq_true.1 (List.all_eq_true.1 apart c single) a
      (listed a)) b (listed b)
    simpa [first, second] using chosen
  · rcases (mem_singled first).resolve_left single with rfl | rfl <;>
      rcases (mem_singled second).resolve_left single with rfl | rfl
    · rfl
    · simp_all [has, startsWord_of_isDigit]
    · simp_all [has, startsWord_of_isDigit]
    · rfl

end Opening

namespace Rule

def opening : Rule → Opening
  | .blank => .blank
  | .comment | .fixed _ => .mark
  | .string => .quote
  | .number => .digit
  | .word => .letter

theorem eq_of_opening {a b : Rule} (same : a.opening = b.opening) (alone : b.opening ≠ .mark) :
    a = b := by
  cases a <;> cases b <;> first | rfl | exact absurd rfl alone | cases same

theorem Fits.opens {rule : Rule} {text : List Char} (h : rule.Fits text) :
    ∃ first rest, text = first :: rest ∧ rule.opening.has first = true := by
  cases h with
  | @blank c mem => exact ⟨c, [], rfl, by simpa [opening, Opening.has] using mem⟩
  | @comment body line => exact ⟨'/', '/' :: body, rfl, by decide⟩
  | @fixed _ kind mem =>
    have some : ∀ entry ∈ fixedLexemes, entry.1 ≠ [] := by decide
    obtain ⟨first, rest, rfl⟩ := List.exists_cons_of_ne_nil (some _ mem)
    refine ⟨first, rest, rfl, ?_⟩
    simp only [opening, Opening.has, List.any_eq_true]
    exact ⟨_, mem, by simp⟩
  | @string body inside => exact ⟨'"', body ++ ['"'], rfl, by decide⟩
  | number numeral => exact numeral.exists_digit
  | @word first rest starts continues => exact ⟨first, rest, rfl, starts⟩

theorem Fits.has {rule : Rule} {first : Char} {rest : List Char} (h : rule.Fits (first :: rest)) :
    rule.opening.has first = true := by
  obtain ⟨_, _, same, opens⟩ := h.opens
  cases same
  exact opens

theorem Fits.ne_nil {rule : Rule} {text : List Char} (h : rule.Fits text) : text ≠ [] := by
  obtain ⟨first, rest, rfl, -⟩ := h.opens
  simp

theorem Fits.exists_blank {text : List Char} (h : Fits .blank text) :
    ∃ c ∈ blanks, text = [c] := by
  cases h with
  | blank mem => exact ⟨_, mem, rfl⟩

theorem Fits.tail_of_blank {first : Char} {more : List Char} (h : Fits .blank (first :: more)) :
    more = [] := by
  cases h
  rfl

theorem Fits.tail_of_comment {first : Char} {more : List Char} (h : Fits .comment (first :: more)) :
    first = '/' ∧ ∃ body, more = '/' :: body ∧ '\n' ∉ body := by
  cases h with
  | comment line => exact ⟨rfl, _, rfl, line⟩

theorem Fits.tail_of_string {first : Char} {more : List Char} (h : Fits .string (first :: more)) :
    ∃ body, more = body ++ ['"'] ∧ '"' ∉ body := by
  cases h with
  | string inside => exact ⟨_, rfl, inside⟩

theorem Fits.tail_of_word {first : Char} {more : List Char} (h : Fits .word (first :: more)) :
    ∀ c ∈ more, Text.continuesWord c = true := by
  cases h with
  | word starts continues => exact continues

theorem kind_unique {text : List Char} {a b : Kind} (first : (text, a) ∈ fixedLexemes)
    (second : (text, b) ∈ fixedLexemes) : a = b := by
  have apart : ∀ entry ∈ fixedLexemes, ∀ entry' ∈ fixedLexemes, entry.1 = entry'.1 →
      entry.2 = entry'.2 := by
    decide
  exact apart _ first _ second rfl

theorem comment_not_fixed {text : List Char} {kind : Kind} (mem : (text, kind) ∈ fixedLexemes)
    (h : Fits .comment text) : False := by
  have short : ∀ entry ∈ fixedLexemes, entry.1.take 2 ≠ ['/', '/'] := by decide
  cases h with
  | comment line => exact short _ mem rfl

theorem Fits.unique {a b : Rule} {text : List Char} (first : a.Fits text) (second : b.Fits text) :
    a = b := by
  obtain ⟨c, rest, rfl, -⟩ := first.opens
  have same := Opening.eq_of_has first.has second.has
  -- Only marks are opened by more than one rule.
  by_cases mark : b.opening = .mark
  · cases first with
    | comment line =>
      cases second with
      | comment => rfl
      | fixed mem => exact (comment_not_fixed mem (.comment line)).elim
      | _ => cases mark
    | fixed mem =>
      generalize seen : c :: rest = text at second
      cases second with
      | comment line => exact (comment_not_fixed (seen ▸ mem) (.comment line)).elim
      | fixed mem' => rw [kind_unique mem (seen ▸ mem')]
      | _ => cases mark
    | _ => cases same.trans mark
  · exact eq_of_opening same mark

theorem keyword_unique {word : String} {a b : Kind} (first : (word, a) ∈ Kind.keywords)
    (second : (word, b) ∈ Kind.keywords) : a = b := by
  have apart : ∀ entry ∈ Kind.keywords, ∀ entry' ∈ Kind.keywords, entry.1 = entry'.1 →
      entry.2 = entry'.2 := by
    decide
  exact apart _ first _ second rfl

theorem Emits.unique {rule : Rule} {text : List Char} {a b : Kind} {p q : Payload}
    (first : rule.Emits text a p) (second : rule.Emits text b q) : a = b ∧ p = q := by
  cases first with
  | fixed =>
    cases second
    exact ⟨rfl, rfl⟩
  | string =>
    generalize same : '"' :: _ ++ ['"'] = text at second
    cases second
    obtain rfl := List.append_cancel_right (List.cons.inj same).2
    exact ⟨rfl, rfl⟩
  | number numeral =>
    cases second with
    | number numeral' => exact ⟨rfl, by rw [numeral.unique numeral']⟩
  | keyword known =>
    cases second with
    | keyword known' => exact ⟨keyword_unique known known', rfl⟩
    | identifier unknown => exact absurd known (unknown _)
  | identifier unknown =>
    cases second with
    | keyword known => exact absurd known (unknown _)
    | identifier => exact ⟨rfl, rfl⟩

theorem Emits.not_skips {rule : Rule} {text : List Char} {kind : Kind} {payload : Payload}
    (emits : rule.Emits text kind payload) : ¬ (rule = .blank ∨ rule = .comment) := by
  cases emits <;> simp

theorem Emits.opening_ne_blank {rule : Rule} {text : List Char} {kind : Kind} {payload : Payload}
    (emits : rule.Emits text kind payload) : rule.opening ≠ .blank := by
  cases emits <;> simp [opening]

end Rule

theorem Longest.unique {a b : Rule} {first second ahead : List Char} (h : Longest a first ahead)
    (h' : Longest b second ahead) : first = second ∧ a = b := by
  have lengths : first.length = second.length :=
    Nat.le_antisymm (h'.longest a first h.fits h.begins) (h.longest b second h'.fits h'.begins)
  have same : first = second :=
    List.IsPrefix.eq_of_length (List.prefix_of_prefix_length_le h.begins h'.begins (by omega))
      lengths
  subst same
  exact ⟨rfl, h.fits.unique h'.fits⟩

theorem Longest.ne_nil {rule : Rule} {text ahead : List Char} (h : Longest rule text ahead) :
    ahead ≠ [] := by
  rintro rfl
  exact h.fits.ne_nil (List.prefix_nil.1 h.begins)

theorem Longest.cut_unique {a b : Rule} {first second rest rest' : List Char}
    (h : Longest a first (first ++ rest)) (h' : Longest b second (second ++ rest'))
    (same : first ++ rest = second ++ rest') : first = second ∧ a = b ∧ rest = rest' := by
  rw [← same] at h'
  obtain ⟨rfl, rules⟩ := h.unique h'
  exact ⟨rfl, rules, List.append_cancel_left same⟩

theorem Scans.unique {before ahead : List Char} {a b : Except ScanError (List Token)}
    (first : Scans before ahead a) (second : Scans before ahead b) : a = b := by
  -- Both cuts begin with the same longest match, or neither has one.
  induction first generalizing b with
  | finished before =>
    generalize same : [] = ahead at second
    cases second with
    | finished => rfl
    | skipped longest | emitted longest => exact absurd same.symm longest.ne_nil
    | stuck => cases same
  | @skipped _ text rest _ _ longest skips later ih =>
    generalize same : text ++ rest = ahead at second
    cases second with
    | finished => exact absurd same longest.ne_nil
    | skipped longest' skips' later' =>
      obtain ⟨rfl, rfl, rfl⟩ := longest.cut_unique longest' same
      exact ih later'
    | emitted longest' emits' later' =>
      obtain ⟨rfl, rfl, rfl⟩ := longest.cut_unique longest' same
      exact absurd skips emits'.not_skips
    | stuck nothing => exact absurd (same ▸ longest.begins) (nothing _ _ longest.fits)
  | @emitted _ text rest _ _ _ _ longest emits later ih =>
    generalize same : text ++ rest = ahead at second
    cases second with
    | finished => exact absurd same longest.ne_nil
    | skipped longest' skips' later' =>
      obtain ⟨rfl, rfl, rfl⟩ := longest.cut_unique longest' same
      exact absurd skips' emits.not_skips
    | emitted longest' emits' later' =>
      obtain ⟨rfl, rfl, rfl⟩ := longest.cut_unique longest' same
      obtain ⟨rfl, rfl⟩ := emits.unique emits'
      rw [ih later']
    | stuck nothing => exact absurd (same ▸ longest.begins) (nothing _ _ longest.fits)
  | @stuck _ rest next nothing =>
    generalize same : next :: rest = ahead at second
    cases second with
    | finished => cases same
    | skipped longest | emitted longest =>
      exact absurd (same ▸ longest.begins) (nothing _ _ longest.fits)
    | stuck =>
      cases same
      rfl

end Lox.Lexical
