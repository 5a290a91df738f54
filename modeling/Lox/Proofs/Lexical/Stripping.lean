import Lox.Proofs.Lexical.Places
import Lox.Proofs.Lexical.Scannable
import Lox.Session.Basic

set_option autoImplicit false

namespace Lox

open Session

def Session.visibleText (text : String) : String :=
  String.ofList (visible text.toList)

def Payload.visible : Payload → Payload
  | .text value => .text (visibleText value)
  | payload => payload

def Token.visible (token : Token) : Token :=
  { token with lexeme := visibleText token.lexeme, payload := token.payload.visible }

namespace Lexical

/-- The next tokens of a text, as many as are counted, do not run together with what comes behind
them when the invisible characters are deleted, and the token after them becomes no binary operator
that way. -/
inductive StaysApart : Nat → List Char → Prop where
  | ended : StaysApart 0 []
  | skipped {count : Nat} {text rest : List Char} {rule : Rule}
      (longest : Longest rule text (text ++ rest)) (skips : rule = .blank ∨ rule = .comment)
      (later : StaysApart count rest) : StaysApart count (text ++ rest)
  | token {count : Nat} {text rest : List Char} {rule : Rule} {kind : Kind} {payload : Payload}
      (longest : Longest rule text (text ++ rest)) (emits : rule.Emits text kind payload)
      (whole : Longest rule text (text ++ visible rest)) (later : StaysApart count rest) :
      StaysApart (count + 1) (text ++ rest)
  | stop {text rest : List Char} {rule : Rule} {kind : Kind} {payload : Payload}
      (longest : Longest rule text (text ++ rest)) (emits : rule.Emits text kind payload)
      (whole : ∀ (longer : List Char) (operator : Kind), (Level.ofKind? operator).isSome = true →
        Longest (.fixed operator) longer (text ++ visible rest) → longer = text) :
      StaysApart 0 (text ++ rest)

theorem apart_of_isInvisible {c : Char} (invisible : isInvisible c = true) :
    Number.isPlain c = false ∧ Text.continuesWord c = false ∧ Opening.mark.has c = false ∧
      c ≠ '"' := by
  have apart : (['\u200b', '\u200c', '\u200d', '\ufeff', '\u00a0', '\r'].all fun c =>
      !Number.isPlain c && !Text.continuesWord c && !Opening.mark.has c && c != '"') = true := by
    decide +kernel
  simpa [and_assoc] using List.all_eq_true.1 apart c (by simpa [isInvisible] using invisible)

theorem visible_of_opening {opening : Opening} {c : Char} (opens : opening.has c = true)
    (shown : opening ≠ .blank) : isInvisible c = false := by
  cases invisible : isInvisible c with
  | false => rfl
  | true =>
    obtain ⟨plain, letter, mark, quote⟩ := apart_of_isInvisible invisible
    cases opening with
    | blank => exact absurd rfl shown
    | mark => exact absurd opens (by simp [mark])
    | quote => exact absurd opens (by simp [Opening.has, quote])
    | digit => exact absurd opens (by simp_all [Opening.has, Number.isPlain])
    | letter =>
      rw [Text.continuesWord_of_startsWord opens] at letter
      cases letter

section Visible

variable {rule : Rule} {text rest : List Char} {kind : Kind} {payload : Payload}

theorem visible_nil : visible [] = [] :=
  rfl

theorem visible_append (text rest : List Char) :
    visible (text ++ rest) = visible text ++ visible rest :=
  List.filter_append ..

theorem visible_cons_of_visible {c : Char} (seen : isInvisible c = false) (rest : List Char) :
    visible (c :: rest) = c :: visible rest :=
  List.filter_cons_of_pos (by simp [seen])

theorem visible_cons_of_invisible {c : Char} (unseen : isInvisible c = true) (rest : List Char) :
    visible (c :: rest) = visible rest :=
  List.filter_cons_of_neg (by simp [unseen])

theorem visible_eq_self (seen : ∀ c ∈ text, isInvisible c = false) : visible text = text :=
  List.filter_eq_self.2 (by simpa using seen)

theorem newline_notMem_visible (single : '\n' ∉ text) : '\n' ∉ visible text :=
  fun mem => single (List.mem_filter.1 mem).1

theorem visible_quoted (body : List Char) :
    visible ('"' :: body ++ ['"']) = '"' :: visible body ++ ['"'] := by
  rw [visible_append]
  rfl

theorem visibleText_ofList (text : List Char) :
    visibleText (String.ofList text) = String.ofList (visible text) := by
  rw [visibleText, String.toList_ofList]

theorem Rule.Fits.visible_eq (fits : rule.Fits text)
    (other : ¬ (rule = .blank ∨ rule = .comment ∨ rule = .string)) : visible text = text := by
  refine visible_eq_self fun c mem => ?_
  cases invisible : isInvisible c with
  | false => rfl
  | true =>
    obtain ⟨plain, letter, mark, -⟩ := apart_of_isInvisible invisible
    cases fits with
    | blank | comment | string => simp at other
    | fixed known =>
      have marks : ∀ entry ∈ fixedLexemes, entry.1.all Opening.mark.has = true := by decide
      rw [List.all_eq_true.1 (marks _ known) c mem] at mark
      cases mark
    | number numeral =>
      rw [numeral.isPlain c mem] at plain
      cases plain
    | word starts continues =>
      rcases List.mem_cons.1 mem with rfl | mem
      · rw [Text.continuesWord_of_startsWord starts] at letter
        cases letter
      · rw [continues c mem] at letter
        cases letter

theorem Rule.Emits.visible (fits : rule.Fits text) (emits : rule.Emits text kind payload) :
    rule.Emits (visible text) kind payload.visible := by
  cases emits with
  | @string body =>
    rw [visible_quoted, Payload.visible, visibleText_ofList]
    exact .string
  | fixed =>
    rw [fits.visible_eq (by simp)]
    exact .fixed
  | number numeral =>
    rw [fits.visible_eq (by simp)]
    exact .number numeral
  | keyword known =>
    rw [fits.visible_eq (by simp)]
    exact .keyword known
  | identifier unknown =>
    rw [Payload.visible, visibleText_ofList, fits.visible_eq (by simp)]
    exact .identifier unknown

theorem Longest.visible (longest : Longest rule text (text ++ visible rest))
    (emits : rule.Emits text kind payload) :
    Longest rule (visible text) (visible text ++ visible rest) := by
  have fits := longest.fits
  cases fits with
  | blank | comment => exact absurd (by simp) emits.not_skips
  | string inside =>
    rw [visible_quoted]
    exact Rule.Fits.longest_quoted (fun mem => inside (List.mem_filter.1 mem).1) _
  | fixed | number | word => rwa [longest.fits.visible_eq (by simp)]

end Visible

theorem StaysApart.blank {count : Nat} {rest : List Char} {c : Char} (mem : c ∈ blanks)
    (later : StaysApart count rest) : StaysApart count (c :: rest) := by
  have longest : Longest .blank [c] ([c] ++ rest) := longest_blank mem
  exact .skipped longest (.inl rfl) later

theorem StaysApart.word {count : Nat} {rest : List Char} {word : Token} (lexed : Lexed word)
    (stop : ∀ c ∈ rest.head?, c ∈ blanks) (stop' : ∀ c ∈ (visible rest).head?, c ∈ blanks)
    (later : StaysApart count rest) : StaysApart (count + 1) (word.lexeme.toList ++ rest) := by
  obtain ⟨rule, fits, emits⟩ := lexed
  exact .token (fits.longest stop emits.not_skips) emits (fits.longest stop' emits.not_skips) later

theorem Scannable.visible {text : List Char} (scannable : Scannable text) :
    Scannable (visible text) := by
  induction scannable with
  | nil => exact .nil
  | @alone c rest rule fits later ih =>
    cases invisible : isInvisible c with
    | false =>
      rw [visible_cons_of_visible invisible]
      exact .alone fits ih
    | true => rwa [visible_cons_of_invisible invisible]
  | @word text rest fits later ih =>
    rw [visible_append, fits.visible_eq (by simp)]
    exact .word fits ih
  | @string text rest fits later ih =>
    rw [visible_append]
    refine .string ?_ ih
    cases fits with
    | string inside =>
      rw [visible_quoted]
      exact .string fun mem => inside (List.mem_filter.1 mem).1
  | comment body => exact .comment (Session.visible body)

section Scans

variable {before before' text rest ahead : List Char} {rule : Rule}

theorem lineAfter_visible (lines : lineAfter before' = lineAfter before) (text : List Char) :
    lineAfter (before' ++ visible text) = lineAfter (before ++ text) := by
  have count : (visible text).count '\n' = text.count '\n' := List.count_filter (by decide)
  rw [lineAfter_append, lineAfter_append, lines, count]

theorem Scans.of_skipped {result : Except ScanError (List Token)}
    (scans : Scans before (text ++ rest) result) (longest : Longest rule text (text ++ rest))
    (skips : rule = .blank ∨ rule = .comment) : Scans (before ++ text) rest result := by
  obtain ⟨ended, later⟩ := exists_scans (before ++ text) rest
  rwa [scans.unique (.skipped longest skips later)]

theorem Scans.of_emitted {tokens : List Token} {kind : Kind} {payload : Payload}
    (scans : Scans before (text ++ rest) (.ok tokens)) (longest : Longest rule text (text ++ rest))
    (emits : rule.Emits text kind payload) :
    ∃ others, Scans (before ++ text) rest (.ok others) ∧
      tokens = ⟨kind, String.ofList text, lineAfter (before ++ text), payload⟩ :: others := by
  obtain ⟨ended, later⟩ := exists_scans (before ++ text) rest
  have same := scans.unique (.emitted longest emits later)
  cases ended with
  | error e => cases same
  | ok others =>
    cases same
    exact ⟨others, later, rfl⟩

theorem Scans.exists_visible {tokens : List Token} (scans : Scans before ahead (.ok tokens))
    (single : '\n' ∉ ahead) (before' : List Char) :
    ∃ tokens', Scans before' (visible ahead) (.ok tokens') := by
  obtain ⟨result, scans'⟩ := exists_scans before' (visible ahead)
  have scannable := (scans.scannable single tokens rfl).visible
  obtain ⟨tokens', rfl⟩ := scans'.ok_of_scannable (newline_notMem_visible single) scannable
  exact ⟨tokens', scans'⟩

theorem Scans.skipped_visible {result : Except ScanError (List Token)}
    (longest : Longest rule text (text ++ rest)) (skips : rule = .blank ∨ rule = .comment)
    (single : '\n' ∉ text ++ rest)
    (later : Scans (before ++ visible text) (visible rest) result) :
    Scans before (visible (text ++ rest)) result := by
  rw [visible_append]
  rcases skips with rfl | rfl
  · obtain ⟨c, mem, rfl⟩ := longest.fits.exists_blank
    cases invisible : isInvisible c with
    | false =>
      rw [visible_cons_of_visible invisible] at later ⊢
      exact .blank mem later
    | true =>
      rw [visible_cons_of_invisible invisible] at later ⊢
      rwa [visible_nil, List.append_nil] at later
  · obtain rfl := rest_eq_nil_of_comment longest single
    cases longest.fits with
    | comment line => exact .comment (newline_notMem_visible line) (by simp [visible_nil]) later

theorem Scans.exists_first {tokens : List Token} (scans : Scans before ahead (.ok tokens)) :
    ∃ first others, tokens = first :: others := by
  obtain ⟨words, rfl, -⟩ := scans.lexed tokens rfl
  cases words with
  | nil => exact ⟨_, _, rfl⟩
  | cons word words => exact ⟨word, _, rfl⟩

theorem Scans.longest_of_binary {first : Token} {others : List Token}
    (scans : Scans before ahead (.ok (first :: others))) (single : '\n' ∉ ahead)
    (solid : ∀ c ∈ ahead.head?, c ∉ blanks)
    (binary : (Level.ofKind? first.kind).isSome = true) :
    ∃ text, Longest (.fixed first.kind) text ahead := by
  generalize same : Except.ok (first :: others) = result at scans
  cases scans with
  | finished =>
    cases same
    cases binary
  | @skipped _ text rest rule _ longest skips later =>
    subst same
    rcases skips with rfl | rfl
    · cases longest.fits with
      | blank mem => exact absurd mem (solid _ rfl)
    · obtain rfl := rest_eq_nil_of_comment longest single
      cases Except.ok.inj (later.unique (.finished _))
      cases binary
  | @emitted _ text rest rule kind payload result longest emits later =>
    cases result with
    | error e => cases same
    | ok tokens =>
      cases same
      obtain rfl := emits.eq_fixed (by simpa [Kind.isOperator] using .inr binary)
      exact ⟨text, longest⟩
  | stuck nothing => cases same

theorem StaysApart.scans_visible {count : Nat} {tokens : List Token}
    (apart : StaysApart count ahead) (single : '\n' ∉ ahead)
    (scans : Scans before ahead (.ok tokens)) (lines : lineAfter before' = lineAfter before) :
    ∃ front stop others stop' others', tokens = front ++ stop :: others ∧ front.length = count ∧
      Scans before' (visible ahead) (.ok (front.map Token.visible ++ stop' :: others')) ∧
      ((Level.ofKind? stop'.kind).isSome = true → stop'.kind = stop.kind) := by
  induction apart generalizing before before' tokens with
  | ended =>
    cases Except.ok.inj (scans.unique (.finished before))
    exact ⟨[], _, [], _, [], rfl, rfl, .finished before', fun _ => rfl⟩
  | @skipped count text rest rule longest skips later ih =>
    obtain ⟨front, stop, others, stop', others', split, length, scans', operator⟩ :=
      ih (fun mem => single (by simp [mem])) (scans.of_skipped longest skips)
        (lineAfter_visible lines text)
    exact ⟨front, stop, others, stop', others', split, length,
      .skipped_visible longest skips single scans', operator⟩
  | @token count text rest rule kind payload longest emits whole later ih =>
    obtain ⟨others, behind, rfl⟩ := scans.of_emitted longest emits
    obtain ⟨front, stop, others, stop', others', rfl, length, scans', operator⟩ :=
      ih (fun mem => single (by simp [mem])) behind (lineAfter_visible lines text)
    have found := Scans.emitted (whole.visible emits) (emits.visible longest.fits) scans'
    refine ⟨_ :: front, stop, others, stop', others', rfl, by simp [length], ?_, operator⟩
    rw [lineAfter_visible lines] at found
    rw [visible_append, List.map_cons, Token.visible, visibleText_ofList]
    exact found
  | @stop text rest rule kind payload longest emits whole =>
    obtain ⟨others, behind, rfl⟩ := scans.of_emitted longest emits
    obtain ⟨tokens', scans'⟩ := scans.exists_visible single before'
    obtain ⟨stop', others', rfl⟩ := scans'.exists_first
    refine ⟨[], _, others, stop', others', rfl, rfl, scans', fun binary => ?_⟩
    obtain ⟨first, more, rfl, opens⟩ := longest.fits.opens
    have shown := emits.opening_ne_blank
    have head : visible (first :: more ++ rest) = first :: visible (more ++ rest) :=
      visible_cons_of_visible (visible_of_opening opens shown) _
    have solid : ∀ c ∈ (visible (first :: more ++ rest)).head?, c ∉ blanks := by
      rw [head]
      rintro _ ⟨⟩ blank
      exact shown (Opening.eq_of_has opens (Rule.Fits.blank blank).has)
    obtain ⟨longer, found⟩ :=
      scans'.longest_of_binary (newline_notMem_visible single) solid binary
    -- What begins like an operator is no string, so that the lexeme is seen as a whole.
    have noString : rule ≠ .string := by
      rintro rfl
      obtain ⟨c, tail, rfl, mark⟩ := found.fits.opens
      obtain ⟨rfl, -⟩ := List.cons_prefix_cons.1 (head ▸ found.begins)
      cases Opening.eq_of_has opens mark
    have seen : visible (first :: more) = first :: more :=
      longest.fits.visible_eq (by simpa [noString] using emits.not_skips)
    rw [visible_append, seen] at found
    obtain rfl := whole longer _ binary found
    obtain rfl := longest.fits.unique found.fits
    cases emits
    rfl

end Scans

end Lexical

end Lox
