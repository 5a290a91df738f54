import Lox.Proofs.Lexical.Scanner

set_option autoImplicit false

namespace Lox.Lexical

theorem length_le_of_stop {α : Type} {test : α → Bool} {more text rest : List α}
    (within : more <+: text ++ rest) (all : ∀ a ∈ more, test a = true)
    (stop : ∀ a ∈ rest.head?, test a = false) : more.length ≤ text.length := by
  refine Nat.le_of_not_lt fun longer => ?_
  -- What is longer takes the first of the rest as well.
  have further : text <+: more :=
    List.prefix_of_prefix_length_le (List.prefix_append text rest) within (Nat.le_of_lt longer)
  obtain ⟨behind, rfl⟩ := further
  cases behind with
  | nil => simp at longer
  | cons a behind =>
    obtain ⟨later, same⟩ := (List.prefix_append_right_inj text).1 within
    have outside := stop a (by simp [← same])
    rw [all a (by simp)] at outside
    cases outside

theorem mem_head?_of_begins {α : Type} {a : α} {more rest : List α} (within : a :: more <+: rest) :
    a ∈ rest.head? := by
  obtain ⟨later, rfl⟩ := within
  rfl

theorem not_extends_of_mem_blanks : ∀ c ∈ blanks,
    Number.isPlain c = false ∧ Text.continuesWord c = false ∧ c ≠ '=' ∧ c ≠ '/' := by
  intro c mem
  have apart : (blanks.all fun c => !Number.isPlain c && !Text.continuesWord c && c != '=' &&
      c != '/') = true := by
    decide
  simpa [and_assoc] using List.all_eq_true.1 apart c mem

namespace Rule.Fits

variable {text rest : List Char} (stop : ∀ c ∈ rest.head?, c ∈ blanks)

include stop

theorem longest_fixed {kind : Kind} (mem : (text, kind) ∈ fixedLexemes) :
    Longest (.fixed kind) text (text ++ rest) := by
  obtain ⟨first, tail, rfl, -⟩ := Rule.Fits.opens (.fixed mem)
  refine .of_opening (.fixed mem) (List.prefix_append tail rest)
    fun other more opening also within => ?_
  have noEquals : tail = [] → ¬ ['='] <+: tail ++ rest := by
    rintro rfl equals
    exact (not_extends_of_mem_blanks _ (stop _ (mem_head?_of_begins equals))).2.2.1 rfl
  have noSlash (body : List Char) : tail = [] → ¬ '/' :: body <+: tail ++ rest := by
    rintro rfl slashes
    exact (not_extends_of_mem_blanks _ (stop _ (mem_head?_of_begins slashes))).2.2.2 rfl
  rcases tail_of_mark opening also with rfl | ⟨rfl, -, -⟩ | ⟨slash, body, rfl, -⟩
  · exact Nat.zero_le _
  · rcases tail_of_fixed mem with none | ⟨rfl, -, -⟩
    · exact absurd within (noEquals none)
    · exact Nat.le_refl _
  · rcases tail_of_fixed mem with none | ⟨-, -, other⟩
    · exact absurd within (noSlash body none)
    · exact absurd slash other

omit stop in
theorem longest_quoted {body : List Char} (inside : '"' ∉ body) (rest : List Char) :
    Longest .string ('"' :: body ++ ['"']) ('"' :: body ++ ['"'] ++ rest) := by
  refine .of_alone (.string inside) (by decide) (List.prefix_append _ rest)
    fun more also within => ?_
  obtain ⟨body', rfl, inside'⟩ := also.tail_of_string
  have first := (quoted_unique inside (List.prefix_append (body ++ ['"']) rest)).1
  have second := (quoted_unique inside' within).1
  rw [show body' = body from second.symm.trans first]
  exact Nat.le_refl _

theorem longest_number (fits : Rule.number.Fits text) : Longest .number text (text ++ rest) := by
  obtain ⟨first, tail, rfl, -⟩ := fits.opens
  refine .of_alone fits (by decide) (List.prefix_append tail rest) fun more also within => ?_
  cases also with
  | number numeral =>
    exact length_le_of_stop within (fun c mem => numeral.isPlain c (by simp [mem]))
      fun c mem => (not_extends_of_mem_blanks c (stop c mem)).1

theorem longest_wording (fits : Rule.word.Fits text) : Longest .word text (text ++ rest) := by
  obtain ⟨first, tail, rfl, -⟩ := fits.opens
  refine .of_alone fits (by decide) (List.prefix_append tail rest) fun more also within => ?_
  exact length_le_of_stop within also.tail_of_word
    fun c mem => (not_extends_of_mem_blanks c (stop c mem)).2.1

theorem longest {rule : Rule} (fits : rule.Fits text) (kept : ¬ (rule = .blank ∨ rule = .comment)) :
    Longest rule text (text ++ rest) := by
  cases fits with
  | blank => exact absurd (.inl rfl) kept
  | comment => exact absurd (.inr rfl) kept
  | fixed mem => exact longest_fixed stop mem
  | string inside => exact longest_quoted inside rest
  | number numeral => exact longest_number stop (.number numeral)
  | word starts continues => exact longest_wording stop (.word starts continues)

end Rule.Fits

inductive Gap : List Char → Prop where
  | empty : Gap []
  | blank {c : Char} {rest : List Char} (mem : c ∈ blanks) (later : Gap rest) : Gap (c :: rest)
  | comment {body rest : List Char} (line : '\n' ∉ body) (later : Gap rest) :
      Gap ('/' :: '/' :: body ++ '\n' :: rest)

inductive LastGap : List Char → Prop where
  | closed {gap : List Char} (h : Gap gap) : LastGap gap
  | opened {gap body : List Char} (h : Gap gap) (line : '\n' ∉ body) :
      LastGap (gap ++ '/' :: '/' :: body)

def StartsBlank (text : List Char) : Prop :=
  ∃ c ∈ text.head?, c ∈ blanks

inductive Spaced : List (Token × List Char) → Prop where
  | last {word : Token} {gap : List Char} (h : gap = [] ∨ StartsBlank gap ∧ LastGap gap) :
      Spaced [(word, gap)]
  | more {word : Token} {gap : List Char} {rest : List (Token × List Char)}
      (starts : StartsBlank gap) (h : Gap gap) (later : Spaced rest) : Spaced ((word, gap) :: rest)

structure Layout where
  first : List Char
  pieces : List (Token × List Char)
  spaced : pieces = [] ∧ LastGap first ∨ Gap first ∧ Spaced pieces

def spacedBy (blank : Char) : List Token → List (Token × List Char)
  | [] => []
  | [word] => [(word, [])]
  | word :: rest => (word, [blank]) :: spacedBy blank rest

theorem space_mem_blanks : ' ' ∈ blanks :=
  List.mem_cons_self

theorem Spaced.spacedBy {c : Char} (mem : c ∈ blanks) (word : Token) (rest : List Token) :
    Spaced (spacedBy c (word :: rest)) := by
  induction rest generalizing word with
  | nil => exact .last (.inl rfl)
  | cons next rest ih => exact .more ⟨c, rfl, mem⟩ (.blank mem .empty) (ih next)

def spread : List (Token × List Char) → List Char
  | [] => []
  | (word, gap) :: rest => word.lexeme.toList ++ (gap ++ spread rest)

def placed (before : List Char) : List (Token × List Char) → List Token
  | [] => [Token.eof (lineAfter before)]
  | (word, gap) :: rest =>
    let upTo := before ++ word.lexeme.toList
    { word with line := lineAfter upTo } :: placed (upTo ++ gap) rest

namespace Layout

def words (l : Layout) : List Token :=
  l.pieces.map Prod.fst

def source (l : Layout) : String :=
  String.ofList (l.first ++ spread l.pieces)

def row {c : Char} (mem : c ∈ blanks) (words : List Token) : Layout where
  first := []
  pieces := spacedBy c words
  spaced := by
    cases words with
    | nil => exact .inl ⟨rfl, .closed .empty⟩
    | cons word rest => exact .inr ⟨.empty, .spacedBy mem word rest⟩

@[simp] theorem words_row {c : Char} (mem : c ∈ blanks) (words : List Token) :
    (row mem words).words = words := by
  cases words with
  | nil => rfl
  | cons word rest =>
    change (spacedBy c (word :: rest)).map Prod.fst = word :: rest
    induction rest generalizing word with
    | nil => rfl
    | cons next rest ih => exact congrArg (word :: ·) (ih next)

def tokens (l : Layout) : List Token :=
  placed l.first l.pieces

end Layout

namespace Scans

variable {before rest : List Char} {result : Except ScanError (List Token)}

theorem blank {c : Char} (mem : c ∈ blanks) (later : Scans (before ++ [c]) rest result) :
    Scans before (c :: rest) result := by
  have longest : Longest .blank [c] ([c] ++ rest) := longest_blank mem
  exact .skipped longest (.inl rfl) later

theorem comment {body : List Char} (line : '\n' ∉ body) (stop : ∀ c ∈ rest.head?, c = '\n')
    (later : Scans (before ++ '/' :: '/' :: body) rest result) :
    Scans before ('/' :: '/' :: body ++ rest) result := by
  have inside : ∀ c ∈ body, (c != '\n') = true := by
    intro c mem
    simpa using fun same : c = '\n' => line (same ▸ mem)
  have taken : (body ++ rest).takeWhile (· != '\n') = body := by
    rw [List.takeWhile_append_of_pos inside]
    cases rest with
    | nil => simp
    | cons c rest => simp [stop c rfl]
  have longest : Longest .comment _ ('/' :: '/' :: (body ++ rest)) := longest_comment
  rw [taken] at longest
  exact .skipped longest (.inr rfl) later

theorem gap {gap : List Char} (h : Gap gap) (later : Scans (before ++ gap) rest result) :
    Scans before (gap ++ rest) result := by
  induction h generalizing before with
  | empty => simpa using later
  | @blank c gap mem _ ih => exact blank mem (ih (by simpa using later))
  | @comment body gap line _ ih =>
    have behind : Scans (before ++ '/' :: '/' :: body) ('\n' :: (gap ++ rest)) result :=
      blank (by decide) (ih (by simpa using later))
    simpa using comment line (by simp) behind

theorem lastGap {gap : List Char} (h : LastGap gap) :
    Scans before gap (.ok [Token.eof (lineAfter (before ++ gap))]) := by
  cases h with
  | closed h => simpa using Scans.gap h (.finished (before ++ gap))
  | @opened gap body h line =>
    have ended := Scans.finished (before ++ gap ++ '/' :: '/' :: body)
    simpa using Scans.gap h (comment line (by simp) ended)

end Scans

def Lexed (token : Token) : Prop :=
  ∃ rule : Rule, rule.Fits token.lexeme.toList ∧
    rule.Emits token.lexeme.toList token.kind token.payload

theorem Lexed.fixed {lexeme : String} {kind : Kind} (known : (lexeme.toList, kind) ∈ fixedLexemes)
    (line : Int) : Lexed ⟨kind, lexeme, line, .absent⟩ :=
  ⟨.fixed kind, .fixed known, .fixed⟩

theorem Lexed.keyword {word : String} {kind : Kind} (known : (word, kind) ∈ Kind.keywords)
    (line : Int) : Lexed ⟨kind, word, line, .absent⟩ := by
  have letters : ∀ entry ∈ Kind.keywords, entry.1.toList.head?.any Text.startsWord = true ∧
      entry.1.toList.all Text.continuesWord = true := by
    decide
  obtain ⟨starts, continues⟩ := letters _ known
  refine ⟨.word, ?_, .keyword (by simpa using known)⟩
  cases text : word.toList with
  | nil => simp [text] at starts
  | cons first rest =>
    rw [text] at starts continues
    exact .word starts fun c mem => List.all_eq_true.1 continues c (by simp [mem])

theorem Lexed.string {body : List Char} (inside : '"' ∉ body) (line : Int) :
    Lexed ⟨.string, String.ofList ('"' :: body ++ ['"']), line, .text (String.ofList body)⟩ := by
  refine ⟨.string, ?_, ?_⟩
  · rw [String.toList_ofList]
    exact .string inside
  · rw [String.toList_ofList]
    exact .string

theorem Lexed.number {text : List Char} {d : Number.Decimal} (numeral : Numeral text d)
    (line : Int) : Lexed ⟨.number, String.ofList text, line, .number d.toNumber⟩ := by
  refine ⟨.number, ?_, ?_⟩
  · rw [String.toList_ofList]
    exact .number numeral
  · rw [String.toList_ofList]
    exact .number numeral

theorem Scans.lexed {before ahead : List Char} {result : Except ScanError (List Token)}
    (scans : Scans before ahead result) : ∀ tokens, result = .ok tokens →
      ∃ words, tokens = words ++ [Token.eof (lineAfter (before ++ ahead))] ∧
        ∀ word ∈ words, Lexed word := by
  induction scans with
  | finished before =>
    rintro _ ⟨⟩
    exact ⟨[], by simp, by simp⟩
  | skipped longest skips later ih => simpa using ih
  | @emitted before text rest rule kind payload result longest emits later ih =>
    intro tokens same
    cases result with
    | error e => cases same
    | ok rest' =>
      cases same
      obtain ⟨words, rfl, lexed⟩ := ih rest' rfl
      let word : Token := ⟨kind, String.ofList text, lineAfter (before ++ text), payload⟩
      refine ⟨word :: words, by simp [word], List.forall_mem_cons.2 ⟨⟨rule, ?_, ?_⟩, lexed⟩⟩
      · simpa [word] using longest.fits
      · simpa [word] using emits
  | stuck nothing => nofun

theorem lexed_or_eof_of_scan {source : String} {tokens : List Token}
    (scanned : scan source = .ok tokens) :
    ∀ token ∈ tokens, Lexed token ∨ ∃ line, token = Token.eof line := by
  obtain ⟨words, rfl, lexed⟩ := (scans_scan source).lexed tokens scanned
  intro token mem
  rcases List.mem_append.1 mem with word | ended
  · exact .inl (lexed token word)
  · exact .inr ⟨_, List.mem_singleton.1 ended⟩

theorem Scans.word {before rest : List Char} {word : Token} {tokens : List Token}
    (lexed : Lexed word) (stop : ∀ c ∈ rest.head?, c ∈ blanks)
    (later : Scans (before ++ word.lexeme.toList) rest (.ok tokens)) :
    Scans before (word.lexeme.toList ++ rest)
      (.ok ({ word with line := lineAfter (before ++ word.lexeme.toList) } :: tokens)) := by
  obtain ⟨rule, fits, emits⟩ := lexed
  have scans := Scans.emitted (fits.longest stop emits.not_skips) emits later
  rwa [String.ofList_toList] at scans

theorem StartsBlank.head? {gap rest : List Char} (h : StartsBlank gap) :
    ∀ c ∈ (gap ++ rest).head?, c ∈ blanks := by
  obtain ⟨c, first, mem⟩ := h
  cases gap with
  | nil => cases first
  | cons d gap =>
    cases first
    rintro _ ⟨⟩
    exact mem

theorem Spaced.scans {pieces : List (Token × List Char)} (spaced : Spaced pieces)
    (lexed : ∀ piece ∈ pieces, Lexed piece.1) (before : List Char) :
    Scans before (spread pieces) (.ok (placed before pieces)) := by
  induction spaced generalizing before with
  | @last word gap h =>
    refine Scans.word (lexed (word, gap) (by simp)) ?_ ?_
    · rcases h with rfl | ⟨starts, -⟩
      · simp [spread]
      · exact starts.head?
    · rw [spread, List.append_nil, placed]
      rcases h with rfl | ⟨-, last⟩
      · exact Scans.lastGap (.closed .empty)
      · exact Scans.lastGap last
  | @more word gap rest starts h later ih =>
    refine Scans.word (lexed (word, gap) (by simp)) starts.head? (Scans.gap h ?_)
    exact ih (fun piece mem => lexed piece (by simp [mem])) _

theorem Layout.scan_source (l : Layout) (lexed : ∀ word ∈ l.words, Lexed word) :
    scan l.source = .ok l.tokens := by
  have pieces : ∀ piece ∈ l.pieces, Lexed piece.1 :=
    fun piece mem => lexed _ (List.mem_map_of_mem mem)
  have scans : Scans [] l.source.toList (.ok l.tokens) := by
    rw [Layout.source, String.toList_ofList, Layout.tokens]
    rcases l.spaced with ⟨none, last⟩ | ⟨gap, spaced⟩
    · rw [none, spread, List.append_nil]
      exact Scans.lastGap last
    · exact Scans.gap gap (by simpa using spaced.scans pieces l.first)
  exact (scans_scan l.source).unique scans

end Lox.Lexical
