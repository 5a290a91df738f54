import Lox.Highlight
import Lox.Proofs.Lexical.Progress

set_option autoImplicit false

namespace Lox

namespace Scan

inductive Visits (source : String) : Cursor → Prop where
  | start : Visits source (.ofText source)
  | step {c d : Cursor} (visited : Visits source c) (more : c.ahead ≠ [])
      (scanned : c.beginLexeme.scanLexeme = .ok () d) : Visits source d

theorem Visits.scanAll {source : String} {c : Cursor} (h : Visits source c) :
    (Cursor.ofText source).scanAll = c.scanAll := by
  induction h with
  | start => rfl
  | step visited more scanned ih => rw [ih, Lexical.scanAll_of_ok more scanned]

end Scan

namespace Highlight

open Lexical Scan

inductive Group where
  | keyword | boolean | constant | number | string | identifier | operator | punctuation | comment
  deriving DecidableEq

def Group.style : Group → String
  | keyword => "bold ansicyan"
  | boolean | constant => "ansicyan"
  | number => "ansimagenta"
  | string => "ansigreen"
  | identifier | operator | punctuation => ""
  | comment => "italic ansigray"

def group? : Kind → Option Group
  | .kwTrue | .kwFalse => some .boolean
  | .kwNil => some .constant
  | .kwAnd | .kwClass | .kwElse | .kwFun | .kwFor | .kwIf | .kwOr | .kwPrint | .kwReturn
  | .kwSuper | .kwThis | .kwVar | .kwWhile => some .keyword
  | .number => some .number
  | .string => some .string
  | .identifier => some .identifier
  | .minus | .plus | .slash | .star | .bang | .bangEqual | .equal | .equalEqual | .greater
  | .greaterEqual | .less | .lessEqual => some .operator
  | .leftParen | .rightParen | .leftBrace | .rightBrace | .comma | .dot | .semicolon =>
    some .punctuation
  | .eof => none

theorem style_of_group? {kind : Kind} {group : Group} (grouped : group? kind = some group) :
    style kind = group.style := by
  cases kind <;> cases grouped <;> rfl

theorem exists_group {kind : Kind} (proper : kind ≠ .eof) : ∃ group, group? kind = some group := by
  cases kind with
  | eof => exact absurd rfl proper
  | _ => exact ⟨_, rfl⟩

def spaces : List Char :=
  [' ', '\t', '\r']

inductive Piece where
  | token (group : Group) (token : Token)
  | blank (text : List Char)
  | comment (text : List Char)

namespace Piece

def text : Piece → List Char
  | token _ t => t.lexeme.toList
  | blank text => text
  | comment text => text

def span : Piece → Span
  | token group t => ⟨group.style, t.lexeme.toList⟩
  | blank text => ⟨plain, text⟩
  | comment text => ⟨Group.comment.style, text⟩

def token? : Piece → Option Token
  | token _ t => some t
  | _ => none

end Piece

def width (pieces : List Piece) : Nat :=
  (pieces.flatMap Piece.text).length

inductive Laid (source : String) : List Piece → List Piece → Prop where
  | ended (front : List Piece) : Laid source front []
  | blank {front pieces : List Piece} {text : List Char} (some : text ≠ [])
      (only : ∀ c ∈ text, c ∈ spaces) (later : Laid source (front ++ [.blank text]) pieces) :
      Laid source front (.blank text :: pieces)
  | token {front pieces : List Piece} {group : Group} {token : Token} {c d : Cursor}
      (grouped : group? token.kind = some group) (visited : Visits source c)
      (before : c.tokens.toList = front.filterMap Piece.token?)
      (scanned : c.beginLexeme.scanLexeme = .ok () d) (added : d.tokens = c.tokens.push token)
      (place : d.start = width front)
      (later : Laid source (front ++ [.token group token]) pieces) :
      Laid source front (.token group token :: pieces)
  | comment {front : List Piece} {text : List Char} {c d : Cursor} (opens : ['/', '/'] <+: text)
      (visited : Visits source c) (ahead : c.ahead = text)
      (scanned : c.beginLexeme.scanLexeme = .ok () d)
      (skipped : d.tokens = c.tokens) (place : d.start = width front) :
      Laid source front [.comment text]

section Search

variable {first : Char} {more between rest : List Char}

theorem cut?_behind (apart : first ∉ between) :
    cut? (first :: more) (between ++ (first :: more ++ rest)) = some (between, rest) := by
  induction between with
  | nil =>
    have begins : (first :: more).isPrefixOf (first :: (more ++ rest)) = true :=
      List.isPrefixOf_iff_prefix.2 (List.prefix_append (first :: more) rest)
    simp [cut?, begins]
  | cons c between ih =>
    rw [List.mem_cons, not_or] at apart
    have other :
        (first :: more).isPrefixOf (c :: (between ++ (first :: more ++ rest))) = false := by
      simp [List.isPrefixOf, apart.1]
    rw [List.cons_append, cut?, other, ih apart.2]
    rfl

theorem cut?_eq_none (apart : first ∉ between) : cut? (first :: more) between = none := by
  induction between with
  | nil => rfl
  | cons c between ih =>
    rw [List.mem_cons, not_or] at apart
    have other : (first :: more).isPrefixOf (c :: between) = false := by
      simp [List.isPrefixOf, apart.1]
    rw [cut?, other, ih apart.2]
    rfl

theorem trailing_blank (apart : '/' ∉ between) : trailing between = gap between := by
  rw [trailing, cut?_eq_none apart]

theorem trailing_comment (apart : '/' ∉ between) :
    trailing (between ++ '/' :: '/' :: rest) =
      gap between ++ [⟨commentStyle, '/' :: '/' :: rest⟩] := by
  have found : cut? ['/', '/'] (between ++ '/' :: '/' :: rest) = some (between, rest) :=
    cut?_behind apart
  rw [trailing, found]

theorem spans_eof (line : Int) (text : List Char) :
    spans [Token.eof line] text = trailing text := by
  rw [spans]
  rfl

theorem spans_token {token : Token} {tokens : List Token} (proper : token.kind ≠ .eof)
    (lexeme : token.lexeme.toList = first :: more) (apart : first ∉ between) :
    spans (token :: tokens) (between ++ (first :: more ++ rest)) =
      gap between ++ ⟨style token.kind, first :: more⟩ :: spans tokens rest := by
  rw [spans]
  simp only [lexeme, cut?_behind apart]
  simp [proper]

end Search

theorem mem_spaces {c : Char} (mem : c ∈ blanks) (inLine : c ≠ '\n') : c ∈ spaces := by
  have all : (blanks.all fun c => c == '\n' || spaces.contains c) = true := by decide
  simpa [inLine] using List.all_eq_true.1 all c mem

theorem exists_first {rule : Rule} {text : List Char} (fits : rule.Fits text)
    (shown : rule ≠ .blank) : ∃ first more, text = first :: more ∧ first ∉ spaces := by
  obtain ⟨first, more, rfl, opens⟩ := fits.opens
  refine ⟨first, more, rfl, fun mem => ?_⟩
  have blank : spaces.all Opening.blank.has = true := by decide
  have same : rule.opening = Rule.blank.opening :=
    Opening.eq_of_has opens (List.all_eq_true.1 blank first mem)
  exact shown (Rule.eq_of_opening same (by decide))

def gapPieces (text : List Char) : List Piece :=
  if text.isEmpty then [] else [.blank text]

section Gap

variable {source : String} {front pieces : List Piece} {text : List Char}

theorem map_span_gapPieces (text : List Char) : (gapPieces text).map Piece.span = gap text := by
  cases text <;> rfl

theorem text_gapPieces (text : List Char) : (gapPieces text).flatMap Piece.text = text := by
  cases text <;> simp [gapPieces, Piece.text]

theorem filterMap_token?_gapPieces (text : List Char) :
    (gapPieces text).filterMap Piece.token? = [] := by
  cases text <;> rfl

theorem width_append (front pieces : List Piece) :
    width (front ++ pieces) = width front + width pieces := by
  simp [width]

theorem width_gapPieces (text : List Char) : width (gapPieces text) = text.length := by
  rw [width, text_gapPieces]

theorem Laid.gap (only : ∀ c ∈ text, c ∈ spaces)
    (later : Laid source (front ++ gapPieces text) pieces) :
    Laid source front (gapPieces text ++ pieces) := by
  cases text with
  | nil => simpa [gapPieces] using later
  | cons c text => exact .blank (by simp) only later

theorem Laid.kind_ne_eof (h : Laid source front pieces) :
    ∀ token ∈ pieces.filterMap Piece.token?, token.kind ≠ .eof := by
  induction h with
  | ended | comment => simp [Piece.token?]
  | blank some only later ih => simpa [Piece.token?] using ih
  | token grouped visited before scanned added place later ih =>
    refine List.forall_mem_cons.2 ⟨fun last => ?_, ih⟩
    rw [last] at grouped
    cases grouped

end Gap

structure Stands (source : String) (front : List Piece) (between : List Char) (c : Cursor) :
    Prop where
  visited : Visits source c
  pos : c.pos = width front + between.length
  tokens : c.tokens.toList = front.filterMap Piece.token?
  only : ∀ c ∈ between, c ∈ spaces

structure Shows (source : String) (front : List Piece) (text : List Char) (words : List Token)
    (pieces : List Piece) : Prop where
  spans (line : Int) : spans (words ++ [Token.eof line]) text = pieces.map Piece.span
  text : pieces.flatMap Piece.text = text
  words : pieces.filterMap Piece.token? = words
  laid : Laid source front pieces

section Line

variable {source : String} {front pieces : List Piece} {between text rest : List Char}
  {words : List Token} {c d : Cursor}

theorem start_of_scanned (more : c.ahead ≠ []) (scanned : c.beginLexeme.scanLexeme = .ok () d) :
    d.start = c.pos := by
  have onward : Onward c.beginLexeme c.beginLexeme.scanLexeme.cursor := .scanLexeme more
  rw [scanned] at onward
  exact onward.start

theorem tokens_eq_push {token : Token} (passed : Advances c d text [token]) :
    d.tokens = c.tokens.push token :=
  Array.toList_inj.1 (by simpa using passed.tokens)

namespace Stands

theorem place (h : Stands source front between c) (more : c.ahead ≠ [])
    (scanned : c.beginLexeme.scanLexeme = .ok () d) :
    d.start = width (front ++ gapPieces between) := by
  rw [start_of_scanned more scanned, h.pos, width_append, width_gapPieces]

theorem seen (h : Stands source front between c) :
    c.tokens.toList = (front ++ gapPieces between).filterMap Piece.token? := by
  rw [List.filterMap_append, filterMap_token?_gapPieces, List.append_nil, h.tokens]

theorem notMem {first : Char} (h : Stands source front between c) (apart : first ∉ spaces) :
    first ∉ between :=
  fun mem => apart (h.only first mem)

theorem blank {first : Char} (h : Stands source front between c) (more : c.ahead ≠ [])
    (scanned : c.beginLexeme.scanLexeme = .ok () d) (passed : Advances c d [first] [])
    (space : first ∈ spaces) : Stands source front (between ++ [first]) d where
  visited := h.visited.step more scanned
  pos := by
    rw [passed.pos, h.pos, List.length_append, Nat.add_assoc]
  tokens := by
    rw [passed.tokens, List.append_nil, h.tokens]
  only := by
    simpa [or_imp, forall_and] using And.intro h.only space

theorem token {token : Token} (h : Stands source front between c) (more : c.ahead ≠ [])
    (scanned : c.beginLexeme.scanLexeme = .ok () d) (passed : Advances c d text [token])
    (lexeme : token.lexeme.toList = text) (group : Group) :
    Stands source (front ++ gapPieces between ++ [.token group token]) [] d where
  visited := h.visited.step more scanned
  pos := by
    rw [passed.pos, h.pos, width_append, width_append, width_gapPieces]
    simp [width, Piece.text, lexeme]
  tokens := by
    rw [passed.tokens, List.filterMap_append, h.seen]
    rfl
  only := by simp

end Stands

theorem shows_gap (stands : Stands source front between c) :
    Shows source front between [] (gapPieces between) where
  spans line := by
    rw [List.nil_append, spans_eof, trailing_blank (stands.notMem (by decide)),
      map_span_gapPieces]
  text := text_gapPieces between
  words := filterMap_token?_gapPieces between
  laid := by
    have laid : Laid source front (gapPieces between ++ []) := .gap stands.only (.ended _)
    rwa [List.append_nil] at laid

theorem shows_comment {body : List Char} (stands : Stands source front between c)
    (ahead : c.ahead = '/' :: '/' :: body) (scanned : c.beginLexeme.scanLexeme = .ok () d)
    (skipped : d.tokens = c.tokens) :
    Shows source front (between ++ '/' :: '/' :: body) []
      (gapPieces between ++ [.comment ('/' :: '/' :: body)]) where
  spans line := by
    rw [List.nil_append, spans_eof, trailing_comment (stands.notMem (by decide)), List.map_append,
      map_span_gapPieces]
    rfl
  text := by
    rw [List.flatMap_append, text_gapPieces]
    simp [Piece.text]
  words := by
    rw [List.filterMap_append, filterMap_token?_gapPieces]
    rfl
  laid := by
    have more : c.ahead ≠ [] := by simp [ahead]
    exact .gap stands.only
      (.comment ⟨body, rfl⟩ stands.visited ahead scanned skipped (stands.place more scanned))

theorem Shows.token {group : Group} {token : Token} {first : Char} {more : List Char}
    (stands : Stands source front between c) (ahead : c.ahead ≠ [])
    (scanned : c.beginLexeme.scanLexeme = .ok () d) (added : d.tokens = c.tokens.push token)
    (grouped : group? token.kind = some group) (proper : token.kind ≠ .eof)
    (lexeme : token.lexeme.toList = first :: more) (apart : first ∉ spaces)
    (later : Shows source (front ++ gapPieces between ++ [.token group token]) rest words pieces) :
    Shows source front (between ++ (first :: more ++ rest)) (token :: words)
      (gapPieces between ++ .token group token :: pieces) where
  spans line := by
    rw [List.cons_append, spans_token proper lexeme (stands.notMem apart), later.spans,
      style_of_group? grouped, List.map_append, map_span_gapPieces, List.map_cons, Piece.span,
      lexeme]
  text := by
    rw [List.flatMap_append, text_gapPieces, List.flatMap_cons, later.text, Piece.text, lexeme]
  words := by
    rw [List.filterMap_append, filterMap_token?_gapPieces, List.filterMap_cons]
    simp [Piece.token?, later.words]
  laid := .gap stands.only
    (.token grouped stands.visited stands.seen scanned added (stands.place ahead scanned)
      later.laid)

theorem exists_shows {before cut : List Char} (cuts : Cuts before cut rest words)
    (whole : rest = []) (inLine : '\n' ∉ cut) (ahead : c.ahead = cut)
    (line : c.line = lineAfter before) (stands : Stands source front between c) :
    ∃ pieces, Shows source front (between ++ cut) words pieces := by
  -- The gap grows with every blank and is empty again behind a lexeme.
  induction cuts generalizing c front between with
  | done => exact ⟨_, by simpa using shows_gap stands⟩
  | @skipped before text cut rest rule tokens longest skips later ih =>
    subst whole
    rw [List.append_nil] at longest
    obtain ⟨d, scanned, passed⟩ := exists_step_skipped (ahead.symm ▸ longest) skips
    have behind : d.ahead = cut := passed.ahead_eq ahead
    have line' := passed.line_eq line
    have more : c.ahead ≠ [] := ahead ▸ longest.ne_nil
    have fits := longest.fits
    rcases skips with rfl | rfl
    · cases fits with
      | @blank first mem =>
        have space := mem_spaces mem fun newline => inLine (by simp [newline])
        obtain ⟨pieces, shows⟩ := ih rfl (fun mem => inLine (by simp [mem])) behind line'
          (stands.blank more scanned passed space)
        exact ⟨pieces, by simpa using shows⟩
    · obtain rfl := rest_eq_nil_of_comment longest inLine
      obtain rfl := later.tokens_eq_nil rfl
      cases fits with
      | @comment body =>
        rw [List.append_nil] at ahead ⊢
        have skipped : d.tokens = c.tokens := Array.toList_inj.1 (by simpa using passed.tokens)
        exact ⟨_, shows_comment stands ahead scanned skipped⟩
  | @emitted before text cut rest rule kind payload tokens longest emits later ih =>
    subst whole
    rw [List.append_nil] at longest
    obtain ⟨d, scanned, passed⟩ := exists_step_emitted (ahead.symm ▸ longest) emits line
    have behind : d.ahead = cut := passed.ahead_eq ahead
    have line' := passed.line_eq line
    have more : c.ahead ≠ [] := ahead ▸ longest.ne_nil
    have proper := kind_ne_eof_of_emits longest.fits emits
    obtain ⟨group, grouped⟩ := exists_group proper
    obtain ⟨first, tail, rfl, apart⟩ := exists_first longest.fits fun blank =>
      emits.not_skips (.inl blank)
    obtain ⟨pieces, shows⟩ := ih rfl (fun mem => inLine (by simp [mem])) behind line'
      (stands.token more scanned passed String.toList_ofList group)
    exact ⟨_, .token stands more scanned (tokens_eq_push passed) grouped proper
      String.toList_ofList apart (by simpa using shows)⟩

end Line

theorem line_laid {text : List Char} {tokens : List Token} (nonempty : text ≠ [])
    (inLine : '\n' ∉ text) (scanned : scan (String.ofList text) = .ok tokens) :
    ∃ pieces : List Piece, line text = pieces.map Piece.span ∧
      pieces.flatMap Piece.text = text ∧
      pieces.filterMap Piece.token? = tokens.filter (·.kind ≠ .eof) ∧
      Laid (String.ofList text) [] pieces := by
  have source : (String.ofList text).toList = text := String.toList_ofList
  obtain ⟨words, rfl, cuts⟩ := (scans_scan (String.ofList text)).cuts_of_ok tokens scanned
  rw [source] at cuts
  have stands : Stands (String.ofList text) [] [] (.ofText (String.ofList text)) :=
    ⟨.start, rfl, rfl, by simp⟩
  obtain ⟨pieces, shows⟩ := exists_shows cuts rfl inLine source rfl stands
  rw [List.nil_append] at shows
  refine ⟨pieces, ?_, shows.text, ?_, shows.laid⟩
  · have some : pieces.map Piece.span ≠ [] := by
      rintro none
      rw [List.map_eq_nil_iff] at none
      exact nonempty (shows.text.symm.trans (by rw [none]; rfl))
    rw [line, scanned]
    simp only [shows.spans]
  · have proper := shows.laid.kind_ne_eof
    rw [shows.words] at proper ⊢
    have kept : words.filter (·.kind ≠ .eof) = words :=
      List.filter_eq_self.2 (by simpa using proper)
    rw [List.filter_append, kept]
    exact (List.append_nil words).symm

-- Slashes in a string, and a comment right behind it that holds the first lexeme again.
def quotedSlashes : List Char :=
  ['-', '"', '/', '/', '"', '/', '/', '-']

theorem line_laid_quotedSlashes :
    quotedSlashes ≠ [] ∧ '\n' ∉ quotedSlashes ∧ scan (String.ofList quotedSlashes) = .ok
        [⟨.minus, "-", 1, .absent⟩, ⟨.string, "\"//\"", 1, .text "//"⟩, Token.eof 1] ∧
      ∃ pieces : List Piece, line quotedSlashes = pieces.map Piece.span ∧
        pieces.flatMap Piece.text = quotedSlashes ∧
        pieces.filterMap Piece.token? =
          [⟨.minus, "-", 1, .absent⟩, ⟨.string, "\"//\"", 1, .text "//"⟩] ∧
        Laid (String.ofList quotedSlashes) [] pieces := by
  have minus : Longest (.fixed .minus) ['-'] quotedSlashes := longest_single rfl
  have closes : ['/', '/', '"', '/', '/', '-'].dropWhile (· != '"') = ['"', '/', '/', '-'] := rfl
  have string : Longest .string ['"', '/', '/', '"'] ['"', '/', '/', '"', '/', '/', '-'] :=
    longest_string closes
  have comment : Longest .comment ['/', '/', '-'] ['/', '/', '-'] := @longest_comment ['-']
  have emits : Rule.string.Emits ['"', '/', '/', '"'] .string (.text "//") :=
    @Rule.Emits.string ['/', '/']
  have ended : Scans ['-', '"', '/', '/', '"'] ['/', '/', '-'] (.ok [Token.eof 1]) :=
    .skipped comment (.inr rfl) (.finished quotedSlashes)
  have behind : Scans ['-'] (['"', '/', '/', '"'] ++ ['/', '/', '-']) _ :=
    .emitted string emits ended
  have scans : Scans [] (['-'] ++ _) _ := .emitted minus .fixed behind
  have scanned : scan (String.ofList quotedSlashes) = .ok
      [⟨.minus, "-", 1, .absent⟩, ⟨.string, "\"//\"", 1, .text "//"⟩, Token.eof 1] := by
    rw [scan_eq_iff, String.toList_ofList]
    exact scans
  have some : quotedSlashes ≠ [] := by decide
  have inLine : '\n' ∉ quotedSlashes := by decide
  exact ⟨some, inLine, scanned, line_laid some inLine scanned⟩

end Highlight

end Lox
