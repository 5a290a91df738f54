import Lox.Highlight

set_option autoImplicit false

namespace Lox.Highlight

def shown (pieces : List Span) : List Char :=
  pieces.flatMap Span.text

theorem append_of_cut? {pattern text before behind : List Char}
    (found : cut? pattern text = some (before, behind)) : before ++ (pattern ++ behind) = text := by
  induction text generalizing before with
  | nil =>
    simp only [cut?] at found
    split at found
    · next empty =>
      cases found
      simpa using empty
    · cases found
  | cons c text ih =>
    simp only [cut?] at found
    split at found
    · next begins =>
      cases found
      obtain ⟨behind, same⟩ := List.isPrefixOf_iff_prefix.1 begins
      rw [← same, List.drop_left, List.nil_append]
    · obtain ⟨⟨before, behind⟩, later, same⟩ := Option.map_eq_some_iff.1 found
      cases same
      rw [List.cons_append, ih later]

section Pieces

variable (text : List Char)

theorem shown_gap : shown (gap text) = text := by
  cases text <;> simp [gap, shown]

theorem shown_trailing : shown (trailing text) = text := by
  unfold trailing
  split
  · exact shown_gap text
  · next before behind found =>
    have whole : before ++ '/' :: '/' :: behind = text := append_of_cut? found
    rw [shown, List.flatMap_append, ← shown, shown_gap, ← whole]
    simp

theorem shown_spans (tokens : List Token) : shown (spans tokens text) = text := by
  -- A lexeme that is not found is passed over, and the text in front of the next one grows.
  induction tokens generalizing text with
  | nil => exact shown_trailing text
  | cons token tokens ih =>
    simp only [spans]
    split
    · exact ih text
    · split
      · exact ih text
      · next before behind found =>
        have rest := ih behind
        rw [shown] at rest
        rw [shown, List.flatMap_append, List.flatMap_cons, rest, ← shown, shown_gap,
          append_of_cut? found]

theorem shown_line : shown (line text) = text := by
  unfold line
  split
  · simp [shown]
  · next tokens scanned =>
    have whole := shown_spans text tokens
    split
    · simp [shown]
    · exact whole

end Pieces

namespace Document

def Faithful (d : Document) : Prop :=
  ∀ number pieces, d.kept.lookup number = some pieces → numbered? d.rows number = some pieces

theorem faithful_ofText (text : List Char) : (ofText text).Faithful := by
  intro number pieces kept
  cases kept

theorem request_eq {d : Document} (faithful : d.Faithful) (number : Int) :
    (d.request number).1 = numbered? d.rows number := by
  unfold request
  split
  · next pieces kept => exact (faithful number pieces kept).symm
  · split
    · next pieces found => exact found.symm
    · next refused => exact refused.symm

theorem rows_request (d : Document) (number : Int) : (d.request number).2.rows = d.rows := by
  unfold request
  split
  · rfl
  · split <;> rfl

theorem faithful_request {d : Document} (faithful : d.Faithful) (number : Int) :
    (d.request number).2.Faithful := by
  unfold request
  split
  · exact faithful
  · split
    · next fresh pieces found =>
      intro other known kept
      by_cases same : other = number
      · subst same
        simp only [List.lookup_cons_self, Option.some.injEq] at kept
        exact kept ▸ found
      · rw [List.lookup_cons, beq_false_of_ne same] at kept
        exact faithful other known kept
    · exact faithful

theorem answers_eq {d : Document} (faithful : d.Faithful) (asked : List Int) :
    d.answers asked = asked.map (numbered? d.rows) := by
  induction asked generalizing d with
  | nil => rfl
  | cons number rest ih =>
    have later := ih (faithful_request faithful number)
    rw [rows_request] at later
    rw [answers, later, request_eq faithful, List.map_cons]

theorem answers_ofText (text : List Char) (asked : List Int) :
    (ofText text).answers asked = asked.map (numbered? (Text.lines text)) :=
  answers_eq (faithful_ofText text) asked

end Document

theorem numbered?_row {rows : List (List Char)} {n : Nat} {row : List Char}
    (found : rows[n]? = some row) : numbered? rows n = some (line row) := by
  simp [numbered?, found]

theorem numbered?_past {rows : List (List Char)} {n : Nat} (past : rows.length ≤ n) :
    numbered? rows n = some [⟨plain, []⟩] := by
  simp [numbered?, List.getElem?_eq_none past]

theorem intercalate_shown {text : List Char} {shows : List (List Span)}
    (all : shows.length = (Text.lines text).length)
    (each : ∀ (n : Nat) (pieces : List Span), shows[n]? = some pieces →
      numbered? (Text.lines text) n = some pieces) :
    ['\n'].intercalate (shows.map shown) = text := by
  have rows : shows.map shown = Text.lines text := by
    apply List.ext_getElem
    · simpa using all
    · intro n within below
      rw [List.length_map] at within
      have row := numbered?_row (List.getElem?_eq_getElem below)
      have same := each n _ (List.getElem?_eq_getElem within)
      rw [row, Option.some.injEq] at same
      rw [List.getElem_map, ← same, shown_line]
  rw [rows, Text.intercalate_lines]

theorem highlighting_shows_text (text : List Char) :
    shown (line text) = text ∧
    ∀ asked : List Int, ((Document.ofText text).answers asked).length = asked.length ∧
      (∀ (i n : Nat) (row : List Char), asked[i]? = some (n : Int) →
        (Text.lines text)[n]? = some row →
        ((Document.ofText text).answers asked)[i]? = some (some (line row))) ∧
      (∀ i n : Nat, asked[i]? = some (n : Int) → (Text.lines text).length ≤ n →
        ((Document.ofText text).answers asked)[i]? = some (some [⟨plain, []⟩])) ∧
      ∀ shows : List (List Span), shows.length = (Text.lines text).length →
        (∀ (n : Nat) (pieces : List Span), shows[n]? = some pieces →
          ((n : Int), some pieces) ∈ asked.zip ((Document.ofText text).answers asked)) →
        ['\n'].intercalate (shows.map shown) = text := by
  refine ⟨shown_line text, fun asked => ?_⟩
  rw [Document.answers_ofText]
  refine ⟨List.length_map _, fun i n row at' found => ?_, fun i n at' past => ?_,
    fun shows all each => intercalate_shown all fun n pieces at' => ?_⟩
  · rw [List.getElem?_map, at', Option.map_some, numbered?_row found]
  · rw [List.getElem?_map, at', Option.map_some, numbered?_past past]
  · have answered := each n pieces at'
    rw [← List.map_prod_left_eq_zip, List.mem_map] at answered
    obtain ⟨number, -, same⟩ := answered
    obtain ⟨rfl, answer⟩ := Prod.mk.inj same
    exact answer

-- A text whose second line does not scan, its lines asked for out of order and with repetitions.
def openQuote : List Char :=
  ['1', '\n', '"']

theorem highlighting_shows_text_openQuote :
    (Text.lines openQuote).length = 2 ∧
      ((Document.ofText openQuote).answers [1, -7, 0, 2, 1])[4]? = some (some (line ['"'])) ∧
      ((Document.ofText openQuote).answers [1, -7, 0, 2, 1])[3]? = some (some [⟨plain, []⟩]) ∧
      ['\n'].intercalate ([line ['1'], line ['"']].map shown) = openQuote := by
  obtain ⟨-, inside, past, joined⟩ :=
    (highlighting_shows_text openQuote).2 [1, -7, 0, 2, 1]
  refine ⟨rfl, inside 4 1 ['"'] rfl rfl, past 3 2 rfl (Nat.le_refl 2),
    joined [line ['1'], line ['"']] rfl fun n pieces at' => ?_⟩
  have answers : (Document.ofText openQuote).answers [1, -7, 0, 2, 1] =
      [some (line ['"']), none, some (line ['1']), some [⟨plain, []⟩], some (line ['"'])] := rfl
  rw [answers]
  match n with
  | 0 =>
    cases at'
    simp
  | 1 =>
    cases at'
    simp
  | n + 2 => cases at'

end Lox.Highlight
