set_option autoImplicit false

namespace Lox.Text

-- Makes every carriage return, together with a newline that follows it, one newline.
def unifyNewlines : List Char → List Char
  | [] => []
  | '\r' :: '\n' :: rest => '\n' :: unifyNewlines rest
  | '\r' :: rest => '\n' :: unifyNewlines rest
  | c :: rest => c :: unifyNewlines rest

def lines : List Char → List (List Char)
  | [] => [[]]
  | c :: rest =>
    if c = '\n' then [] :: lines rest
    else match lines rest with
      | [] => [[c]]
      | first :: others => (c :: first) :: others

theorem lines_ne_nil (text : List Char) : lines text ≠ [] := by
  cases text with
  | nil => simp [lines]
  | cons c rest =>
    simp only [lines]
    split
    · simp
    · split <;> simp

theorem newline_or_mem_lines {text : List Char} {c : Char} (mem : c ∈ text) :
    c = '\n' ∨ ∃ line ∈ lines text, c ∈ line := by
  induction text with
  | nil => cases mem
  | cons d text ih =>
    by_cases newline : d = '\n'
    · simp only [lines, if_pos newline]
      rcases List.mem_cons.1 mem with rfl | mem
      · exact .inl newline
      · exact (ih mem).imp_right fun ⟨line, known, mem⟩ => ⟨line, List.mem_cons_of_mem _ known, mem⟩
    · obtain ⟨first, others, split⟩ := List.exists_cons_of_ne_nil (lines_ne_nil text)
      simp only [lines, if_neg newline, split]
      rcases List.mem_cons.1 mem with rfl | mem
      · exact .inr ⟨c :: first, by simp, by simp⟩
      · rw [split] at ih
        rcases ih mem with rfl | ⟨line, known, mem⟩
        · exact .inl rfl
        rcases List.mem_cons.1 known with rfl | known
        · exact .inr ⟨d :: line, by simp, by simp [mem]⟩
        · exact .inr ⟨line, by simp [known], mem⟩

theorem lines_of_newline_notMem {line : List Char} (inLine : '\n' ∉ line) : lines line = [line] := by
  induction line with
  | nil => rfl
  | cons c line ih =>
    rw [List.mem_cons, not_or] at inLine
    simp only [lines, if_neg (Ne.symm inLine.1), ih inLine.2]

theorem lines_append_newline {line : List Char} (inLine : '\n' ∉ line) (rest : List Char) :
    lines (line ++ '\n' :: rest) = line :: lines rest := by
  induction line with
  | nil => simp [lines]
  | cons c line ih =>
    rw [List.mem_cons, not_or] at inLine
    simp only [List.cons_append, lines, if_neg (Ne.symm inLine.1), ih inLine.2]

theorem intercalate_lines (text : List Char) : ['\n'].intercalate (lines text) = text := by
  induction text with
  | nil => rfl
  | cons c text ih =>
    obtain ⟨first, others, split⟩ := List.exists_cons_of_ne_nil (lines_ne_nil text)
    rw [split] at ih
    by_cases newline : c = '\n'
    · rw [lines, if_pos newline, split, List.intercalate_cons_cons, ih, newline]
      rfl
    · simp only [lines, if_neg newline, split]
      -- A first line that gets longer moves the lines behind it.
      cases others with
      | nil =>
        rw [List.intercalate_singleton] at ih ⊢
        rw [ih]
      | cons next others =>
        rw [List.intercalate_cons_cons] at ih ⊢
        rw [List.cons_append, List.cons_append, ih]

theorem lines_intercalate {rows : List (List Char)} (some : rows ≠ [])
    (inLine : ∀ row ∈ rows, '\n' ∉ row) : lines (['\n'].intercalate rows) = rows := by
  induction rows with
  | nil => exact absurd rfl some
  | cons row rows ih =>
    obtain ⟨first, later⟩ := List.forall_mem_cons.1 inLine
    cases rows with
    | nil => rw [List.intercalate_singleton, lines_of_newline_notMem first]
    | cons next rows =>
      rw [List.intercalate_cons_cons, List.append_assoc, List.singleton_append,
        lines_append_newline first, ih (by simp) later]

end Lox.Text
