import Lox.Proofs.Text.Inspection
import Lox.Text.Quoted
import Mathlib.Algebra.Ring.Parity

set_option autoImplicit false

namespace Lox.Text

def shortForms : List (Char × Char) :=
  [('n', '\n'), ('r', '\r'), ('t', '\t'), ('0', '\x00')]

def unescape : List Char → List Char
  | '\\' :: 'u' :: '{' :: rest =>
    Char.ofNat (ofHex (rest.takeWhile (· != '}'))) ::
      unescape ((rest.dropWhile (· != '}')).drop 1)
  | '\\' :: letter :: rest => (shortForms.lookup letter).getD letter :: unescape rest
  | c :: rest => c :: unescape rest
  | [] => []
termination_by text => text.length
decreasing_by
  · have shorter := (List.dropWhile_suffix (l := rest) (· != '}')).length_le
    simp only [List.length_drop, List.length_cons]
    omega
  · simp only [List.length_cons]
    omega
  · simp

def unquote (text : String) : String :=
  String.ofList (unescape (text.toList.drop 1).dropLast)

inductive Escape (c : Char) : List Char → Prop where
  | same (special : c = '\\' ∨ c = '"') : Escape c ['\\', c]
  | short {letter : Char} (known : (letter, c) ∈ shortForms) : Escape c ['\\', letter]
  | coded (control : isControl c = true) :
      Escape c (['\\', 'u', '{'] ++ Nat.toDigits 16 c.toNat ++ ['}'])
  | itself (noSlash : c ≠ '\\') (noQuote : c ≠ '"') (shown : isControl c = false) : Escape c [c]

theorem escape_escape (c : Char) : Escape c (escape c) := by
  rw [escape]
  split
  · next slash =>
    subst slash
    exact .same (.inl rfl)
  next noSlash =>
  split
  · next quote =>
    subst quote
    exact .same (.inr rfl)
  next noQuote =>
  split
  · next newline => exact .short (by simp [newline, shortForms])
  split
  · next carriage => exact .short (by simp [carriage, shortForms])
  split
  · next tab => exact .short (by simp [tab, shortForms])
  split
  · next null => exact .short (by simp [null, shortForms])
  split
  · next control => exact .coded control
  · next shown => exact .itself noSlash noQuote (by simpa using shown)

def slashRun (text : List Char) : Nat :=
  (text.reverse.takeWhile (· == '\\')).length

theorem slashRun_append (before after : List Char) :
    slashRun (before ++ after) =
      if slashRun after = after.length then slashRun before + after.length else slashRun after := by
  rw [slashRun, List.reverse_append, List.takeWhile_append, List.length_reverse, slashRun, slashRun]
  split
  · rw [List.length_append, List.length_reverse, Nat.add_comm]
  · rfl

theorem slashRun_concat {c : Char} (other : c ≠ '\\') (before : List Char) :
    slashRun (before ++ [c]) = 0 := by
  simp [slashRun, other]

theorem unescape_letter {letter : Char} (noCode : letter ≠ 'u') (rest : List Char) :
    unescape ('\\' :: letter :: rest) =
      (shortForms.lookup letter).getD letter :: unescape rest := by
  rw [unescape]
  simp [noCode]

namespace Escape

variable {c : Char} {code : List Char}

theorem unescape_append (h : Escape c code) (rest : List Char) :
    unescape (code ++ rest) = c :: unescape rest := by
  cases h with
  | same special => rcases special with rfl | rfl <;> exact unescape_letter (by decide) rest
  | short known =>
    have letters : ∀ form ∈ shortForms, form.1 ≠ 'u' ∧
        (shortForms.lookup form.1).getD form.1 = form.2 := by
      decide
    obtain ⟨noCode, means⟩ := letters _ known
    have read := unescape_letter noCode rest
    rwa [means] at read
  | coded control =>
    have closing : ('}' != '}') = false := rfl
    have digits : ∀ d ∈ Nat.toDigits 16 c.toNat, (d != '}') = true := by
      have apart : hexDigits.all (· != '}') = true := by decide
      exact fun d mem => List.all_eq_true.1 apart d ((toDigits_sixteen c.toNat).1 d mem)
    have text : ['\\', 'u', '{'] ++ Nat.toDigits 16 c.toNat ++ ['}'] ++ rest =
        '\\' :: 'u' :: '{' :: (Nat.toDigits 16 c.toNat ++ '}' :: rest) := by
      simp
    rw [text, unescape, List.takeWhile_append_of_pos digits, List.dropWhile_append_of_pos digits,
      List.takeWhile_cons, List.dropWhile_cons, closing]
    simp [(toDigits_sixteen c.toNat).2]
  | itself noSlash =>
    rw [List.singleton_append, unescape]
    all_goals simp_all

theorem isControl (h : Escape c code) : ∀ d ∈ code, Text.isControl d = false := by
  cases h with
  | same special =>
    have marks : Text.isControl '\\' = false ∧ Text.isControl '"' = false := by decide
    rcases special with rfl | rfl <;> simp [marks]
  | short known =>
    have letters : (shortForms.all fun form => !Text.isControl form.1) = true := by decide
    have slash : Text.isControl '\\' = false := by decide
    simpa [slash] using List.all_eq_true.1 letters _ known
  | coded control =>
    have marks : (['\\', 'u', '{', '}'].all fun d => !Text.isControl d) = true := by decide
    have digits : (hexDigits.all fun d => !Text.isControl d) = true := by decide
    intro d mem
    rcases List.mem_append.1 mem with mem | closing
    · rcases List.mem_append.1 mem with mark | digit
      · simpa using List.all_eq_true.1 marks d (List.mem_append_left ['}'] mark)
      · simpa using List.all_eq_true.1 digits d ((toDigits_sixteen c.toNat).1 d digit)
    · simpa using List.all_eq_true.1 marks d (List.mem_append_right ['\\', 'u', '{'] closing)
  | itself noSlash noQuote shown => simpa using shown

theorem even_slashRun (h : Escape c code) : Even (slashRun code) := by
  cases h with
  | same special => rcases special with rfl | rfl <;> decide
  | short known =>
    have letters : ∀ form ∈ shortForms, Even (slashRun ['\\', form.1]) := by decide
    exact letters _ known
  | coded control =>
    rw [slashRun_concat (by decide)]
    exact Even.zero
  | itself noSlash =>
    have none : slashRun ([] ++ [c]) = 0 := slashRun_concat noSlash []
    rw [List.nil_append] at none
    rw [none]
    exact Even.zero

theorem odd_slashRun {before after : List Char} (h : Escape c code)
    (quoted : code = before ++ '"' :: after) : Odd (slashRun before) := by
  have mem : '"' ∈ code := by simp [quoted]
  cases h with
  | same special =>
    -- The first of the two characters is the backslash.
    cases before with
    | nil => cases quoted
    | cons d before =>
      obtain ⟨rfl, behind⟩ := List.cons.inj quoted
      cases before with
      | nil => decide
      | cons d before =>
        have none := (List.cons.inj behind).2
        simp at none
  | short known =>
    have letters : ∀ form ∈ shortForms, '"' ∉ ['\\', form.1] := by decide
    exact absurd mem (letters _ known)
  | coded control =>
    have marks : '"' ∉ ['\\', 'u', '{', '}'] := by decide
    have digits : '"' ∉ hexDigits := by decide
    rcases List.mem_append.1 mem with mem | closing
    · rcases List.mem_append.1 mem with mark | digit
      · exact absurd (List.mem_append_left ['}'] mark) marks
      · exact absurd ((toDigits_sixteen c.toNat).1 _ digit) digits
    · exact absurd (List.mem_append_right ['\\', 'u', '{'] closing) marks
  | itself noSlash noQuote => exact absurd (List.mem_singleton.1 mem).symm noQuote

end Escape

theorem unescape_escapeAll (text : List Char) : unescape (escapeAll text) = text := by
  induction text with
  | nil => rw [escapeAll_nil, unescape]
  | cons c rest ih => rw [escapeAll_cons, (escape_escape c).unescape_append, ih]

theorem unquote_quote (text : String) : unquote (quote text) = text := by
  rw [unquote, toList_quote, List.cons_append, List.drop_one, List.tail_cons,
    List.dropLast_concat, unescape_escapeAll, String.ofList_toList]

theorem isControl_of_mem_quote (text : String) :
    ∀ c ∈ (quote text).toList, isControl c = false := by
  have mark : isControl '"' = false := by decide
  intro c mem
  simp only [toList_quote, escapeAll, List.cons_append, List.mem_cons, List.mem_append,
    List.mem_flatMap, List.not_mem_nil, or_false] at mem
  rcases mem with rfl | ⟨d, -, mem⟩ | rfl
  · exact mark
  · exact (escape_escape d).isControl c mem
  · exact mark

theorem odd_slashRun_of_escapeAll {text before after : List Char}
    (quoted : escapeAll text = before ++ '"' :: after) : Odd (slashRun before) := by
  -- Every code ends with an even number of backslashes, so that those of the codes before can only
  -- be counted in pairs.
  induction text generalizing before with
  | nil => simp at quoted
  | cons c rest ih =>
    rw [escapeAll_cons] at quoted
    rcases List.append_eq_append_iff.1 quoted with ⟨within, rfl, behind⟩ | ⟨within, code, behind⟩
    · have odd := ih behind
      have even := (escape_escape c).even_slashRun
      rw [slashRun_append]
      split
      · next all => exact even.add_odd (all ▸ odd)
      · exact odd
    · cases within with
      | nil =>
        have none : Odd (slashRun []) := @ih [] behind.symm
        exact absurd none (by decide)
      | cons d within =>
        obtain ⟨rfl, -⟩ := List.cons.inj behind
        exact (escape_escape c).odd_slashRun code

end Lox.Text
