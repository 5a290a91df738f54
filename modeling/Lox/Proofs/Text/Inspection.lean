import Lox.Text.Inspected
import Mathlib.Data.Nat.Basic

set_option autoImplicit false

namespace Lox.Text

def hexDigits : List Char :=
  ['0', '1', '2', '3', '4', '5', '6', '7', '8', '9', 'a', 'b', 'c', 'd', 'e', 'f']

def ofHex (digits : List Char) : Nat :=
  digits.foldl (fun value digit => 16 * value + hexDigits.idxOf digit) 0

theorem ofHex_concat (digits : List Char) (digit : Char) :
    ofHex (digits ++ [digit]) = 16 * ofHex digits + hexDigits.idxOf digit := by
  simp [ofHex]

theorem ofHex_zeros (count : Nat) (digits : List Char) :
    ofHex (List.replicate count '0' ++ digits) = ofHex digits := by
  induction count with
  | zero => rfl
  | succ count ih => exact ih

theorem digitChar_sixteen : ∀ digit < 16,
    digit.digitChar ∈ hexDigits ∧ hexDigits.idxOf digit.digitChar = digit := by
  decide

theorem toDigits_sixteen (code : Nat) :
    (∀ c ∈ Nat.toDigits 16 code, c ∈ hexDigits) ∧ ofHex (Nat.toDigits 16 code) = code := by
  induction code using Nat.strongRecOn with
  | ind code ih =>
    by_cases single : code < 16
    · obtain ⟨known, value⟩ := digitChar_sixteen code single
      rw [Nat.toDigits_of_lt_base single]
      exact ⟨by simpa using known, by simpa [ofHex] using value⟩
    · obtain ⟨known, value⟩ := digitChar_sixteen (code % 16) (Nat.mod_lt _ (by decide))
      obtain ⟨before, rest⟩ := ih (code / 16) (by omega)
      rw [Nat.toDigits_of_base_le (by decide) (by omega)]
      refine ⟨fun c mem => ?_, ?_⟩
      · rcases List.mem_append.1 mem with mem | mem
        · exact before c mem
        · exact List.mem_singleton.1 mem ▸ known
      · rw [ofHex_concat, rest, value]
        omega

theorem mem_hexDigits_of_hexadecimal {width code : Nat} :
    ∀ c ∈ hexadecimal width code, c ∈ hexDigits := by
  intro c mem
  rcases List.mem_append.1 mem with mem | mem
  · rw [List.eq_of_mem_replicate mem]
    decide
  · exact (toDigits_sixteen code).1 c mem

theorem ofHex_hexadecimal (width code : Nat) : ofHex (hexadecimal width code) = code := by
  rw [hexadecimal, ofHex_zeros, (toDigits_sixteen code).2]

theorem length_hexadecimal {width code : Nat} (some : 0 < width) (fits : code < Nat.pow 16 width) :
    (hexadecimal width code).length = width := by
  have short := (Nat.length_toDigits_le_iff (by decide) some).2 fits
  rw [hexadecimal, List.length_append, List.length_replicate]
  omega

def readCode (width : Nat) (text : List Char) : Char × List Char :=
  (Char.ofNat (ofHex (text.take width)), text.drop width)

theorem readCode_hexadecimal {width : Nat} {c : Char} (some : 0 < width)
    (fits : c.toNat < Nat.pow 16 width) (rest : List Char) :
    readCode width (hexadecimal width c.toNat ++ rest) = (c, rest) := by
  have length := length_hexadecimal some fits
  rw [readCode, List.take_left' length, List.drop_left' length, ofHex_hexadecimal,
    Char.ofNat_toNat]

def readInspected : List Char → Option (Char × List Char)
  | [] => none
  | '\\' :: 'n' :: rest => some ('\n', rest)
  | '\\' :: 'r' :: rest => some ('\r', rest)
  | '\\' :: 't' :: rest => some ('\t', rest)
  | '\\' :: 'x' :: rest => some (readCode 2 rest)
  | '\\' :: 'u' :: rest => some (readCode 4 rest)
  | '\\' :: 'U' :: rest => some (readCode 8 rest)
  | '\\' :: c :: rest => some (c, rest)
  | c :: rest => some (c, rest)

def quotes : List Char :=
  ['\'', '"']

theorem inspectMark_mem_quotes (text : List Char) : inspectMark text ∈ quotes := by
  rw [inspectMark]
  split <;> decide

theorem isPrintable_of_mem_quotes {mark : Char} (quote : mark ∈ quotes) :
    isPrintable mark = true := by
  have all : quotes.all isPrintable = true := by decide
  exact List.all_eq_true.1 all mark quote

def letterEscapes : List (Char × Char) :=
  [('\n', 'n'), ('\r', 'r'), ('\t', 't')]

def codeEscapes : List (Char × Nat) :=
  [('x', 2), ('u', 4), ('U', 8)]

inductive Code (mark c : Char) : List Char → Prop where
  | escaped (special : c = '\\' ∨ c = mark) : Code mark c ['\\', c]
  | lettered {letter : Char} (known : (c, letter) ∈ letterEscapes) : Code mark c ['\\', letter]
  | itself (plain : c ≠ '\\') (inside : c ≠ mark) (printable : isPrintable c = true) :
      Code mark c [c]
  | coded {letter : Char} {width : Nat} (known : (letter, width) ∈ codeEscapes)
      (fits : c.toNat < Nat.pow 16 width) : Code mark c ('\\' :: letter :: hexadecimal width c.toNat)

theorem code_codeEscape (mark c : Char) : Code mark c (codeEscape c) := by
  rw [codeEscape]
  split
  · next small => exact .coded (by decide) small
  split
  · next medium => exact .coded (by decide) medium
  · exact .coded (by decide) c.val.toNat_lt

theorem code_inspectChar (mark c : Char) : Code mark c (inspectChar mark c) := by
  rw [inspectChar]
  split
  · next special => exact .escaped (by simpa using special)
  next plain =>
  obtain ⟨slash, inside⟩ : c ≠ '\\' ∧ c ≠ mark := by simpa using plain
  split
  · next newline => exact newline ▸ .lettered (by decide)
  split
  · next carriage => exact carriage ▸ .lettered (by decide)
  split
  · next tab => exact tab ▸ .lettered (by decide)
  split
  · next printable => exact .itself slash inside printable
  · exact code_codeEscape mark c

namespace Code

variable {mark c : Char} {code : List Char}

theorem readInspected (h : Code mark c code) (quote : mark ∈ quotes) (rest : List Char) :
    Text.readInspected (code ++ rest) = some (c, rest) := by
  cases h with
  | escaped special =>
    have known : c = '\\' ∨ c ∈ quotes := by
      rcases special with rfl | rfl
      · exact .inl rfl
      · exact .inr quote
    simp only [quotes, List.mem_cons, List.not_mem_nil, or_false] at known
    rcases known with rfl | rfl | rfl <;> rfl
  | lettered known =>
    simp only [letterEscapes, List.mem_cons, List.not_mem_nil, or_false, Prod.mk.injEq] at known
    rcases known with ⟨rfl, rfl⟩ | ⟨rfl, rfl⟩ | ⟨rfl, rfl⟩ <;> rfl
  | itself plain inside printable =>
    rw [List.singleton_append, Text.readInspected]
    all_goals simp_all
  | coded known fits =>
    simp only [codeEscapes, List.mem_cons, List.not_mem_nil, or_false, Prod.mk.injEq] at known
    rcases known with ⟨rfl, rfl⟩ | ⟨rfl, rfl⟩ | ⟨rfl, rfl⟩ <;>
      exact congrArg some (readCode_hexadecimal (by decide) fits rest)

theorem unmarked (h : Code mark c code) (quote : mark ∈ quotes) :
    ∃ first rest, code = first :: rest ∧ first ≠ mark := by
  have slash : '\\' ≠ mark := by
    rintro rfl
    revert quote
    decide
  cases h with
  | escaped | lettered | coded => exact ⟨_, _, rfl, slash⟩
  | itself plain inside => exact ⟨c, [], rfl, inside⟩

theorem isPrintable (h : Code mark c code) (quote : mark ∈ quotes) :
    ∀ d ∈ code, Text.isPrintable d = true := by
  have slash : Text.isPrintable '\\' = true := by decide
  cases h with
  | escaped special =>
    have shown : Text.isPrintable c = true := by
      rcases special with rfl | rfl
      · exact slash
      · exact isPrintable_of_mem_quotes quote
    simpa [slash] using shown
  | lettered known =>
    have letters : (letterEscapes.all fun entry => Text.isPrintable entry.2) = true := by decide
    simpa [slash] using List.all_eq_true.1 letters _ known
  | itself plain inside printable => simpa using printable
  | coded known fits =>
    have letters : (codeEscapes.all fun entry => Text.isPrintable entry.1) = true := by decide
    have digits : hexDigits.all Text.isPrintable = true := by decide
    have letter := List.all_eq_true.1 letters _ known
    refine List.forall_mem_cons.2 ⟨slash, List.forall_mem_cons.2 ⟨letter, fun d mem => ?_⟩⟩
    exact List.all_eq_true.1 digits d (mem_hexDigits_of_hexadecimal d mem)

end Code

theorem flatMap_unique {code : Char → List Char} {read : List Char → Option (Char × List Char)}
    {mark : Char} (reads : ∀ c rest, read (code c ++ rest) = some (c, rest))
    (unmarked : ∀ c, ∃ first rest, code c = first :: rest ∧ first ≠ mark)
    {a b u v : List Char} (same : a.flatMap code ++ mark :: u = b.flatMap code ++ mark :: v) :
    a = b ∧ u = v := by
  have open' (c : Char) (more u v : List Char) : mark :: u ≠ code c ++ more ++ mark :: v := by
    obtain ⟨first, rest, starts, other⟩ := unmarked c
    rw [starts]
    exact fun same => other (List.cons.inj same).1.symm
  induction a generalizing b with
  | nil =>
    cases b with
    | nil => exact ⟨rfl, (List.cons.inj same).2⟩
    | cons d b => exact absurd same (open' d _ u v)
  | cons c a ih =>
    cases b with
    | nil => exact absurd same.symm (open' c _ v u)
    | cons d b =>
      rw [List.flatMap_cons, List.flatMap_cons, List.append_assoc, List.append_assoc] at same
      -- Both begin with a code, and reading it shows its character and what is left.
      have front := congrArg read same
      rw [reads, reads, Option.some.injEq, Prod.mk.injEq] at front
      obtain ⟨rfl, behind⟩ := front
      obtain ⟨rfl, ends⟩ := ih behind
      exact ⟨rfl, ends⟩

theorem inspectChars_unique {a b u v : List Char}
    (same : inspectChars a ++ u = inspectChars b ++ v) : a = b ∧ u = v := by
  simp only [inspectChars, List.cons_append, List.append_assoc] at same
  obtain ⟨mark, rest⟩ := List.cons.inj same
  rw [← mark] at rest
  have quote := inspectMark_mem_quotes a
  exact flatMap_unique (fun c => (code_inspectChar _ c).readInspected quote)
    (fun c => (code_inspectChar _ c).unmarked quote) rest

theorem isPrintable_of_mem_inspectChars (text : List Char) :
    ∀ c ∈ inspectChars text, isPrintable c = true := by
  have quote := inspectMark_mem_quotes text
  intro c mem
  simp only [inspectChars, List.cons_append, List.mem_cons, List.mem_append, List.mem_flatMap,
    List.not_mem_nil, or_false] at mem
  rcases mem with rfl | ⟨d, -, mem⟩ | rfl
  · exact isPrintable_of_mem_quotes quote
  · exact (code_inspectChar _ d).isPrintable quote c mem
  · exact isPrintable_of_mem_quotes quote

end Lox.Text
