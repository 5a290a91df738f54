import Lox.Number.Decimal
import Lox.Text.Blank
import Lox.Text.Digits

set_option autoImplicit false

namespace Lox.Number

/-- The blanks that may stand around a numeral; the information separators are none of them. -/
def isMargin (c : Char) : Bool :=
  Text.isBlank c && !(0x1c ≤ c.toNat && c.toNat ≤ 0x1f)

def joined? : List Char → Option (List Char)
  | [] => some []
  | c :: '_' :: rest =>
    if Text.isDigit c && rest.head?.any Text.isDigit then (joined? rest).map (c :: ·) else none
  | c :: rest => if c = '_' then none else (joined? rest).map (c :: ·)

def splitSign : List Char → Bool × List Char
  | '-' :: rest => (true, rest)
  | '+' :: rest => (false, rest)
  | text => (false, text)

def power? (text : List Char) : Option Int :=
  let (negative, row) := splitSign text
  if row.isEmpty || !row.all Text.isDigit then none
  else some (if negative then -(ofDigits row : Int) else ofDigits row)

def Decimal.scaled (d : Decimal) (length : Nat) (power : Int) : Decimal :=
  -- A greater power makes the value no less infinite, a smaller one no less zero.
  let bound : Int := length + 400
  { d with exponent := d.exponent + max (-bound) (min bound power) }

def isPowerMark (c : Char) : Bool :=
  c == 'e' || c == 'E'

def Decimal.ofScientific? (text : List Char) : Option Decimal :=
  let mantissa := text.takeWhile (!isPowerMark ·)
  match text.dropWhile (!isPowerMark ·) with
  | [] => Decimal.ofText? mantissa
  | _ :: power =>
    match Decimal.ofText? mantissa, power? power with
    | some d, some n => some (d.scaled mantissa.length n)
    | _, _ => none

def named? (text : List Char) : Option Float :=
  let name := text.map Char.toLower
  if name = ['i', 'n', 'f'] || name = ['i', 'n', 'f', 'i', 'n', 'i', 't', 'y'] then
    some (ofPattern infinityPattern)
  else if name = ['n', 'a', 'n'] then some (ofPattern (infinityPattern + Nat.pow 2 51))
  else none

def unsigned? (text : List Char) : Option Float :=
  match named? text with
  | some value => some value
  | none =>
    match joined? text with
    | some row => (Decimal.ofScientific? row).map Decimal.toNumber
    | none => none

def ofText? (text : List Char) : Option Float :=
  let (negative, row) := splitSign ((Text.strip isMargin text).map Text.asciiDigit)
  (unsigned? row).map fun value => if negative then -value else value

def isPlain (c : Char) : Bool :=
  Text.isDigit c || c == '.'

theorem toNat_of_isPlain {c : Char} (h : isPlain c = true) : 0x2e ≤ c.toNat ∧ c.toNat ≤ 0x39 := by
  simp only [isPlain, Bool.or_eq_true, beq_iff_eq] at h
  rcases h with h | rfl
  · simp only [Text.isDigit, Bool.and_eq_true, decide_eq_true_eq, Char.le_def,
      UInt32.le_iff_toNat_le] at h
    have low : 0x30 ≤ c.toNat := h.1
    have top : c.toNat ≤ 0x39 := h.2
    omega
  · decide

theorem ne_of_isPlain {c d : Char} (h : isPlain c = true) (out : isPlain d = false) : c ≠ d := by
  rintro rfl
  simp [h] at out

theorem isMargin_of_isPlain {c : Char} (h : isPlain c = true) : isMargin c = false := by
  have code := toNat_of_isPlain h
  simp only [isMargin, Text.isBlank, Text.blankRanges, Text.Ranges.has, List.any_cons, List.any_nil]
  simp
  omega

theorem splitSign_of_isPlain {text : List Char} (h : ∀ c ∈ text, isPlain c = true) :
    splitSign text = (false, text) := by
  unfold splitSign
  split
  · exact absurd (h '-' (by simp)) (by decide)
  · exact absurd (h '+' (by simp)) (by decide)
  · rfl

theorem joined?_of_isPlain {text : List Char} (h : ∀ c ∈ text, isPlain c = true) :
    joined? text = some text := by
  fun_induction joined? text with
  | case1 => rfl
  | case2 | case3 => exact absurd (h '_' (by simp)) (by decide)
  | case4 => exact absurd (h '_' (by simp)) (by decide)
  | case5 c rest _ _ ih => simp [ih fun d mem => h d (by simp [mem])]

theorem named?_of_isPlain {text : List Char} (h : ∀ c ∈ text, isPlain c = true) :
    named? text = none := by
  cases text with
  | nil => decide
  | cons c rest =>
    have code := toNat_of_isPlain (h c (by simp))
    have same : c.toLower = c := by
      unfold Char.toLower
      split
      · next capital =>
        have low : 0x41 ≤ c.toNat := UInt32.le_iff_toNat_le.1 capital.1
        omega
      · rfl
    have noI : c ≠ 'i' := ne_of_isPlain (h c (by simp)) (by decide)
    have noN : c ≠ 'n' := ne_of_isPlain (h c (by simp)) (by decide)
    simp [named?, same, noI, noN]

theorem ofScientific?_of_isPlain {text : List Char} (h : ∀ c ∈ text, isPlain c = true) :
    Decimal.ofScientific? text = Decimal.ofText? text := by
  have all : text.takeWhile (!isPowerMark ·) = text ∧ text.dropWhile (!isPowerMark ·) = [] := by
    induction text with
    | nil => simp
    | cons c rest ih =>
      have noE : c ≠ 'e' := ne_of_isPlain (h c (by simp)) (by decide)
      have noCapital : c ≠ 'E' := ne_of_isPlain (h c (by simp)) (by decide)
      simpa [isPowerMark, noE, noCapital] using ih fun d mem => h d (by simp [mem])
  simp only [Decimal.ofScientific?, all.1, all.2]

theorem ofText?_of_isPlain {text : List Char} (h : ∀ c ∈ text, isPlain c = true) :
    ofText? text = (Decimal.ofText? text).map Decimal.toNumber := by
  have kept : text.map Text.asciiDigit = text := by
    conv => rhs; rw [← List.map_id text]
    refine List.map_congr_left fun c mem => Text.asciiDigit_of_lt ?_
    have code := toNat_of_isPlain (h c mem)
    omega
  rw [ofText?, Text.strip_of_all_not fun c mem => isMargin_of_isPlain (h c mem), kept,
    splitSign_of_isPlain h]
  simp only [unsigned?, named?_of_isPlain h, joined?_of_isPlain h, ofScientific?_of_isPlain h]
  cases Decimal.ofText? text <;> rfl

end Lox.Number
