import Lox.Number.Layout
import Lox.Proofs.Lexical.Rules

set_option autoImplicit false

namespace Lox.Number

theorem ofDigits_eq (row : List Char) : ofDigits row = Nat.ofDigitChars 10 row 0 := by
  rw [Nat.ofDigitChars_eq_foldl]
  rfl

theorem ofDigits_digits (n : Nat) : ofDigits (digits n) = n := by
  rw [ofDigits_eq]
  exact Nat.ofDigitChars_ten_toDigits

theorem ofDigits_append_zeros (row : List Char) (count : Nat) :
    ofDigits (row ++ List.replicate count '0') = ofDigits row * Nat.pow 10 count := by
  rw [ofDigits_eq, ofDigits_eq, Nat.ofDigitChars_append, Nat.ofDigitChars_replicate_zero,
    Nat.mul_comm]
  rfl

theorem ofDigits_padded (places : Nat) (row : List Char) :
    ofDigits (padded places row) = ofDigits row := by
  rw [ofDigits_eq, ofDigits_eq, padded, Nat.ofDigitChars_append, Nat.ofDigitChars_replicate_zero,
    Nat.mul_zero]

theorem length_padded (places : Nat) (row : List Char) : places < (padded places row).length := by
  simp only [padded, List.length_append, List.length_replicate]
  omega

theorem digits_digits (n : Nat) : Lexical.Digits (digits n) where
  left := Nat.toDigits_ne_nil
  right c mem := by
    have digit : c.isDigit = true := Nat.isDigit_of_mem_toDigits (by decide) (by decide) mem
    simpa [Text.isDigit, Char.isDigit, Char.le_def] using digit

theorem isDigit_zeros (count : Nat) : ∀ c ∈ List.replicate count '0', Text.isDigit c = true := by
  intro c mem
  rw [List.eq_of_mem_replicate mem]
  rfl

theorem isDigit_padded (places n : Nat) :
    ∀ c ∈ padded places (digits n), Text.isDigit c = true := by
  intro c mem
  rcases List.mem_append.1 mem with zero | digit
  · exact isDigit_zeros _ c zero
  · exact (digits_digits n).2 c digit

namespace Decimal

variable {d d' : Decimal}

theorem nearest_congr (numerators : d.numerator = d'.numerator)
    (denominators : d.denominator = d'.denominator) : d.nearest = d'.nearest := by
  rw [nearest, nearest, numerators, denominators]

theorem numeral_of_whole (whole : 0 ≤ d.exponent) :
    ∃ d', Lexical.Numeral d.positional d' ∧ d'.numerator = d.numerator ∧
      d'.denominator = d.denominator := by
  have form : d.positional = digits d.coefficient ++ List.replicate d.exponent.toNat '0' := by
    simp only [positional, if_pos whole]
  have row : Lexical.Digits d.positional := by
    rw [form]
    refine ⟨by simp [(digits_digits d.coefficient).1], fun c mem => ?_⟩
    rcases List.mem_append.1 mem with digit | zero
    · exact (digits_digits d.coefficient).2 c digit
    · exact isDigit_zeros _ c zero
  refine ⟨_, .whole row, ?_, ?_⟩
  · rw [form, ofDigits_append_zeros, ofDigits_digits]
    exact Nat.mul_one _
  · have none : (-d.exponent).toNat = 0 := by omega
    rw [denominator, denominator, none]
    rfl

theorem numeral_of_fraction (fraction : d.exponent < 0) : Lexical.Numeral d.positional d := by
  let places := (-d.exponent).toNat
  let row := padded places (digits d.coefficient)
  let point := row.length - places
  have form : d.positional = row.take point ++ '.' :: row.drop point := by
    simp only [positional, if_neg (Int.not_le.2 fraction)]
    rfl
  have long : places < row.length := length_padded places _
  have before : Lexical.Digits (row.take point) := by
    refine ⟨List.ne_nil_of_length_pos ?_, fun c mem => ?_⟩
    · rw [List.length_take]
      omega
    · exact isDigit_padded _ _ c (List.mem_of_mem_take mem)
  have length : (row.drop point).length = places := by
    rw [List.length_drop]
    omega
  have behind : Lexical.Digits (row.drop point) := by
    refine ⟨List.ne_nil_of_length_pos ?_, fun c mem => ?_⟩
    · rw [length]
      omega
    · exact isDigit_padded _ _ c (List.mem_of_mem_drop mem)
  have numeral := Lexical.Numeral.fraction before behind
  have value : ofDigits row = d.coefficient := by
    rw [ofDigits_padded, ofDigits_digits]
  have exponent : -(places : Int) = d.exponent := by omega
  rw [List.take_append_drop, length, value, exponent] at numeral
  rwa [form]

theorem numeral_positional (d : Decimal) :
    ∃ d', Lexical.Numeral d.positional d' ∧ d'.nearest = d.nearest := by
  by_cases whole : 0 ≤ d.exponent
  · obtain ⟨d', numeral, numerators, denominators⟩ := numeral_of_whole whole
    exact ⟨d', numeral, nearest_congr numerators denominators⟩
  · exact ⟨d, numeral_of_fraction (Int.not_le.1 whole), rfl⟩

end Decimal

end Lox.Number
