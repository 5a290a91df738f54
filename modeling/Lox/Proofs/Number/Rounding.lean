import Lox.Number.Shortest
import Mathlib.Tactic.Ring

set_option autoImplicit false

namespace Lox.Number

theorem magnitude_of_lt {p : Nat} (small : p < 2 ^ 52) : magnitude p = p :=
  if_pos small

theorem magnitude_of_le {p : Nat} (normal : 2 ^ 52 ≤ p) :
    magnitude p = (2 ^ 52 + p % 2 ^ 52) * 2 ^ (p / 2 ^ 52 - 1) := by
  have out : ¬ p < Nat.pow 2 52 := Nat.not_lt.2 normal
  rw [magnitude, if_neg out, Nat.shiftLeft_eq]
  rfl

theorem magnitude_lt_succ (p : Nat) : magnitude p < magnitude (p + 1) := by
  by_cases small : p < 2 ^ 52
  · by_cases smaller : p + 1 < 2 ^ 52
    · rw [magnitude_of_lt small, magnitude_of_lt smaller]
      exact Nat.lt_succ_self p
    · have least : p + 1 = 2 ^ 52 := by omega
      rw [magnitude_of_lt small, least]
      exact small
  · have normal : 2 ^ 52 ≤ p := Nat.not_lt.1 small
    rw [magnitude_of_le normal, magnitude_of_le (Nat.le_succ_of_le normal)]
    generalize shift : p / 2 ^ 52 - 1 = k
    -- The significand grows by one; past the last one of a binade the next binade begins.
    by_cases inside : p % 2 ^ 52 + 1 < 2 ^ 52
    · have next : (p + 1) / 2 ^ 52 - 1 = k := by omega
      have grown : 2 ^ 52 + p % 2 ^ 52 < 2 ^ 52 + (p + 1) % 2 ^ 52 := by omega
      rw [next]
      exact Nat.mul_lt_mul_of_pos_right grown (Nat.two_pow_pos k)
    · have next : (p + 1) / 2 ^ 52 - 1 = k + 1 := by omega
      have first : (p + 1) % 2 ^ 52 = 0 := by omega
      have double : (2 ^ 52 + 0) * 2 ^ (k + 1) = (2 ^ 52 + 2 ^ 52) * 2 ^ k := by
        rw [Nat.pow_succ]
        omega
      rw [next, first, double]
      exact Nat.mul_lt_mul_of_pos_right (by omega) (Nat.two_pow_pos k)

section

variable {scaled denominator : Nat} (positive : 0 < denominator)

include positive

theorem middle_lt_succ (p : Nat) :
    (magnitude p + magnitude (p + 1)) * denominator <
      (magnitude (p + 1) + magnitude (p + 1 + 1)) * denominator := by
  have first := magnitude_lt_succ p
  have second := magnitude_lt_succ (p + 1)
  exact Nat.mul_lt_mul_of_pos_right (by omega) positive

theorem reaches_of_succ {p : Nat} (reached : reaches scaled denominator (p + 1) = true) :
    reaches scaled denominator p = true := by
  cases p with
  | zero => rfl
  | succ p =>
    have less := middle_lt_succ positive p
    simp only [reaches, Bool.or_eq_true, Bool.and_eq_true, decide_eq_true_eq, beq_iff_eq]
      at reached ⊢
    omega

theorem reaches_of_le {p q : Nat} (le : p ≤ q) (reached : reaches scaled denominator q = true) :
    reaches scaled denominator p = true := by
  induction le with
  | refl => exact reached
  | step le ih => exact ih (reaches_of_succ positive reached)

end

theorem greatest_eq {test : Nat → Bool} {p : Nat} (holds : ∀ q ≤ p, test q = true)
    (fails : ∀ q, p < q → test q = false) (bits start : Nat) (low : start ≤ p)
    (high : p < start + 2 ^ bits) : greatest test bits start = p := by
  induction bits generalizing start with
  | zero => exact Nat.le_antisymm low (Nat.le_of_lt_succ high)
  | succ bits ih =>
    rw [Nat.pow_succ] at high
    by_cases further : start + 2 ^ bits ≤ p
    · have taken : test (start + Nat.pow 2 bits) = true := holds _ further
      rw [greatest, if_pos taken]
      exact ih _ further (show p < start + 2 ^ bits + 2 ^ bits by omega)
    · have out : ¬ test (start + Nat.pow 2 bits) = true := by
        rw [fails (start + Nat.pow 2 bits) (Nat.not_le.1 further)]
        exact Bool.false_ne_true
      rw [greatest, if_neg out]
      exact ih start low (Nat.not_le.1 further)

namespace Decimal

variable {d : Decimal} {p : Nat}

theorem numerator_of_places (coefficient places : Nat) :
    (Decimal.mk coefficient (-(places : Int))).numerator = coefficient := by
  simp [numerator]

theorem denominator_of_places (coefficient places : Nat) :
    (Decimal.mk coefficient (-(places : Int))).denominator = Nat.pow 10 places := by
  simp [denominator]

theorem denominator_pos (d : Decimal) : 0 < d.denominator :=
  Nat.pow_pos (by decide)

theorem roundsTo_of_eq (same : d.numerator <<< 1075 = 2 * magnitude p * d.denominator) :
    d.roundsTo p = true := by
  have above : ¬ reaches (d.numerator <<< 1075) d.denominator (p + 1) = true := by
    have less : 2 * magnitude p * d.denominator <
        (magnitude p + magnitude (p + 1)) * d.denominator :=
      Nat.mul_lt_mul_of_pos_right (by have := magnitude_lt_succ p; omega) d.denominator_pos
    simp only [reaches, same, Bool.or_eq_true, Bool.and_eq_true, decide_eq_true_eq, beq_iff_eq]
    omega
  have below : reaches (d.numerator <<< 1075) d.denominator p = true := by
    cases p with
    | zero => rfl
    | succ p =>
      have less : (magnitude p + magnitude (p + 1)) * d.denominator <
          2 * magnitude (p + 1) * d.denominator :=
        Nat.mul_lt_mul_of_pos_right (by have := magnitude_lt_succ p; omega) d.denominator_pos
      simp only [reaches, same, Bool.or_eq_true, decide_eq_true_eq]
      exact .inl less
  simp [roundsTo, below, above]

theorem nearest_eq_of_roundsTo (finite : p < infinityPattern) (rounds : d.roundsTo p = true) :
    d.nearest = p := by
  simp only [roundsTo, Bool.and_eq_true, Bool.not_eq_true'] at rounds
  have found : greatest (reaches (d.numerator <<< 1075) d.denominator) 63 0 = p := by
    refine greatest_eq (fun q le => reaches_of_le d.denominator_pos le rounds.1)
      (fun q less => ?_) 63 0 (Nat.zero_le p) (by simp only [infinityPattern] at finite; omega)
    cases reached : reaches (d.numerator <<< 1075) d.denominator q with
    | false => rfl
    | true =>
      have next := reaches_of_le d.denominator_pos less reached
      rw [rounds.2] at next
      cases next
  rw [nearest, found, Nat.min_eq_right (Nat.le_of_lt finite)]

end Decimal

theorem roundsTo_of_onGrid? {p : Nat} {exponent : Int} {d : Decimal}
    (found : onGrid? p exponent = some d) : d.roundsTo p = true := by
  unfold onGrid? at found
  dsimp only at found
  split at found
  · cases found
  · next below _ =>
    cases found
    exact below
  · next _ above =>
    cases found
    exact above
  · next below above =>
    split at found
    · cases found
      exact below
    · cases found
      exact above
    · cases found
      split
      · exact below
      · exact above

-- With one variable for the number of places, no power of that size is ever computed.
theorem roundsTo_of_places (p : Nat) {places : Nat} (unit : 1075 = places + 1) :
    (Decimal.mk (magnitude p * Nat.pow 5 places) (-(places : Int))).roundsTo p = true := by
  have tens : Nat.pow 10 places = 2 ^ places * Nat.pow 5 places := Nat.mul_pow 2 5 places
  refine Decimal.roundsTo_of_eq ?_
  rw [Decimal.numerator_of_places, Decimal.denominator_of_places, unit, Nat.shiftLeft_eq,
    Nat.pow_succ, tens]
  ring

theorem roundsTo_exactDecimal (p : Nat) : (exactDecimal p).roundsTo p = true := by
  have exponent : -((1074 : Nat) : Int) = -1074 := rfl
  rw [exactDecimal, ← exponent]
  apply roundsTo_of_places
  rfl

theorem roundsTo_shortest (p : Nat) : (shortest p).roundsTo p = true := by
  rw [shortest]
  split
  · next zero =>
    subst zero
    exact Decimal.roundsTo_of_eq rfl
  · cases found : (List.range 24).findSome? fun (step : Nat) => onGrid? p (coarsest p - step) with
    | none => exact roundsTo_exactDecimal p
    | some d =>
      obtain ⟨step, -, grid⟩ := List.exists_of_findSome?_eq_some found
      exact roundsTo_of_onGrid? grid

theorem nearest_shortest {p : Nat} (finite : p < infinityPattern) : (shortest p).nearest = p :=
  Decimal.nearest_eq_of_roundsTo finite (roundsTo_shortest p)

end Lox.Number
