import Lox.Proofs.Number.Packing

set_option autoImplicit false

namespace Lox.Number

open Float.Model Float.Model.UnpackedFloat

theorem then_compare_eq {a b : Int} {m n : Nat}
    (same : (compare a b).then (compare m n) = .eq) : a = b ∧ m = n := by
  rwa [Ordering.then_eq_eq, compare_eq_iff_eq, compare_eq_iff_eq] at same

theorem eq_of_compare {u v : UnpackedFloat} (compared : u.compare v = some .eq)
    (signs : sign? u = sign? v) : u = v := by
  cases u with
  | notANumber => cases compared
  | infinity s =>
    cases v with
    | infinity s' =>
      cases signs
      rfl
    | notANumber => cases compared
    | zero | finite => cases s <;> cases compared
  | zero s =>
    cases v with
    | zero s' =>
      cases signs
      rfl
    | notANumber => cases compared
    | infinity s' => cases s' <;> cases compared
    | finite s' => cases s' <;> cases compared
  | finite s mantissa exponent positive =>
    cases v with
    | finite s' mantissa' exponent' positive' =>
      cases signs
      have order : (compare exponent exponent').then (compare mantissa mantissa') = .eq := by
        cases s with
        | positive => exact Option.some.inj compared
        | negative => exact Ordering.swap_eq_eq.1 (Option.some.inj compared)
      obtain ⟨rfl, rfl⟩ := then_compare_eq order
      rfl
    | notANumber => cases compared
    | infinity s' => cases s <;> cases s' <;> cases compared
    | zero => cases s <;> cases compared

theorem eq_of_unpack_eq {x y : Float} (same : x.toModel.unpack = y.toModel.unpack) : x = y := by
  apply Float.toBits_inj.1
  apply UInt64.toBitVec_inj.1
  rw [toBitVec_toBits, toBitVec_toBits, same]

theorem eq_of_beq_of_isNegative {x y : Float} (equal : (x == y) = true)
    (signs : isNegative x = isNegative y) : x = y := by
  have compared : x.toModel.unpack.compare y.toModel.unpack = some .eq := eq_of_beq equal
  have proper : x.toModel.unpack ≠ .notANumber := by
    intro nan
    rw [nan] at compared
    cases compared
  have proper' : y.toModel.unpack ≠ .notANumber := by
    intro nan
    rw [nan] at compared
    cases class' : x.toModel.unpack <;> rw [class'] at compared <;> cases compared
  apply eq_of_unpack_eq
  apply eq_of_compare compared
  rw [sign?_toModel proper, sign?_toModel proper', signs]

theorem toBits_ofPattern {pattern : Nat} (le : pattern ≤ infinityPattern) :
    (ofPattern pattern).toBits = UInt64.ofNat pattern := by
  have valid : Format.binary64.Valid (UInt64.ofNat pattern).toBitVec := by
    refine ⟨fun top mantissa => ?_⟩
    exact absurd (unpack_eq_notANumber_iff.2 ⟨top, mantissa⟩) (unpack_ofPattern_ne le)
  exact UInt64.toBitVec_inj.1 (pack_unpack_of_valid valid)

theorem isNegative_ofPattern {pattern : Nat} (le : pattern ≤ infinityPattern) :
    isNegative (ofPattern pattern) = false := by
  have below : pattern < 2 ^ 63 := Nat.lt_of_le_of_lt le (by decide)
  have bits : (UInt64.ofNat pattern).toNat = pattern :=
    UInt64.toNat_ofNat_of_lt' (Nat.lt_trans below (by decide))
  rw [isNegative, toBits_ofPattern le, bits]
  exact decide_eq_false (Nat.not_le_of_lt below)

theorem Decimal.eq_of_beq {d d' : Decimal} (equal : (d.toNumber == d'.toNumber) = true) :
    d.toNumber = d'.toNumber := by
  have unsigned (d : Decimal) : isNegative d.toNumber = false :=
    isNegative_ofPattern (Nat.min_le_left _ _)
  exact eq_of_beq_of_isNegative equal ((unsigned d).trans (unsigned d').symm)

end Lox.Number
