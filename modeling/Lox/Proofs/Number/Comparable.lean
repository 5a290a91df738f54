import Lox.Number.Decimal

set_option autoImplicit false

namespace Lox.Number

open Float.Model Float.Model.UnpackedFloat

theorem compare_self {u : UnpackedFloat} (proper : u ≠ .notANumber) : u.compare u = some .eq := by
  cases u with
  | notANumber => exact absurd rfl proper
  | infinity sign => cases sign <;> rfl
  | zero sign => rfl
  | finite sign mantissa exponent =>
    have same : (compare exponent exponent).then (compare mantissa mantissa) = .eq := by simp
    cases sign
    · exact congrArg (fun order => some order.swap) same
    · exact congrArg some same

def sign? : UnpackedFloat → Option Sign
  | .infinity s | .zero s | .finite s .. => some s
  | .notANumber => none

theorem unpack_cases {spec : Format} (bits : BitVec spec.numBits) :
    (unpackExponent bits = -BitVec.ofNat spec.exponentBits 1 ∧ unpackMantissa bits ≠ 0 ∧
      UnpackedFloat.unpack spec bits = .notANumber) ∨
    (¬ (unpackExponent bits = -BitVec.ofNat spec.exponentBits 1 ∧ unpackMantissa bits ≠ 0) ∧
      sign? (UnpackedFloat.unpack spec bits) = some (.ofBitVec (unpackSign bits))) := by
  unfold UnpackedFloat.unpack
  by_cases clear : unpackMantissa bits = BitVec.ofNat _ 0
  · refine .inr ⟨fun both => both.2 clear, ?_⟩
    -- Without a mantissa these are infinities, zeros and powers of two.
    by_cases top : unpackExponent bits = -BitVec.ofNat spec.exponentBits 1
    · rw [if_pos top, if_pos clear]
      rfl
    · by_cases least : unpackExponent bits = BitVec.ofNat _ 0
      · rw [if_neg top, if_pos least, dif_pos clear]
        rfl
      · rw [if_neg top, if_neg least]
        rfl
  · by_cases top : unpackExponent bits = -BitVec.ofNat spec.exponentBits 1
    · refine .inl ⟨top, clear, ?_⟩
      rw [if_pos top, if_neg clear]
    · refine .inr ⟨fun both => top both.1, ?_⟩
      by_cases least : unpackExponent bits = BitVec.ofNat _ 0
      · rw [if_neg top, if_pos least, dif_neg clear]
        rfl
      · rw [if_neg top, if_neg least]
        rfl

theorem unpack_eq_notANumber_iff {spec : Format} {bits : BitVec spec.numBits} :
    UnpackedFloat.unpack spec bits = .notANumber ↔
      unpackExponent bits = -BitVec.ofNat spec.exponentBits 1 ∧ unpackMantissa bits ≠ 0 := by
  rcases unpack_cases bits with ⟨top, set, nan⟩ | ⟨proper, signed⟩
  · exact ⟨fun _ => ⟨top, set⟩, fun _ => nan⟩
  · refine ⟨fun nan => ?_, fun both => absurd both proper⟩
    rw [nan] at signed
    cases signed

theorem unpack_pack_ne (spec : Format) {u : UnpackedFloat} (proper : u ≠ .notANumber) :
    UnpackedFloat.unpack spec (UnpackedFloat.pack spec u) ≠ .notANumber := by
  rw [Ne, unpack_eq_notANumber_iff]
  fun_cases UnpackedFloat.pack with
  | case1 => exact absurd rfl proper
  | case2 s => simp [packedInfinity]
  | case3 s => simp [packedZero]
  | case4 s m e hm biased above => simp [packedInfinity]
  | case5 s m e hm bits biased below normal =>
    -- The exponent lies below the topmost one, which only infinity and NaN have.
    have small : biased % 2 ^ spec.exponentBits ≠ 2 ^ spec.exponentBits - 1 := by
      rw [Nat.mod_eq_of_lt (by omega)]
      omega
    rintro ⟨top, -⟩
    simp [BitVec.neg_one_eq_allOnes, ← BitVec.toNat_inj, small] at top
  | case6 s m e hm bits biased below subnormal =>
    have some := Nat.pos_iff_ne_zero.1 spec.he
    simp [some]

theorem unpack_ofPattern_ne {pattern : Nat} (le : pattern ≤ infinityPattern) :
    UnpackedFloat.unpack .binary64 (UInt64.ofNat pattern).toBitVec ≠ .notANumber := by
  rw [Ne, unpack_eq_notANumber_iff]
  rintro ⟨top, mantissa⟩
  -- Among these patterns only infinity has the topmost exponent.
  have topmost : (pattern % 2 ^ 64) >>> 52 % 2048 = 2047 := by
    simpa [unpackExponent] using congrArg BitVec.toNat top
  rw [Nat.shiftRight_eq_div_pow] at topmost
  have infinite : pattern = infinityPattern := by
    simp only [infinityPattern] at le ⊢
    omega
  subst infinite
  exact mantissa (by decide)

theorem ofPattern_beq_self {pattern : Nat} (le : pattern ≤ infinityPattern) :
    (ofPattern pattern == ofPattern pattern) = true := by
  have proper := unpack_pack_ne .binary64 (unpack_ofPattern_ne le)
  have same := compare_self proper
  show (_ == some Ordering.eq) = true
  rw [beq_iff_eq]
  exact same

theorem Decimal.toNumber_beq_self (d : Decimal) : (d.toNumber == d.toNumber) = true :=
  ofPattern_beq_self (Nat.min_le_left _ _)

end Lox.Number
