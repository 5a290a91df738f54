import Lox.Proofs.Number.Division
import Mathlib

set_option autoImplicit false

namespace Lox.Number

open Float.Model Float.Model.UnpackedFloat

theorem toBitVec_toBits (x : Float) :
    x.toBits.toBitVec = UnpackedFloat.pack .binary64 x.toModel.unpack :=
  (pack_unpack_of_valid x.toModel.valid).symm

theorem neg_unpack {spec : Format} (s : Sign) (exponent : BitVec spec.exponentBits)
    (mantissa : BitVec spec.mantissaBitsWithoutImplicit) :
    (UnpackedFloat.unpack spec (packComponents spec s exponent mantissa)).neg =
      UnpackedFloat.unpack spec (packComponents spec (-s) exponent mantissa) := by
  simp only [UnpackedFloat.unpack, unpackExponent_packComponents, unpackMantissa_packComponents,
    unpackSign_packComponents, Sign.ofBitVec_toBitVec]
  split
  · split <;> rfl
  · split
    · split <;> rfl
    · rfl

theorem toNat_packComponents (s : Sign) (exponent : BitVec 11) (mantissa : BitVec 52) :
    (packComponents .binary64 s exponent mantissa).toNat =
      s.toBitVec.toNat * 2 ^ 63 + (exponent.toNat * 2 ^ 52 + mantissa.toNat) := by
  have parts : (packComponents .binary64 s exponent mantissa).toNat =
      (s.toBitVec.toNat <<< 11 ||| exponent.toNat) <<< 52 ||| mantissa.toNat := by
    rw [packComponents, BitVec.toNat_append, BitVec.toNat_append]
  rw [parts, ← Nat.shiftLeft_add_eq_or_of_lt exponent.isLt,
    ← Nat.shiftLeft_add_eq_or_of_lt mantissa.isLt, Nat.shiftLeft_eq, Nat.shiftLeft_eq]
  omega

structure Parts (x : Float) (s : Sign) (exponent : BitVec 11) (mantissa : BitVec 52) : Prop where
  bits : x.toBits.toBitVec = packComponents .binary64 s exponent mantissa
  below : exponent.toNat < 2047
  negative : isNegative x = true ↔ s = .negative

theorem exists_parts {x : Float} (finite : x.isFinite = true) :
    ∃ s exponent mantissa, Parts x s exponent mantissa := by
  let bits : BitVec Format.binary64.numBits := x.toBits.toBitVec
  have finite : (UnpackedFloat.unpack .binary64 bits).isFinite = true := finite
  have signed : sign? (UnpackedFloat.unpack .binary64 bits) =
      some (.ofBitVec (unpackSign bits)) := by
    rcases unpack_cases bits with ⟨-, -, nan⟩ | ⟨-, signed⟩
    · rw [nan] at finite
      cases finite
    · exact signed
  refine ⟨.ofBitVec (unpackSign bits), unpackExponent bits, unpackMantissa bits,
    (packComponents_unpackSign_unpackExponent_unpackMantissa bits).symm, ?_, isNegative_iff signed⟩
  have other : (unpackExponent bits).toNat ≠ 2047 := by
    intro same
    have top : unpackExponent bits = -BitVec.ofNat 11 1 := BitVec.eq_of_toNat_eq same
    unfold UnpackedFloat.unpack at finite
    dsimp only at finite
    rw [if_pos top] at finite
    split at finite <;> cases finite
  have bound : (unpackExponent bits).toNat < 2048 := (unpackExponent bits).isLt
  omega

namespace Parts

variable {x : Float} {s : Sign} {exponent : BitVec 11} {mantissa : BitVec 52}
  (parts : Parts x s exponent mantissa)

include parts

theorem valid (s' : Sign) :
    Format.binary64.Valid (packComponents .binary64 s' exponent mantissa) where
  eq_packedNaN top _ := by
    have below := parts.below
    rw [unpackExponent_packComponents] at top
    rw [top] at below
    exact absurd below (by decide)

theorem pattern_eq : pattern x = exponent.toNat * 2 ^ 52 + mantissa.toNat := by
  have value : x.toBits.toNat = s.toBitVec.toNat * 2 ^ 63 +
      (exponent.toNat * 2 ^ 52 + mantissa.toNat) := by
    rw [← toNat_packComponents, ← parts.bits]
    rfl
  have half : Nat.pow 2 63 = 2 ^ 63 := rfl
  have above := exponent.isLt
  have below := mantissa.isLt
  rw [pattern, value, half]
  omega

theorem pattern_lt : pattern x < infinityPattern := by
  have least := parts.below
  have below := mantissa.isLt
  rw [parts.pattern_eq, infinityPattern]
  omega

theorem toBitVec_ofPattern :
    (ofPattern (pattern x)).toBits.toBitVec =
      packComponents .binary64 .positive exponent mantissa := by
  have bits : (UInt64.ofNat (pattern x)).toBitVec =
      packComponents .binary64 .positive exponent mantissa := by
    have less := parts.pattern_lt
    have clear : Sign.positive.toBitVec.toNat = 0 := rfl
    apply BitVec.eq_of_toNat_eq
    rw [toNat_packComponents, clear, Nat.zero_mul, Nat.zero_add, ← parts.pattern_eq]
    exact Nat.mod_eq_of_lt (by rw [infinityPattern] at less; omega)
  have packed : (ofPattern (pattern x)).toBits.toBitVec = UnpackedFloat.pack .binary64
      (UnpackedFloat.unpack .binary64 (UInt64.ofNat (pattern x)).toBitVec) := rfl
  rw [packed, bits, pack_unpack_of_valid (parts.valid .positive)]

theorem toBitVec_neg_ofPattern :
    (-ofPattern (pattern x)).toBits.toBitVec =
      packComponents .binary64 .negative exponent mantissa := by
  have packed : (-ofPattern (pattern x)).toBits.toBitVec = UnpackedFloat.pack .binary64
      (UnpackedFloat.unpack .binary64 (ofPattern (pattern x)).toBits.toBitVec).neg := rfl
  rw [packed, parts.toBitVec_ofPattern, neg_unpack, pack_unpack_of_valid (parts.valid _)]
  rfl

end Parts

section

variable {x : Float} (finite : x.isFinite = true)

include finite

theorem pattern_lt : pattern x < infinityPattern := by
  obtain ⟨s, exponent, mantissa, parts⟩ := exists_parts finite
  exact parts.pattern_lt

theorem signed_ofPattern :
    (if isNegative x then -ofPattern (pattern x) else ofPattern (pattern x)) = x := by
  obtain ⟨s, exponent, mantissa, parts⟩ := exists_parts finite
  apply Float.toBits_inj.1
  apply UInt64.toBitVec_inj.1
  cases s with
  | positive =>
    have sign : ¬ isNegative x = true := by
      rw [parts.negative]
      nofun
    rw [if_neg sign, parts.toBitVec_ofPattern, parts.bits]
  | negative => rw [if_pos (parts.negative.2 rfl), parts.toBitVec_neg_ofPattern, parts.bits]

end

end Lox.Number
