import Lox.Proofs.Number.Comparable

set_option autoImplicit false

namespace Lox.Number

open Float.Model Float.Model.UnpackedFloat

def infinity : Float :=
  ofPattern infinityPattern

def nan : Float :=
  ofPattern (infinityPattern + Nat.pow 2 51)

def withSign (magnitude x : Float) : Float :=
  if isNegative x then -magnitude else magnitude

-- Division that refuses to divide by zero, of whichever sign.
def quotient? (a b : Float) : Option Float :=
  if b == 0 then none else some (a / b)

def divide? (a b : Float) : Option Float :=
  if b == 0 then
    if a == 0 || a.isNaN then some nan else some (withSign infinity a * withSign 1 b)
  else quotient? a b

theorem sign?_unpack {spec : Format} {bits : BitVec spec.numBits} {s : Sign}
    (signed : sign? (UnpackedFloat.unpack spec bits) = some s) :
    s = Sign.ofBitVec (unpackSign bits) := by
  rcases unpack_cases bits with ⟨-, -, nan⟩ | ⟨-, same⟩
  · rw [nan] at signed
    cases signed
  · exact Option.some.inj (signed.symm.trans same)

theorem isNegative_iff {x : Float} {s : Sign} (signed : sign? x.toModel.unpack = some s) :
    isNegative x = true ↔ s = .negative := by
  let bits : BitVec Format.binary64.numBits := x.toBits.toBitVec
  have bit : (unpackSign bits).toNat = x.toBits.toNat >>> 63 % 2 := rfl
  have bound : x.toBits.toNat < 2 ^ 64 := x.toBits.toNat_lt
  rw [Nat.shiftRight_eq_div_pow] at bit
  have same : s = Sign.ofBitVec (unpackSign bits) := sign?_unpack signed
  have top : unpackSign bits = 0#1 ↔ x.toBits.toNat < 2 ^ 63 := by
    rw [← BitVec.toNat_inj, bit]
    simp
    omega
  rw [same, Sign.ofBitVec, isNegative, decide_eq_true_iff]
  split
  · next clear => simpa using top.1 clear
  · next set => simpa [top] using set

-- All numbers but NaN have a sign.
theorem sign?_toModel {x : Float} (proper : x.toModel.unpack ≠ .notANumber) :
    sign? x.toModel.unpack = some (if isNegative x then .negative else .positive) := by
  obtain ⟨s, named⟩ : ∃ s, sign? x.toModel.unpack = some s := by
    cases class' : x.toModel.unpack with
    | notANumber => exact absurd class' proper
    | infinity s | zero s | finite s => exact ⟨s, rfl⟩
  have negative := isNegative_iff named
  cases s <;> simp [named, negative]

theorem exists_zero_of_beq {b : Float} (zero : (b == 0) = true) :
    ∃ s, b.toModel.unpack = .zero s := by
  have compared : b.toModel.unpack.compare (.zero .positive) = some .eq := by
    have positive : (0 : Float).toModel.unpack = .zero .positive := rfl
    rw [← positive]
    exact eq_of_beq zero
  generalize b.toModel.unpack = u at compared
  cases u with
  | zero s => exact ⟨s, rfl⟩
  | notANumber => cases compared
  | infinity s => cases s <;> cases compared
  | finite s => cases s <;> cases compared

theorem withSign_mul {a b : Float} {s s' : Sign} (first : sign? a.toModel.unpack = some s)
    (second : sign? b.toModel.unpack = some s') :
    withSign infinity a * withSign 1 b = .ofModel (.pack (.infinity (s / s'))) := by
  have signed := isNegative_iff first
  have signed' := isNegative_iff second
  cases s <;> cases s' <;> simp [withSign, signed, signed'] <;> rfl

theorem divide?_eq (a b : Float) : divide? a b = some (a / b) := by
  unfold divide?
  split
  · next zero =>
    obtain ⟨s, divisor⟩ := exists_zero_of_beq zero
    have second : sign? b.toModel.unpack = some s := by rw [divisor]; rfl
    have quotient : a / b =
        .ofModel (.pack (UnpackedFloat.div .binary64 a.toModel.unpack b.toModel.unpack)) := rfl
    have isZero : (a == 0) = (a.toModel.unpack.compare (.zero .positive) == some .eq) := rfl
    have isNaN : a.isNaN = a.toModel.unpack.isNaN := rfl
    rw [quotient, isZero, isNaN, divisor]
    -- Arithmetic decides by the class of the dividend, and only infinities need a sign.
    cases dividend : a.toModel.unpack with
    | notANumber => rfl
    | zero s' => rfl
    | infinity s' =>
      have first : sign? a.toModel.unpack = some s' := by rw [dividend]; rfl
      rw [withSign_mul first second]
      cases s' <;> rfl
    | finite s' =>
      have first : sign? a.toModel.unpack = some s' := by rw [dividend]; rfl
      rw [withSign_mul first second]
      cases s' <;> rfl
  · next nonzero => simp [quotient?, nonzero]

end Lox.Number
