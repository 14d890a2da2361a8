import Mathlib.Algebra.Ring.Nat

namespace McuRom
namespace Mmio

/-!
# Counters read in two halves

A counter that is wider than a register is read in two accesses, and it runs
on in between.  If the low half is read first, the assembled value is never
behind the counter at the first access, but it is ahead of the counter at the
second one whenever the low half has become smaller.
-/

/-- The value assembled from the low part at the first moment and the high part
at the last one. -/
def assembled (modulus first last : Nat) : Nat := last / modulus * modulus + first % modulus

theorem le_assembled {first last : Nat} (increases : first ≤ last) (modulus : Nat) :
    first ≤ assembled modulus first last := by
  calc
    first = first / modulus * modulus + first % modulus := (Nat.div_add_mod' first modulus).symm
    _ ≤ last / modulus * modulus + first % modulus := by
      apply Nat.add_le_add_right
      exact Nat.mul_le_mul_right modulus (Nat.div_le_div_right increases)

theorem assembled_le_iff (modulus first last : Nat) :
    assembled modulus first last ≤ last ↔ first % modulus ≤ last % modulus := by
  have whole := Nat.div_add_mod' last modulus
  unfold assembled
  omega

section Halves

variable {w : Nat}

/-- The low half of a value. -/
def lowHalf (value : BitVec (w + w)) : BitVec w := value.setWidth w

/-- The high half of a value. -/
def highHalf (value : BitVec (w + w)) : BitVec w := (value >>> w).setWidth w

/-- A value from its halves. -/
def joinHalves (high low : BitVec w) : BitVec (w + w) :=
  (high.setWidth (w + w) <<< w) ||| low.setWidth (w + w)

theorem joinHalves_toNat (high low : BitVec w) :
    (joinHalves high low).toNat = high.toNat * 2 ^ w + low.toNat := by
  have highBound := high.isLt
  have lowBound := low.isLt
  have wide : 2 ^ w ≤ 2 ^ (w + w) := Nat.pow_le_pow_right Nat.two_pos (Nat.le_add_left w w)
  have shifted : high.toNat * 2 ^ w < 2 ^ (w + w) := by
    rw [Nat.pow_add]
    exact Nat.mul_lt_mul_of_pos_right highBound (Nat.two_pow_pos w)
  unfold joinHalves
  rw [BitVec.toNat_or, BitVec.toNat_shiftLeft, BitVec.toNat_setWidth, BitVec.toNat_setWidth,
    Nat.mod_eq_of_lt (Nat.lt_of_lt_of_le highBound wide),
    Nat.mod_eq_of_lt (Nat.lt_of_lt_of_le lowBound wide), Nat.shiftLeft_eq,
    Nat.mod_eq_of_lt shifted, ← Nat.shiftLeft_eq, Nat.shiftLeft_add_eq_or_of_lt lowBound]

/-- Halves of different moments give the assembled value. -/
theorem joinHalves_halves (first last : BitVec (w + w)) :
    (joinHalves (highHalf last) (lowHalf first)).toNat =
      assembled (2 ^ w) first.toNat last.toNat := by
  have bounded := last.isLt
  have inside : last.toNat / 2 ^ w < 2 ^ w := by
    rw [Nat.pow_add] at bounded
    exact Nat.div_lt_of_lt_mul bounded
  rw [joinHalves_toNat, highHalf, lowHalf, BitVec.toNat_setWidth, BitVec.toNat_setWidth,
    BitVec.toNat_ushiftRight, Nat.shiftRight_eq_div_pow, Nat.mod_eq_of_lt inside]
  rfl

end Halves

end Mmio
end McuRom
