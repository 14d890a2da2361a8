import Mathlib.Data.BitVec

namespace McuRom
namespace Mmio

/-!
# Bits of a register

Drivers test a flag with a mask, extract the lowest bits with a mask, and
change some bits with a read-modify-write.
-/

/-- Testing the lowest bit. -/
theorem and_one_ne_zero (word : BitVec 32) : (word &&& 0x01 != 0) = word.getLsbD 0 := by
  have one : (0x01 : BitVec 32) = BitVec.twoPow 32 0 := rfl
  rw [one, BitVec.and_twoPow]
  cases word.getLsbD 0 <;> rfl

/-- Masking the lowest bits. -/
theorem and_mask (word : BitVec 32) (count : Nat) (fits : count ≤ 32) :
    word &&& BitVec.ofNat 32 (2 ^ count - 1) = BitVec.ofNat 32 (word.toNat % 2 ^ count) := by
  have power : 2 ^ count ≤ 2 ^ 32 := Nat.pow_le_pow_right (by decide) fits
  have positive : 0 < 2 ^ count := Nat.two_pow_pos count
  have below := Nat.mod_lt word.toNat positive
  apply BitVec.eq_of_toNat_eq
  rw [BitVec.toNat_and, BitVec.toNat_ofNat, BitVec.toNat_ofNat,
    Nat.mod_eq_of_lt (by omega : 2 ^ count - 1 < 2 ^ 32), Nat.and_two_pow_sub_one_eq_mod,
    Nat.mod_eq_of_lt (by omega : word.toNat % 2 ^ count < 2 ^ 32)]

/-- One bit after a read-modify-write. -/
theorem getLsbD_modified (current mask value : BitVec 32) (bit : Nat) :
    ((current &&& ~~~mask) ||| (value &&& mask)).getLsbD bit =
      if mask.getLsbD bit then value.getLsbD bit else current.getLsbD bit := by
  by_cases inside : bit < 32
  · simp only [BitVec.getLsbD_or, BitVec.getLsbD_and, BitVec.getLsbD_not, inside, decide_true,
      Bool.true_and]
    cases mask.getLsbD bit <;> simp
  · have beyond (word : BitVec 32) : word.getLsbD bit = false :=
      BitVec.getLsbD_of_ge word bit (Nat.not_lt.mp inside)
    simp only [beyond, Bool.false_eq_true, if_false]

end Mmio
end McuRom
