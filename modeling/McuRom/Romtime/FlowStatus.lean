import McuRom.Romtime.Mci

namespace McuRom

/-!
# The flow status word

A flow status word is a milestone half above a checkpoint half.  Setting a
checkpoint replaces the low half; setting a milestone adds bits to the high
half.
-/

namespace Mci

/-- The word with the given halves. -/
def flowWord (milestone checkpoint : HalfWord) : Word :=
  milestone.setWidth 32 <<< 16 ||| checkpoint.setWidth 32

theorem toNat_flowWord (milestone checkpoint : HalfWord) :
    (flowWord milestone checkpoint).toNat = milestone.toNat * 2 ^ 16 + checkpoint.toNat := by
  have low := checkpoint.isLt
  have high := milestone.isLt
  rw [flowWord, BitVec.toNat_or, BitVec.toNat_shiftLeft, BitVec.toNat_setWidth,
    BitVec.toNat_setWidth, Nat.mod_eq_of_lt (show milestone.toNat < 2 ^ 32 by omega),
    Nat.mod_eq_of_lt (show checkpoint.toNat < 2 ^ 32 by omega), Nat.shiftLeft_eq,
    Nat.mod_eq_of_lt (by omega), ← Nat.shiftLeft_eq, ← Nat.shiftLeft_add_eq_or_of_lt low]

theorem toNat_milestoneOf (status : Word) : (milestoneOf status).toNat = status.toNat / 2 ^ 16 := by
  have bounded := status.isLt
  rw [milestoneOf, BitVec.toNat_setWidth, BitVec.toNat_ushiftRight, Nat.shiftRight_eq_div_pow]
  omega

theorem toNat_checkpointOf (status : Word) :
    (checkpointOf status).toNat = status.toNat % 2 ^ 16 := by
  rw [checkpointOf, BitVec.toNat_setWidth, BitVec.toNat_and, BitVec.ofNat_eq_ofNat,
    BitVec.toNat_ofNat, show 65535 % 2 ^ 32 = 2 ^ 16 - 1 by rfl, Nat.and_two_pow_sub_one_eq_mod]
  omega

@[simp] theorem milestoneOf_flowWord (milestone checkpoint : HalfWord) :
    milestoneOf (flowWord milestone checkpoint) = milestone := by
  have low := checkpoint.isLt
  apply BitVec.eq_of_toNat_eq
  rw [toNat_milestoneOf, toNat_flowWord]
  omega

@[simp] theorem checkpointOf_flowWord (milestone checkpoint : HalfWord) :
    checkpointOf (flowWord milestone checkpoint) = checkpoint := by
  have low := checkpoint.isLt
  apply BitVec.eq_of_toNat_eq
  rw [toNat_checkpointOf, toNat_flowWord]
  omega

/-- Every word has its halves. -/
theorem flowWord_halves (status : Word) :
    flowWord (milestoneOf status) (checkpointOf status) = status := by
  apply BitVec.eq_of_toNat_eq
  rw [toNat_flowWord, toNat_milestoneOf, toNat_checkpointOf]
  omega

/-- Or-ing a shifted milestone into a word leaves its checkpoint alone. -/
theorem milestone_or_eq (milestone : HalfWord) (status : Word) :
    milestone.setWidth 32 <<< 16 ||| status =
      flowWord (milestone ||| milestoneOf status) (checkpointOf status) := by
  conv => lhs; rw [← flowWord_halves status]
  rw [flowWord, flowWord, BitVec.setWidth_or, BitVec.shiftLeft_or_distrib, BitVec.or_assoc]

end Mci

end McuRom
