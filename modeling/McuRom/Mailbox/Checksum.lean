import McuRom.Romtime.SocManager
import Mathlib.Data.BitVec

namespace McuRom

/-!
# Mailbox checksums

A checksum is the negated sum of the command's and the payload's bytes, so
that a correct message sums to zero modulo `2 ^ 32`.  That equation determines
the checksum, which is how the encoding of requests and the integrity of
responses are stated.
-/

/-- The sum of bytes as a word. -/
def byteSum : List Byte → Word
  | [] => 0
  | byte :: rest => byte.setWidth 32 + byteSum rest

theorem byteSum_append (first second : List Byte) :
    byteSum (first ++ second) = byteSum first + byteSum second := by
  induction first with
  | nil => exact (zero_add _).symm
  | cons byte rest ih => rw [List.cons_append, byteSum, byteSum, ih, add_assoc]

/-- The accumulating loop of `calc_checksum`. -/
theorem foldl_add_byteSum (bytes : List Byte) (start : Word) :
    bytes.foldl (fun sum byte => sum + byte.setWidth 32) start = start + byteSum bytes := by
  induction bytes generalizing start with
  | nil => exact (add_zero start).symm
  | cons byte rest ih => rw [List.foldl_cons, ih, byteSum, add_assoc]

/-- Masking a shifted word selects a byte. -/
theorem and_mask_eq_byte (word : Word) : word &&& 0xFF = (word.setWidth 8).setWidth 32 := by
  apply BitVec.eq_of_toNat_eq
  simp only [BitVec.toNat_and, BitVec.toNat_setWidth, BitVec.ofNat_eq_ofNat, BitVec.toNat_ofNat]
  rw [show 255 % 2 ^ 32 = 2 ^ 8 - 1 by rfl, Nat.and_two_pow_sub_one_eq_mod]
  omega

/-- `calc_checksum` is the negated byte sum of command and payload. -/
theorem calcChecksum_eq_neg (cmd : Word) (payload : List Byte) :
    calcChecksum cmd payload = -(byteSum (wordBytes cmd) + byteSum payload) := by
  simp only [calcChecksum, and_mask_eq_byte, foldl_add_byteSum]
  rw [BitVec.neg_eq_not_add]
  congr 2
  simp only [wordBytes, byteSum, zero_add, add_zero, add_assoc]

/-- The checksum is the only word that completes its message to zero. -/
theorem eq_calcChecksum_iff (checksum cmd : Word) (payload : List Byte) :
    checksum + byteSum (wordBytes cmd) + byteSum payload = 0 ↔
      checksum = calcChecksum cmd payload := by
  rw [calcChecksum_eq_neg, eq_neg_iff_add_eq_zero, add_assoc]

end McuRom
