import McuRom.Gf2.ErrorDetection
import McuRom.Romtime.Crc8

namespace McuRom

open Gf2

/-!
# Errors that CRC-8 detects

The generator has a constant term and the root one, and `X` has order 127
modulo it.  So the check value tells a message from every other of its length
that differs in a burst of at most eight bits or in an odd number of bits, and
from one that differs in two bits unless these are a multiple of 127 apart.
-/

open Polynomial in
theorem eval_one_generator : (generator Host.polynomial).eval 1 = 0 := by
  rw [generator_polynomial]
  simp only [eval_add, eval_pow, eval_X, eval_one, one_pow]
  rfl

open Polynomial in
/-- The order of `X` is found by shifting a one until it comes back. -/
theorem orderOf_X : orderOf (residue Host.polynomial X) = 127 := by
  rw [orderOf_eq_iff (by decide)]
  constructor
  · rw [residue_X_pow_eq_one_iff (by decide)]
    decide +kernel
  · intro exponent below positive
    rw [Ne, residue_X_pow_eq_one_iff (by decide)]
    revert below positive
    revert exponent
    decide +kernel

/-- What the check value of a message says about an error in it. -/
structure Detects (init : Byte) (message error : List Byte) : Prop where
  burst : ∀ start, Burst error start 8 → Flips error →
    hostCrc init (corrupt message error) ≠ hostCrc init message
  odd : Odd (weight error) → hostCrc init (corrupt message error) ≠ hostCrc init message
  twoBits : ∀ low high, FlipsTwo error low high →
    (hostCrc init (corrupt message error) = hostCrc init message ↔ 127 ∣ high - low)

/-- Every burst of at most eight bits, every odd number of bits, and every two
bits whose distance is no multiple of 127 are detected, in every message and
from every initial value; two bits at such a distance never are. -/
theorem crc8_detects (init : Byte) {message error : List Byte}
    (lengths : message.length = error.length) : Detects init message error := by
  have missed := Host.absorbs.foldl_corrupt_eq_iff (by decide) (by decide) init lengths
  change hostCrc init (corrupt message error) = hostCrc init message ↔ _ at missed
  constructor
  · intro start burst flips
    rw [Ne, missed]
    exact not_dvd_burst (by decide) (by decide) burst flips
  · intro odd
    rw [Ne, missed]
    exact not_dvd_odd eval_one_generator odd
  · intro low high flips
    rw [missed, dvd_flipsTwo_iff (by decide) (by decide) flips, orderOf_X]

/-- The digits 1 to 9, with the lowest bit of the last one flipped. -/
theorem crc8_detects_digits :
    Detects 0 [0x31, 0x32, 0x33, 0x34, 0x35, 0x36, 0x37, 0x38, 0x39]
      [0, 0, 0, 0, 0, 0, 0, 0, 1] :=
  crc8_detects 0 rfl

end McuRom
