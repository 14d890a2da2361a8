import Mathlib

namespace McuRom
namespace Gf2

open Polynomial

/-!
# Words as polynomials over GF(2)

The bits of a word are the coefficients of a polynomial, the lowest bit being
the constant one.  Exclusive or is addition, a shift that loses no bit is a
multiplication by a power of `X`, and `clmul` is multiplication, as far as
the product fits.
-/

/-- The coefficient a bit stands for. -/
def coefficient (bit : Bool) : ZMod 2 := if bit then 1 else 0

theorem coefficient_xor (left right : Bool) :
    coefficient (left ^^ right) = coefficient left + coefficient right := by
  cases left <;> cases right <;> rfl

theorem coefficient_injective : Function.Injective coefficient := by
  intro left right same
  cases left <;> cases right <;> first | rfl | cases same

variable {w v : Nat}

/-- The polynomial with the bits of a word as coefficients. -/
noncomputable def toPoly (word : BitVec w) : (ZMod 2)[X] :=
  ∑ i ∈ Finset.range w, monomial i (coefficient (word.getLsbD i))

theorem coeff_toPoly (word : BitVec w) (i : Nat) :
    (toPoly word).coeff i = coefficient (word.getLsbD i) := by
  simp only [toPoly, finsetSum_coeff, coeff_monomial, Finset.sum_ite_eq', Finset.mem_range]
  by_cases inside : i < w
  · rw [if_pos inside]
  · rw [if_neg inside, BitVec.getLsbD_of_ge word i (Nat.not_lt.mp inside)]
    rfl

/-- Words with the same bits have the same polynomial, whatever their widths. -/
theorem toPoly_congr {left : BitVec w} {right : BitVec v}
    (bits : ∀ i, left.getLsbD i = right.getLsbD i) : toPoly left = toPoly right := by
  ext i
  rw [coeff_toPoly, coeff_toPoly, bits]

theorem toPoly_injective : Function.Injective (toPoly : BitVec w → (ZMod 2)[X]) := by
  intro left right same
  apply BitVec.eq_of_getLsbD_eq
  intro i _
  apply coefficient_injective
  rw [← coeff_toPoly, ← coeff_toPoly, same]

theorem toPoly_zero : toPoly (0#w) = 0 := by
  ext i
  rw [coeff_toPoly, BitVec.getLsbD_zero]
  rfl

theorem toPoly_xor (left right : BitVec w) :
    toPoly (left ^^^ right) = toPoly left + toPoly right := by
  ext i
  rw [coeff_add, coeff_toPoly, coeff_toPoly, coeff_toPoly, BitVec.getLsbD_xor, coefficient_xor]

theorem degree_toPoly_lt (word : BitVec w) : (toPoly word).degree < w := by
  rw [degree_lt_iff_coeff_zero]
  intro i outside
  rw [coeff_toPoly, BitVec.getLsbD_of_ge word i outside]
  rfl

/-! ## Widths and shifts -/

/-- The bits of a small number are low. -/
theorem getLsbD_of_lt {word : BitVec w} {bits : Nat} (small : word.toNat < 2 ^ bits) {i : Nat}
    (outside : bits ≤ i) : word.getLsbD i = false :=
  Nat.testBit_lt_two_pow (Nat.lt_of_lt_of_le small (Nat.pow_le_pow_right Nat.two_pos outside))

/-- A word that fits keeps its polynomial when its width changes. -/
theorem toPoly_setWidth {word : BitVec w} (fits : word.toNat < 2 ^ v) :
    toPoly (word.setWidth v) = toPoly word := by
  apply toPoly_congr
  intro i
  rw [BitVec.getLsbD_setWidth]
  by_cases inside : i < v
  · rw [decide_eq_true inside, Bool.true_and]
  · rw [decide_eq_false inside, Bool.false_and, getLsbD_of_lt fits (Nat.not_lt.mp inside)]

/-- A shift that loses no bit multiplies. -/
theorem toPoly_shiftLeft {word : BitVec w} {count : Nat} (inside : count ≤ w)
    (fits : word.toNat < 2 ^ (w - count)) :
    toPoly (word <<< count) = toPoly word * X ^ count := by
  ext i
  rw [coeff_mul_X_pow', coeff_toPoly, coeff_toPoly, BitVec.getLsbD_shiftLeft]
  by_cases low : i < count
  · rw [if_neg (Nat.not_le.mpr low), decide_eq_true low, Bool.not_true, Bool.and_false,
      Bool.false_and]
    rfl
  · rw [if_pos (Nat.not_lt.mp low), decide_eq_false low, Bool.not_false, Bool.and_true]
    by_cases high : i < w
    · rw [decide_eq_true high, Bool.true_and]
    · rw [decide_eq_false high, Bool.false_and, getLsbD_of_lt fits (by omega)]

/-- A word is its high part, shifted, and its low part. -/
theorem toPoly_split (word : BitVec w) (count : Nat) :
    toPoly word = toPoly (word >>> count) * X ^ count + toPoly (word.setWidth count) := by
  ext i
  rw [coeff_add, coeff_mul_X_pow', coeff_toPoly, coeff_toPoly, coeff_toPoly,
    BitVec.getLsbD_ushiftRight, BitVec.getLsbD_setWidth]
  by_cases low : i < count
  · rw [if_neg (Nat.not_le.mpr low), decide_eq_true low, Bool.true_and, zero_add]
  · rw [if_pos (Nat.not_lt.mp low), decide_eq_false low, Bool.false_and,
      Nat.add_sub_of_le (Nat.not_lt.mp low)]
    exact (add_zero _).symm

/-! ## Carry-less multiplication -/

/-- The sum of the shifted left factor over the first bits of the right one. -/
def clmulBits (left right : BitVec w) (count : Nat) : BitVec w :=
  (List.range count).foldl
    (fun output i => if right.getLsbD i then output ^^^ (left <<< i) else output) 0#w

/-- The low `w` bits of the carry-less product. -/
def clmul (left right : BitVec w) : BitVec w := clmulBits left right w

theorem clmulBits_succ (left right : BitVec w) (count : Nat) :
    clmulBits left right (count + 1) =
      if right.getLsbD count then clmulBits left right count ^^^ (left <<< count)
      else clmulBits left right count := by
  rw [clmulBits, List.range_succ, List.foldl_append]
  rfl

/-- The bits beyond the size of the right factor add nothing. -/
theorem clmul_of_lt {left right : BitVec w} {bits : Nat} (small : right.toNat < 2 ^ bits)
    (inside : bits ≤ w) : clmul left right = clmulBits left right bits := by
  have beyond (more : Nat) : clmulBits left right (bits + more) = clmulBits left right bits := by
    induction more with
    | zero => rfl
    | succ more ih =>
        rw [← Nat.add_assoc, clmulBits_succ, getLsbD_of_lt small (Nat.le_add_right bits more),
          if_neg Bool.false_ne_true, ih]
  have whole := beyond (w - bits)
  rw [Nat.add_sub_of_le inside] at whole
  exact whole

theorem toPoly_clmulBits {left right : BitVec w}
    (fits : ∀ i, right.getLsbD i = true → left.toNat < 2 ^ (w - i)) {count : Nat}
    (inside : count ≤ w) :
    toPoly (clmulBits left right count) =
      toPoly left * ∑ i ∈ Finset.range count, monomial i (coefficient (right.getLsbD i)) := by
  induction count with
  | zero =>
      rw [Finset.sum_range_zero, mul_zero]
      exact toPoly_zero
  | succ count ih =>
      rw [clmulBits_succ, Finset.sum_range_succ, mul_add, ← ih (Nat.le_of_succ_le inside)]
      cases bit : right.getLsbD count with
      | false =>
          have none : monomial count (coefficient false) = 0 := monomial_zero_right count
          rw [if_neg Bool.false_ne_true, none, mul_zero, add_zero]
      | true =>
          rw [if_pos rfl, toPoly_xor, toPoly_shiftLeft (Nat.le_of_succ_le inside) (fits count bit),
            X_pow_eq_monomial]
          rfl

/-- A product that fits is the product of the polynomials. -/
theorem toPoly_clmul {left right : BitVec w}
    (fits : ∀ i, right.getLsbD i = true → left.toNat < 2 ^ (w - i)) :
    toPoly (clmul left right) = toPoly left * toPoly right :=
  toPoly_clmulBits fits (Nat.le_refl w)

end Gf2
end McuRom
