import McuRom.Gf2.BitPolynomial

namespace McuRom
namespace Gf2

open Polynomial

/-!
# Cyclic redundancy checks

The check value of a message is a remainder modulo `X ^ w + tail`.  Two ways
to take one symbol into it are compared in the quotient ring, in which
`X ^ w` and `tail` are equal: to shift bit by bit, and to multiply with `tail`
and fold the part that does not fit.
-/

variable {w v : Nat}

/-- The generator polynomial. -/
noncomputable def generator (tail : BitVec w) : (ZMod 2)[X] := X ^ w + toPoly tail

theorem generator_monic (tail : BitVec w) : (generator tail).Monic :=
  monic_X_pow_add (degree_toPoly_lt tail)

theorem degree_generator (tail : BitVec w) : (generator tail).degree = w := by
  unfold generator
  rw [degree_add_eq_left_of_degree_lt, degree_X_pow]
  rw [degree_X_pow]
  exact degree_toPoly_lt tail

/-- The class of a polynomial modulo the generator. -/
noncomputable def residue (tail : BitVec w) : (ZMod 2)[X] →+* AdjoinRoot (generator tail) :=
  AdjoinRoot.mk (generator tail)

variable {tail : BitVec w}

theorem residue_eq_iff {left right : (ZMod 2)[X]} :
    residue tail left = residue tail right ↔ generator tail ∣ left - right :=
  AdjoinRoot.mk_eq_mk

variable (tail) in
theorem residue_X_pow : residue tail (X ^ w) = residue tail (toPoly tail) := by
  rw [residue_eq_iff, CharTwo.sub_eq_add]
  exact dvd_refl _

variable (tail) in
/-- The word in a class is the remainder. -/
theorem toPoly_eq_remainder {word : BitVec w} {polynomial : (ZMod 2)[X]}
    (same : residue tail (toPoly word) = residue tail polynomial) :
    toPoly word = polynomial %ₘ generator tail := by
  have small : toPoly word %ₘ generator tail = toPoly word := by
    rw [modByMonic_eq_self_iff (generator_monic tail), degree_generator]
    exact degree_toPoly_lt word
  rw [← small]
  exact modByMonic_eq_of_dvd_sub (generator_monic tail) (residue_eq_iff.mp same)

variable (tail) in
theorem residue_injective {left right : BitVec w}
    (same : residue tail (toPoly left) = residue tail (toPoly right)) : left = right := by
  apply toPoly_injective
  rw [toPoly_eq_remainder tail same]
  exact (toPoly_eq_remainder tail rfl).symm

/-! ## Bit by bit -/

/-- Shift by one bit and reduce. -/
def shiftReduce (tail word : BitVec w) : BitVec w :=
  if word.msb then (word <<< 1) ^^^ tail else word <<< 1

/-- The bit that a shift loses is the highest one. -/
theorem toPoly_mul_X (positive : 0 < w) (word : BitVec w) :
    toPoly word * X = toPoly (word <<< 1) + if word.msb then X ^ w else 0 := by
  have lost : ∀ i, (if word.msb then X ^ w else 0 : (ZMod 2)[X]).coeff i =
      coefficient (word.msb && decide (i = w)) := by
    intro i
    cases word.msb with
    | false => rfl
    | true =>
        rw [if_pos rfl, coeff_X_pow, Bool.true_and]
        by_cases here : i = w
        · rw [if_pos here, decide_eq_true here]
          rfl
        · rw [if_neg here, decide_eq_false here]
          rfl
  ext i
  rw [coeff_add, lost, coeff_toPoly, BitVec.getLsbD_shiftLeft, BitVec.msb_eq_getLsbD_last]
  cases i with
  | zero =>
      rw [mul_coeff_zero, coeff_X_zero, mul_zero, decide_eq_false (Nat.ne_of_lt positive)]
      simp only [Nat.zero_lt_one, decide_true, Bool.not_true, Bool.and_false, Bool.false_and]
      rfl
  | succ i =>
      rw [coeff_mul_X, coeff_toPoly, Nat.add_sub_cancel]
      rcases Nat.lt_trichotomy (i + 1) w with inside | last | outside
      · simp [inside, Nat.ne_of_lt inside, coefficient]
      · subst last
        simp [coefficient]
      · simp [coefficient, BitVec.getLsbD_of_ge word i (by omega), Nat.not_lt.mpr outside.le,
          Nat.ne_of_gt outside]

theorem residue_shiftReduce (positive : 0 < w) (word : BitVec w) :
    residue tail (toPoly (shiftReduce tail word)) = residue tail (toPoly word * X) := by
  rw [toPoly_mul_X positive, shiftReduce]
  cases word.msb with
  | false => rw [if_neg Bool.false_ne_true, if_neg Bool.false_ne_true, add_zero]
  | true =>
      rw [if_pos rfl, if_pos rfl, toPoly_xor, map_add, map_add, residue_X_pow]

theorem residue_shiftReduce_iterate (positive : 0 < w) (word : BitVec w) (count : Nat) :
    residue tail (toPoly ((shiftReduce tail)^[count] word)) =
      residue tail (toPoly word * X ^ count) := by
  induction count generalizing word with
  | zero => rw [pow_zero, mul_one, Function.iterate_zero_apply]
  | succ count ih =>
      rw [Function.iterate_succ_apply, ih, map_mul, residue_shiftReduce positive, ← map_mul,
        mul_assoc, pow_succ']

/-! ## By multiplication -/

/-- The terms of a carry-less product bound it. -/
theorem clmulBits_lt {left right : BitVec w} {bits : Nat}
    (small : ∀ i, right.getLsbD i = true → left.toNat * 2 ^ i < 2 ^ bits) (count : Nat) :
    (clmulBits left right count).toNat < 2 ^ bits := by
  induction count with
  | zero => exact Nat.two_pow_pos bits
  | succ count ih =>
      rw [clmulBits_succ]
      cases bit : right.getLsbD count with
      | false => exact ih
      | true =>
          rw [if_pos rfl, BitVec.toNat_xor]
          apply Nat.xor_lt_two_pow ih
          rw [BitVec.toNat_shiftLeft, Nat.shiftLeft_eq]
          exact Nat.lt_of_le_of_lt (Nat.mod_le _ _) (small count bit)

/-- Multiply with the tail, and once more what is too high. -/
def foldReduce (w : Nat) (tail word : BitVec v) : BitVec w :=
  (clmul word tail ^^^ clmul (clmul word tail >>> w) tail).setWidth w

/-- Factors whose sizes add up have a product of that size. -/
theorem mul_pow_lt {left right : Nat} {word tail : BitVec v} (word_lt : word.toNat < 2 ^ left)
    (tail_lt : tail.toNat < 2 ^ (right + 1)) {i : Nat} (bit : tail.getLsbD i = true) :
    word.toNat * 2 ^ i < 2 ^ (left + right) := by
  have inside : i < right + 1 := by
    by_contra outside
    rw [getLsbD_of_lt tail_lt (Nat.not_lt.mp outside)] at bit
    cases bit
  calc
    word.toNat * 2 ^ i < 2 ^ left * 2 ^ i := Nat.mul_lt_mul_of_pos_right word_lt (Nat.two_pow_pos i)
    _ ≤ 2 ^ left * 2 ^ right :=
      Nat.mul_le_mul_left _ (Nat.pow_le_pow_right Nat.two_pos (Nat.le_of_lt_succ inside))
    _ = 2 ^ (left + right) := (Nat.pow_add 2 left right).symm

theorem toPoly_clmul_of_lt {left right : Nat} {word tail : BitVec v}
    (word_lt : word.toNat < 2 ^ left) (tail_lt : tail.toNat < 2 ^ (right + 1))
    (fits : left + right ≤ v) : toPoly (clmul word tail) = toPoly word * toPoly tail := by
  apply toPoly_clmul
  intro i bit
  have small := mul_pow_lt word_lt tail_lt bit
  have inside : i ≤ v := by
    by_contra outside
    rw [BitVec.getLsbD_of_ge tail i (Nat.le_of_not_le outside)] at bit
    cases bit
  apply Nat.lt_of_mul_lt_mul_right (a := 2 ^ i)
  rw [← Nat.pow_add, Nat.sub_add_cancel inside]
  exact Nat.lt_of_lt_of_le small (Nat.pow_le_pow_right Nat.two_pos fits)

/-- A product that fits does not depend on the order of its factors. -/
theorem clmul_comm_of_lt {left right : Nat} {word tail : BitVec v}
    (word_lt : word.toNat < 2 ^ (left + 1)) (tail_lt : tail.toNat < 2 ^ (right + 1))
    (fits : left + 1 + right ≤ v) : clmul word tail = clmul tail word := by
  have other : right + 1 + left ≤ v := by omega
  apply toPoly_injective
  rw [toPoly_clmul_of_lt word_lt tail_lt fits, toPoly_clmul_of_lt tail_lt word_lt other, mul_comm]

variable (tail) in
/-- One fold is enough for a tail in the lower half of the word.  The product
with the tail stands for `word * X ^ w`, and what it has above `w` bits
is multiplied with the tail again. -/
theorem residue_foldReduce (size : Nat) {word : BitVec v} (word_lt : word.toNat < 2 ^ w)
    (tail_lt : tail.toNat < 2 ^ (size + 1)) (fits : w + size ≤ v) (half : size + size ≤ w)
    (wide : tail.toNat < 2 ^ v) :
    residue tail (toPoly (foldReduce w (tail.setWidth v) word)) =
      residue tail (toPoly word * X ^ w) := by
  have samePoly : toPoly (tail.setWidth v) = toPoly tail := toPoly_setWidth wide
  have sameSize : (tail.setWidth v).toNat < 2 ^ (size + 1) := by
    rw [BitVec.toNat_setWidth]
    exact Nat.lt_of_le_of_lt (Nat.mod_le _ _) tail_lt
  have product := toPoly_clmul_of_lt word_lt sameSize fits
  have product_lt : (clmul word (tail.setWidth v)).toNat < 2 ^ (w + size) :=
    clmulBits_lt (fun i bit => mul_pow_lt word_lt sameSize bit) v
  unfold foldReduce
  generalize clmul word (tail.setWidth v) = first at product product_lt ⊢
  have high_lt : (first >>> w).toNat < 2 ^ size := by
    rw [BitVec.toNat_ushiftRight, Nat.shiftRight_eq_div_pow]
    exact Nat.div_lt_of_lt_mul (Nat.pow_add 2 w size ▸ product_lt)
  have second := toPoly_clmul_of_lt high_lt sameSize (by omega)
  have second_lt : (clmul (first >>> w) (tail.setWidth v)).toNat < 2 ^ w :=
    Nat.lt_of_lt_of_le (clmulBits_lt (fun i bit => mul_pow_lt high_lt sameSize bit) v)
      (Nat.pow_le_pow_right Nat.two_pos half)
  rw [BitVec.setWidth_xor, toPoly_xor, toPoly_setWidth second_lt, second, samePoly]
  calc
    residue tail (toPoly (first.setWidth w) + toPoly (first >>> w) * toPoly tail)
        = residue tail (toPoly (first >>> w) * X ^ w + toPoly (first.setWidth w)) := by
      rw [map_add, map_add, map_mul, map_mul, residue_X_pow, add_comm]
    _ = residue tail (toPoly first) := by rw [← toPoly_split]
    _ = residue tail (toPoly word * X ^ w) := by
      rw [product, samePoly, map_mul, map_mul, residue_X_pow]

/-! ## Messages -/

/-- The polynomial of a message, its first symbol being the highest. -/
noncomputable def messagePoly : List (BitVec w) → (ZMod 2)[X]
  | [] => 0
  | symbol :: rest => toPoly symbol * X ^ (w * rest.length) + messagePoly rest

/-- A step that takes a symbol into the check value. -/
def Absorbs (tail : BitVec w) (step : BitVec w → BitVec w → BitVec w) : Prop :=
  ∀ crc symbol, residue tail (toPoly (step crc symbol)) =
    residue tail ((toPoly crc + toPoly symbol) * X ^ w)

namespace Absorbs

variable {step other : BitVec w → BitVec w → BitVec w}

/-- There is only one such step. -/
theorem unique (absorbs : Absorbs tail step) (others : Absorbs tail other) : step = other := by
  funext crc symbol
  exact residue_injective tail ((absorbs crc symbol).trans (others crc symbol).symm)

theorem residue_foldl (absorbs : Absorbs tail step) (crc : BitVec w)
    (message : List (BitVec w)) :
    residue tail (toPoly (message.foldl step crc)) =
      residue tail (toPoly crc * X ^ (w * message.length) + messagePoly message * X ^ w) := by
  induction message generalizing crc with
  | nil =>
      rw [messagePoly, zero_mul, add_zero, List.length_nil, mul_zero, pow_zero, mul_one]
      rfl
  | cons symbol rest ih =>
      rw [List.foldl_cons, ih, map_add, map_mul, absorbs crc symbol, ← map_mul, ← map_add,
        messagePoly, List.length_cons]
      apply congrArg (residue tail)
      ring

/-- The check value of a message is a remainder. -/
theorem foldl_eq_remainder (absorbs : Absorbs tail step) (crc : BitVec w)
    (message : List (BitVec w)) :
    toPoly (message.foldl step crc) =
      (toPoly crc * X ^ (w * message.length) + messagePoly message * X ^ w) %ₘ generator tail :=
  toPoly_eq_remainder tail (absorbs.residue_foldl crc message)

/-- A message with its check value has the check value zero. -/
theorem step_self (absorbs : Absorbs tail step) (crc : BitVec w) : step crc crc = 0#w := by
  apply residue_injective tail
  rw [absorbs crc crc, CharTwo.add_self_eq_zero, zero_mul, toPoly_zero]

end Absorbs

end Gf2
end McuRom
