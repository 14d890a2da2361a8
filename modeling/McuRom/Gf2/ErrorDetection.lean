import McuRom.Gf2.Crc

namespace McuRom
namespace Gf2

open Polynomial

/-!
# What a cyclic redundancy check detects

Two messages of the same length have the same check value exactly when the
generator divides their difference.  With a generator whose constant term is
one, that excludes every error confined to as many consecutive bits as the
check value has; with a generator that has the root one, every error in an odd
number of bits; and an error in two bits is missed exactly when their distance
is a multiple of the order of `X`.
-/

variable {w : Nat}

/-! ## Errors in messages -/

/-- Flip the bits of a message that are set in an error of the same length. -/
def corrupt (message error : List (BitVec w)) : List (BitVec w) :=
  List.zipWith (fun symbol flips => symbol ^^^ flips) message error

/-- The bits of an error, counted from the last one of its last symbol. -/
def errorBit : List (BitVec w) → Nat → Bool
  | [], _ => false
  | symbol :: rest, i =>
      if i < w * rest.length then errorBit rest i else symbol.getLsbD (i - w * rest.length)

theorem errorBit_of_le (error : List (BitVec w)) {i : Nat} (outside : w * error.length ≤ i) :
    errorBit error i = false := by
  cases error with
  | nil => rfl
  | cons symbol rest =>
      rw [List.length_cons, Nat.mul_add, Nat.mul_one] at outside
      rw [errorBit, if_neg (by omega)]
      exact BitVec.getLsbD_of_ge symbol _ (by omega)

/-- The bits of an error are the coefficients of its polynomial. -/
theorem coeff_messagePoly (error : List (BitVec w)) (i : Nat) :
    (messagePoly error).coeff i = coefficient (errorBit error i) := by
  induction error with
  | nil => rfl
  | cons symbol rest ih =>
      rw [messagePoly, coeff_add, coeff_mul_X_pow', ih, errorBit]
      by_cases low : i < w * rest.length
      · rw [if_neg (Nat.not_le.mpr low), if_pos low, zero_add]
      · rw [if_pos (Nat.not_lt.mp low), if_neg low, coeff_toPoly,
          errorBit_of_le rest (Nat.not_lt.mp low)]
        exact add_zero _

/-- A corrupted message is the sum of the message and the error. -/
theorem messagePoly_corrupt {message error : List (BitVec w)}
    (lengths : message.length = error.length) :
    messagePoly (corrupt message error) = messagePoly message + messagePoly error := by
  induction message generalizing error with
  | nil =>
      cases error with
      | nil => exact (add_zero _).symm
      | cons => cases lengths
  | cons symbol rest ih =>
      cases error with
      | nil => cases lengths
      | cons flips more =>
          have shorter : rest.length = more.length := Nat.succ.inj lengths
          have same : (corrupt rest more).length = more.length := by
            rw [corrupt, List.length_zipWith, shorter, Nat.min_self]
          change messagePoly ((symbol ^^^ flips) :: corrupt rest more) = _
          rw [messagePoly, messagePoly, messagePoly, ih shorter, toPoly_xor, same, shorter]
          ring

/-! ## Undetected errors -/

variable {tail : BitVec w} {step : BitVec w → BitVec w → BitVec w}

theorem coeff_generator_zero (positive : 0 < w) (odd : tail.getLsbD 0 = true) :
    (generator tail).coeff 0 = 1 := by
  rw [generator, coeff_add, coeff_toPoly, odd, coeff_X_pow, if_neg (Nat.ne_of_lt positive), zero_add]
  rfl

/-- A generator with a constant term has no factor in common with a power of
`X`. -/
theorem isCoprime_generator_X_pow (positive : 0 < w) (odd : tail.getLsbD 0 = true)
    (exponent : Nat) : IsCoprime (generator tail) ((X : (ZMod 2)[X]) ^ exponent) := by
  apply IsCoprime.pow_right
  apply IsCoprime.symm
  rw [irreducible_X.coprime_iff_not_dvd, X_dvd_iff, coeff_generator_zero positive odd]
  exact one_ne_zero

theorem length_corrupt {message error : List (BitVec w)} (lengths : message.length = error.length) :
    (corrupt message error).length = message.length := by
  rw [corrupt, List.length_zipWith, lengths, Nat.min_self]

/-- An error is missed exactly when the generator divides it. -/
theorem Absorbs.foldl_corrupt_eq_iff (absorbs : Absorbs tail step) (positive : 0 < w)
    (odd : tail.getLsbD 0 = true) (init : BitVec w) {message error : List (BitVec w)}
    (lengths : message.length = error.length) :
    (corrupt message error).foldl step init = message.foldl step init ↔
      generator tail ∣ messagePoly error := by
  have byResidue : (corrupt message error).foldl step init = message.foldl step init ↔
      residue tail (toPoly ((corrupt message error).foldl step init)) =
        residue tail (toPoly (message.foldl step init)) :=
    ⟨fun same => congrArg (fun word => residue tail (toPoly word)) same, residue_injective tail⟩
  rw [byResidue, absorbs.residue_foldl, absorbs.residue_foldl, length_corrupt lengths,
    messagePoly_corrupt lengths, residue_eq_iff]
  have difference : toPoly init * X ^ (w * message.length) +
      (messagePoly message + messagePoly error) * X ^ w -
      (toPoly init * X ^ (w * message.length) + messagePoly message * X ^ w) =
      messagePoly error * X ^ w := by ring
  rw [difference]
  exact ⟨(isCoprime_generator_X_pow positive odd w).dvd_of_dvd_mul_right,
    fun divides => divides.mul_right _⟩

/-! ## Bursts -/

/-- The bits set in an error lie within `length` consecutive positions. -/
def Burst (error : List (BitVec w)) (start length : Nat) : Prop :=
  ∀ i, errorBit error i = true → start ≤ i ∧ i < start + length

/-- Some bit of the error is set. -/
def Flips (error : List (BitVec w)) : Prop := ∃ i, errorBit error i = true

theorem messagePoly_ne_zero {error : List (BitVec w)} (flips : Flips error) :
    messagePoly error ≠ 0 := by
  rcases flips with ⟨i, set⟩
  intro zero
  have bit := coeff_messagePoly error i
  rw [zero, set] at bit
  cases bit

/-- A burst is a short polynomial, shifted. -/
theorem messagePoly_burst {error : List (BitVec w)} {start length : Nat}
    (burst : Burst error start length) :
    ∃ short : (ZMod 2)[X], messagePoly error = X ^ start * short ∧ short.degree < length := by
  have divides : X ^ start ∣ messagePoly error := by
    rw [X_pow_dvd_iff]
    intro i low
    rw [coeff_messagePoly]
    cases set : errorBit error i with
    | false => rfl
    | true => exact absurd (burst i set).1 (Nat.not_le.mpr low)
  rcases divides with ⟨short, equal⟩
  refine ⟨short, equal, ?_⟩
  rw [degree_lt_iff_coeff_zero]
  intro i high
  have bit := coeff_messagePoly error (i + start)
  rw [equal, coeff_X_pow_mul] at bit
  rw [bit]
  cases set : errorBit error (i + start) with
  | false => rfl
  | true =>
      have inside := (burst _ set).2
      omega

/-- No burst that fits into the check value is missed. -/
theorem not_dvd_burst (positive : 0 < w) (odd : tail.getLsbD 0 = true)
    {error : List (BitVec w)} {start : Nat} (burst : Burst error start w) (flips : Flips error) :
    ¬ generator tail ∣ messagePoly error := by
  rcases messagePoly_burst burst with ⟨short, equal, small⟩
  intro divides
  rw [equal] at divides
  have shortDivides := (isCoprime_generator_X_pow positive odd start).dvd_of_dvd_mul_left divides
  have zero : short = 0 := by
    apply eq_zero_of_dvd_of_degree_lt shortDivides
    rwa [degree_generator]
  apply messagePoly_ne_zero flips
  rw [equal, zero, mul_zero]

/-! ## Odd numbers of bits -/

/-- The number of bits an error flips. -/
def weight (error : List (BitVec w)) : Nat :=
  ((Finset.range (w * error.length)).filter fun i => errorBit error i = true).card

theorem messagePoly_eq_sum (error : List (BitVec w)) :
    messagePoly error =
      ∑ i ∈ Finset.range (w * error.length), monomial i (coefficient (errorBit error i)) := by
  ext i
  simp only [finsetSum_coeff, coeff_monomial, Finset.sum_ite_eq', Finset.mem_range,
    coeff_messagePoly]
  by_cases inside : i < w * error.length
  · rw [if_pos inside]
  · rw [if_neg inside, errorBit_of_le error (Nat.not_lt.mp inside)]
    rfl

/-- At one, the polynomial of an error counts its bits modulo two. -/
theorem eval_one_messagePoly (error : List (BitVec w)) :
    (messagePoly error).eval 1 = (weight error : ZMod 2) := by
  rw [messagePoly_eq_sum, eval_finsetSum, weight, Finset.natCast_card_filter]
  apply Finset.sum_congr rfl
  intro i _
  rw [eval_monomial, one_pow, mul_one]
  rfl

/-- With a generator that has the root one, no odd number of bits is missed. -/
theorem not_dvd_odd (root : (generator tail).eval 1 = 0) {error : List (BitVec w)}
    (odd : Odd (weight error)) : ¬ generator tail ∣ messagePoly error := by
  rintro ⟨factor, equal⟩
  have value := congrArg (eval 1) equal
  rw [eval_mul, root, zero_mul, eval_one_messagePoly, ZMod.natCast_eq_zero_iff_even] at value
  exact Nat.not_even_iff_odd.mpr odd value

/-! ## Two bits -/

/-- The error flips these two bits and no other. -/
def FlipsTwo (error : List (BitVec w)) (low high : Nat) : Prop :=
  low < high ∧ ∀ i, errorBit error i = true ↔ i = low ∨ i = high

theorem messagePoly_flipsTwo {error : List (BitVec w)} {low high : Nat}
    (flips : FlipsTwo error low high) :
    messagePoly error = X ^ low * (X ^ (high - low) - 1) := by
  have same : messagePoly error = X ^ low + X ^ high := by
    ext i
    rw [coeff_messagePoly, coeff_add, coeff_X_pow, coeff_X_pow]
    have apart := flips.1
    cases set : errorBit error i with
    | true =>
        rcases (flips.2 i).mp set with rfl | rfl
        · rw [if_pos rfl, if_neg (by omega)]
          rfl
        · rw [if_neg (by omega), if_pos rfl]
          rfl
    | false =>
        have neither := mt (flips.2 i).mpr (by rw [set]; exact Bool.false_ne_true)
        rw [if_neg fun equal => neither (Or.inl equal), if_neg fun equal => neither (Or.inr equal)]
        rfl
  rw [same, mul_sub, mul_one, ← pow_add, Nat.add_sub_cancel' flips.1.le, CharTwo.sub_eq_add,
    add_comm]

/-- An error in two bits is missed exactly when `X` to their distance is one. -/
theorem dvd_flipsTwo_iff (positive : 0 < w) (odd : tail.getLsbD 0 = true)
    {error : List (BitVec w)} {low high : Nat} (flips : FlipsTwo error low high) :
    generator tail ∣ messagePoly error ↔ orderOf (residue tail X) ∣ high - low := by
  rw [messagePoly_flipsTwo flips, orderOf_dvd_iff_pow_eq_one, ← map_pow, ← map_one (residue tail),
    residue_eq_iff]
  exact ⟨(isCoprime_generator_X_pow positive odd low).dvd_of_dvd_mul_left,
    fun divides => divides.mul_left _⟩

/-- Powers of `X` are computed by shifting a one. -/
theorem residue_X_pow_eq_one_iff (wide : 1 < w) (exponent : Nat) :
    residue tail X ^ exponent = 1 ↔ (shiftReduce tail)^[exponent] 1#w = 1#w := by
  have one : toPoly (1#w) = 1 := by
    ext i
    rw [coeff_toPoly, coeff_one, BitVec.getLsbD_one, decide_eq_true (Nat.lt_of_succ_lt wide),
      Bool.true_and]
    by_cases first : i = 0
    · rw [if_pos first, decide_eq_true first]
      rfl
    · rw [if_neg first, decide_eq_false first]
      rfl
  have shifted := @residue_shiftReduce_iterate w tail (Nat.lt_of_succ_lt wide) 1#w exponent
  rw [one, one_mul] at shifted
  rw [← map_pow, ← shifted]
  constructor
  · intro same
    apply residue_injective tail
    rw [same, one, map_one]
  · intro same
    rw [same, one, map_one]

end Gf2
end McuRom
