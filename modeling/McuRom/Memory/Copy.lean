import Mathlib.Data.BitVec
import Mathlib.Logic.Function.Basic

namespace McuRom
namespace Memory

/-!
# Copying within a memory

A memory gives every address its content.  A copy upwards or downwards goes
through the target and the source in step, one cell at a time, and reads what
it has written itself if the two overlap the wrong way.

Ranges are written with natural numbers: `[start, start + count)` stands for
the addresses of that many cells, and ends at the end of the address space
at the latest.
-/

variable {w : Nat} {β : Type}

/-- Copy `count` cells, the first one first. -/
def copyUp (memory : BitVec w → β) (dest src : BitVec w) : Nat → BitVec w → β
  | 0 => memory
  | count + 1 => copyUp (Function.update memory dest (memory src)) (dest + 1) (src + 1) count

/-- Copy the `count` cells in front of the pointers, the last one first. -/
def copyDown (memory : BitVec w → β) (dest src : BitVec w) : Nat → BitVec w → β
  | 0 => memory
  | count + 1 =>
    copyDown (Function.update memory (dest - 1) (memory (src - 1))) (dest - 1) (src - 1) count

/-- The cells of a range have the old contents of another, and no other cell
has changed. -/
structure Copied (before after : BitVec w → β) (dest src count : Nat) : Prop where
  copied : ∀ i < count, after (BitVec.ofNat w (dest + i)) = before (BitVec.ofNat w (src + i))
  unchanged : ∀ addr : BitVec w, ¬ (dest ≤ addr.toNat ∧ addr.toNat < dest + count) →
    after addr = before addr

/-- The ranges do not meet. -/
def Apart (first second count : Nat) : Prop := first + count ≤ second ∨ second + count ≤ first

instance (first second count : Nat) : Decidable (Apart first second count) :=
  inferInstanceAs (Decidable (_ ∨ _))

/-! ## Addresses -/

theorem ofNat_inj_of_lt {first second : Nat} (first_lt : first < 2 ^ w) (second_lt : second < 2 ^ w)
    (same : BitVec.ofNat w first = BitVec.ofNat w second) : first = second := by
  have numbers := congrArg BitVec.toNat same
  rw [BitVec.toNat_ofNat, BitVec.toNat_ofNat, Nat.mod_eq_of_lt first_lt,
    Nat.mod_eq_of_lt second_lt] at numbers
  exact numbers

theorem ofNat_succ (addr : Nat) : BitVec.ofNat w addr + 1 = BitVec.ofNat w (addr + 1) :=
  (BitVec.ofNat_add addr 1).symm

theorem ofNat_pred (addr : Nat) : BitVec.ofNat w (addr + 1) - 1 = BitVec.ofNat w addr := by
  rw [← ofNat_succ, BitVec.add_sub_cancel]

/-- An address as a number, from a pointer and an offset. -/
theorem add_ofNat (start : BitVec w) (offset : Nat) :
    start + BitVec.ofNat w offset = BitVec.ofNat w (start.toNat + offset) := by
  rw [BitVec.ofNat_add, BitVec.ofNat_toNat, BitVec.setWidth_eq]

theorem ofNat_toNat_self (addr : BitVec w) : BitVec.ofNat w addr.toNat = addr := by
  rw [BitVec.ofNat_toNat, BitVec.setWidth_eq]

/-! ## What a copy does -/

variable {before after other : BitVec w → β} {dest src count : Nat}

/-- An address outside a range, as a number. -/
theorem unchanged_at {start place : Nat}
    (unchanged : ∀ addr : BitVec w, ¬ (start ≤ addr.toNat ∧ addr.toNat < start + count) →
      after addr = before addr)
    (fits : place < 2 ^ w) (outside : ¬ (start ≤ place ∧ place < start + count)) :
    after (BitVec.ofNat w place) = before (BitVec.ofNat w place) := by
  apply unchanged
  rw [BitVec.toNat_ofNat, Nat.mod_eq_of_lt fits]
  exact outside

/-- A copy is determined by what it has to do. -/
theorem Copied.unique (copied : Copied before after dest src count)
    (alsoCopied : Copied before other dest src count) : after = other := by
  funext addr
  by_cases inside : dest ≤ addr.toNat ∧ addr.toNat < dest + count
  · have offset : addr.toNat - dest < count := by omega
    have target : BitVec.ofNat w (dest + (addr.toNat - dest)) = addr := by
      rw [Nat.add_sub_cancel' inside.1, ofNat_toNat_self]
    rw [← target, copied.copied _ offset, alsoCopied.copied _ offset]
  · rw [copied.unchanged addr inside, alsoCopied.unchanged addr inside]

/-- One more cell in front, copied first. -/
theorem Copied.cons (dest_fits : dest + (count + 1) ≤ 2 ^ w) (src_fits : src + (count + 1) ≤ 2 ^ w)
    (intact : ∀ i < count, src + 1 + i ≠ dest)
    (copied : Copied (Function.update before (BitVec.ofNat w dest) (before (BitVec.ofNat w src)))
      after (dest + 1) (src + 1) count) : Copied before after dest src (count + 1) := by
  constructor
  · intro i bound
    cases i with
    | zero =>
        have elsewhere := unchanged_at copied.unchanged (by omega : dest < 2 ^ w) (by omega)
        rw [Nat.add_zero, Nat.add_zero, elsewhere, Function.update_self]
    | succ i =>
        have smaller : i < count := Nat.lt_of_succ_lt_succ bound
        have sourceIntact : BitVec.ofNat w (src + 1 + i) ≠ BitVec.ofNat w dest := by
          intro same
          exact intact i smaller (ofNat_inj_of_lt (by omega) (by omega) same)
        have later := copied.copied i smaller
        rw [Function.update_of_ne sourceIntact, Nat.add_assoc, Nat.add_comm 1 i,
          Nat.add_assoc src, Nat.add_comm 1 i] at later
        exact later
  · intro addr outside
    have elsewhere : addr ≠ BitVec.ofNat w dest := by
      rintro rfl
      rw [BitVec.toNat_ofNat, Nat.mod_eq_of_lt (by omega)] at outside
      omega
    rw [copied.unchanged addr (by omega), Function.update_of_ne elsewhere]

/-- One more cell behind, copied first. -/
theorem Copied.snoc (dest_fits : dest + (count + 1) ≤ 2 ^ w) (src_fits : src + (count + 1) ≤ 2 ^ w)
    (intact : ∀ i < count, src + i ≠ dest + count)
    (copied : Copied (Function.update before (BitVec.ofNat w (dest + count))
      (before (BitVec.ofNat w (src + count)))) after dest src count) :
    Copied before after dest src (count + 1) := by
  constructor
  · intro i bound
    rcases Nat.lt_succ_iff_lt_or_eq.mp bound with smaller | rfl
    · have sourceIntact : BitVec.ofNat w (src + i) ≠ BitVec.ofNat w (dest + count) := fun same =>
        intact i smaller (ofNat_inj_of_lt (by omega) (by omega) same)
      rw [copied.copied i smaller, Function.update_of_ne sourceIntact]
    · have elsewhere := copied.unchanged (BitVec.ofNat w (dest + i)) (by
        rw [BitVec.toNat_ofNat, Nat.mod_eq_of_lt (by omega)]
        omega)
      rw [elsewhere, Function.update_self]
  · intro addr outside
    have elsewhere : addr ≠ BitVec.ofNat w (dest + count) := by
      rintro rfl
      rw [BitVec.toNat_ofNat, Nat.mod_eq_of_lt (by omega)] at outside
      omega
    rw [copied.unchanged addr (by omega), Function.update_of_ne elsewhere]

theorem Copied.none (memory : BitVec w → β) (dest src : Nat) : Copied memory memory dest src 0 :=
  ⟨fun _ impossible => absurd impossible (Nat.not_lt_zero _), fun _ _ => rfl⟩

/-- Copies of adjoining ranges are one copy, if the first does not write into
the source of the second. -/
theorem Copied.append {middle : BitVec w → β} {more : Nat}
    (first : Copied before middle dest src count)
    (second : Copied middle after (dest + count) (src + count) more)
    (dest_fits : dest + (count + more) ≤ 2 ^ w) (src_fits : src + (count + more) ≤ 2 ^ w)
    (apart : Apart dest src (count + more)) : Copied before after dest src (count + more) := by
  constructor
  · intro i bound
    by_cases early : i < count
    · have kept := second.unchanged (BitVec.ofNat w (dest + i)) (by
        rw [BitVec.toNat_ofNat, Nat.mod_eq_of_lt (by omega)]
        omega)
      rw [kept, first.copied i early]
    · have later := second.copied (i - count) (by omega)
      have notWritten : ¬ (dest ≤ src + i ∧ src + i < dest + count) := by
        unfold Apart at apart
        omega
      have source := unchanged_at first.unchanged (by omega : src + i < 2 ^ w) notWritten
      rw [Nat.add_assoc, Nat.add_assoc, Nat.add_sub_cancel' (Nat.not_lt.mp early), source] at later
      exact later
  · intro addr outside
    rw [second.unchanged addr (by omega), first.unchanged addr (by omega)]

/-- Upwards, a source that does not begin below the target is read before it
is written; so is one that ends before the target. -/
theorem copyUp_copied (memory : BitVec w → β) (dest_fits : dest + count ≤ 2 ^ w)
    (src_fits : src + count ≤ 2 ^ w) (direction : dest ≤ src ∨ src + count ≤ dest) :
    Copied memory (copyUp memory (BitVec.ofNat w dest) (BitVec.ofNat w src) count)
      dest src count := by
  induction count generalizing memory dest src with
  | zero => exact Copied.none memory dest src
  | succ count ih =>
      have intact (i : Nat) (bound : i < count) : src + 1 + i ≠ dest := by omega
      apply Copied.cons dest_fits src_fits intact
      rw [copyUp, ofNat_succ, ofNat_succ]
      apply ih <;> omega

/-- Downwards, so is a source that does not begin above it. -/
theorem copyDown_copied (memory : BitVec w → β) (dest_fits : dest + count ≤ 2 ^ w)
    (src_fits : src + count ≤ 2 ^ w) (direction : src ≤ dest) :
    Copied memory
      (copyDown memory (BitVec.ofNat w (dest + count)) (BitVec.ofNat w (src + count)) count)
      dest src count := by
  induction count generalizing memory with
  | zero => exact Copied.none memory dest src
  | succ count ih =>
      have intact (i : Nat) (bound : i < count) : src + i ≠ dest + count := by omega
      apply Copied.snoc dest_fits src_fits intact
      rw [copyDown, ← Nat.add_assoc, ← Nat.add_assoc, ofNat_pred, ofNat_pred]
      apply ih <;> omega

end Memory
end McuRom
