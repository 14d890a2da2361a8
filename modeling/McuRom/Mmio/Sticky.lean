import McuRom.Mmio.Device

namespace McuRom
namespace Mmio

/-!
# Registers behind sticky lock bits

A lock register protects other registers with its bit zero: while the bit is
set, writes to what it protects are ignored.  Writing the lock register can
set the bit, but never clear it.
-/

/-- Which registers are lock registers, and which of them protects a register. -/
structure LockMap (A : Type) where
  isLock : A → Bool
  lockOf : A → Option A

variable {A W σ α : Type} {w : Nat}

/-- What every access preserves, a program preserves. -/
theorem Program.run_invariant {dev : Device A W σ} (inv : σ → Prop)
    (reads : ∀ state addr, inv state → inv (dev.read state addr).2)
    (writes : ∀ state addr value, inv state → inv (dev.write state addr value))
    (program : Program A W α) {state : σ} (holds : inv state) :
    inv (program.run dev state).state := by
  induction program generalizing state with
  | ret value => exact holds
  | read addr next ih => exact ih _ (reads state addr holds)
  | write addr value next ih => exact ih (writes state addr value holds)

namespace Device

/-- The lock bit of a lock register. -/
def lockBit (word : BitVec w) : Bool := word &&& 1#w != 0#w

/-- A register is protected while the bit of its lock register is set. -/
def isProtected (map : LockMap A) (file : A → BitVec w) (addr : A) : Bool :=
  match map.lockOf addr with
  | none => false
  | some lock => lockBit (file lock)

variable [DecidableEq A]

/-- A register file with sticky locks. -/
def sticky (map : LockMap A) : Device A (BitVec w) (A → BitVec w) where
  read file addr := (file addr, file)
  write file addr value :=
    if isProtected map file addr then file
    else if map.isLock addr then Function.update file addr (value ||| (file addr &&& 1#w))
    else Function.update file addr value

variable {map : LockMap A} {file : A → BitVec w} {addr lock : A}

theorem sticky_write_protected (locked : isProtected map file addr = true) (value : BitVec w) :
    (sticky map).write file addr value = file :=
  if_pos locked

theorem sticky_write_free (free : isProtected map file addr = false)
    (plain : map.isLock addr = false) (value : BitVec w) :
    (sticky map).write file addr value = Function.update file addr value := by
  simp only [sticky, free, plain, Bool.false_eq_true, if_false]

theorem sticky_write_lock (free : isProtected map file addr = false)
    (isLock : map.isLock addr = true) (value : BitVec w) :
    (sticky map).write file addr value =
      Function.update file addr (value ||| (file addr &&& 1#w)) := by
  simp only [sticky, free, isLock, Bool.false_eq_true, if_false, if_true]

/-- A write touches its own register only. -/
theorem sticky_write_of_ne {other : A} (different : other ≠ addr) (value : BitVec w) :
    (sticky map).write file addr value other = file other := by
  simp only [sticky]
  split
  · rfl
  · split <;> exact Function.update_of_ne different _ _

/-- A bit that is set in either of two words is set in both together. -/
theorem lockBit_or {first second : BitVec w}
    (set : lockBit first = true ∨ lockBit second = true) : lockBit (first ||| second) = true := by
  simp only [lockBit, bne_iff_ne] at set ⊢
  intro cleared
  rw [BitVec.and_or_distrib_right] at cleared
  rcases set with left | right
  · exact left (BitVec.or_eq_zero_iff.mp cleared).1
  · exact right (BitVec.or_eq_zero_iff.mp cleared).2

theorem lockBit_and_one {word : BitVec w} (set : lockBit word = true) :
    lockBit (word &&& 1#w) = true := by
  rw [lockBit, BitVec.and_assoc, BitVec.and_self]
  exact set

/-- A lock that is set stays set, and what it protects keeps its value. -/
theorem sticky_write_keeps (isLock : map.isLock lock = true) (set : lockBit (file lock) = true)
    (addr : A) (value : BitVec w) :
    lockBit ((sticky map).write file addr value lock) = true ∧
      ∀ guarded, map.lockOf guarded = some lock →
        (sticky map).write file addr value guarded = file guarded := by
  constructor
  · by_cases same : lock = addr
    · subst same
      cases locked : isProtected map file lock with
      | true =>
          rw [sticky_write_protected locked]
          exact set
      | false =>
          rw [sticky_write_lock locked isLock, Function.update_self]
          exact lockBit_or (Or.inr (lockBit_and_one set))
    · rw [sticky_write_of_ne same]
      exact set
  · intro guarded owned
    by_cases same : guarded = addr
    · subst same
      have locked : isProtected map file guarded = true := by
        rw [isProtected, owned]
        exact set
      rw [sticky_write_protected locked]
    · exact sticky_write_of_ne same value

end Device

end Mmio
end McuRom
