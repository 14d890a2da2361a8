import McuRom.Mmio.Sticky

namespace McuRom
namespace Mmio

/-!
# Registers that are settled once

Here a lock is a whole word.  A register behind a lock register that holds
this word ignores writes, and the lock register keeps it.  Writing a value and
then the lock therefore settles the register, and settling it again does
nothing.
-/

variable {A W : Type}

/-- A register together with its lock register, after an attempt to settle it. -/
def settle [DecidableEq W] (locked : W) (cell : W × W) : Option W → W × W
  | none => cell
  | some value => if cell.2 = locked then cell else (value, locked)

section Settle

variable [DecidableEq W] {locked : W} {cell : W × W}

theorem settle_locked (isLocked : cell.2 = locked) (value : Option W) :
    settle locked cell value = cell := by
  cases value with
  | none => rfl
  | some value => exact if_pos isLocked

/-- A locked cell survives any attempts. -/
theorem foldl_settle_locked (isLocked : cell.2 = locked) (values : List (Option W)) :
    values.foldl (settle locked) cell = cell := by
  induction values with
  | nil => rfl
  | cons value rest ih => rw [List.foldl_cons, settle_locked isLocked, ih]

/-- An open cell takes the first value there is. -/
theorem foldl_settle_open (isOpen : cell.2 ≠ locked) (values : List (Option W)) :
    values.foldl (settle locked) cell =
      match values.findSome? id with
      | none => cell
      | some value => (value, locked) := by
  induction values with
  | nil => rfl
  | cons value rest ih =>
      cases value with
      | none => exact ih
      | some value =>
          have settled : ((value, locked) : W × W).2 = locked := rfl
          rw [List.foldl_cons, settle, if_neg isOpen]
          exact foldl_settle_locked settled rest

end Settle

namespace Device

variable [DecidableEq A] [DecidableEq W]

/-- Whether the lock of a register, or the register as a lock, is set. -/
def holds (map : LockMap A) (locked : W) (file : A → W) (addr : A) : Bool :=
  match map.lockOf addr with
  | some lock => file lock == locked
  | none => map.isLock addr && file addr == locked

/-- A register file in which locked registers and set locks ignore writes. -/
def writeOnce (map : LockMap A) (locked : W) : Device A W (A → W) where
  read file addr := (file addr, file)
  write file addr value :=
    if holds map locked file addr then file else Function.update file addr value

variable {map : LockMap A} {locked : W} {file : A → W}

theorem writeOnce_write_of_ne {addr other : A} (different : other ≠ addr) (value : W) :
    (writeOnce map locked).write file addr value other = file other := by
  simp only [writeOnce]
  split
  · rfl
  · exact Function.update_of_ne different _ _

theorem writeOnce_writeAll_of_ne {other : A} {list : List (A × W)}
    (different : ∀ entry ∈ list, other ≠ entry.1) :
    (writeOnce map locked).writeAll file list other = file other := by
  induction list generalizing file with
  | nil => rfl
  | cons entry rest ih =>
      rw [writeAll_cons, ih fun later member => different later (List.mem_cons_of_mem _ member),
        writeOnce_write_of_ne (different entry List.mem_cons_self)]

/-- A register that is neither locked nor a lock holds what is written to it. -/
theorem writeOnce_write_free {addr : A} (noLock : map.lockOf addr = none)
    (plain : map.isLock addr = false) (value : W) :
    (writeOnce map locked).write file addr value = Function.update file addr value := by
  simp only [writeOnce, holds, noLock, plain, Bool.false_and, Bool.false_eq_true, if_false]

/-- Writing a register and then its lock settles the two. -/
theorem writeOnce_settles {addr lock : A} (owned : map.lockOf addr = some lock)
    (noLock : map.lockOf lock = none) (isLock : map.isLock lock = true) (different : addr ≠ lock)
    (value : W) :
    (((writeOnce map locked).writeAll file [(addr, value), (lock, locked)]) addr,
        ((writeOnce map locked).writeAll file [(addr, value), (lock, locked)]) lock) =
      settle locked (file addr, file lock) (some value) := by
  rw [writeAll_cons, writeAll_cons, writeAll_nil, settle]
  by_cases isLocked : file lock = locked
  · have ignored : (writeOnce map locked).write file addr value = file := by
      simp only [writeOnce, holds, owned, isLocked, BEq.rfl, if_true]
    have kept : (writeOnce map locked).write file lock locked = file := by
      simp only [writeOnce, holds, noLock, isLock, isLocked, BEq.rfl, Bool.true_and, if_true]
    rw [if_pos isLocked, ignored, kept]
  · have unset : (file lock == locked) = false := beq_eq_false_iff_ne.mpr isLocked
    have written : (writeOnce map locked).write file addr value =
        Function.update file addr value := by
      simp only [writeOnce, holds, owned, unset, Bool.false_eq_true, if_false]
    have set : (writeOnce map locked).write (Function.update file addr value) lock locked =
        Function.update (Function.update file addr value) lock locked := by
      simp only [writeOnce, holds, noLock, isLock, Function.update_of_ne different.symm, unset,
        Bool.true_and, Bool.false_eq_true, if_false]
    rw [if_neg isLocked, written, set, Function.update_self, Function.update_of_ne different,
      Function.update_self]

end Device

end Mmio
end McuRom
