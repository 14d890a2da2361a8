import Mathlib.Data.BitVec
import Mathlib.Logic.Function.Basic

namespace McuRom
namespace Mmio

/-!
# Register arrays

Word registers one behind the other form an array.  Its entries are a function
of their number; a driver addresses them with an index of the size of an
address, which may be beyond the end.
-/

variable {α : Type} {cells : BitVec 32 → α}

/-- The entry at an index, if there is one. -/
def entryAt {count : Nat} (entries : Fin count → α) (index : BitVec 32) : Option α :=
  if inside : index.toNat < count then some (entries ⟨index.toNat, inside⟩) else none

/-- Replace the entry at an index, if there is one. -/
def setEntry {count : Nat} (entries : Fin count → α) (index : BitVec 32) (value : α) :
    Fin count → α :=
  fun i => if i.val = index.toNat then value else entries i

/-- The entries of a register array. -/
def entries (cells : BitVec 32 → α) (base : BitVec 32) (count : Nat) : Fin count → α :=
  fun i => cells (base + BitVec.ofNat 32 i.val * 4)

/-! ## Writes -/

/-- The offset of an array's register lies within the array. -/
theorem slot_toNat {base : BitVec 32} {count index : Nat} (fits : base.toNat + 4 * count ≤ 2 ^ 32)
    (inside : index < count) : (base + BitVec.ofNat 32 index * 4).toNat = base.toNat + 4 * index := by
  have four : (4 : BitVec 32).toNat = 4 := rfl
  rw [BitVec.toNat_add, BitVec.toNat_mul, BitVec.toNat_ofNat, four]
  omega

/-- An index is the number of its entry. -/
theorem slot_index (base index : BitVec 32) :
    base + BitVec.ofNat 32 index.toNat * 4 = base + index * 4 := by
  rw [BitVec.ofNat_toNat, BitVec.setWidth_eq]

/-- A register outside an array is none of its entries. -/
theorem entries_of_outside {base offset : BitVec 32} {count : Nat}
    (fits : base.toNat + 4 * count ≤ 2 ^ 32)
    (outside : offset.toNat < base.toNat ∨ base.toNat + 4 * count ≤ offset.toNat) (value : α) :
    entries (Function.update cells offset value) base count = entries cells base count := by
  funext i
  apply Function.update_of_ne
  rintro rfl
  rw [slot_toNat fits i.isLt] at outside
  omega

theorem entries_of_inside {base : BitVec 32} {count : Nat} (fits : base.toNat + 4 * count ≤ 2 ^ 32)
    {index : BitVec 32} (inside : index.toNat < count) (value : α) :
    entries (Function.update cells (base + index * 4) value) base count =
      setEntry (entries cells base count) index value := by
  funext i
  have slot := (slot_index base index).symm
  unfold entries setEntry
  by_cases same : i.val = index.toNat
  · rw [if_pos same, slot, same, Function.update_self]
  · rw [if_neg same, slot, Function.update_of_ne]
    intro equal
    have numbers := congrArg BitVec.toNat equal
    rw [slot_toNat fits i.isLt, slot_toNat fits inside] at numbers
    omega

theorem setEntry_of_outside {count : Nat} (content : Fin count → α) {index : BitVec 32}
    (outside : ¬ index.toNat < count) (value : α) : setEntry content index value = content := by
  funext i
  apply if_neg
  rintro same
  exact outside (same ▸ i.isLt)

end Mmio
end McuRom
