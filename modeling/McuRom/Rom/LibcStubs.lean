import McuRom.Common.Types
import McuRom.Memory.Copy

namespace McuRom

open Memory

/-!
# memcpy and memmove

The ROM brings its own copy functions.  `memmove` copies upwards if the target
lies below the source and downwards otherwise, which is the direction in which
no byte is overwritten before it has been read; `memcpy` always copies
upwards, which does as well for ranges that do not meet.
-/

/-- Minimal memcpy implementation; the loop counts `count` down to zero. -/
def memcpy (memory : Word → Byte) (dest src : Word) (count : SizeT) : Word × (Word → Byte) :=
  (dest, copyUp memory dest src count.toNat)

/-- Minimal memmove implementation -/
def memmove (memory : Word → Byte) (dest src : Word) (count : SizeT) : Word × (Word → Byte) :=
  if dest < src then (dest, copyUp memory dest src count.toNat)
  else (dest, copyDown memory (dest + count) (src + count) count.toNat)

/-- The arguments of a call whose ranges do not wrap around. -/
structure CopyArguments where
  dest : Word
  src : Word
  count : SizeT
  dest_fits : dest.toNat + count.toNat ≤ 2 ^ 32
  src_fits : src.toNat + count.toNat ≤ 2 ^ 32

namespace CopyArguments

variable (arguments : CopyArguments) (memory : Word → Byte)

/-- `memmove` moves the bytes of the source, whatever the overlap, and changes
nothing else; `memcpy` does the same where there is no overlap. -/
structure MovesBytes : Prop where
  returned : (memmove memory arguments.dest arguments.src arguments.count).1 = arguments.dest
  moved : ∀ i < arguments.count.toNat,
    (memmove memory arguments.dest arguments.src arguments.count).2
        (arguments.dest + BitVec.ofNat 32 i) = memory (arguments.src + BitVec.ofNat 32 i)
  unchanged : ∀ addr : Word,
    ¬ (arguments.dest.toNat ≤ addr.toNat ∧
        addr.toNat < arguments.dest.toNat + arguments.count.toNat) →
      (memmove memory arguments.dest arguments.src arguments.count).2 addr = memory addr
  memcpyAgrees : Apart arguments.dest.toNat arguments.src.toNat arguments.count.toNat →
    memcpy memory arguments.dest arguments.src arguments.count =
      memmove memory arguments.dest arguments.src arguments.count

theorem memmove_fst :
    (memmove memory arguments.dest arguments.src arguments.count).1 = arguments.dest := by
  unfold memmove
  split <;> rfl

/-- The end of a range, as the pointer of a copy downwards. -/
theorem end_eq (start : Word) (count : SizeT) :
    start + count = BitVec.ofNat 32 (start.toNat + count.toNat) := by
  rw [BitVec.ofNat_add, ofNat_toNat_self, ofNat_toNat_self]

theorem memmove_copied :
    Copied memory (memmove memory arguments.dest arguments.src arguments.count).2
      arguments.dest.toNat arguments.src.toNat arguments.count.toNat := by
  unfold memmove
  by_cases below : arguments.dest < arguments.src
  · have upwards := copyUp_copied memory arguments.dest_fits arguments.src_fits
      (Or.inl (Nat.le_of_lt below))
    rw [ofNat_toNat_self, ofNat_toNat_self] at upwards
    rw [if_pos below]
    exact upwards
  · have downwards := copyDown_copied memory arguments.dest_fits arguments.src_fits
      (Nat.le_of_not_lt below)
    rw [← end_eq, ← end_eq] at downwards
    rw [if_neg below]
    exact downwards

theorem memcpy_copied
    (apart : Apart arguments.dest.toNat arguments.src.toNat arguments.count.toNat) :
    Copied memory (memcpy memory arguments.dest arguments.src arguments.count).2
      arguments.dest.toNat arguments.src.toNat arguments.count.toNat := by
  have direction : arguments.dest.toNat ≤ arguments.src.toNat ∨
      arguments.src.toNat + arguments.count.toNat ≤ arguments.dest.toNat :=
    apart.imp_left fun below => Nat.le_of_add_right_le below
  have upwards := copyUp_copied memory arguments.dest_fits arguments.src_fits direction
  rw [ofNat_toNat_self, ofNat_toNat_self] at upwards
  exact upwards

/-- Copying is right for every overlap. -/
theorem memmove_movesBytes : arguments.MovesBytes memory := by
  have copied := memmove_copied arguments memory
  refine ⟨memmove_fst arguments memory, fun i bound => ?_, copied.unchanged, fun apart => ?_⟩
  · rw [add_ofNat, add_ofNat]
    exact copied.copied i bound
  · have same := (memcpy_copied arguments memory apart).unique copied
    exact Prod.ext (memmove_fst arguments memory).symm same

/-- Five bytes that are moved up by two. -/
def overlapping : CopyArguments := ⟨0x40000002, 0x40000000, 5, by decide, by decide⟩

/-- A memory whose bytes are the low bytes of their addresses. -/
def lowBytes (addr : Word) : Byte := addr.setWidth 8

/-- Three of the five bytes are in both ranges, and still they are moved. -/
theorem memmove_movesBytes_overlapping :
    ¬ Apart overlapping.dest.toNat overlapping.src.toNat overlapping.count.toNat ∧
      ∀ i < 5, (memmove lowBytes overlapping.dest overlapping.src overlapping.count).2
        (overlapping.dest + BitVec.ofNat 32 i) = BitVec.ofNat 8 i := by
  refine ⟨by decide, fun i bound => ?_⟩
  have source : ∀ i < 5, lowBytes (overlapping.src + BitVec.ofNat 32 i) = BitVec.ofNat 8 i := by
    decide
  exact ((memmove_movesBytes overlapping lowBytes).moved i bound).trans (source i bound)

end CopyArguments

end McuRom
