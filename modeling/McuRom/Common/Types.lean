import McuRom.Mmio.Program
import Mathlib.Algebra.Ring.Nat

namespace McuRom

/-!
# Fixed-width types of the target

The ROM is built for a 32-bit RISC-V core with the `ilp32` ABI: registers,
addresses (`std::uintptr_t`) and sizes (`std::size_t`) all have 32 bits and
wrap.  Words are stored little-endian.
-/

/-- `std::uint8_t` -/
abbrev Byte := BitVec 8

/-- `std::uint16_t` -/
abbrev HalfWord := BitVec 16

/-- `std::uint32_t`, and `std::uintptr_t` for a register address. -/
abbrev Word := BitVec 32

/-- `std::size_t` on the target. -/
abbrev SizeT := BitVec 32

/-- Driver code: a program over 32-bit registers at 32-bit addresses. -/
abbrev Driver := Mmio.Program Word Word

/-- The `std::size_t` that counts the elements of an array. -/
def sizeT (count : Nat) : SizeT := BitVec.ofNat 32 count

/-- Distinct offsets are distinct registers, wherever a block is mapped. -/
theorem offset_ne (base : Word) {first second : Word} (different : first ≠ second) :
    base + first ≠ base + second :=
  fun same => different ((BitVec.add_right_inj base).mp same)

/-- The bytes of a word as they lie in memory. -/
def wordBytes (word : Word) : List Byte :=
  [(word >>> 0).setWidth 8, (word >>> 8).setWidth 8, (word >>> 16).setWidth 8,
    (word >>> 24).setWidth 8]

/-- An array of words seen through a byte pointer. -/
def arrayBytes (words : List Word) : List Byte := words.flatMap wordBytes

@[simp] theorem wordBytes_length (word : Word) : (wordBytes word).length = 4 := rfl

@[simp] theorem arrayBytes_length (words : List Word) :
    (arrayBytes words).length = 4 * words.length := by
  induction words with
  | nil => rfl
  | cons word rest ih =>
      change (wordBytes word ++ arrayBytes rest).length = 4 * (rest.length + 1)
      rw [List.length_append, wordBytes_length, ih]
      omega

@[simp] theorem arrayBytes_cons (word : Word) (rest : List Word) :
    arrayBytes (word :: rest) = wordBytes word ++ arrayBytes rest := rfl

/-- An array that fits the address space has a byte length that does not wrap. -/
theorem sizeT_mul_four_toNat {count : Nat} (fits : count < 2 ^ 30) :
    (sizeT count * 4).toNat = 4 * count := by
  simp only [sizeT, BitVec.toNat_mul, BitVec.ofNat_eq_ofNat, BitVec.toNat_ofNat]
  omega

end McuRom
