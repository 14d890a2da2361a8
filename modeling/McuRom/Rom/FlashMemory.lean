import McuRom.Common.Error

namespace McuRom

open Mmio

/-!
# Memory-mapped flash regions

`FlashMemory` checks an access against the size of its region and hands it to
the flash HIL, which is an interface.  A program that calls the HIL is a
program over a device whose addresses are read requests.

A HIL read either fails or delivers bytes at the front of the buffer and
returns their number.  It may deliver fewer bytes than requested, in which
case the rest of the buffer keeps what it held.
-/

/-- The arguments of `FlashHil::read`, the buffer by its size. -/
structure FlashRequest where
  address : Word
  length : SizeT
deriving DecidableEq, Repr

/-- Flash Hardware Interface Layer, as far as it is read from. -/
structure FlashHil (σ : Type) where
  device : Device FlashRequest (McuResult (List Byte)) σ
  /-- the HIL never reports more bytes than there is room for -/
  bounded : ∀ state request bytes, (device.read state request).1 = .ok bytes →
    bytes.length ≤ request.length.toNat

/-- Code that calls the flash HIL. -/
abbrev FlashDriver := Program FlashRequest (McuResult (List Byte))

/-- A buffer, by the bytes behind its pointer. -/
abbrev Buffer := Nat → Byte

/-- Bytes stored from the front of a buffer on. -/
def deliver (bytes : List Byte) (buffer : Buffer) : Buffer :=
  fun index => bytes.getD index (buffer index)

/-- Little-endian word assembly -/
def assembleWord (buffer : Buffer) : Word :=
  (buffer 0).setWidth 32 ||| (buffer 1).setWidth 32 <<< 8 ||| (buffer 2).setWidth 32 <<< 16 |||
    (buffer 3).setWidth 32 <<< 24

/-- Memory-mapped flash region -/
structure FlashMemory where
  baseAddress : Word
  size : Word
deriving DecidableEq, Repr

namespace FlashMemory

variable (memory : FlashMemory)

/-- Read a word from flash.  The buffer is a local array, which starts out
with whatever the stack held. -/
def readWord (offset : Word) (buffer : Buffer) : FlashDriver (McuResult Word) :=
  if memory.size < offset + 4 then pure (.error .flashInvalidAddress)
  else do
    let result ← Program.readReg ⟨memory.baseAddress + offset, 4⟩
    match result with
    | .error e => pure (.error e)
    | .ok bytes => pure (.ok (assembleWord (deliver bytes buffer)))

/-- Read bytes from flash, with the buffer as it is left. -/
def read (offset : Word) (buffer : Buffer) (length : SizeT) :
    FlashDriver (McuResult SizeT × Buffer) :=
  if memory.size < offset + length then pure (.error .flashInvalidAddress, buffer)
  else do
    let result ← Program.readReg ⟨memory.baseAddress + offset, length⟩
    match result with
    | .error e => pure (.error e, buffer)
    | .ok bytes => pure (.ok (sizeT bytes.length), deliver bytes buffer)

/-- Check if address is within this region -/
def contains (address : Word) : Bool :=
  memory.baseAddress ≤ address && address < memory.baseAddress + memory.size

/-- Translate address to flash offset -/
def toFlashOffset (address : Word) : Word := address - memory.baseAddress

/-! ## One access -/

variable {memory}
variable {offset : Word} {length : SizeT} {σ : Type}
variable (dev : Device FlashRequest (McuResult (List Byte)) σ) (state : σ) (buffer : Buffer)

theorem run_readWord_outside (outside : memory.size < offset + 4) :
    (memory.readWord offset buffer).run dev state =
      ⟨[], .error .flashInvalidAddress, state⟩ := by
  rw [readWord, if_pos outside]
  rfl

theorem run_readWord_inside (inside : ¬ memory.size < offset + 4) :
    (memory.readWord offset buffer).run dev state =
      ⟨[.read ⟨memory.baseAddress + offset, 4⟩
          (dev.read state ⟨memory.baseAddress + offset, 4⟩).1],
        (dev.read state ⟨memory.baseAddress + offset, 4⟩).1.map fun bytes =>
          assembleWord (deliver bytes buffer),
        (dev.read state ⟨memory.baseAddress + offset, 4⟩).2⟩ := by
  rw [readWord, if_neg inside, Program.run_bind, Program.run_readReg]
  dsimp only
  cases (dev.read state ⟨memory.baseAddress + offset, 4⟩).1 with
  | error e => rfl
  | ok bytes => rfl

theorem run_read_outside (outside : memory.size < offset + length) :
    (memory.read offset buffer length).run dev state =
      ⟨[], (.error .flashInvalidAddress, buffer), state⟩ := by
  rw [read, if_pos outside]
  rfl

/-- What a read leaves, given the reply of the HIL. -/
def received (buffer : Buffer) : McuResult (List Byte) → McuResult SizeT × Buffer
  | .error e => (.error e, buffer)
  | .ok bytes => (.ok (sizeT bytes.length), deliver bytes buffer)

theorem run_read_inside (inside : ¬ memory.size < offset + length) :
    (memory.read offset buffer length).run dev state =
      ⟨[.read ⟨memory.baseAddress + offset, length⟩
          (dev.read state ⟨memory.baseAddress + offset, length⟩).1],
        received buffer (dev.read state ⟨memory.baseAddress + offset, length⟩).1,
        (dev.read state ⟨memory.baseAddress + offset, length⟩).2⟩ := by
  rw [read, if_neg inside, Program.run_bind, Program.run_readReg]
  dsimp only
  cases (dev.read state ⟨memory.baseAddress + offset, length⟩).1 with
  | error e => rfl
  | ok bytes => rfl

end FlashMemory

end McuRom
