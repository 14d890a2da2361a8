import McuRom.Common.Types
import McuRom.Riscv.Machine

namespace McuRom

open Memory Riscv

/-!
# Startup

Before it calls `main`, `_start` clears the BSS section and copies the image
of the data section from ROM to RAM, a word at a time.  Sections are as long
as they are, so that the last word of either loop may reach up to three bytes
beyond the end of its section.  The order and the alignment of the sections
keep these bytes out of the other one.
-/

/-! ## The linker script -/

def romOrigin : Nat := 0x80000000
def romLength : Nat := 64 * 1024
def sramOrigin : Nat := 0x40000000
def sramLength : Nat := 512 * 1024

/-- ~11KB -/
def stackSize : Nat := 0x2d00

/-- 512 bytes -/
def estackSize : Nat := 0x200

/-- MRAC value - default for emulator -/
def mracValue : Word := 0xAAAAAAAA

/-- Where the linker puts the sections.  Their sizes are not restricted other
than by the memories they have to fit in. -/
structure Layout where
  romDataStart : Nat
  dataStart : Nat
  dataEnd : Nat
  bssStart : Nat
  bssEnd : Nat
  stackOrigin : Nat
  exceptionHandler : Word
  main : Word
  data_aligned : 4 ∣ dataStart
  bss_aligned : 4 ∣ bssStart
  stack_aligned : 16 ∣ stackOrigin
  sram_le : sramOrigin ≤ dataStart
  data_le : dataStart ≤ dataEnd
  data_bss : dataEnd ≤ bssStart
  bss_le : bssStart ≤ bssEnd
  bss_stack : bssEnd ≤ stackOrigin
  sram_fits : stackOrigin + stackSize + estackSize ≤ sramOrigin + sramLength
  rom_le : romOrigin ≤ romDataStart
  rom_fits : romDataStart + (dataEnd - dataStart) ≤ romOrigin + romLength

/-- The address after the last word that begins in front of `addr`. -/
def roundUp (addr : Nat) : Nat := (addr + 3) / 4 * 4

/-- The sections one behind the other, if their contents need no larger
alignment than the script gives them. -/
def Layout.place (textSize dataSize bssSize : Nat) (exceptionHandler main : Word)
    (rom_fits : textSize + dataSize ≤ romLength)
    (sram_fits : (roundUp (sramOrigin + dataSize) + bssSize + 15) / 16 * 16 + stackSize +
      estackSize ≤ sramOrigin + sramLength) : Layout where
  romDataStart := romOrigin + textSize
  dataStart := sramOrigin
  dataEnd := sramOrigin + dataSize
  bssStart := roundUp (sramOrigin + dataSize)
  bssEnd := roundUp (sramOrigin + dataSize) + bssSize
  stackOrigin := (roundUp (sramOrigin + dataSize) + bssSize + 15) / 16 * 16
  exceptionHandler := exceptionHandler
  main := main
  data_aligned := by decide
  bss_aligned := Nat.dvd_mul_left ..
  stack_aligned := Nat.dvd_mul_left ..
  sram_le := Nat.le_refl _
  data_le := Nat.le_add_right ..
  data_bss := by unfold roundUp; omega
  bss_le := Nat.le_add_right ..
  bss_stack := by omega
  sram_fits := sram_fits
  rom_le := Nat.le_add_right ..
  rom_fits := by omega

/-! ## The listing -/

inductive StartLabel where
  | start | zeroBss | endZeroBss | copyData | endCopyData
deriving DecidableEq, Repr

inductive StartSymbol where
  | globalPointer | stackTop | exceptionHandler
  | bssStart | bssEnd | romDataStart | dataStart | dataEnd
  | main | emuCtrlExit
deriving DecidableEq, Repr

/-- The address of a symbol. -/
def Layout.address (layout : Layout) : StartSymbol → Word
  | .globalPointer => BitVec.ofNat 32 (layout.dataStart + 0x800)
  | .stackTop => BitVec.ofNat 32 (layout.stackOrigin + stackSize)
  | .exceptionHandler => layout.exceptionHandler
  | .bssStart => BitVec.ofNat 32 layout.bssStart
  | .bssEnd => BitVec.ofNat 32 layout.bssEnd
  | .romDataStart => BitVec.ofNat 32 layout.romDataStart
  | .dataStart => BitVec.ofNat 32 layout.dataStart
  | .dataEnd => BitVec.ofNat 32 layout.dataEnd
  | .main => layout.main
  | .emuCtrlExit => 0x2000F000

def mtvec : BitVec 12 := 0x305

/-- MRAC controls cacheability and side effects for 16 memory regions -/
def mrac : BitVec 12 := 0x7c0

/-- `_start` -/
def startListing : List (Line StartLabel StartSymbol) :=
  [.label .start,
    .insn (.la gp .globalPointer),
    -- Initialize the stack pointer
    .insn (.la sp .stackTop),
    .insn (.la t0 .exceptionHandler),
    .insn (.csrw mtvec t0),
    -- Initialize MRAC (Region Access Control Register)
    .insn (.lui t0 (hi mracValue)),
    .insn (.addi t0 t0 (lo mracValue)),
    .insn (.csrw mrac t0),
    -- Zero BSS section
    .insn (.la t0 .bssStart),
    .insn (.la t1 .bssEnd),
    .label .zeroBss,
    .insn (.bge t0 t1 .endZeroBss),
    .insn (.sw zero 0 t0),
    .insn (.addi t0 t0 4),
    .insn (.j .zeroBss),
    .label .endZeroBss,
    -- Copy ROM data to RAM
    .insn (.la t0 .romDataStart),
    .insn (.la t1 .dataStart),
    .insn (.la t2 .dataEnd),
    .label .copyData,
    .insn (.bge t1 t2 .endCopyData),
    .insn (.lw t3 0 t0),
    .insn (.sw t3 0 t1),
    .insn (.addi t0 t0 4),
    .insn (.addi t1 t1 4),
    .insn (.j .copyData),
    .label .endCopyData,
    -- Call main entry point
    .insn (.call .main),
    -- Exit the emulator if we return
    .insn (.la t0 .emuCtrlExit),
    .insn (.sw zero 0 t0)]

/-- Control is at `call main`. -/
def CallsMain (state : State) : Prop := startListing[state.pc]? = some (.insn (.call .main))

/-- BSS is zero, the data section is its image, and no byte outside the two
sections, rounded up to whole words, is another than before. -/
structure Layout.Initialised (layout : Layout) (before after : Word → Byte) : Prop where
  bss : ∀ addr : Word, layout.bssStart ≤ addr.toNat → addr.toNat < layout.bssEnd → after addr = 0
  data : ∀ i, layout.dataStart + i < layout.dataEnd →
    after (BitVec.ofNat 32 (layout.dataStart + i)) =
      before (BitVec.ofNat 32 (layout.romDataStart + i))
  unchanged : ∀ addr : Word,
    ¬ (layout.bssStart ≤ addr.toNat ∧ addr.toNat < roundUp layout.bssEnd) →
    ¬ (layout.dataStart ≤ addr.toNat ∧ addr.toNat < roundUp layout.dataEnd) →
    after addr = before addr

/-- `_start` gets to the call, and the memory is initialised when it does. -/
structure Layout.StartsUp (layout : Layout) (start : State) : Prop where
  terminates : ∃ final, Reaches layout.address startListing start final ∧ CallsMain final
  initialised : ∀ final, Reaches layout.address startListing start final → CallsMain final →
    layout.Initialised start.memory final.memory

/-- The reset state of the listing, with anything in the registers and in memory. -/
def entry (regs : Register → Word) (csrs : BitVec 12 → Word) (memory : Word → Byte) : State :=
  ⟨position startListing .start, regs, csrs, memory⟩

/-! ## Sizes in words -/

/-- How many words a section of that many bytes takes. -/
def words (size : Nat) : Nat := (size + 3) / 4

theorem roundUp_eq {start finish : Nat} (aligned : 4 ∣ start) (ordered : start ≤ finish) :
    roundUp finish = start + 4 * words (finish - start) := by
  unfold roundUp words
  omega

/-- A section is not complete before its last word. -/
theorem lt_of_lt_words {start finish k : Nat} (more : k < words (finish - start)) :
    start + 4 * k < finish := by
  unfold words at more
  omega

theorem le_words {start finish : Nat} : finish ≤ start + 4 * words (finish - start) := by
  unfold words
  omega

/-- A pointer that steps from word to word. -/
theorem next_word {pointer : Word} {start k : Nat}
    (now : pointer = BitVec.ofNat 32 (start + 4 * k)) :
    pointer + (4 : BitVec 12).signExtend 32 = BitVec.ofNat 32 (start + 4 * (k + 1)) := by
  rw [now, Nat.mul_succ, ← Nat.add_assoc, BitVec.ofNat_add (start + 4 * k)]
  rfl

/-- Without an offset a pointer is the address. -/
theorem no_offset (pointer : Word) : pointer + (0 : BitVec 12).signExtend 32 = pointer :=
  BitVec.add_zero pointer

section Loops

variable (layout : Layout)

/-- Addresses in RAM are in the lower half of the address space. -/
theorem Layout.stackOrigin_lt : layout.stackOrigin < 2 ^ 31 - 4 := by
  have fits := layout.sram_fits
  unfold stackSize estackSize sramOrigin sramLength at fits
  omega

theorem Layout.bssStart_lt : layout.bssStart < 2 ^ 31 - 4 := by
  have small := layout.stackOrigin_lt
  have bss := layout.bss_le
  have stack := layout.bss_stack
  omega

/-- The image in ROM, rounded up, stays inside the address space. -/
theorem Layout.romImage_fits :
    layout.romDataStart + (layout.dataEnd - layout.dataStart) + 4 ≤ 2 ^ 32 := by
  have fits := layout.rom_fits
  unfold romOrigin romLength at fits
  omega

theorem Layout.bss_below_rom : layout.stackOrigin ≤ layout.romDataStart := by
  have small := layout.stackOrigin_lt
  have rom := layout.rom_le
  unfold romOrigin at rom
  omega

theorem Layout.roundUp_dataEnd_le : roundUp layout.dataEnd ≤ layout.bssStart := by
  have aligned := layout.bss_aligned
  have ordered := layout.data_bss
  unfold roundUp
  omega

theorem Layout.roundUp_bssEnd_le : roundUp layout.bssEnd ≤ layout.stackOrigin := by
  have aligned := layout.stack_aligned
  have ordered := layout.bss_stack
  unfold roundUp
  omega

/-! ## The loop over BSS -/

/-- The head of the loop after `k` turns. -/
structure Zeroing (memory : Word → Byte) (k : Nat) (state : State) : Prop where
  pc : state.pc = position startListing .zeroBss
  pointer : state.regs t0 = BitVec.ofNat 32 (layout.bssStart + 4 * k)
  bound : state.regs t1 = BitVec.ofNat 32 layout.bssEnd
  filled : Filled memory state.memory layout.bssStart (4 * k) 0

theorem zeroing_begins (regs : Register → Word) (csrs : BitVec 12 → Word) (memory : Word → Byte) :
    ∃ state, Reaches layout.address startListing (entry regs csrs memory) state ∧
      Zeroing layout memory 0 state := by
  refine ⟨_, .head rfl <| .head rfl <| .head rfl <| .head rfl <| .head rfl <| .head rfl <|
    .head rfl <| .head rfl <| .head rfl <| .head rfl <| .refl _, ?_⟩
  exact ⟨rfl, rfl, rfl, Filled.none memory _ _⟩

theorem zeroing_turn {memory : Word → Byte} {k : Nat}
    (more : k < words (layout.bssEnd - layout.bssStart)) {state : State}
    (zeroing : Zeroing layout memory k state) :
    ∃ after, Reaches layout.address startListing state after ∧
      Zeroing layout memory (k + 1) after := by
  rcases state with ⟨pc, regs, csrs, current⟩
  rcases zeroing with ⟨rfl, pointer, bound, filled⟩
  dsimp only at pointer bound filled
  have inside := lt_of_lt_words more
  have small := layout.stackOrigin_lt
  have ordered := layout.bss_stack
  have notDone : ¬ (regs t1).toInt ≤ (regs t0).toInt := by
    rw [pointer, bound, toInt_le_iff (by omega) (by omega)]
    omega
  refine ⟨_, .head rfl <| .head (if_neg notDone) <| .head rfl <| .head rfl <| .head rfl <|
    .refl _, ?_⟩
  refine ⟨rfl, next_word pointer, bound, ?_⟩
  change Filled memory (storeWord current (regs t0 + (0 : BitVec 12).signExtend 32) 0) _ _ 0
  rw [no_offset, pointer, Nat.mul_succ]
  exact filled.append (storeWord_zero_filled (by omega)) (by omega)

/-- The first loop fills BSS up to a word boundary. -/
theorem zeroing_ends (regs : Register → Word) (csrs : BitVec 12 → Word) (memory : Word → Byte) :
    ∃ state, Reaches layout.address startListing (entry regs csrs memory) state ∧
      state.pc = position startListing .endZeroBss ∧
      Filled memory state.memory layout.bssStart (roundUp layout.bssEnd - layout.bssStart) 0 := by
  rcases zeroing_begins layout regs csrs memory with ⟨start, begun, zeroing⟩
  rcases Reaches.iterate (words (layout.bssEnd - layout.bssStart))
    (fun k more state => zeroing_turn layout more) zeroing with ⟨⟨pc, regs, csrs, current⟩, ran, done⟩
  rcases done with ⟨rfl, pointer, bound, filled⟩
  dsimp only at pointer bound filled
  have small := layout.stackOrigin_lt
  have ordered := layout.bss_stack
  have rounded := roundUp_eq layout.bss_aligned layout.bss_le
  have top := layout.roundUp_bssEnd_le
  have complete := @le_words layout.bssStart layout.bssEnd
  have isDone : (regs t1).toInt ≤ (regs t0).toInt := by
    rw [pointer, bound, toInt_le_iff (by omega) (by omega)]
    exact complete
  refine ⟨_, begun.trans (ran.trans (.head rfl <| .head (if_pos isDone) <| .refl _)), rfl, ?_⟩
  rw [rounded, Nat.add_sub_cancel_left]
  exact filled

/-! ## The loop over the data section -/

/-- The head of the loop after `k` turns. -/
structure Copying (memory : Word → Byte) (k : Nat) (state : State) : Prop where
  pc : state.pc = position startListing .copyData
  source : state.regs t0 = BitVec.ofNat 32 (layout.romDataStart + 4 * k)
  target : state.regs t1 = BitVec.ofNat 32 (layout.dataStart + 4 * k)
  bound : state.regs t2 = BitVec.ofNat 32 layout.dataEnd
  copied : Copied memory state.memory layout.dataStart layout.romDataStart (4 * k)

theorem copying_begins {start : State} (atEnd : start.pc = position startListing .endZeroBss) :
    ∃ state, Reaches layout.address startListing start state ∧
      Copying layout start.memory 0 state := by
  rcases start with ⟨pc, regs, csrs, memory⟩
  cases atEnd
  refine ⟨_, .head rfl <| .head rfl <| .head rfl <| .head rfl <| .refl _, ?_⟩
  exact ⟨rfl, rfl, rfl, rfl, Copied.none memory _ _⟩

theorem copying_turn {memory : Word → Byte} {k : Nat}
    (more : k < words (layout.dataEnd - layout.dataStart)) {state : State}
    (copying : Copying layout memory k state) :
    ∃ after, Reaches layout.address startListing state after ∧
      Copying layout memory (k + 1) after := by
  rcases state with ⟨pc, regs, csrs, current⟩
  rcases copying with ⟨rfl, source, target, bound, copied⟩
  dsimp only at source target bound copied
  have inside := lt_of_lt_words more
  have small := layout.bssStart_lt
  have ordered := layout.data_bss
  have notDone : ¬ (regs t2).toInt ≤ (regs t1).toInt := by
    rw [target, bound, toInt_le_iff (by omega) (by omega)]
    omega
  refine ⟨_, .head rfl <| .head (if_neg notDone) <| .head rfl <| .head rfl <| .head rfl <|
    .head rfl <| .head rfl <| .refl _, ?_⟩
  refine ⟨rfl, next_word source, next_word target, bound, ?_⟩
  change Copied memory (storeWord current (regs t1 + (0 : BitVec 12).signExtend 32)
    (loadWord current (regs t0 + (0 : BitVec 12).signExtend 32))) _ _ _
  rw [no_offset, no_offset, target, source, Nat.mul_succ]
  have image := layout.romImage_fits
  have rom := layout.bss_below_rom
  have bss := layout.bss_le
  have stack := layout.bss_stack
  have top := layout.roundUp_dataEnd_le
  have rounded := roundUp_eq layout.data_aligned layout.data_le
  refine copied.append (storeWord_loadWord_copied (by omega)) (by omega) (by omega)
    (Or.inl (by omega))

/-- The second loop copies the image up to a word boundary and stops at the
call. -/
theorem copying_ends {start : State} (atEnd : start.pc = position startListing .endZeroBss) :
    ∃ final, Reaches layout.address startListing start final ∧ CallsMain final ∧
      Copied start.memory final.memory layout.dataStart layout.romDataStart
        (roundUp layout.dataEnd - layout.dataStart) := by
  rcases copying_begins layout atEnd with ⟨first, begun, copying⟩
  rcases Reaches.iterate (words (layout.dataEnd - layout.dataStart))
    (fun k more state => copying_turn layout more) copying with
    ⟨⟨pc, regs, csrs, current⟩, ran, done⟩
  rcases done with ⟨rfl, source, target, bound, copied⟩
  dsimp only at source target bound copied
  have small := layout.bssStart_lt
  have ordered := layout.data_bss
  have rounded := roundUp_eq layout.data_aligned layout.data_le
  have top := layout.roundUp_dataEnd_le
  have complete := @le_words layout.dataStart layout.dataEnd
  have isDone : (regs t2).toInt ≤ (regs t1).toInt := by
    rw [target, bound, toInt_le_iff (by omega) (by omega)]
    exact complete
  refine ⟨_, begun.trans (ran.trans (.head rfl <| .head (if_pos isDone) <| .head rfl <|
    .refl _)), rfl, ?_⟩
  rw [rounded, Nat.add_sub_cancel_left]
  exact copied

/-! ## Both loops -/

theorem le_roundUp (addr : Nat) : addr ≤ roundUp addr := by
  unfold roundUp
  omega

/-- Clearing does not touch the image, and copying does not touch BSS. -/
theorem Layout.initialised {before middle after : Word → Byte}
    (filled : Filled before middle layout.bssStart (roundUp layout.bssEnd - layout.bssStart) 0)
    (copied : Copied middle after layout.dataStart layout.romDataStart
      (roundUp layout.dataEnd - layout.dataStart)) : layout.Initialised before after := by
  have dataRounded := le_roundUp layout.dataEnd
  have bssRounded := le_roundUp layout.bssEnd
  have data := layout.data_le
  have bss := layout.bss_le
  have dataBelow := layout.roundUp_dataEnd_le
  have bssBelow := layout.roundUp_bssEnd_le
  constructor
  · intro addr lower upper
    have cleared := filled.filled (addr.toNat - layout.bssStart) (by omega)
    rw [Nat.add_sub_cancel' lower, ofNat_toNat_self] at cleared
    rw [copied.unchanged addr (by omega), cleared]
  · intro i inside
    have image := layout.romImage_fits
    have rom := layout.bss_below_rom
    rw [copied.copied i (by omega)]
    apply unchanged_at filled.unchanged <;> omega
  · intro addr outsideBss outsideData
    rw [copied.unchanged addr (by omega), filled.unchanged addr (by omega)]

end Loops

/-- `_start` initialises the static data of every layout. -/
theorem Layout.startsUp (layout : Layout) (regs : Register → Word) (csrs : BitVec 12 → Word)
    (memory : Word → Byte) : layout.StartsUp (entry regs csrs memory) := by
  rcases zeroing_ends layout regs csrs memory with ⟨middle, cleared, atEnd, filled⟩
  rcases copying_ends layout atEnd with ⟨final, copies, calls, copied⟩
  have reached := cleared.trans copies
  have initialised := layout.initialised filled copied
  have stopped {state : State} (atCall : CallsMain state) :
      step layout.address startListing state = none := by
    rw [step, atCall]
    rfl
  refine ⟨⟨final, reached, calls⟩, fun other alsoReached alsoCalls => ?_⟩
  rw [← reached.unique alsoReached (stopped calls) (stopped alsoCalls)]
  exact initialised

/-- Ten bytes of BSS behind six bytes of data, whose image is at 0x80001234. -/
def unevenLayout : Layout :=
  .place 0x1234 6 10 0x80000200 0x80000400 (by decide) (by decide)

/-- Each byte of the memory is the low byte of its address.  The last byte of the
data is the one of the image, the last byte of BSS is zero, and the byte behind
the word in which BSS ends is as it was. -/
theorem startsUp_uneven :
    ∃ final, Reaches unevenLayout.address startListing
        (entry (fun _ => 0) (fun _ => 0) fun addr => addr.setWidth 8) final ∧
      CallsMain final ∧ final.memory 0x40000005 = 0x39 ∧ final.memory 0x40000011 = 0 ∧
        final.memory 0x40000014 = 0x14 := by
  have startsUp := unevenLayout.startsUp (fun _ => 0) (fun _ => 0) fun addr => addr.setWidth 8
  rcases startsUp.terminates with ⟨final, reached, calls⟩
  have initialised := startsUp.initialised final reached calls
  exact ⟨final, reached, calls, initialised.data 5 (by decide),
    initialised.bss 0x40000011 (by decide) (by decide),
    initialised.unchanged 0x40000014 (by decide) (by decide)⟩

end McuRom
