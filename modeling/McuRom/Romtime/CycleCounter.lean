import McuRom.Common.Types
import McuRom.Mmio.Scheduled
import McuRom.Mmio.SplitCounter

namespace McuRom

open Mmio

/-!
# The cycle counter

On the RISC-V target `mcycle` reads the 64-bit cycle counter as two 32-bit
registers, the low half first.  The counter runs on between the two reads, so
a result is not behind the counter, but a carry in between puts it ahead.
-/

/-- `std::uint64_t` -/
abbrev DoubleWord := BitVec 64

/-- The registers of the cycle counter. -/
inductive Csr where
  | mcycle
  | mcycleh
deriving DecidableEq, Repr

/-- Code that reads control and status registers. -/
abbrev CsrDriver := Program Csr Word

/-- Platform-specific cycle counter -/
def platformMcycle : CsrDriver DoubleWord := do
  let mcycleLow ← Program.readReg .mcycle
  let mcycleHigh ← Program.readReg .mcycleh
  pure ((mcycleHigh.setWidth 64 <<< 32) ||| mcycleLow.setWidth 64)

def mcycle : CsrDriver DoubleWord := platformMcycle

namespace CycleCounter

/-- What a register shows of the counter. -/
def shown (counter : DoubleWord) : Csr → Word
  | .mcycle => lowHalf (w := 32) counter
  | .mcycleh => highHalf (w := 32) counter

/-- The registers of a counter that is not written. -/
def registers : Device Csr Word DoubleWord where
  read counter csr := (shown counter csr, counter)
  write counter _ _ := counter

/-- Before each access the counter moves to its next value. -/
def counting : Device Csr Word (Scheduled DoubleWord DoubleWord) :=
  Device.scheduled (fun _ next => next) registers

end CycleCounter

/-- The values of the counter at the accesses to its registers.  It never
decreases, so it does not wrap. -/
structure CounterHistory where
  value : Nat → DoubleWord
  increases : ∀ access, value access ≤ value (access + 1)

namespace CounterHistory

open CycleCounter

variable (history : CounterHistory)

theorem value_le {first last : Nat} (order : first ≤ last) :
    history.value first ≤ history.value last := by
  induction order with
  | refl => exact BitVec.le_refl _
  | step _ ih => exact BitVec.le_trans ih (history.increases _)

/-- The hardware before an access, with the value of the access before it. -/
def before (access : Nat) : Scheduled DoubleWord DoubleWord :=
  ⟨fun later => history.value (access + later), history.value (access - 1)⟩

/-- Two accesses belong to each call of `mcycle`: this is the result of a call. -/
def reading (call : Nat) : DoubleWord := (mcycle.run counting (history.before (2 * call))).result

/-- There is no carry out of the low half between the two accesses of a call. -/
def NoCarry (call : Nat) : Prop :=
  (history.value (2 * call)).setWidth 32 ≤ (history.value (2 * call + 1)).setWidth 32

instance (call : Nat) : Decidable (history.NoCarry call) :=
  inferInstanceAs (Decidable (_ ≤ _))

/-- A call leaves the counter to the next call. -/
theorem mcycle_state (call : Nat) :
    (mcycle.run counting (history.before (2 * call))).state = history.before (2 * (call + 1)) := by
  change Scheduled.mk _ _ = Scheduled.mk _ _
  congr 1
  funext later
  exact congrArg history.value (by omega)

theorem reading_toNat (call : Nat) :
    (history.reading call).toNat =
      assembled (2 ^ 32) (history.value (2 * call)).toNat (history.value (2 * call + 1)).toNat :=
  joinHalves_halves (w := 32) (history.value (2 * call)) (history.value (2 * call + 1))

/-- A result is not behind the counter. -/
theorem le_reading (call : Nat) : history.value (2 * call) ≤ history.reading call := by
  rw [BitVec.le_def, reading_toNat]
  exact le_assembled (history.increases (2 * call)) (2 ^ 32)

/-- It is not ahead of the counter if and only if there is no carry. -/
theorem reading_le_iff (call : Nat) :
    history.reading call ≤ history.value (2 * call + 1) ↔ history.NoCarry call := by
  rw [BitVec.le_def, reading_toNat, assembled_le_iff, NoCarry, BitVec.le_def,
    BitVec.toNat_setWidth, BitVec.toNat_setWidth]

/-- Results of calls without a carry are in order. -/
theorem reading_le {first last : Nat} (noCarry : history.NoCarry first) (order : first < last) :
    history.reading first ≤ history.reading last := by
  apply BitVec.le_trans ((history.reading_le_iff first).mpr noCarry)
  apply BitVec.le_trans (history.value_le _) (history.le_reading last)
  omega

end CounterHistory

end McuRom
