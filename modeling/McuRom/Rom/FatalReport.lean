import McuRom.Rom.Hardware

namespace McuRom

open Mmio Hardware

/-!
# Where a fatal error is reported

Without a handler a fatal error goes through the MCI driver to the firmware
fatal-error register.  The handler of the ROM writes to an absolute address
instead, which is the first timeout register of the second watchdog.  The two
paths leave the same register file only where both registers already hold the
code.
-/

/-- The register of the MCI driver at an offset, in the ROM's memory map. -/
def mciReg (offset : Word) : Word := romEnv.mci.reg offset

/-- The address the handler writes is a watchdog register. -/
theorem handlerMciFatal_eq : handlerMciFatal = mciReg Mci.regWdtTimer2TimeoutPeriod0 := rfl

variable (gWriter : Option Writer) (code : Word) (state : HardwareState)

/-- The MCI register file after a fatal error on either path. -/
def mciAfter (handler : Option FatalErrorHandler) : Word → Word :=
  ((fatalErrorRaw ⟨gWriter, handler⟩ code).run hardware state).state.1

theorem mciAfter_none :
    mciAfter gWriter code state none =
      Function.update state.1 (mciReg Mci.regFwErrorFatal) code := by
  have inMci : isMci (mciReg Mci.regFwErrorFatal) = true := by decide
  change (hardware.write state (mciReg Mci.regFwErrorFatal) code).1 = _
  rw [write_mci state inMci]

/-- The console output and the exit register stay outside the MCI. -/
theorem mciAfter_handler :
    mciAfter gWriter code state (some .romFatalErrorHandler) =
      Function.update state.1 (mciReg Mci.regWdtTimer2TimeoutPeriod0) code := by
  have inMci : isMci (mciReg Mci.regWdtTimer2TimeoutPeriod0) = true := by decide
  have outside : isMci emuExit = false := by decide
  simp only [mciAfter, fatalErrorRaw, RomFatalErrorHandler.fatalError, Program.run_bind,
    run_print, run_println, run_hexWordPrintTo, Run.after_state, Program.run_writeReg,
    Program.pure_eq, Program.run_ret, write_scripted _ outside, handlerMciFatal_eq,
    write_mci _ inMci]

/-- Both paths end with the code in the firmware fatal-error register and with
every other register of the driver unchanged. -/
def SameReport : Prop :=
  ∀ offset ∈ Mci.registers,
    mciAfter gWriter code state none (mciReg offset) =
        mciAfter gWriter code state (some .romFatalErrorHandler) (mciReg offset) ∧
      mciAfter gWriter code state (some .romFatalErrorHandler) (mciReg offset) =
        if offset = Mci.regFwErrorFatal then code else state.1 (mciReg offset)

/-- The two paths agree exactly where their writes change nothing. -/
theorem sameReport_iff :
    SameReport gWriter code state ↔
      state.1 (mciReg Mci.regFwErrorFatal) = code ∧
        state.1 (mciReg Mci.regWdtTimer2TimeoutPeriod0) = code := by
  have apart : mciReg Mci.regFwErrorFatal ≠ mciReg Mci.regWdtTimer2TimeoutPeriod0 := by decide
  rw [SameReport, mciAfter_none, mciAfter_handler]
  constructor
  · intro same
    have fatal := (same Mci.regFwErrorFatal (by decide)).2
    have watchdog := (same Mci.regWdtTimer2TimeoutPeriod0 (by decide)).2
    rw [if_pos rfl, Function.update_of_ne apart] at fatal
    rw [if_neg (by decide), Function.update_self] at watchdog
    exact ⟨fatal, watchdog.symm⟩
  · rintro ⟨fatal, watchdog⟩ offset _
    have left : Function.update state.1 (mciReg Mci.regFwErrorFatal) code = state.1 :=
      Function.update_eq_self_iff.mpr fatal.symm
    have right : Function.update state.1 (mciReg Mci.regWdtTimer2TimeoutPeriod0) code = state.1 :=
      Function.update_eq_self_iff.mpr watchdog.symm
    rw [left, right]
    refine ⟨rfl, ?_⟩
    split
    · rename_i isFatal
      rw [isFatal, fatal]
    · rfl

/-- On a cleared register file the handler leaves the fatal-error register
empty and the code in the watchdog. -/
theorem handler_reports_to_watchdog :
    mciAfter none 1 (fun _ => 0, fun _ _ => 0) none (mciReg Mci.regFwErrorFatal) = 1 ∧
      mciAfter none 1 (fun _ => 0, fun _ _ => 0) (some .romFatalErrorHandler)
        (mciReg Mci.regFwErrorFatal) = 0 ∧
      mciAfter none 1 (fun _ => 0, fun _ _ => 0) (some .romFatalErrorHandler)
        (mciReg Mci.regWdtTimer2TimeoutPeriod0) = 1 ∧
      ¬ SameReport none 1 (fun _ => 0, fun _ _ => 0) := by
  have fatal : mciAfter none 1 (fun _ => 0, fun _ _ => 0) (some .romFatalErrorHandler)
      (mciReg Mci.regFwErrorFatal) = 0 := by
    rw [mciAfter_handler, Function.update_of_ne (by decide)]
  refine ⟨?_, fatal, ?_, fun same => ?_⟩
  · rw [mciAfter_none, Function.update_self]
  · rw [mciAfter_handler, Function.update_self]
  · have reported := (same Mci.regFwErrorFatal (by decide)).2
    rw [fatal, if_pos rfl] at reported
    exact absurd reported (by decide)

end McuRom
