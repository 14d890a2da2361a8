import McuRom.Rom.BootFlows

namespace McuRom

open Mmio

/-!
# Fatal errors and the ROM entry point

None of these functions returns: each ends in an infinite loop.  The result
of a model is the loop it settles in, together with the error code the loop
was entered with.
-/

/-- The infinite loop an execution settles in. -/
inductive Halt where
  /-- the loop of the installed handler -/
  | handler (code : Word)
  /-- the loop at the end of `fatal_error_raw` -/
  | fatalErrorRaw (code : Word)
  /-- the loop at the end of `rom_start` -/
  | romStart
deriving DecidableEq, Repr

/-- The fatal error handlers a platform installs. -/
inductive FatalErrorHandler where
  | romFatalErrorHandler
deriving DecidableEq, Repr

/-- The global pointers `g_writer` and `g_fatal_error_handler`. -/
structure Globals where
  gWriter : Option Writer
  gFatalErrorHandler : Option FatalErrorHandler
deriving DecidableEq, Repr

/-- The address `RomFatalErrorHandler` reports to: MCI_BASE=0x21000000,
fw_fatal_error offset=0x20. -/
def handlerMciFatal : Word := 0x21000020

/-- Exit emulator -/
def emuExit : Word := 0x10002000

/-- `RomFatalErrorHandler::fatal_error` on the RISC-V target. -/
def RomFatalErrorHandler.fatalError (gWriter : Option Writer) (code : Word) : Driver Halt := do
  print gWriter "[mcu-rom] FATAL ERROR: 0x"
  hexWordPrintTo code gWriter
  println gWriter ""
  Program.writeReg handlerMciFatal code
  Program.writeReg emuExit code
  pure (.handler code)

/-- Trigger fatal error with raw code -/
def fatalErrorRaw (globals : Globals) (code : Word) : Driver Halt :=
  match globals.gFatalErrorHandler with
  | some .romFatalErrorHandler => RomFatalErrorHandler.fatalError globals.gWriter code
  | none => do
    -- If no handler set, create minimal environment and set error
    romEnv.mci.setFwFatalError code
    pure (.fatalErrorRaw code)

/-- Trigger fatal error with error enum -/
def fatalError (globals : Globals) (error : McuError) : Driver Halt :=
  fatalErrorRaw globals error.code

/-- The loop in which a reported error ends. -/
def reportedHalt (globals : Globals) (error : McuError) : Halt :=
  match globals.gFatalErrorHandler with
  | some .romFatalErrorHandler => .handler error.code
  | none => .fatalErrorRaw error.code

/-- What a fatal error writes: the handler prints the code before it stores it,
and leaves the emulator. -/
def fatalErrorWrites (globals : Globals) (code : Word) : List (Word × Word) :=
  match globals.gFatalErrorHandler with
  | some .romFatalErrorHandler =>
    uartWrites globals.gWriter
        ("[mcu-rom] FATAL ERROR: 0x".toList ++ (hexWordDigits code ++ ['\n'])) ++
      [(handlerMciFatal, code), (emuExit, code)]
  | none => [(romEnv.mci.reg Mci.regFwErrorFatal, code)]

/-- A reported error reads nothing. -/
theorem fatalError_eq (globals : Globals) (error : McuError) :
    fatalError globals error =
      (Program.writeAll (fatalErrorWrites globals error.code) >>= fun _ =>
        pure (reportedHalt globals error)) := by
  unfold fatalError fatalErrorRaw fatalErrorWrites reportedHalt
  cases globals.gFatalErrorHandler with
  | none => rfl
  | some handler =>
      unfold RomFatalErrorHandler.fatalError
      rw [println_empty]
      simp only [uartWrites_append, Program.writeAll_append, Program.bind_assoc, ← print_eq,
        ← hexWordPrintTo_eq]
      rfl

theorem fatalError_run {σ : Type} (globals : Globals) (dev : Device Word Word σ)
    (error : McuError) (state : σ) :
    (fatalError globals error).run dev state =
      ⟨Access.ofWrites (fatalErrorWrites globals error.code), reportedHalt globals error,
        dev.writeAll state (fatalErrorWrites globals error.code)⟩ := by
  rw [fatalError_eq, Program.run_bind, Program.run_writeAll, Program.pure_eq, Program.run_ret,
    Run.after_mk, List.append_nil]

/-- On any device, a reported error ends in that loop. -/
theorem fatalError_result {σ : Type} (globals : Globals) (dev : Device Word Word σ)
    (error : McuError) (state : σ) :
    ((fatalError globals error).run dev state).result = reportedHalt globals error := by
  rw [fatalError_run]

/-- `rom_start` up to the switch over the reset reason. -/
def romPrologue (gWriter : Option Writer) (env : RomEnv) : Driver McuResetReason := do
  println gWriter "[mcu-rom] Hello from CPP ROM"
  env.mci.setFlowMilestone BootMilestones.romStarted
  print gWriter "[mcu-rom] Device lifecycle: "
  let lifecycle ← env.mci.deviceLifecycleState
  println gWriter (match lifecycle with
    | .deviceUnprovisioned => "Unprovisioned"
    | .deviceManufacturing => "Manufacturing"
    | .deviceProvisioned => "Production"
    | .deviceSecurityLocked => "SecurityLocked")
  print gWriter "[mcu-rom] MCI generic input wires[0]: "
  let wires0 ← env.mci.genericInputWires 0
  hexWordPrintTo wires0 gWriter
  println gWriter ""
  print gWriter "[mcu-rom] MCI generic input wires[1]: "
  let wires1 ← env.mci.genericInputWires 1
  hexWordPrintTo wires1 gWriter
  println gWriter ""
  let resetReason ← env.mci.resetReason
  print gWriter "[mcu-rom] MCI RESET_REASON: 0x"
  hexWordPrintTo resetReason gWriter
  println gWriter ""
  env.mci.resetReasonEnum

/-- The flow `rom_start` selects for a reset reason. -/
def bootFlow (gWriter : Option Writer) (env : RomEnv) :
    McuResetReason → Option (Driver (McuResult Unit))
  | .coldBoot => some (ColdBoot.execute gWriter env)
  | .warmReset => some (WarmBoot.execute gWriter env)
  | .firmwareBootReset => some (FwBoot.execute gWriter env)
  | .firmwareHitlessUpdate => some (FwHitlessUpdate.execute gWriter env)
  | .invalid => none

/-- The message printed before a flow is entered, or before the fatal error
for an invalid reason. -/
def bootMessage : McuResetReason → String
  | .coldBoot => "[mcu-rom] Cold boot detected"
  | .warmReset => "[mcu-rom] Warm reset detected"
  | .firmwareBootReset => "[mcu-rom] Firmware boot reset detected"
  | .firmwareHitlessUpdate => "[mcu-rom] Starting firmware hitless update flow"
  | .invalid => "[mcu-rom] Invalid reset reason: multiple bits set"

/-- The switch of `rom_start` and the loop after it.  A flow is called as a
statement: its result is not looked at. -/
def romDispatch (globals : Globals) (env : RomEnv) (reason : McuResetReason) : Driver Halt := do
  println globals.gWriter (bootMessage reason)
  match bootFlow globals.gWriter env reason with
  | some flow =>
    let _ ← flow
    pure .romStart
  | none => fatalError globals .bootInvalidResetReason

/-- Main ROM entry point -/
def romStart (globals : Globals) : Driver Halt := do
  let env := romEnv
  let reason ← romPrologue globals.gWriter env
  romDispatch globals env reason

end McuRom
