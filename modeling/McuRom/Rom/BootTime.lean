import McuRom.Mmio.Budget
import McuRom.Rom.BootLog

namespace McuRom

open Mmio Hardware

/-!
# How long a boot takes

Every wait of the ROM is cut by a countdown, so that a boot settles in one of
its loops after a bounded number of register accesses, whatever the hardware
answers.  The bound is given for each register, and thereby in any latencies.
-/

/-- The registers of a boot, and how often it accesses each of them at most.
The console gets 374 characters: 205 of them before the reset reason is acted
on, and the other ones in a cold boot. -/
def bootCounts : List (Word × Nat) :=
  [(uartTx, 374), (flowReg, 36), (i3cCtrlReg, 10), (otpStatusReg, 10000), (mboxStatusReg, 100000),
    (bootGoReg, 1), (romEnv.mci.reg Mci.regSecurityState, 1), (romEnv.mci.reg 0x400, 1),
    (romEnv.mci.reg 0x404, 1), (romEnv.mci.reg Mci.regResetReason, 2), (handlerMciFatal, 1),
    (emuExit, 1), (romEnv.mci.reg Mci.regFwErrorFatal, 1)]

/-- What all these accesses cost. -/
def bootBudget (price : Word → Nat) : Nat :=
  (bootCounts.map fun entry => entry.2 * price entry.1).sum

namespace BootTime

variable {α β : Type} (price : Word → Nat)

/-- A stage that the source leaves empty costs nothing. -/
theorem affords_pass {stage : Driver (McuResult α)} {value : α} {rest : α → Driver (McuResult β)}
    {budget : Nat} (empty : stage = pure (.ok value))
    (onwards : (rest value).Affords price budget) :
    (Driver.andThen stage rest).Affords price budget := by
  subst empty
  exact onwards

/-- An early return costs nothing more. -/
theorem affords_andThen {call : Driver (McuResult α)} {rest : α → Driver (McuResult β)}
    {first second : Nat} (affords : call.Affords price first)
    (onwards : ∀ value, (rest value).Affords price second) :
    (Driver.andThen call rest).Affords price (first + second) := by
  refine affords.bind fun result => ?_
  cases result with
  | error e => trivial
  | ok value => exact onwards value

/-! ## The pieces -/

section Output

variable (gWriter : Option Writer)

theorem affords_text (chars : List Char) :
    (Program.writeAll (uartWrites gWriter chars)).Affords price (chars.length * price uartTx) := by
  have affords : (Program.writeAll (uartWrites gWriter chars)).Affords price _ :=
    Program.affords_writeAll fun entry member => addr_of_mem_uartWrites member
  refine affords.mono (Nat.mul_le_mul_right _ ?_)
  rcases gWriter with _ | ⟨⟩
  · exact Nat.zero_le _
  · exact Nat.le_of_eq (List.length_map _)

theorem affords_print {str : String} (count : Nat) (length : str.toList.length = count) :
    (print gWriter str).Affords price (count * price uartTx) := by
  rw [print_eq, ← length]
  exact affords_text price gWriter _

theorem affords_println {str : String} (count : Nat) (length : (line str).length = count) :
    (println gWriter str).Affords price (count * price uartTx) := by
  rw [println_eq, ← length]
  exact affords_text price gWriter _

theorem affords_hexWord (value : Word) :
    (hexWordPrintTo value gWriter).Affords price (8 * price uartTx) := by
  rw [hexWordPrintTo_eq]
  exact affords_text price gWriter _

end Output

theorem affords_checkpoint (status : McuRomBootStatus) :
    (romEnv.checkpoint status).Affords price (price flowReg + price flowReg) :=
  (Program.affords_readReg flowReg).bind fun _ => Program.affords_writeReg flowReg _

theorem affords_milestone (flag : HalfWord) :
    (romEnv.mci.setFlowMilestone flag).Affords price (price flowReg + price flowReg) :=
  (Program.affords_readReg flowReg).bind fun _ => Program.affords_writeReg flowReg _

theorem affords_modifyCtrl (mask value : Word) :
    (romEnv.i3c.modifyReg I3c.regCtrl mask value).Affords price
      (price i3cCtrlReg + price i3cCtrlReg) :=
  (Program.affords_readReg i3cCtrlReg).bind fun _ => Program.affords_writeReg i3cCtrlReg _

theorem affords_i3cInit : romEnv.i3c.init.Affords price (10 * price i3cCtrlReg) := by
  have toggled (mask : Word) : (do
      romEnv.i3c.modifyReg I3c.regCtrl mask mask
      romEnv.i3c.modifyReg I3c.regCtrl mask 0).Affords price _ :=
    (affords_modifyCtrl price _ _).bind fun _ => affords_modifyCtrl price _ _
  have whole : romEnv.i3c.init.Affords price _ :=
    (toggled _).bind fun _ => (toggled _).bind fun _ => (affords_modifyCtrl price _ _).bind fun _ =>
      Program.affords_ret _
  exact whole.mono (by omega)

theorem affords_otpInit : romEnv.otp.init.Affords price (10000 * price otpStatusReg) := by
  have whole : romEnv.otp.init.Affords price _ :=
    (Program.affords_pollWhile otpStatusReg Otp.statusNotIdle Otp.defaultTimeoutCycles).bind
      fun idle => match idle with
        | true => Program.affords_ret _
        | false => Program.affords_ret _
  exact whole

theorem affords_waitCaliptraReady :
    (ColdBoot.waitCaliptraReady romEnv).Affords price (100000 * price mboxStatusReg) := by
  have whole : (ColdBoot.waitCaliptraReady romEnv).Affords price _ :=
    (Program.affords_pollWhile mboxStatusReg CaliptraSoC.statusBusy ColdBoot.readyTimeout).bind
      fun ready => match ready with
        | true => Program.affords_ret _
        | false => Program.affords_ret _
  exact whole

section Flows

variable (gWriter : Option Writer)

theorem affords_warmBoot :
    (WarmBoot.execute gWriter romEnv).Affords price (59 * price uartTx + 6 * price flowReg) := by
  have whole : (WarmBoot.execute gWriter romEnv).Affords price _ :=
    .bind (affords_checkpoint price _) fun _ =>
    .bind (affords_println price gWriter 29 rfl) fun _ =>
    affords_pass price rfl <| affords_pass price rfl <| affords_pass price rfl <|
    .bind (affords_milestone price _) fun _ =>
    .bind (affords_checkpoint price _) fun _ =>
    .bind (affords_println price gWriter 30 rfl) fun _ => Program.affords_ret _
  exact whole.mono (by omega)

theorem affords_fwBoot :
    (FwBoot.execute gWriter romEnv).Affords price (67 * price uartTx + 8 * price flowReg) := by
  have whole : (FwBoot.execute gWriter romEnv).Affords price _ :=
    .bind (affords_checkpoint price _) fun _ =>
    .bind (affords_println price gWriter 33 rfl) fun _ =>
    affords_pass price rfl <|
    .bind (affords_checkpoint price _) fun _ =>
    .bind (affords_milestone price _) fun _ =>
    .bind (affords_checkpoint price _) fun _ =>
    .bind (affords_println price gWriter 34 rfl) fun _ => Program.affords_ret _
  exact whole.mono (by omega)

theorem affords_fwHitlessUpdate :
    (FwHitlessUpdate.execute gWriter romEnv).Affords price
      (69 * price uartTx + 4 * price flowReg) := by
  have whole : (FwHitlessUpdate.execute gWriter romEnv).Affords price _ :=
    .bind (affords_checkpoint price _) fun _ =>
    .bind (affords_println price gWriter 34 rfl) fun _ =>
    affords_pass price rfl <| affords_pass price rfl <| affords_pass price rfl <|
    .bind (affords_checkpoint price _) fun _ =>
    .bind (affords_println price gWriter 35 rfl) fun _ => Program.affords_ret _
  exact whole.mono (by omega)

theorem affords_deviceOwnershipTransfer :
    (ColdBoot.deviceOwnershipTransfer gWriter romEnv).Affords price
      (81 * price uartTx + 8 * price flowReg) := by
  have whole : (ColdBoot.deviceOwnershipTransfer gWriter romEnv).Affords price _ :=
    .bind (affords_checkpoint price _) fun _ =>
    .bind (affords_println price gWriter 40 rfl) fun _ =>
    affords_pass price rfl <| .bind (affords_checkpoint price _) fun _ =>
    affords_pass price rfl <| .bind (affords_checkpoint price _) fun _ =>
    affords_pass price rfl <| .bind (affords_checkpoint price _) fun _ =>
    .bind (affords_println price gWriter 41 rfl) fun _ => Program.affords_ret _
  exact whole.mono (by omega)

theorem affords_initPeripherals :
    (ColdBoot.initPeripherals romEnv).Affords price
      (10 * price i3cCtrlReg + 10000 * price otpStatusReg) :=
  affords_andThen price (affords_i3cInit price) fun _ =>
    affords_andThen price (affords_otpInit price) fun _ => Program.affords_ret _

theorem affords_configureCaliptra :
    (ColdBoot.configureCaliptra romEnv).Affords price (price bootGoReg) :=
  (Program.affords_writeReg bootGoReg 1).bind fun _ => Program.affords_ret _

theorem affords_coldBoot :
    (ColdBoot.execute gWriter romEnv).Affords price
      (140 * price uartTx + 34 * price flowReg + 10 * price i3cCtrlReg +
        10000 * price otpStatusReg + 100000 * price mboxStatusReg + price bootGoReg) := by
  have whole : (ColdBoot.execute gWriter romEnv).Affords price _ :=
    .bind (affords_checkpoint price _) fun _ =>
    .bind (affords_milestone price _) fun _ =>
    .bind (affords_println price gWriter 29 rfl) fun _ =>
    affords_pass price rfl <| .bind (affords_checkpoint price _) fun _ =>
    affords_pass price rfl <| .bind (affords_checkpoint price _) fun _ =>
    affords_andThen price (affords_initPeripherals price) fun _ =>
    .bind (affords_checkpoint price _) fun _ =>
    affords_andThen price (affords_configureCaliptra price) fun _ =>
    .bind (affords_milestone price _) fun _ =>
    .bind (affords_checkpoint price _) fun _ =>
    affords_pass price rfl <| .bind (affords_milestone price _) fun _ =>
    .bind (affords_checkpoint price _) fun _ =>
    affords_andThen price (affords_waitCaliptraReady price) fun _ =>
    .bind (affords_checkpoint price _) fun _ =>
    affords_andThen price (affords_deviceOwnershipTransfer price gWriter) fun _ =>
    .bind (affords_checkpoint price _) fun _ =>
    affords_pass price rfl <| .bind (affords_milestone price _) fun _ =>
    .bind (affords_checkpoint price _) fun _ =>
    .bind (affords_println price gWriter 30 rfl) fun _ => Program.affords_ret _
  exact whole.mono (by omega)

theorem affords_fatalError (handler : Option FatalErrorHandler) (error : McuError) :
    (fatalError ⟨gWriter, handler⟩ error).Affords price
      (34 * price uartTx + price handlerMciFatal + price emuExit +
        price (romEnv.mci.reg Mci.regFwErrorFatal)) := by
  rcases handler with _ | ⟨⟩
  · have whole : (fatalError ⟨gWriter, none⟩ error).Affords price _ :=
      (Program.affords_writeReg (romEnv.mci.reg Mci.regFwErrorFatal) _).bind fun _ =>
        Program.affords_ret _
    exact whole.mono (by omega)
  · have whole : (RomFatalErrorHandler.fatalError gWriter error.code).Affords price _ :=
      .bind (affords_print price gWriter 25 rfl) fun _ =>
      .bind (affords_hexWord price gWriter _) fun _ =>
      .bind (affords_println price gWriter 1 rfl) fun _ =>
      .bind (Program.affords_writeReg handlerMciFatal _) fun _ =>
      .bind (Program.affords_writeReg emuExit _) fun _ => Program.affords_ret _
    exact whole.mono (by omega)

/-! ## The whole boot -/

theorem affords_lifecycleLine (lifecycle : DeviceLifecycleState) :
    (println gWriter (lifecycleName lifecycle)).Affords price (15 * price uartTx) := by
  have short : (line (lifecycleName lifecycle)).length ≤ 15 := by
    cases lifecycle <;> decide
  exact (affords_println price gWriter _ rfl).mono (Nat.mul_le_mul_right _ short)

theorem affords_wires {index : SizeT} (bounded : ¬ 2 ≤ index) :
    (romEnv.mci.genericInputWires index).Affords price
      (price (romEnv.mci.reg (0x400 + index * 4))) := by
  unfold Mci.genericInputWires
  rw [if_neg bounded]
  exact Program.affords_readReg _

theorem affords_romPrologue :
    (romPrologue gWriter romEnv).Affords price
      (205 * price uartTx + 2 * price flowReg + price (romEnv.mci.reg Mci.regSecurityState) +
        price (romEnv.mci.reg 0x400) + price (romEnv.mci.reg 0x404) +
        2 * price (romEnv.mci.reg Mci.regResetReason)) := by
  have lifecycle : romEnv.mci.deviceLifecycleState.Affords price _ :=
    (Program.affords_readReg (romEnv.mci.reg Mci.regSecurityState)).bind fun _ =>
      Program.affords_ret _
  have reason : romEnv.mci.resetReasonEnum.Affords price _ :=
    (Program.affords_readReg (romEnv.mci.reg Mci.regResetReason)).bind fun _ =>
      Program.affords_ret _
  have whole : (romPrologue gWriter romEnv).Affords price _ :=
    .bind (affords_println price gWriter 29 rfl) fun _ =>
    .bind (affords_milestone price _) fun _ =>
    .bind (affords_print price gWriter 28 rfl) fun _ =>
    .bind lifecycle fun lifecycle =>
    .bind (affords_lifecycleLine price gWriter lifecycle) fun _ =>
    .bind (affords_print price gWriter 38 rfl) fun _ =>
    .bind (affords_wires price (by decide)) fun wires0 =>
    .bind (affords_hexWord price gWriter wires0) fun _ =>
    .bind (affords_println price gWriter 1 rfl) fun _ =>
    .bind (affords_print price gWriter 38 rfl) fun _ =>
    .bind (affords_wires price (by decide)) fun wires1 =>
    .bind (affords_hexWord price gWriter wires1) fun _ =>
    .bind (affords_println price gWriter 1 rfl) fun _ =>
    .bind (Program.affords_readReg (romEnv.mci.reg Mci.regResetReason)) fun resetReason =>
    .bind (affords_print price gWriter 30 rfl) fun _ =>
    .bind (affords_hexWord price gWriter resetReason) fun _ =>
    .bind (affords_println price gWriter 1 rfl) fun _ => reason
  refine whole.mono ?_
  change _ + (_ + (_ + (_ + 0 + (_ + (_ + (price (romEnv.mci.reg 0x400) + (_ + (_ + (_ +
    (price (romEnv.mci.reg 0x404) + _)))))))))) ≤ _
  omega

/-- The rest of the boot; a cold one costs the most of every register but
those of a fatal error. -/
theorem affords_romDispatch (handler : Option FatalErrorHandler) (reason : McuResetReason) :
    (romDispatch ⟨gWriter, handler⟩ romEnv reason).Affords price
      (169 * price uartTx + 34 * price flowReg + 10 * price i3cCtrlReg +
        10000 * price otpStatusReg + 100000 * price mboxStatusReg + price bootGoReg +
        price handlerMciFatal + price emuExit + price (romEnv.mci.reg Mci.regFwErrorFatal)) := by
  cases reason with
  | coldBoot =>
      have whole : (romDispatch ⟨gWriter, handler⟩ romEnv .coldBoot).Affords price _ :=
        .bind (affords_println price gWriter 29 rfl) fun _ =>
        .bind (affords_coldBoot price gWriter) fun _ => Program.affords_ret _
      exact whole.mono (by omega)
  | warmReset =>
      have whole : (romDispatch ⟨gWriter, handler⟩ romEnv .warmReset).Affords price _ :=
        .bind (affords_println price gWriter 30 rfl) fun _ =>
        .bind (affords_warmBoot price gWriter) fun _ => Program.affords_ret _
      exact whole.mono (by omega)
  | firmwareBootReset =>
      have whole : (romDispatch ⟨gWriter, handler⟩ romEnv .firmwareBootReset).Affords price _ :=
        .bind (affords_println price gWriter 39 rfl) fun _ =>
        .bind (affords_fwBoot price gWriter) fun _ => Program.affords_ret _
      exact whole.mono (by omega)
  | firmwareHitlessUpdate =>
      have whole : (romDispatch ⟨gWriter, handler⟩ romEnv .firmwareHitlessUpdate).Affords price _ :=
        .bind (affords_println price gWriter 48 rfl) fun _ =>
        .bind (affords_fwHitlessUpdate price gWriter) fun _ => Program.affords_ret _
      exact whole.mono (by omega)
  | invalid =>
      have whole : (romDispatch ⟨gWriter, handler⟩ romEnv .invalid).Affords price _ :=
        .bind (affords_println price gWriter 50 rfl) fun _ =>
          affords_fatalError price gWriter handler _
      exact whole.mono (by omega)

theorem affords_romStart (globals : Globals) :
    (romStart globals).Affords price (bootBudget price) := by
  have whole : (romStart globals).Affords price _ :=
    .bind (affords_romPrologue price globals.gWriter) fun reason =>
      affords_romDispatch price globals.gWriter globals.gFatalErrorHandler reason
  refine whole.mono ?_
  simp only [bootBudget, bootCounts, List.map_cons, List.map_nil, List.sum_cons, List.sum_nil]
  omega

end Flows

end BootTime

/-- Whatever the hardware answers and whatever an access of each register
costs, a boot settles within its budget. -/
theorem romStart_cost_le {σ : Type} (globals : Globals) (price : Word → Nat)
    (dev : Device Word Word σ) (state : σ) :
    Access.cost price ((romStart globals).run dev state).trace ≤ bootBudget price :=
  (BootTime.affords_romStart price globals).cost_le dev state

end McuRom
