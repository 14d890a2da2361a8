import McuRom.Rom.Progress

namespace McuRom

open Mmio Hardware

/-!
# What becomes of a failed boot flow

`rom_start` calls the selected flow as a statement and then settles in its
idle loop.  A flow that fails is therefore not reported.  Of the four flows
only the cold boot can fail, so a failure is dropped exactly when a cold boot
runs into one of its timeouts.
-/

/-- The reset reason register of the ROM's MCI. -/
def resetReasonReg : Word := romEnv.mci.reg Mci.regResetReason

/-! ## Entering a flow -/

/-- `rom_start` up to the call of the selected flow. -/
def flowEntry (globals : Globals) : Driver McuResetReason := do
  let reason ← romPrologue globals.gWriter romEnv
  println globals.gWriter (bootMessage reason)
  pure reason

/-- The result of the flow a reset selects, run where `rom_start` runs it. -/
def flowResult (globals : Globals) (state : HardwareState) : Option (McuResult Unit) :=
  (bootFlow globals.gWriter romEnv ((flowEntry globals).run hardware state).result).map fun flow =>
    (flow.run hardware ((flowEntry globals).run hardware state).state).result

/-- Every error of the selected flow reaches `fatal_error`. -/
def NoFailureDropped (globals : Globals) (state : HardwareState) : Prop :=
  ∀ e, flowResult globals state = some (.error e) →
    ((romStart globals).run hardware state).result = reportedHalt globals e

variable (globals : Globals) {state : HardwareState}

/-- Reading a register of the MCI changes nothing. -/
theorem completes_readMci {offset : Word} (inMci : isMci (romEnv.mci.reg offset) = true) :
    (romEnv.mci.readReg offset).Completes hardware (fun _ => True) state
      (state.1 (romEnv.mci.reg offset)) state := by
  have read := read_mci state inMci
  have ran := Program.run_readReg hardware (romEnv.mci.reg offset) state
  rw [read] at ran
  exact Program.completes_of_run ran fun _ _ => trivial

theorem completes_print (gWriter : Option Writer) (str : String) :
    (print gWriter str).Completes hardware (fun _ => True) state () state :=
  Program.completes_of_run (run_print state gWriter str) fun _ _ => trivial

theorem completes_hexWordPrintTo (value : Word) (gWriter : Option Writer) :
    (hexWordPrintTo value gWriter).Completes hardware (fun _ => True) state () state :=
  Program.completes_of_run (run_hexWordPrintTo state value gWriter) fun _ _ => trivial

/-- Everything before the flow leaves the scripts alone and finds the reset
reason in its register. -/
theorem completes_flowEntry (milestone checkpoint : HalfWord) :
    (flowEntry globals).Completes hardware (fun _ => True) (withFlow state milestone checkpoint)
      (Mci.decodeResetReason (state.1 resetReasonReg))
      (withFlow state (BootMilestones.romStarted ||| milestone) checkpoint) := by
  have quiet : ∀ access : Access Word Word, access.addr ≠ bootGoReg → True := fun _ _ => trivial
  have sameReason : (withFlow state (BootMilestones.romStarted ||| milestone) checkpoint).1
      resetReasonReg = state.1 resetReasonReg := setFlow_of_ne state _ (by decide)
  rw [← sameReason]
  have prologue : (romPrologue globals.gWriter romEnv).Completes hardware (fun _ => True)
      (withFlow state milestone checkpoint)
      (Mci.decodeResetReason
        ((withFlow state (BootMilestones.romStarted ||| milestone) checkpoint).1 resetReasonReg))
      (withFlow state (BootMilestones.romStarted ||| milestone) checkpoint) :=
    (completes_println quiet _ _).bind <| (completes_milestone quiet _ _ _).bind <|
    (completes_print _ _).bind <|
    ((completes_readMci (by decide)).bind (Program.completes_ret _ _)).bind <|
    (completes_println quiet _ _).bind <| (completes_print _ _).bind <|
    (completes_readMci (by decide)).bind <| (completes_hexWordPrintTo _ _).bind <|
    (completes_println quiet _ _).bind <| (completes_print _ _).bind <|
    (completes_readMci (by decide)).bind <| (completes_hexWordPrintTo _ _).bind <|
    (completes_println quiet _ _).bind <| (completes_readMci (by decide)).bind <|
    (completes_print _ _).bind <| (completes_hexWordPrintTo _ _).bind <|
    (completes_println quiet _ _).bind <|
    (completes_readMci (by decide)).bind (Program.completes_ret _ _)
  exact prologue.bind ((completes_println quiet _ _).bind (Program.completes_ret _ _))

/-- The same from a state as it is, whatever its flow status holds. -/
theorem completes_flowEntry_self (state : HardwareState) :
    (flowEntry globals).Completes hardware (fun _ => True) state
      (Mci.decodeResetReason (state.1 resetReasonReg))
      (withFlow state (BootMilestones.romStarted ||| Mci.milestoneOf (state.1 flowReg))
        (Mci.checkpointOf (state.1 flowReg))) := by
  have entered := @completes_flowEntry globals state (Mci.milestoneOf (state.1 flowReg))
    (Mci.checkpointOf (state.1 flowReg))
  rw [withFlow_self] at entered
  exact entered

/-! ## The flows that cannot fail -/

theorem not_error_of_completes {flow : Driver (McuResult Unit)} {start : HardwareState}
    (completes : ∃ final, flow.Completes hardware (fun _ => True) start (.ok ()) final)
    (e : McuError) : ¬ some (flow.run hardware start).result = some (.error e) := by
  intro failed
  rcases completes with ⟨final, ran⟩
  rw [ran.returns] at failed
  cases failed

theorem completes_warmBoot (gWriter : Option Writer) (milestone checkpoint : HalfWord) :
    ∃ final, (WarmBoot.execute gWriter romEnv).Completes hardware (fun _ => True)
      (withFlow state milestone checkpoint) (.ok ()) final :=
  have quiet : ∀ access : Access Word Word, access.addr ≠ bootGoReg → True := fun _ _ => trivial
  ⟨_, (completes_checkpoint quiet _ _ _).bind <| (completes_println quiet _ _).bind <|
    (completes_milestone quiet _ _ _).bind <| (completes_checkpoint quiet _ _ _).bind <|
    (completes_println quiet _ _).bind <| Program.completes_ret _ _⟩

theorem completes_fwBoot (gWriter : Option Writer) (milestone checkpoint : HalfWord) :
    ∃ final, (FwBoot.execute gWriter romEnv).Completes hardware (fun _ => True)
      (withFlow state milestone checkpoint) (.ok ()) final :=
  have quiet : ∀ access : Access Word Word, access.addr ≠ bootGoReg → True := fun _ _ => trivial
  ⟨_, (completes_checkpoint quiet _ _ _).bind <| (completes_println quiet _ _).bind <|
    (completes_checkpoint quiet _ _ _).bind <| (completes_milestone quiet _ _ _).bind <|
    (completes_checkpoint quiet _ _ _).bind <| (completes_println quiet _ _).bind <|
    Program.completes_ret _ _⟩

theorem completes_fwHitlessUpdate (gWriter : Option Writer) (milestone checkpoint : HalfWord) :
    ∃ final, (FwHitlessUpdate.execute gWriter romEnv).Completes hardware (fun _ => True)
      (withFlow state milestone checkpoint) (.ok ()) final :=
  have quiet : ∀ access : Access Word Word, access.addr ≠ bootGoReg → True := fun _ _ => trivial
  ⟨_, (completes_checkpoint quiet _ _ _).bind <| (completes_println quiet _ _).bind <|
    (completes_checkpoint quiet _ _ _).bind <| (completes_println quiet _ _).bind <|
    Program.completes_ret _ _⟩

/-! ## Failures and where they go -/

variable (state)

/-- The selected flow fails exactly when it is a cold boot that times out. -/
theorem flowResult_error_iff (e : McuError) :
    flowResult globals state = some (.error e) ↔
      e = .timeout ∧ Mci.decodeResetReason (state.1 resetReasonReg) = .coldBoot ∧
        (ColdBoot.Stage.OtpTimeout (ColdBoot.otpStatus state.2) ∨
          ColdBoot.Stage.CaliptraTimeout (ColdBoot.mailboxStatus state.2)) := by
  have entered := completes_flowEntry_self globals state
  rw [flowResult, entered.returns, entered.ends]
  cases Mci.decodeResetReason (state.1 resetReasonReg) with
  | coldBoot =>
      have result := ColdBoot.bootRun_result (withFlow state
        (BootMilestones.romStarted ||| Mci.milestoneOf (state.1 flowReg))
        (Mci.checkpointOf (state.1 flowReg))) globals.gWriter
      change some (ColdBoot.bootRun _ globals.gWriter).result = _ ↔ _
      rw [result, withFlow_script, ColdBoot.waitResult]
      split
      · rename_i timeout
        constructor
        · rintro ⟨⟩
          exact ⟨rfl, rfl, timeout⟩
        · rintro ⟨rfl, _⟩
          rfl
      · rename_i noTimeout
        exact iff_of_false (fun impossible => by cases impossible) fun both => noTimeout both.2.2
  | warmReset =>
      exact iff_of_false (not_error_of_completes (completes_warmBoot globals.gWriter _ _) e)
        fun both => by cases both.2.1
  | firmwareBootReset =>
      exact iff_of_false (not_error_of_completes (completes_fwBoot globals.gWriter _ _) e)
        fun both => by cases both.2.1
  | firmwareHitlessUpdate =>
      exact iff_of_false (not_error_of_completes (completes_fwHitlessUpdate globals.gWriter _ _) e)
        fun both => by cases both.2.1
  | invalid => exact iff_of_false (fun impossible => by cases impossible) fun both => by cases both.2.1

/-- Whatever a flow returns, `rom_start` settles in its idle loop after it. -/
theorem romStart_of_flow {result : McuResult Unit}
    (selected : flowResult globals state = some result) :
    ((romStart globals).run hardware state).result = .romStart := by
  have entry : ((flowEntry globals).run hardware state).result =
      ((romPrologue globals.gWriter romEnv).run hardware state).result := by
    simp only [flowEntry, Program.run_bind, Run.after_result, Program.pure_eq, Program.run_ret]
  rw [flowResult, entry] at selected
  rw [romStart, Program.run_bind, Run.after_result, romDispatch, Program.run_bind,
    Run.after_result]
  cases flow : bootFlow globals.gWriter romEnv
      ((romPrologue globals.gWriter romEnv).run hardware state).result with
  | none =>
      rw [flow] at selected
      cases selected
  | some program => simp only [Program.run_bind, Run.after_result, Program.pure_eq, Program.run_ret]

/-- For every hardware state and every handler, no failure is dropped exactly
when the reset does not select a cold boot that times out. -/
theorem noFailureDropped_iff :
    NoFailureDropped globals state ↔
      ¬ (Mci.decodeResetReason (state.1 resetReasonReg) = .coldBoot ∧
        (ColdBoot.Stage.OtpTimeout (ColdBoot.otpStatus state.2) ∨
          ColdBoot.Stage.CaliptraTimeout (ColdBoot.mailboxStatus state.2))) := by
  constructor
  · intro reports fails
    have failed := (flowResult_error_iff globals state .timeout).mpr ⟨rfl, fails⟩
    have reported := reports .timeout failed
    rw [romStart_of_flow globals state failed, reportedHalt] at reported
    split at reported <;> cases reported
  · intro succeeds e failed
    exact absurd ((flowResult_error_iff globals state e).mp failed).2 succeeds

/-- A cold boot whose OTP controller never becomes idle fails with a timeout,
and `rom_start` idles as after a successful boot. -/
theorem romStart_drops_otp_timeout :
    flowResult ⟨none, none⟩ (fun _ => 0, fun _ _ => 0) = some (.error .timeout) ∧
      ((romStart ⟨none, none⟩).run hardware (fun _ => 0, fun _ _ => 0)).result = .romStart ∧
      ¬ NoFailureDropped ⟨none, none⟩ (fun _ => 0, fun _ _ => 0) := by
  have failed : flowResult ⟨none, none⟩ (fun _ => 0, fun _ _ => 0) = some (.error .timeout) :=
    (flowResult_error_iff ⟨none, none⟩ (fun _ => 0, fun _ _ => 0) .timeout).mpr
      ⟨rfl, by decide, Or.inl fun _ _ => show Otp.statusNotIdle 0 = true by decide⟩
  have idles := romStart_of_flow ⟨none, none⟩ (fun _ => 0, fun _ _ => 0) failed
  refine ⟨failed, idles, fun reports => ?_⟩
  have reported := reports .timeout failed
  rw [idles] at reported
  cases reported

end McuRom
