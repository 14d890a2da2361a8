import McuRom.Rom.ResetDispatch
import Mathlib.Data.List.Induction
import Mathlib.Data.Set.Basic

namespace McuRom

open Mmio Hardware

/-!
# Chains of boots

The flow status register outlives a reset: unless the reset is a power-on, a
boot finds in it what earlier boots have reported.  A chain is any sequence of
boots, each with its own reset reason, its own devices and its own handlers.

What one boot adds depends on its outcome alone.  `Progress` keeps that as a
set of milestones and a last checkpoint; the register is shown to encode it
after every chain.
-/

/-! ## Outcomes -/

/-- The milestones the ROM reports. -/
inductive Milestone where
  | romStarted
  | cptraBootGoAsserted
  | cptraFusesWritten
  | coldBootFlowComplete
  | warmResetFlowComplete
  | firmwareBootFlowComplete
deriving DecidableEq, Repr

/-- The bit of a milestone in the high half of the flow status. -/
def Milestone.bit : Milestone → Nat
  | romStarted => 0
  | cptraBootGoAsserted => 1
  | cptraFusesWritten => 2
  | coldBootFlowComplete => 5
  | warmResetFlowComplete => 6
  | firmwareBootFlowComplete => 7

/-- The flag the source defines for it. -/
def Milestone.flag : Milestone → HalfWord
  | romStarted => BootMilestones.romStarted
  | cptraBootGoAsserted => BootMilestones.cptraBootGoAsserted
  | cptraFusesWritten => BootMilestones.cptraFusesWritten
  | coldBootFlowComplete => BootMilestones.coldBootFlowComplete
  | warmResetFlowComplete => BootMilestones.warmResetFlowComplete
  | firmwareBootFlowComplete => BootMilestones.firmwareBootFlowComplete

/-- The ways a boot can end. -/
inductive BootOutcome where
  | rejected
  | coldOtpTimeout
  | coldCaliptraTimeout
  | coldComplete
  | warmComplete
  | fwComplete
  | hitlessComplete
deriving DecidableEq, Repr

namespace BootOutcome

/-- The outcome of a cold boot, decided by the two STATUS streams. -/
def ofCold (otp mailbox : Nat → Word) : BootOutcome :=
  if ColdBoot.Stage.OtpTimeout otp then coldOtpTimeout
  else if ColdBoot.Stage.CaliptraTimeout mailbox then coldCaliptraTimeout
  else coldComplete

/-- The outcome that the reset reason and the two STATUS streams decide. -/
def of (resetReason : Word) (otp mailbox : Nat → Word) : BootOutcome :=
  match Mci.decodeResetReason resetReason with
  | .coldBoot => ofCold otp mailbox
  | .warmReset => warmComplete
  | .firmwareBootReset => fwComplete
  | .firmwareHitlessUpdate => hitlessComplete
  | .invalid => rejected

/-- The milestones a boot with this outcome reports. -/
def milestones : BootOutcome → List Milestone
  | rejected | coldOtpTimeout | hitlessComplete => [.romStarted]
  | coldCaliptraTimeout => [.romStarted, .cptraBootGoAsserted, .cptraFusesWritten]
  | coldComplete =>
      [.romStarted, .cptraBootGoAsserted, .cptraFusesWritten, .coldBootFlowComplete]
  | warmComplete => [.romStarted, .warmResetFlowComplete]
  | fwComplete => [.romStarted, .firmwareBootFlowComplete]

/-- The checkpoint it leaves, if it sets any. -/
def checkpoint : BootOutcome → Option McuRomBootStatus
  | rejected => none
  | coldOtpTimeout => some .strapsLoaded
  | coldCaliptraTimeout => some .fusesPopulatedToCaliptra
  | coldComplete => some .coldBootFlowComplete
  | warmComplete => some .warmResetFlowComplete
  | fwComplete => some .firmwareBootFlowComplete
  | hitlessComplete => some .hitlessUpdateFlowComplete

/-- Its milestones as one word. -/
def flags (outcome : BootOutcome) : HalfWord :=
  outcome.milestones.foldl (fun flags milestone => flags ||| milestone.flag) 0

/-- A bit of that word is set for the milestones it is made of. -/
theorem getLsbD_flags (outcome : BootOutcome) (milestone : Milestone) :
    outcome.flags.getLsbD milestone.bit = true ↔ milestone ∈ outcome.milestones := by
  cases outcome <;> cases milestone <;> decide

end BootOutcome

/-! ## Boots -/

/-- One boot: whether the reset clears the flow status, the reset reason it
leaves in the MCI, the replies of the other devices, and the installed writer
and handler. -/
structure Boot where
  powerOn : Bool
  resetReason : Word
  script : Word → Nat → Word
  globals : Globals

namespace Boot

/-- The hardware after the reset. -/
def start (boot : Boot) (state : HardwareState) : HardwareState :=
  setFlow (Function.update state.1 resetReasonReg boot.resetReason, boot.script)
    (if boot.powerOn then 0 else state.1 flowReg)

/-- The hardware after the boot. -/
def run (boot : Boot) (state : HardwareState) : HardwareState :=
  ((romStart boot.globals).run hardware (boot.start state)).state

def outcome (boot : Boot) : BootOutcome :=
  .of boot.resetReason (ColdBoot.otpStatus boot.script) (ColdBoot.mailboxStatus boot.script)

theorem start_flow (boot : Boot) (state : HardwareState) :
    (boot.start state).1 flowReg = if boot.powerOn then 0 else state.1 flowReg :=
  setFlow_flow _ _

theorem start_resetReason (boot : Boot) (state : HardwareState) :
    (boot.start state).1 resetReasonReg = boot.resetReason := by
  have apart : resetReasonReg ≠ flowReg := by decide
  rw [start, setFlow_of_ne _ _ apart]
  exact Function.update_self resetReasonReg boot.resetReason state.1

end Boot

/-! ## What one boot leaves in the register -/

/-- The flow status with an outcome added to it. -/
def BootOutcome.report (outcome : BootOutcome) (old : Word) : Word :=
  Mci.flowWord (Mci.milestoneOf old ||| outcome.flags)
    (outcome.checkpoint.elim (Mci.checkpointOf old) McuRomBootStatus.code)

section Single

variable (globals : Globals) (state : HardwareState)

/-- The state in which `rom_start` dispatches. -/
def dispatchState : HardwareState :=
  withFlow state (BootMilestones.romStarted ||| Mci.milestoneOf (state.1 flowReg))
    (Mci.checkpointOf (state.1 flowReg))

variable {globals state}

/-- The state after a boot that enters a flow is the state after the flow. -/
theorem state_of_entersFlow {flow : BootFlow} (enters : EntersFlow globals state flow) :
    ((romStart globals).run hardware state).state =
      ((flow.execute globals.gWriter romEnv).run hardware (dispatchState state)).state := by
  have entered := completes_flowEntry_self globals state
  rw [enters, Run.after_state, entered.ends, Program.run_bind, Run.after_state]
  rfl

/-- The flow status is the one the flow ends with. -/
theorem flow_of_completes {flow : BootFlow} {result : McuResult Unit} {base : HardwareState}
    {milestone checkpoint : HalfWord} (enters : EntersFlow globals state flow)
    (ran : (flow.execute globals.gWriter romEnv).Completes hardware (fun _ => True)
      (dispatchState state) result (withFlow base milestone checkpoint)) :
    ((romStart globals).run hardware state).state.1 flowReg = Mci.flowWord milestone checkpoint := by
  rw [state_of_entersFlow enters, ran.ends, withFlow_flow]

/-- The report of a fatal error leaves the flow status as it is. -/
theorem state_of_rejects (rejects : RejectsReset globals state) :
    ((romStart globals).run hardware state).state.1 flowReg =
      (dispatchState state).1 flowReg := by
  have entered := completes_flowEntry_self globals state
  rw [rejects, Run.after_state, entered.ends]
  have kept : ∀ (state : HardwareState) (addr value : Word), addr ≠ flowReg →
      (hardware.write state addr value).1 flowReg = state.1 flowReg := by
    intro state addr value apart
    cases inMci : isMci addr with
    | true =>
        rw [write_mci state inMci]
        exact Function.update_of_ne apart.symm _ _
    | false => rw [write_scripted state inMci]
  rcases globals with ⟨gWriter, _ | ⟨⟩⟩
  · exact kept _ (romEnv.mci.reg Mci.regFwErrorFatal) _ (by decide)
  · simp only [fatalError, fatalErrorRaw, RomFatalErrorHandler.fatalError, Program.run_bind,
      Run.after_state, run_print, run_println, run_hexWordPrintTo, Program.run_writeReg,
      Program.pure_eq, Program.run_ret]
    rw [kept _ emuExit _ (by decide), kept _ handlerMciFatal _ (by decide)]
    rfl

/-! ### The flows -/

theorem completes_warmBoot_report (gWriter : Option Writer) (milestone checkpoint : HalfWord) :
    (WarmBoot.execute gWriter romEnv).Completes hardware (fun _ => True)
      (withFlow state milestone checkpoint) (.ok ())
      (withFlow state (BootMilestones.warmResetFlowComplete ||| milestone)
        McuRomBootStatus.warmResetFlowComplete.code) :=
  have quiet : ∀ access : Access Word Word, access.addr ≠ bootGoReg → True := fun _ _ => trivial
  (completes_checkpoint quiet _ _ _).bind <| (completes_println quiet _ _).bind <|
    (completes_milestone quiet _ _ _).bind <| (completes_checkpoint quiet _ _ _).bind <|
    (completes_println quiet _ _).bind <| Program.completes_ret _ _

theorem completes_fwBoot_report (gWriter : Option Writer) (milestone checkpoint : HalfWord) :
    (FwBoot.execute gWriter romEnv).Completes hardware (fun _ => True)
      (withFlow state milestone checkpoint) (.ok ())
      (withFlow state (BootMilestones.firmwareBootFlowComplete ||| milestone)
        McuRomBootStatus.firmwareBootFlowComplete.code) :=
  have quiet : ∀ access : Access Word Word, access.addr ≠ bootGoReg → True := fun _ _ => trivial
  (completes_checkpoint quiet _ _ _).bind <| (completes_println quiet _ _).bind <|
    (completes_checkpoint quiet _ _ _).bind <| (completes_milestone quiet _ _ _).bind <|
    (completes_checkpoint quiet _ _ _).bind <| (completes_println quiet _ _).bind <|
    Program.completes_ret _ _

theorem completes_fwHitlessUpdate_report (gWriter : Option Writer)
    (milestone checkpoint : HalfWord) :
    (FwHitlessUpdate.execute gWriter romEnv).Completes hardware (fun _ => True)
      (withFlow state milestone checkpoint) (.ok ())
      (withFlow state milestone McuRomBootStatus.hitlessUpdateFlowComplete.code) :=
  have quiet : ∀ access : Access Word Word, access.addr ≠ bootGoReg → True := fun _ _ => trivial
  (completes_checkpoint quiet _ _ _).bind <| (completes_println quiet _ _).bind <|
    (completes_checkpoint quiet _ _ _).bind <| (completes_println quiet _ _).bind <|
    Program.completes_ret _ _

/-- ROM_STARTED is reported before the flow and again by it. -/
theorem milestones_twice (old more : HalfWord) :
    BootMilestones.romStarted ||| old ||| BootMilestones.romStarted ||| more =
      old ||| (BootMilestones.romStarted ||| more) := by
  calc BootMilestones.romStarted ||| old ||| BootMilestones.romStarted ||| more
      = old ||| (BootMilestones.romStarted ||| BootMilestones.romStarted ||| more) := by ac_rfl
    _ = old ||| (BootMilestones.romStarted ||| more) := by rw [BitVec.or_self]

/-- What a cold boot reports, by its outcome. -/
theorem coldBoot_report (gWriter : Option Writer) :
    ((ColdBoot.execute gWriter romEnv).run hardware (dispatchState state)).state.1 flowReg =
      (BootOutcome.ofCold (ColdBoot.otpStatus state.2) (ColdBoot.mailboxStatus state.2)).report
        (state.1 flowReg) := by
  have reported := ColdBoot.bootRun_reported (dispatchState state) gWriter
  rcases reported.checkpoint with ⟨last, isLast, checkpoint⟩
  have milestones := reported.milestones
  have stages : ColdBoot.bootStages (dispatchState state) =
      ColdBoot.completedStages (ColdBoot.otpStatus state.2) (ColdBoot.mailboxStatus state.2) := rfl
  rw [stages] at isLast milestones
  rw [dispatchState, withFlow_flow, Mci.milestoneOf_flowWord] at milestones
  change (ColdBoot.bootRun (dispatchState state) gWriter).state.1 flowReg = _
  rw [← Mci.flowWord_halves ((ColdBoot.bootRun (dispatchState state) gWriter).state.1 flowReg),
    checkpoint, dispatchState, milestones, milestones_twice, BootOutcome.report, BootOutcome.ofCold]
  by_cases otp : ColdBoot.Stage.OtpTimeout (ColdBoot.otpStatus state.2)
  · rw [ColdBoot.completedStages_otpTimeout otp] at isLast ⊢
    cases isLast
    rw [if_pos otp]
    rfl
  · by_cases caliptra : ColdBoot.Stage.CaliptraTimeout (ColdBoot.mailboxStatus state.2)
    · rw [ColdBoot.completedStages_caliptraTimeout otp caliptra] at isLast ⊢
      cases isLast
      rw [if_neg otp, if_pos caliptra]
      rfl
    · rw [ColdBoot.completedStages_complete otp caliptra] at isLast ⊢
      cases isLast
      rw [if_neg otp, if_neg caliptra]
      rfl

/-- One boot adds its outcome's milestones and checkpoint to the register. -/
theorem romStart_report (globals : Globals) (state : HardwareState) :
    ((romStart globals).run hardware state).state.1 flowReg =
      (BootOutcome.of (state.1 resetReasonReg) (ColdBoot.otpStatus state.2)
        (ColdBoot.mailboxStatus state.2)).report (state.1 flowReg) := by
  have selected := @dispatches globals state
  have merge : ∀ more old : HalfWord, more ||| (BootMilestones.romStarted ||| old) =
      old ||| (BootMilestones.romStarted ||| more) := fun more old => by ac_rfl
  unfold BootOutcome.of
  cases reason : Mci.decodeResetReason (state.1 resetReasonReg) with
  | coldBoot =>
      rw [reason] at selected
      rw [state_of_entersFlow (selected.1 .coldBoot rfl)]
      exact coldBoot_report globals.gWriter
  | warmReset =>
      rw [reason] at selected
      rw [flow_of_completes (selected.1 .warmBoot rfl) (completes_warmBoot_report _ _ _)]
      exact congrArg (Mci.flowWord · _) (merge _ _)
  | firmwareBootReset =>
      rw [reason] at selected
      rw [flow_of_completes (selected.1 .fwBoot rfl) (completes_fwBoot_report _ _ _)]
      exact congrArg (Mci.flowWord · _) (merge _ _)
  | firmwareHitlessUpdate =>
      rw [reason] at selected
      rw [flow_of_completes (selected.1 .fwHitlessUpdate rfl)
        (completes_fwHitlessUpdate_report _ _ _)]
      exact congrArg (Mci.flowWord · _) (BitVec.or_comm _ _)
  | invalid =>
      rw [reason] at selected
      rw [state_of_rejects (selected.2 rfl), dispatchState, withFlow_flow]
      exact congrArg (Mci.flowWord · _) (BitVec.or_comm _ _)

end Single

theorem Boot.run_flow (boot : Boot) (state : HardwareState) :
    (boot.run state).1 flowReg =
      boot.outcome.report (if boot.powerOn then 0 else state.1 flowReg) := by
  rw [Boot.run, romStart_report, Boot.start_resetReason, Boot.start_flow]
  rfl

/-! ## Progress -/

/-- The milestones that have been reported and the checkpoint reported last. -/
structure Progress where
  reached : Set Milestone
  last : HalfWord

namespace Progress

/-- Nothing has been reported. -/
def none : Progress := ⟨∅, 0⟩

/-- What a flow status word says. -/
def ofStatus (status : Word) : Progress where
  reached := {milestone | (Mci.milestoneOf status).getLsbD milestone.bit = true}
  last := Mci.checkpointOf status

/-- A boot with this outcome adds its milestones, and its checkpoint if it has one. -/
def add (progress : Progress) (outcome : BootOutcome) : Progress where
  reached := progress.reached ∪ {milestone | milestone ∈ outcome.milestones}
  last := outcome.checkpoint.elim progress.last McuRomBootStatus.code

/-- A power-on forgets what was reported before it. -/
def after (progress : Progress) (boot : Boot) : Progress :=
  (if boot.powerOn then none else progress).add boot.outcome

/-- The progress after a chain of boots. -/
def chain (boots : List Boot) (progress : Progress) : Progress := boots.foldl after progress

theorem ofStatus_zero : ofStatus 0 = none := by
  refine congrArg (fun reached => Progress.mk reached 0) ?_
  ext milestone
  exact iff_of_false (by cases milestone <;> decide) (Set.notMem_empty milestone)

/-- Adding an outcome to the word is adding it to the progress. -/
theorem ofStatus_report (outcome : BootOutcome) (status : Word) :
    ofStatus (outcome.report status) = (ofStatus status).add outcome := by
  refine congrArg₂ Progress.mk ?_ ?_
  · ext milestone
    rw [Set.mem_ofPred_eq, BootOutcome.report, Mci.milestoneOf_flowWord, BitVec.getLsbD_or,
      Bool.or_eq_true, outcome.getLsbD_flags]
    rfl
  · rw [BootOutcome.report, Mci.checkpointOf_flowWord]
    rfl

theorem ofStatus_run (boot : Boot) (state : HardwareState) :
    ofStatus ((boot.run state).1 flowReg) = (ofStatus (state.1 flowReg)).after boot := by
  rw [boot.run_flow, ofStatus_report, after]
  cases boot.powerOn with
  | true => exact congrArg (add · boot.outcome) ofStatus_zero
  | false => rfl

end Progress

/-- The hardware after a chain of boots. -/
def bootChain (boots : List Boot) (state : HardwareState) : HardwareState :=
  boots.foldl (fun current boot => boot.run current) state

/-- Along every chain the register says what the progress is. -/
theorem ofStatus_bootChain (boots : List Boot) (state : HardwareState) :
    Progress.ofStatus ((bootChain boots state).1 flowReg) =
      Progress.chain boots (Progress.ofStatus (state.1 flowReg)) := by
  induction boots generalizing state with
  | nil => rfl
  | cons boot rest ih =>
      have later := ih (boot.run state)
      rw [Progress.ofStatus_run] at later
      exact later

/-! ## What a chain reports -/

/-- The boots from the last power-on of a chain on. -/
def sincePowerOn (boots : List Boot) : List Boot :=
  boots.foldl (fun since boot => if boot.powerOn then [boot] else since ++ [boot]) []

/-- The chain contains a power-on. -/
def PoweredOn (boots : List Boot) : Prop := ∃ boot ∈ boots, boot.powerOn = true

instance (boots : List Boot) : Decidable (PoweredOn boots) :=
  inferInstanceAs (Decidable (∃ boot ∈ boots, _))

namespace Progress

theorem sincePowerOn_snoc (boots : List Boot) (boot : Boot) :
    sincePowerOn (boots ++ [boot]) =
      if boot.powerOn then [boot] else sincePowerOn boots ++ [boot] := by
  rw [sincePowerOn, List.foldl_append]
  rfl

theorem chain_snoc (boots : List Boot) (boot : Boot) (progress : Progress) :
    chain (boots ++ [boot]) progress = (chain boots progress).after boot := by
  rw [chain, List.foldl_append]
  rfl

/-- A milestone has been reached if a boot since the last power-on reported
it, or if it was there before and there was no power-on. -/
theorem mem_reached_chain (boots : List Boot) (progress : Progress) (milestone : Milestone) :
    milestone ∈ (chain boots progress).reached ↔
      (∃ boot ∈ sincePowerOn boots, milestone ∈ boot.outcome.milestones) ∨
        ¬ PoweredOn boots ∧ milestone ∈ progress.reached := by
  induction boots using List.reverseRecOn with
  | nil => simp [chain, sincePowerOn, PoweredOn]
  | append_singleton boots boot ih =>
      rw [chain_snoc, sincePowerOn_snoc, after]
      cases power : boot.powerOn with
      | true => simp [add, none, PoweredOn, power]
      | false =>
          change milestone ∈ (chain boots progress).reached ∨ milestone ∈ boot.outcome.milestones ↔ _
          rw [ih]
          rw [or_right_comm]
          simp [PoweredOn, power, or_and_right, exists_or]

/-- The last checkpoint is that of the last boot since the power-on that set
one. -/
theorem last_chain (boots : List Boot) (progress : Progress) :
    (chain boots progress).last =
      ((sincePowerOn boots).filterMap fun boot => boot.outcome.checkpoint).getLast?.elim
        (if PoweredOn boots then 0 else progress.last) McuRomBootStatus.code := by
  induction boots using List.reverseRecOn with
  | nil => rfl
  | append_singleton boots boot ih =>
      rw [chain_snoc, sincePowerOn_snoc, after]
      have ended : PoweredOn (boots ++ [boot]) ↔ PoweredOn boots ∨ boot.powerOn = true := by
        simp [PoweredOn, or_and_right, exists_or]
      cases power : boot.powerOn with
      | true =>
          rw [if_pos (ended.mpr (Or.inr power))]
          cases checkpoint : boot.outcome.checkpoint <;> simp [add, none, checkpoint]
      | false =>
          have same : PoweredOn (boots ++ [boot]) ↔ PoweredOn boots := by simp [ended, power]
          rw [if_neg Bool.false_ne_true, if_neg Bool.false_ne_true, List.filterMap_append, add, ih]
          cases checkpoint : boot.outcome.checkpoint with
          | none => simp [checkpoint, same]
          | some status => simp [checkpoint]

/-- The reports fit together: nothing is reported without ROM_STARTED, the
fuses are reported with the start of Caliptra, a complete cold boot with both,
and a checkpoint with the milestones of the boot that left it. -/
structure Consistent (progress : Progress) : Prop where
  started : ∀ milestone ∈ progress.reached, .romStarted ∈ progress.reached
  together : .cptraFusesWritten ∈ progress.reached ↔ .cptraBootGoAsserted ∈ progress.reached
  complete : .coldBootFlowComplete ∈ progress.reached → .cptraFusesWritten ∈ progress.reached
  checkpoint : progress.last = 0 ∨ ∃ (outcome : BootOutcome) (status : McuRomBootStatus),
    outcome.checkpoint = some status ∧ progress.last = status.code ∧
      ∀ milestone ∈ outcome.milestones, milestone ∈ progress.reached

theorem consistent_none : none.Consistent where
  started _ impossible := impossible
  together := Iff.rfl
  complete impossible := impossible
  checkpoint := Or.inl rfl

/-- Every outcome keeps the reports consistent. -/
theorem Consistent.add {progress : Progress} (consistent : progress.Consistent)
    (outcome : BootOutcome) : (progress.add outcome).Consistent where
  started _ _ := Or.inr (by cases outcome <;> exact List.mem_cons_self)
  together := by
    have together : Milestone.cptraFusesWritten ∈ outcome.milestones ↔
        Milestone.cptraBootGoAsserted ∈ outcome.milestones := by cases outcome <;> decide
    exact or_congr consistent.together together
  complete := by
    have complete : Milestone.coldBootFlowComplete ∈ outcome.milestones →
        Milestone.cptraFusesWritten ∈ outcome.milestones := by cases outcome <;> decide
    exact Or.imp consistent.complete complete
  checkpoint := by
    cases left : outcome.checkpoint with
    | some status =>
        refine Or.inr ⟨outcome, status, left, ?_, fun milestone => Or.inr⟩
        rw [Progress.add, left, Option.elim]
    | none =>
        have same : (progress.add outcome).last = progress.last := by
          rw [Progress.add, left, Option.elim]
        rw [same]
        refine consistent.checkpoint.imp_right ?_
        rintro ⟨earlier, status, reported, equal, inside⟩
        exact ⟨earlier, status, reported, equal, fun milestone member =>
          Or.inl (inside milestone member)⟩

theorem Consistent.chain {progress : Progress} (consistent : progress.Consistent)
    (boots : List Boot) : (Progress.chain boots progress).Consistent := by
  induction boots generalizing progress with
  | nil => exact consistent
  | cons boot rest ih =>
      apply ih
      unfold after
      split
      · exact consistent_none.add boot.outcome
      · exact consistent.add boot.outcome

/-- After a power-on nothing is left of what was in the register before it. -/
theorem consistent_of_poweredOn {boots : List Boot} (powered : PoweredOn boots)
    (progress : Progress) : (Progress.chain boots progress).Consistent := by
  rcases powered with ⟨boot, member, powerOn⟩
  rcases List.mem_iff_append.mp member with ⟨before, later, rfl⟩
  rw [Progress.chain, List.foldl_append]
  refine Consistent.chain ?_ later
  rw [after, if_pos powerOn]
  exact consistent_none.add boot.outcome

end Progress

end McuRom
