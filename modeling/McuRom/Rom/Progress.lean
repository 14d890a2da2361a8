import McuRom.Rom.Hardware

namespace McuRom

open Mmio

/-!
# Cold boot progress

A cold boot is a fixed list of stages.  Each stage that completes reports its
checkpoint, and some add a milestone; a stage that fails ends the boot where
it is.  Only two stages can fail: the peripherals, when the OTP controller
never becomes idle, and the wait for Caliptra, when the mailbox stays busy.

`completedStages` says from the two STATUS streams alone which stages
complete.  The execution of the boot flow is shown to report exactly those.
-/

namespace ColdBoot

/-! ## The stages -/

/-- The stages of a cold boot, in order. -/
inductive Stage where
  | memoryMap
  | straps
  | peripherals
  | caliptraBootGo
  | fuses
  | caliptraReady
  | ownershipTransfer
  | firmware
deriving DecidableEq, Repr

namespace Stage

def all : List Stage :=
  [memoryMap, straps, peripherals, caliptraBootGo, fuses, caliptraReady, ownershipTransfer, firmware]

/-- The checkpoint a stage reports when it completes. -/
def status : Stage → McuRomBootStatus
  | memoryMap => .mcuMemoryMapInitialized
  | straps => .strapsLoaded
  | peripherals => .mcuRegistersInitialized
  | caliptraBootGo => .caliptraBootGoAsserted
  | fuses => .fusesPopulatedToCaliptra
  | caliptraReady => .caliptraReadyForMailbox
  | ownershipTransfer => .deviceOwnershipTransferComplete
  | firmware => .coldBootFlowComplete

/-- The milestone it adds, if any. -/
def milestone : Stage → HalfWord
  | caliptraBootGo => BootMilestones.cptraBootGoAsserted
  | fuses => BootMilestones.cptraFusesWritten
  | firmware => BootMilestones.coldBootFlowComplete
  | memoryMap | straps | peripherals | caliptraReady | ownershipTransfer => 0

/-- Every status word the OTP driver may read is one where it is not idle. -/
def OtpTimeout (otp : Nat → Word) : Prop :=
  BusyFor Otp.statusNotIdle otp Otp.defaultTimeoutCycles.toNat

/-- Every status word the wait for Caliptra may read is busy. -/
def CaliptraTimeout (mailbox : Nat → Word) : Prop :=
  BusyFor CaliptraSoC.statusBusy mailbox readyTimeout.toNat

instance (otp : Nat → Word) : Decidable (OtpTimeout otp) :=
  inferInstanceAs (Decidable (∀ index < _, _))

instance (mailbox : Nat → Word) : Decidable (CaliptraTimeout mailbox) :=
  inferInstanceAs (Decidable (∀ index < _, _))

/-- Whether a stage that is reached completes. -/
def succeeds (otp mailbox : Nat → Word) : Stage → Bool
  | peripherals => !decide (OtpTimeout otp)
  | caliptraReady => !decide (CaliptraTimeout mailbox)
  | memoryMap | straps | caliptraBootGo | fuses | ownershipTransfer | firmware => true

/-- The milestones of a list of stages together. -/
def milestones (stages : List Stage) : HalfWord :=
  stages.foldl (fun flags stage => flags ||| stage.milestone) 0

end Stage

/-- The stages that complete: all of them up to the first that fails. -/
def completedStages (otp mailbox : Nat → Word) : List Stage :=
  Stage.all.takeWhile (Stage.succeeds otp mailbox)

theorem completedStages_otpTimeout {otp mailbox : Nat → Word} (timeout : Stage.OtpTimeout otp) :
    completedStages otp mailbox = [.memoryMap, .straps] := by
  simp [completedStages, Stage.all, List.takeWhile_cons, Stage.succeeds, timeout]

theorem completedStages_caliptraTimeout {otp mailbox : Nat → Word}
    (idle : ¬ Stage.OtpTimeout otp) (timeout : Stage.CaliptraTimeout mailbox) :
    completedStages otp mailbox =
      [.memoryMap, .straps, .peripherals, .caliptraBootGo, .fuses] := by
  simp [completedStages, Stage.all, List.takeWhile_cons, Stage.succeeds, idle, timeout]

theorem completedStages_complete {otp mailbox : Nat → Word}
    (idle : ¬ Stage.OtpTimeout otp) (ready : ¬ Stage.CaliptraTimeout mailbox) :
    completedStages otp mailbox = Stage.all := by
  simp [completedStages, Stage.all, List.takeWhile_cons, Stage.succeeds, idle, ready]

/-! ## The stages that touch a device -/

open Hardware

/-- The STATUS words of the OTP controller. -/
def otpStatus (script : Word → Nat → Word) : Nat → Word := script (romEnv.otp.reg Otp.regStatus)

/-- The STATUS words of the mailbox. -/
def mailboxStatus (script : Word → Nat → Word) : Nat → Word :=
  script (romEnv.socManager.socMboxReg CaliptraSoC.mboxStatus)

variable {state : HardwareState} {allowed : Access Word Word → Prop}

/-- A read-modify-write of the I3C control register. -/
theorem completes_modifyReg (quiet : ∀ access, access.addr ≠ bootGoReg → allowed access)
    (mask value : Word) :
    (romEnv.i3c.modifyReg I3c.regCtrl mask value).Completes hardware allowed state ()
      (state.1, Device.advance state.2 (romEnv.i3c.reg I3c.regCtrl) 1) := by
  have outside : isMci (romEnv.i3c.reg I3c.regCtrl) = false := by decide
  have different : romEnv.i3c.reg I3c.regCtrl ≠ bootGoReg := by decide
  have ran : (romEnv.i3c.modifyReg I3c.regCtrl mask value).run hardware state =
      ⟨[.read (romEnv.i3c.reg I3c.regCtrl) (state.2 (romEnv.i3c.reg I3c.regCtrl) 0),
          .write (romEnv.i3c.reg I3c.regCtrl)
            ((state.2 (romEnv.i3c.reg I3c.regCtrl) 0 &&& ~~~mask) ||| (value &&& mask))], (),
        (state.1, Device.advance state.2 (romEnv.i3c.reg I3c.regCtrl) 1)⟩ := by
    simp only [I3c.modifyReg, I3c.readReg, I3c.writeReg, Program.run_bind, Program.run_readReg,
      Program.run_writeReg, read_scripted state outside, write_scripted _ outside, Run.after_mk]
    rfl
  refine Program.completes_of_run ran fun access member => quiet access ?_
  simp only [List.mem_cons, List.not_mem_nil, or_false] at member
  rcases member with rfl | rfl
  · exact different
  · exact different

/-- The I3C controller never fails, and only its own register moves. -/
theorem completes_i3cInit (start : HardwareState)
    (quiet : ∀ access, access.addr ≠ bootGoReg → allowed access) :
    ∃ script, romEnv.i3c.init.Completes hardware allowed start (.ok ()) (start.1, script) ∧
      ∀ addr ≠ romEnv.i3c.reg I3c.regCtrl, script addr = start.2 addr := by
  let step : (Word → Nat → Word) → Word → Nat → Word := fun script =>
    Device.advance script (romEnv.i3c.reg I3c.regCtrl) 1
  have stepOff : ∀ script, ∀ addr ≠ romEnv.i3c.reg I3c.regCtrl, step script addr = script addr :=
    fun script addr different => Device.advance_of_ne script different 1
  refine ⟨step (step (step (step (step start.2)))), ?_, ?_⟩
  · exact ((completes_modifyReg quiet _ _).bind (completes_modifyReg quiet _ _)).bind
      (((completes_modifyReg quiet _ _).bind (completes_modifyReg quiet _ _)).bind
        ((completes_modifyReg quiet _ _).bind (Program.completes_ret _ _)))
  · intro addr different
    rw [stepOff _ addr different, stepOff _ addr different, stepOff _ addr different,
      stepOff _ addr different, stepOff _ addr different]

/-- Polling a scripted register moves only that register's script. -/
theorem completes_pollWhile {n : Nat} (start : HardwareState)
    (quiet : ∀ access, access.addr ≠ bootGoReg → allowed access) {addr : Word}
    (outside : isMci addr = false) (different : addr ≠ bootGoReg) (busy : Word → Bool)
    (timeout : BitVec n) :
    ∃ script ready, (pollWhile addr busy timeout).Completes hardware allowed start ready
        (start.1, script) ∧
      (ready = false ↔ BusyFor busy (start.2 addr) (pollBudget timeout)) ∧
      ∀ other ≠ addr, script other = start.2 other := by
  have quietPolls : ∀ stream count, ∀ access ∈ pollTrace addr stream count, allowed access := by
    intro stream count access member
    rcases mem_pollTrace.mp member with ⟨index, _, rfl⟩
    exact quiet _ different
  have replies := replies_scripted start outside
  rcases busyFor_or_readyAt busy (start.2 addr) (pollBudget timeout) with
    allBusy | ⟨index, bound, ready⟩
  · have ran := run_pollWhile_timeout hardware addr busy timeout start (by rw [replies]; exact allBusy)
    rw [afterReads_scripted start outside] at ran
    exact ⟨_, false, Program.completes_of_run ran (quietPolls _ _), iff_of_true rfl allBusy,
      fun other apart => Device.advance_of_ne _ apart _⟩
  · have ran := run_pollWhile_ready hardware addr busy timeout start index bound
      (by rw [replies]; exact ready)
    rw [afterReads_scripted start outside] at ran
    exact ⟨_, true, Program.completes_of_run ran (quietPolls _ _),
      iff_of_false Bool.noConfusion (ready.not_busyFor bound),
      fun other apart => Device.advance_of_ne _ apart _⟩

/-- What a bounded wait returns. -/
def waitResult (timedOut : Prop) [Decidable timedOut] : McuResult Unit :=
  if timedOut then .error .timeout else .ok ()

/-- The peripherals fail exactly when the OTP controller times out. -/
theorem completes_initPeripherals (quiet : ∀ access, access.addr ≠ bootGoReg → allowed access)
    (milestone checkpoint : HalfWord) :
    ∃ script, (initPeripherals romEnv).Completes hardware allowed
        (withFlow state milestone checkpoint)
        (waitResult (Stage.OtpTimeout (otpStatus state.2)))
        (withFlow (state.1, script) milestone checkpoint) ∧
      mailboxStatus script = mailboxStatus state.2 := by
  rcases completes_i3cInit (withFlow state milestone checkpoint) quiet with
    ⟨afterI3c, initialized, i3cOff⟩
  have otpOutside : isMci (romEnv.otp.reg Otp.regStatus) = false := by decide
  have otpApart : romEnv.otp.reg Otp.regStatus ≠ bootGoReg := by decide
  rcases completes_pollWhile (withFlow (state.1, afterI3c) milestone checkpoint) quiet otpOutside
    otpApart Otp.statusNotIdle Otp.defaultTimeoutCycles with ⟨script, ready, polled, timeout, otpOff⟩
  have sameOtp : afterI3c (romEnv.otp.reg Otp.regStatus) = otpStatus state.2 :=
    i3cOff _ (by decide)
  change ready = false ↔ BusyFor _ (afterI3c (romEnv.otp.reg Otp.regStatus)) _ at timeout
  rw [sameOtp] at timeout
  refine ⟨script, Driver.completes_andThen_ok initialized ?_, ?_⟩
  · cases ready with
    | false =>
        have timedOut : Stage.OtpTimeout (otpStatus state.2) := timeout.mp rfl
        rw [waitResult, if_pos timedOut]
        exact Driver.completes_andThen_error (polled.bind (Program.completes_ret _ _))
    | true =>
        have idle : ¬ Stage.OtpTimeout (otpStatus state.2) := fun timedOut =>
          Bool.noConfusion (timeout.mpr timedOut)
        rw [waitResult, if_neg idle]
        exact Driver.completes_andThen_ok (polled.bind (Program.completes_ret _ _))
          (Program.completes_ret _ _)
  · exact (otpOff _ (by decide)).trans (i3cOff _ (by decide))

/-- The wait for Caliptra fails exactly when the mailbox stays busy. -/
theorem completes_waitCaliptraReady (quiet : ∀ access, access.addr ≠ bootGoReg → allowed access)
    (milestone checkpoint : HalfWord) :
    ∃ script, (waitCaliptraReady romEnv).Completes hardware allowed
      (withFlow state milestone checkpoint)
      (waitResult (Stage.CaliptraTimeout (mailboxStatus state.2)))
      (withFlow (state.1, script) milestone checkpoint) := by
  have outside : isMci (romEnv.socManager.socMboxReg CaliptraSoC.mboxStatus) = false := by decide
  have apart : romEnv.socManager.socMboxReg CaliptraSoC.mboxStatus ≠ bootGoReg := by decide
  rcases completes_pollWhile (withFlow state milestone checkpoint) quiet outside apart
    CaliptraSoC.statusBusy readyTimeout with ⟨script, ready, polled, timeout, _⟩
  refine ⟨script, ?_⟩
  cases ready with
  | false =>
      have timedOut : Stage.CaliptraTimeout (mailboxStatus state.2) := timeout.mp rfl
      rw [waitResult, if_pos timedOut]
      exact polled.bind (Program.completes_ret _ _)
  | true =>
      have notBusy : ¬ Stage.CaliptraTimeout (mailboxStatus state.2) := fun timedOut =>
        Bool.noConfusion (timeout.mpr timedOut)
      rw [waitResult, if_neg notBusy]
      exact polled.bind (Program.completes_ret _ _)

/-- Device ownership transfer has no stage that can fail and no milestone. -/
theorem completes_deviceOwnershipTransfer
    (quiet : ∀ access, access.addr ≠ bootGoReg → allowed access) (gWriter : Option Writer)
    (milestone checkpoint : HalfWord) :
    (deviceOwnershipTransfer gWriter romEnv).Completes hardware allowed
      (withFlow state milestone checkpoint) (.ok ())
      (withFlow state milestone McuRomBootStatus.deviceOwnershipTransferComplete.code) :=
  (completes_checkpoint quiet _ _ _).bind <| (completes_println quiet _ _).bind <|
    (completes_checkpoint quiet _ _ _).bind <| (completes_checkpoint quiet _ _ _).bind <|
      (completes_checkpoint quiet _ _ _).bind <| (completes_println quiet _ _).bind <|
        Program.completes_ret _ _

/-- Starting Caliptra writes a register of its own. -/
theorem completes_configureCaliptra (milestone checkpoint : HalfWord) :
    (configureCaliptra romEnv).Completes hardware (fun _ => True)
      (withFlow state milestone checkpoint) (.ok ())
      (withFlow (Function.update state.1 bootGoReg 1, state.2) milestone checkpoint) := by
  have inMci : isMci bootGoReg = true := by decide
  have apart : flowReg ≠ bootGoReg := by decide
  have written : (romEnv.mci.caliptraBootGo).run hardware (withFlow state milestone checkpoint) =
      ⟨[.write bootGoReg 1], (),
        withFlow (Function.update state.1 bootGoReg 1, state.2) milestone checkpoint⟩ := by
    change Run.mk _ () (hardware.write _ bootGoReg 1) = _
    rw [write_mci _ inMci]
    simp only [withFlow, setFlow, Function.update_comm apart]
    rfl
  exact (Program.completes_of_run written fun _ _ => trivial).bind (Program.completes_ret _ _)

/-! ## The three ways a cold boot ends -/

variable (gWriter : Option Writer) (milestone checkpoint : HalfWord)

/-- An OTP timeout ends the boot after the straps, before Caliptra is started. -/
theorem execute_otpTimeout (quiet : ∀ access, access.addr ≠ bootGoReg → allowed access)
    (timeout : Stage.OtpTimeout (otpStatus state.2)) :
    ∃ base, (execute gWriter romEnv).Completes hardware allowed
      (withFlow state milestone checkpoint) (.error .timeout)
      (withFlow base (BootMilestones.romStarted ||| milestone) McuRomBootStatus.strapsLoaded.code) := by
  rcases completes_initPeripherals quiet (BootMilestones.romStarted ||| milestone)
    McuRomBootStatus.strapsLoaded.code with ⟨script, failed, _⟩
  rw [waitResult, if_pos timeout] at failed
  exact ⟨(state.1, script), (completes_checkpoint quiet _ _ _).bind <|
    (completes_milestone quiet _ _ _).bind <| (completes_println quiet _ _).bind <|
    (completes_checkpoint quiet _ _ _).bind <| (completes_checkpoint quiet _ _ _).bind <|
    Driver.completes_andThen_error failed⟩

/-- With an idle OTP controller the boot reaches the wait for Caliptra, which
decides between the fuses being its last stage and its completion. -/
theorem execute_idle (idle : ¬ Stage.OtpTimeout (otpStatus state.2)) :
    ∃ base, (execute gWriter romEnv).Completes hardware (fun _ => True)
      (withFlow state milestone checkpoint)
      (waitResult (Stage.CaliptraTimeout (mailboxStatus state.2)))
      (if Stage.CaliptraTimeout (mailboxStatus state.2) then
        withFlow base (BootMilestones.cptraFusesWritten ||| (BootMilestones.cptraBootGoAsserted |||
          (BootMilestones.romStarted ||| milestone))) McuRomBootStatus.fusesPopulatedToCaliptra.code
      else
        withFlow base (BootMilestones.coldBootFlowComplete ||| (BootMilestones.cptraFusesWritten |||
          (BootMilestones.cptraBootGoAsserted ||| (BootMilestones.romStarted ||| milestone))))
          McuRomBootStatus.coldBootFlowComplete.code) := by
  have quiet : ∀ access : Access Word Word, access.addr ≠ bootGoReg → True := fun _ _ => trivial
  rcases completes_initPeripherals quiet (BootMilestones.romStarted ||| milestone)
    McuRomBootStatus.strapsLoaded.code with ⟨script, initialized, sameMailbox⟩
  rw [waitResult, if_neg idle] at initialized
  rcases @completes_waitCaliptraReady (Function.update state.1 bootGoReg 1, script) _ quiet
    (BootMilestones.cptraFusesWritten ||| (BootMilestones.cptraBootGoAsserted |||
      (BootMilestones.romStarted ||| milestone))) McuRomBootStatus.fusesPopulatedToCaliptra.code
    with ⟨last, waited⟩
  change (waitCaliptraReady romEnv).Completes _ _ _
    (waitResult (Stage.CaliptraTimeout (mailboxStatus script))) _ at waited
  rw [sameMailbox] at waited
  refine ⟨(Function.update state.1 bootGoReg 1, last), (completes_checkpoint quiet _ _ _).bind <|
    (completes_milestone quiet _ _ _).bind <| (completes_println quiet _ _).bind <|
    (completes_checkpoint quiet _ _ _).bind <| (completes_checkpoint quiet _ _ _).bind <|
    Driver.completes_andThen_ok initialized <| (completes_checkpoint quiet _ _ _).bind <|
    Driver.completes_andThen_ok (completes_configureCaliptra _ _) <|
    (completes_milestone quiet _ _ _).bind <| (completes_checkpoint quiet _ _ _).bind <|
    (completes_milestone quiet _ _ _).bind <| (completes_checkpoint quiet _ _ _).bind ?_⟩
  by_cases timeout : Stage.CaliptraTimeout (mailboxStatus state.2)
  · rw [waitResult, if_pos timeout] at waited
    rw [waitResult, if_pos timeout, if_pos timeout]
    exact Driver.completes_andThen_error waited
  · rw [waitResult, if_neg timeout] at waited
    rw [waitResult, if_neg timeout, if_neg timeout]
    exact Driver.completes_andThen_ok waited <| (completes_checkpoint quiet _ _ _).bind <|
      Driver.completes_andThen_ok (completes_deviceOwnershipTransfer quiet _ _ _) <|
      (completes_checkpoint quiet _ _ _).bind <| (completes_milestone quiet _ _ _).bind <|
      (completes_checkpoint quiet _ _ _).bind <| (completes_println quiet _ _).bind <|
      Program.completes_ret _ _

/-! ## What a cold boot reports -/

variable (state)

/-- A cold boot on the hardware. -/
def bootRun : Run Word Word HardwareState (McuResult Unit) :=
  (execute gWriter romEnv).run hardware state

/-- The stages its two STATUS streams let complete. -/
def bootStages : List Stage := completedStages (otpStatus state.2) (mailboxStatus state.2)

/-- The report a cold boot leaves in the flow status register. -/
structure Reported (run : Run Word Word HardwareState (McuResult Unit)) : Prop where
  milestones : Mci.milestoneOf (run.state.1 flowReg) =
    Mci.milestoneOf (state.1 flowReg) ||| BootMilestones.romStarted |||
      Stage.milestones (bootStages state)
  checkpoint : ∃ stage, (bootStages state).getLast? = some stage ∧
    Mci.checkpointOf (run.state.1 flowReg) = stage.status.code

variable {state gWriter} in
/-- A final flow status that was put together for these stages. -/
theorem reported_of_ends {base : HardwareState} {milestone : HalfWord} {stages : List Stage}
    (last : Stage)
    (ends : (bootRun state gWriter).state = withFlow base milestone last.status.code)
    (completed : bootStages state = stages) (isLast : stages.getLast? = some last)
    (flags : milestone = Mci.milestoneOf (state.1 flowReg) ||| BootMilestones.romStarted |||
      Stage.milestones stages) : Reported state (bootRun state gWriter) := by
  constructor
  · rw [ends, withFlow_flow, Mci.milestoneOf_flowWord, completed]
    exact flags
  · refine ⟨last, ?_, ?_⟩
    · rw [completed]
      exact isLast
    · rw [ends, withFlow_flow, Mci.checkpointOf_flowWord]

theorem bootRun_otpTimeout (timeout : Stage.OtpTimeout (otpStatus state.2)) :
    (bootRun state gWriter).result = .error .timeout ∧ Reported state (bootRun state gWriter) ∧
      ∀ value, .write bootGoReg value ∉ (bootRun state gWriter).trace := by
  rcases @execute_otpTimeout state _ gWriter (Mci.milestoneOf (state.1 flowReg))
    (Mci.checkpointOf (state.1 flowReg)) (fun _ quiet => quiet) timeout with ⟨base, ran⟩
  rw [withFlow_self] at ran
  refine ⟨ran.returns, ?_, ?_⟩
  · apply reported_of_ends .straps ran.ends (completedStages_otpTimeout timeout) rfl
    have flags : Stage.milestones [.memoryMap, .straps] = 0 := by decide
    rw [flags, BitVec.or_comm]
    exact BitVec.or_zero.symm
  · intro value member
    exact ran.accesses _ member rfl

theorem bootRun_caliptraTimeout (idle : ¬ Stage.OtpTimeout (otpStatus state.2))
    (timeout : Stage.CaliptraTimeout (mailboxStatus state.2)) :
    (bootRun state gWriter).result = .error .timeout ∧ Reported state (bootRun state gWriter) := by
  rcases @execute_idle state gWriter (Mci.milestoneOf (state.1 flowReg))
    (Mci.checkpointOf (state.1 flowReg)) idle with ⟨base, ran⟩
  rw [withFlow_self, waitResult, if_pos timeout, if_pos timeout] at ran
  refine ⟨ran.returns, ?_⟩
  apply reported_of_ends .fuses ran.ends (completedStages_caliptraTimeout idle timeout) rfl
  have flags : Stage.milestones [.memoryMap, .straps, .peripherals, .caliptraBootGo, .fuses] =
      BootMilestones.cptraBootGoAsserted ||| BootMilestones.cptraFusesWritten := by decide
  rw [flags]
  ac_rfl

theorem bootRun_complete (idle : ¬ Stage.OtpTimeout (otpStatus state.2))
    (ready : ¬ Stage.CaliptraTimeout (mailboxStatus state.2)) :
    (bootRun state gWriter).result = .ok () ∧ Reported state (bootRun state gWriter) := by
  rcases @execute_idle state gWriter (Mci.milestoneOf (state.1 flowReg))
    (Mci.checkpointOf (state.1 flowReg)) idle with ⟨base, ran⟩
  rw [withFlow_self, waitResult, if_neg ready, if_neg ready] at ran
  refine ⟨ran.returns, ?_⟩
  apply reported_of_ends .firmware ran.ends (completedStages_complete idle ready) rfl
  have flags : Stage.milestones Stage.all = BootMilestones.cptraBootGoAsserted |||
      BootMilestones.cptraFusesWritten ||| BootMilestones.coldBootFlowComplete := by decide
  rw [flags]
  ac_rfl

/-- The stages completed contain the last one exactly when nothing timed out. -/
theorem milestones_bootStages :
    Stage.milestones (bootStages state) &&& BootMilestones.coldBootFlowComplete ≠ 0 ↔
      ¬ Stage.OtpTimeout (otpStatus state.2) ∧
        ¬ Stage.CaliptraTimeout (mailboxStatus state.2) := by
  by_cases otp : Stage.OtpTimeout (otpStatus state.2)
  · rw [bootStages, completedStages_otpTimeout otp]
    exact iff_of_false (by decide) fun both => both.1 otp
  · by_cases caliptra : Stage.CaliptraTimeout (mailboxStatus state.2)
    · rw [bootStages, completedStages_caliptraTimeout otp caliptra]
      exact iff_of_false (by decide) fun both => both.2 caliptra
    · rw [bootStages, completedStages_complete otp caliptra]
      exact iff_of_true (by decide) ⟨otp, caliptra⟩

theorem not_otpTimeout_iff (otp : Nat → Word) :
    ¬ Stage.OtpTimeout otp ↔ ∃ index < 10000, Otp.statusNotIdle (otp index) = false := by
  have budget : Otp.defaultTimeoutCycles.toNat = 10000 := rfl
  simp [Stage.OtpTimeout, BusyFor, budget]

/-- A cold boot returns `Ok` or a timeout. -/
theorem bootRun_result :
    (bootRun state gWriter).result =
      waitResult (Stage.OtpTimeout (otpStatus state.2) ∨
        Stage.CaliptraTimeout (mailboxStatus state.2)) := by
  by_cases otp : Stage.OtpTimeout (otpStatus state.2)
  · rw [waitResult, if_pos (Or.inl otp)]
    exact (bootRun_otpTimeout state gWriter otp).1
  · by_cases caliptra : Stage.CaliptraTimeout (mailboxStatus state.2)
    · rw [waitResult, if_pos (Or.inr caliptra)]
      exact (bootRun_caliptraTimeout state gWriter otp caliptra).1
    · rw [waitResult, if_neg (not_or.mpr ⟨otp, caliptra⟩)]
      exact (bootRun_complete state gWriter otp caliptra).1

theorem bootRun_reported : Reported state (bootRun state gWriter) := by
  by_cases otp : Stage.OtpTimeout (otpStatus state.2)
  · exact (bootRun_otpTimeout state gWriter otp).2.1
  · by_cases caliptra : Stage.CaliptraTimeout (mailboxStatus state.2)
    · exact (bootRun_caliptraTimeout state gWriter otp caliptra).2
    · exact (bootRun_complete state gWriter otp caliptra).2

theorem bootRun_ok_iff :
    (bootRun state gWriter).result = .ok () ↔
      ¬ Stage.OtpTimeout (otpStatus state.2) ∧
        ¬ Stage.CaliptraTimeout (mailboxStatus state.2) := by
  rw [bootRun_result, waitResult, ← not_or]
  split
  · exact iff_of_false nofun fun none => none ‹_›
  · exact iff_of_true rfl ‹_›

/-- For every initial flow status and all STATUS streams, a cold boot fails
exactly on the two timeouts; its milestones are the initial ones with
ROM_STARTED and those of the completed stages; an error leaves the checkpoint
of the last completed stage; an OTP timeout leaves Caliptra unstarted; and
completion is reported exactly on success. -/
theorem bootRun_progress :
    ((bootRun state gWriter).result = .error .timeout ↔
      BusyFor Otp.statusNotIdle (otpStatus state.2) 10000 ∨
        (∃ index < 10000, Otp.statusNotIdle (otpStatus state.2 index) = false) ∧
          BusyFor CaliptraSoC.statusBusy (mailboxStatus state.2) 100000) ∧
    ((bootRun state gWriter).result = .ok () ∨ (bootRun state gWriter).result = .error .timeout) ∧
    Mci.milestoneOf ((bootRun state gWriter).state.1 flowReg) =
      Mci.milestoneOf (state.1 flowReg) ||| BootMilestones.romStarted |||
        Stage.milestones (bootStages state) ∧
    (∀ e, (bootRun state gWriter).result = .error e →
      ∃ stage, (bootStages state).getLast? = some stage ∧
        Mci.checkpointOf ((bootRun state gWriter).state.1 flowReg) = stage.status.code) ∧
    (BusyFor Otp.statusNotIdle (otpStatus state.2) 10000 →
      ∀ value, .write bootGoReg value ∉ (bootRun state gWriter).trace) ∧
    (Stage.milestones (bootStages state) &&& BootMilestones.coldBootFlowComplete ≠ 0 ↔
      (bootRun state gWriter).result = .ok ()) ∧
    (Mci.checkpointOf ((bootRun state gWriter).state.1 flowReg) =
        McuRomBootStatus.coldBootFlowComplete.code ↔
      (bootRun state gWriter).result = .ok ()) := by
  have reported := bootRun_reported state gWriter
  have ok := bootRun_ok_iff state gWriter
  have idle := not_otpTimeout_iff (otpStatus state.2)
  refine ⟨?_, ?_, reported.milestones, fun _ _ => reported.checkpoint,
    fun timeout => (bootRun_otpTimeout state gWriter timeout).2.2,
    (milestones_bootStages state).trans ok.symm, ?_⟩
  · rw [bootRun_result, ← idle]
    change waitResult _ = _ ↔ Stage.OtpTimeout (otpStatus state.2) ∨
      ¬ Stage.OtpTimeout (otpStatus state.2) ∧ Stage.CaliptraTimeout (mailboxStatus state.2)
    rw [waitResult, or_and_left, and_iff_right (em _)]
    split
    · exact iff_of_true rfl ‹_›
    · exact iff_of_false nofun ‹_›
  · rw [bootRun_result, waitResult]
    split
    · exact Or.inr rfl
    · exact Or.inl rfl
  · rcases reported.checkpoint with ⟨stage, last, checkpoint⟩
    rw [checkpoint, ok]
    by_cases otp : Stage.OtpTimeout (otpStatus state.2)
    · rw [bootStages, completedStages_otpTimeout otp] at last
      cases last
      exact iff_of_false (by decide) fun both => both.1 otp
    · by_cases caliptra : Stage.CaliptraTimeout (mailboxStatus state.2)
      · rw [bootStages, completedStages_caliptraTimeout otp caliptra] at last
        cases last
        exact iff_of_false (by decide) fun both => both.2 caliptra
      · rw [bootStages, completedStages_complete otp caliptra] at last
        cases last
        exact iff_of_true rfl ⟨otp, caliptra⟩

end ColdBoot

end McuRom
