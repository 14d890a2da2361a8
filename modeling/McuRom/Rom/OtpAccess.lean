import McuRom.Rom.Otp

namespace McuRom

open Mmio

/-!
# One direct access

`read_word` and `write_word` are the same transfer around different registers:
wait for idle, write some registers of which the command is the last, wait
again, and look at the error bit.  A transfer ends in one of four ways, and
each gets its complete execution on an arbitrary device.
-/

namespace Otp

variable {σ α : Type} (otp : Otp) (dev : Device Word Word σ)

/-! ## Waiting -/

/-- The polling budget of the default timeout. -/
def idleBudget : Nat := 10000

theorem idleBudget_eq : idleBudget = 10000 := rfl

theorem pollBudget_defaultTimeoutCycles : pollBudget defaultTimeoutCycles = idleBudget := rfl

-- Unfolded, the budget would let a trace be computed poll by poll.
attribute [irreducible] idleBudget

/-- The controller stays busy for the whole wait. -/
def NeverIdle (state : σ) : Prop :=
  BusyFor statusNotIdle (dev.replies (otp.reg regStatus) state) idleBudget

/-- The reply at `count` ends the wait. -/
def IdleAt (state : σ) (count : Nat) : Prop :=
  count < idleBudget ∧ ReadyAt statusNotIdle (dev.replies (otp.reg regStatus) state) count

theorem neverIdle_or_idleAt (state : σ) :
    otp.NeverIdle dev state ∨ ∃ count, otp.IdleAt dev state count :=
  busyFor_or_readyAt statusNotIdle _ idleBudget

theorem IdleAt.not_neverIdle {otp : Otp} {dev : Device Word Word σ} {state : σ} {count : Nat}
    (idle : otp.IdleAt dev state count) : ¬ otp.NeverIdle dev state :=
  idle.2.not_busyFor idle.1

theorem IdleAt.unique {otp : Otp} {dev : Device Word Word σ} {state : σ} {first second : Nat}
    (left : otp.IdleAt dev state first) (right : otp.IdleAt dev state second) : first = second :=
  left.2.unique right.2

/-- A controller that shows idle at once. -/
theorem idleAt_zero {state : σ}
    (idle : statusNotIdle (dev.read state (otp.reg regStatus)).1 = false) :
    otp.IdleAt dev state 0 := by
  refine ⟨?_, fun index impossible => absurd impossible (Nat.not_lt_zero index), idle⟩
  rw [idleBudget_eq]
  decide

/-- The accesses of a wait that reads STATUS `count` times. -/
def waitTrace (state : σ) (count : Nat) : List (Access Word Word) :=
  pollTrace (otp.reg regStatus) (dev.replies (otp.reg regStatus) state) count

/-- The state after `count` STATUS reads. -/
def afterWait (state : σ) (count : Nat) : σ := dev.afterReads (otp.reg regStatus) state count

theorem run_waitForIdle_timeout {state : σ} (busy : otp.NeverIdle dev state) :
    (otp.waitForIdle defaultTimeoutCycles).run dev state =
      ⟨otp.waitTrace dev state idleBudget, .error .timeout, otp.afterWait dev state idleBudget⟩ := by
  rw [NeverIdle, ← pollBudget_defaultTimeoutCycles] at busy
  have polled := run_pollWhile_timeout dev (otp.reg regStatus) statusNotIdle defaultTimeoutCycles
    state busy
  rw [waitForIdle, Program.run_bind, polled, pollBudget_defaultTimeoutCycles,
    if_neg Bool.false_ne_true]
  simp only [Program.pure_eq, Program.run_ret, Run.after_mk, List.append_nil, waitTrace, afterWait]

theorem run_waitForIdle_idle {state : σ} {count : Nat} (idle : otp.IdleAt dev state count) :
    (otp.waitForIdle defaultTimeoutCycles).run dev state =
      ⟨otp.waitTrace dev state (count + 1), .ok (), otp.afterWait dev state (count + 1)⟩ := by
  have bound : count < pollBudget defaultTimeoutCycles := by
    rw [pollBudget_defaultTimeoutCycles]
    exact idle.1
  have polled := run_pollWhile_ready dev (otp.reg regStatus) statusNotIdle defaultTimeoutCycles
    state count bound idle.2
  rw [waitForIdle, Program.run_bind, polled, if_pos rfl]
  simp only [Program.pure_eq, Program.run_ret, Run.after_mk, List.append_nil, waitTrace, afterWait]

/-- The last word of a wait that succeeds is idle. -/
theorem waitTrace_idle (state : σ) (count : Nat) :
    otp.waitTrace dev state (count + 1) = otp.waitTrace dev state count ++
      [.read (otp.reg regStatus) (dev.replies (otp.reg regStatus) state count)] :=
  pollTrace_append_one _ _ count

/-! ## Transfers -/

/-- A transfer: the registers it writes, the error of a failed command, and
what follows a successful one. -/
def transfer (list : List (Word × Word)) (failure : McuError) (finish : Driver (McuResult α)) :
    Driver (McuResult α) :=
  Driver.andThen (otp.waitForIdle defaultTimeoutCycles) fun () => do
  Program.writeAll list
  Driver.andThen (otp.waitForIdle defaultTimeoutCycles) fun () => do
  let failed ← otp.hasError
  if failed then pure (.error failure) else finish

/-- The register writes of a read command. -/
def readWrites (addr : Word) : List (Word × Word) :=
  [(otp.reg regDirectAccessAddr, addr), (otp.reg regDirectAccessCmd, cmdRead)]

/-- The register writes of a write command. -/
def writeWrites (addr value : Word) : List (Word × Word) :=
  [(otp.reg regDirectAccessAddr, addr), (otp.reg regDirectAccessWdata0, value),
    (otp.reg regDirectAccessCmd, cmdWrite)]

/-- What follows a successful read command. -/
def readData : Driver (McuResult Word) := do
  let data ← otp.readReg regDirectAccessRdata0
  pure (.ok data)

theorem run_readData (state : σ) :
    otp.readData.run dev state =
      ⟨[.read (otp.reg regDirectAccessRdata0)
          (dev.read state (otp.reg regDirectAccessRdata0)).1],
        .ok (dev.read state (otp.reg regDirectAccessRdata0)).1,
        (dev.read state (otp.reg regDirectAccessRdata0)).2⟩ := rfl

theorem readData_reads (state : σ) :
    ∀ access ∈ (otp.readData.run dev state).trace, ∃ addr value, access = .read addr value :=
  fun _ member => ⟨_, _, List.mem_singleton.mp member⟩

theorem readWord_eq (addr : Word) :
    otp.readWord addr =
      otp.transfer (otp.readWrites addr) .otpReadError otp.readData := rfl

theorem writeWord_eq (addr value : Word) :
    otp.writeWord addr value =
      otp.transfer (otp.writeWrites addr value) .otpWriteError (pure (.ok ())) := rfl

variable (list : List (Word × Word)) (failure : McuError) (finish : Driver (McuResult α))

/-- The state in which the command has been written. -/
def commanded (state : σ) (count : Nat) : σ :=
  dev.writeAll (otp.afterWait dev state (count + 1)) list

/-- The word `has_error` looks at, after a wait of `count` busy words. -/
def finalStatus (state : σ) (count : Nat) : Word :=
  dev.replies (otp.reg regStatus) state (count + 1)

variable {state : σ} {first second : Nat}

theorem run_transfer_notIdle (busy : otp.NeverIdle dev state) :
    (otp.transfer list failure finish).run dev state =
      ⟨otp.waitTrace dev state idleBudget, .error .timeout, otp.afterWait dev state idleBudget⟩ := by
  have waited := otp.run_waitForIdle_timeout dev busy
  rw [transfer, Driver.run_andThen_error _ _ (congrArg Run.result waited), waited]

theorem run_transfer_hung (idle : otp.IdleAt dev state first)
    (busy : otp.NeverIdle dev (otp.commanded dev list state first)) :
    (otp.transfer list failure finish).run dev state =
      ⟨otp.waitTrace dev state (first + 1) ++ Access.ofWrites list ++
          otp.waitTrace dev (otp.commanded dev list state first) idleBudget,
        .error .timeout, otp.afterWait dev (otp.commanded dev list state first) idleBudget⟩ := by
  have waited := otp.run_waitForIdle_idle dev idle
  have hung := otp.run_waitForIdle_timeout dev busy
  rw [transfer, Driver.run_andThen_ok _ _ (congrArg Run.result waited), waited,
    Program.run_bind, Program.run_writeAll]
  change Run.after _ (Run.after _
    ((Driver.andThen _ _).run dev (otp.commanded dev list state first))) = _
  rw [Driver.run_andThen_error _ _ (congrArg Run.result hung), hung]
  simp only [Run.after_mk, List.append_assoc]

/-- Once the second wait has ended, the next STATUS word decides. -/
theorem run_transfer_idle (idle : otp.IdleAt dev state first)
    (again : otp.IdleAt dev (otp.commanded dev list state first) second) :
    (otp.transfer list failure finish).run dev state =
      ((if statusHasError (otp.finalStatus dev (otp.commanded dev list state first) second) then
          pure (.error failure) else finish : Driver (McuResult α)).run dev
        (otp.afterWait dev (otp.commanded dev list state first) (second + 2))).after
        (otp.waitTrace dev state (first + 1) ++ Access.ofWrites list ++
          otp.waitTrace dev (otp.commanded dev list state first) (second + 2)) := by
  have waited := otp.run_waitForIdle_idle dev idle
  have done := otp.run_waitForIdle_idle dev again
  have status : (dev.read (otp.afterWait dev (otp.commanded dev list state first) (second + 1))
      (otp.reg regStatus)).1 =
      otp.finalStatus dev (otp.commanded dev list state first) second :=
    (Device.replies_eq_read _ _ _ _).symm
  have later : (dev.read (otp.afterWait dev (otp.commanded dev list state first) (second + 1))
      (otp.reg regStatus)).2 =
      otp.afterWait dev (otp.commanded dev list state first) (second + 2) :=
    (Device.afterReads_succ _ _ _ _).symm
  rw [transfer, Driver.run_andThen_ok _ _ (congrArg Run.result waited), waited,
    Program.run_bind, Program.run_writeAll]
  change Run.after _ (Run.after _
    ((Driver.andThen _ _).run dev (otp.commanded dev list state first))) = _
  rw [Driver.run_andThen_ok _ _ (congrArg Run.result done), done, hasError, Program.run_bind,
    Program.run_bind, readReg, Program.run_readReg, status, later,
    otp.waitTrace_idle dev _ (second + 1)]
  simp only [Program.pure_eq, Program.run_ret, Run.after_mk, Run.after_after, List.append_nil,
    List.append_assoc, finalStatus]
  rfl

/-- A transfer succeeds exactly if both waits end, the error bit is clear
behind the second, and what follows succeeds. -/
theorem transfer_ok_iff (state : σ) (value : α) :
    ((otp.transfer list failure finish).run dev state).result = .ok value ↔
      ∃ first second, otp.IdleAt dev state first ∧
        otp.IdleAt dev (otp.commanded dev list state first) second ∧
        statusHasError (otp.finalStatus dev (otp.commanded dev list state first) second) = false ∧
        (finish.run dev (otp.afterWait dev (otp.commanded dev list state first)
          (second + 2))).result = .ok value := by
  rcases otp.neverIdle_or_idleAt dev state with busy | ⟨first, idle⟩
  · rw [otp.run_transfer_notIdle dev list failure finish busy]
    refine iff_of_false nofun ?_
    rintro ⟨first, _, idle, _⟩
    exact idle.not_neverIdle busy
  rcases otp.neverIdle_or_idleAt dev (otp.commanded dev list state first) with
    busy | ⟨second, again⟩
  · rw [otp.run_transfer_hung dev list failure finish idle busy]
    refine iff_of_false nofun ?_
    rintro ⟨other, second, started, again, _⟩
    cases idle.unique started
    exact again.not_neverIdle busy
  · rw [otp.run_transfer_idle dev list failure finish idle again, Run.after_result]
    cases failed : statusHasError
        (otp.finalStatus dev (otp.commanded dev list state first) second) with
    | true =>
        refine iff_of_false nofun ?_
        rintro ⟨other, last, started, ended, good, _⟩
        cases idle.unique started
        cases again.unique ended
        rw [failed] at good
        cases good
    | false =>
        rw [if_neg Bool.false_ne_true]
        constructor
        · exact fun finished => ⟨first, second, idle, again, failed, finished⟩
        · rintro ⟨other, last, started, ended, _, finished⟩
          cases idle.unique started
          cases again.unique ended
          exact finished

/-- Once a transfer has found the controller idle, it writes its registers,
and only reads from then on. -/
theorem transfer_trace (idle : otp.IdleAt dev state first)
    (reads : ∀ after, ∀ access ∈ (finish.run dev after).trace,
      ∃ addr value, access = .read addr value) :
    ∃ after, ((otp.transfer list failure finish).run dev state).trace =
        otp.waitTrace dev state (first + 1) ++ Access.ofWrites list ++ after ∧
      ∀ access ∈ after, ∃ addr value, access = .read addr value := by
  have waits : ∀ state count, ∀ access ∈ otp.waitTrace dev state count,
      ∃ addr value, access = .read addr value := by
    intro state count access member
    rcases mem_pollTrace.mp member with ⟨index, _, rfl⟩
    exact ⟨_, _, rfl⟩
  rcases otp.neverIdle_or_idleAt dev (otp.commanded dev list state first) with
    busy | ⟨second, again⟩
  · rw [otp.run_transfer_hung dev list failure finish idle busy]
    exact ⟨_, rfl, waits _ _⟩
  · rw [otp.run_transfer_idle dev list failure finish idle again]
    refine ⟨_, List.append_assoc _ _ _, fun access member => ?_⟩
    rcases List.mem_append.mp member with waiting | finishing
    · exact waits _ _ access waiting
    · split at finishing
      · cases finishing
      · exact reads _ access finishing

/-! ## Locking a partition -/

/-- The digest command of `lock_partition`. -/
def digestWrite : Access Word Word := .write (otp.reg regDirectAccessCmd) cmdDigest

/-- The state in which the digest command has been written. -/
def digesting (state : σ) : σ := dev.write state (otp.reg regDirectAccessCmd) cmdDigest

theorem run_lockPartition_hung (partition : OtpPartition)
    (busy : otp.NeverIdle dev (otp.digesting dev state)) :
    (otp.lockPartition partition).run dev state =
      ⟨otp.digestWrite :: otp.waitTrace dev (otp.digesting dev state) idleBudget, .error .timeout,
        otp.afterWait dev (otp.digesting dev state) idleBudget⟩ := by
  have waited := otp.run_waitForIdle_timeout dev busy
  rw [lockPartition, writeReg, Program.run_bind, Program.run_writeReg]
  exact congrArg (Run.after [otp.digestWrite]) waited

theorem run_lockPartition_idle (partition : OtpPartition)
    (idle : otp.IdleAt dev (otp.digesting dev state) first) :
    (otp.lockPartition partition).run dev state =
      ⟨otp.digestWrite :: otp.waitTrace dev (otp.digesting dev state) (first + 1), .ok (),
        otp.afterWait dev (otp.digesting dev state) (first + 1)⟩ := by
  have waited := otp.run_waitForIdle_idle dev idle
  rw [lockPartition, writeReg, Program.run_bind, Program.run_writeReg]
  exact congrArg (Run.after [otp.digestWrite]) waited

end Otp

end McuRom
