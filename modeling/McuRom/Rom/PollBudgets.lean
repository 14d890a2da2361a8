import McuRom.Mailbox.Finish
import McuRom.Rom.BootFlows

namespace McuRom

open Mmio

/-!
# How long the ROM waits

Three functions poll a status register against a countdown: the OTP driver,
the mailbox and the cold boot flow.  A countdown is decremented before it is
compared with zero, so that the driver's wait, whose budget is an argument,
polls up to `2 ^ 32` times if it is given none.
-/

variable {σ α : Type}

/-- `wait_for_idle` polls STATUS at most as often as it is told, and once if
it is told not to; it succeeds if a poll shows idle and times out otherwise. -/
structure Otp.WaitBounded (otp : Otp) (dev : Device Word Word σ) (state : σ)
    (timeoutCycles : Word) : Prop where
  polls : ∀ access ∈ ((otp.waitForIdle timeoutCycles).run dev state).trace,
    ∃ status, access = .read (otp.reg Otp.regStatus) status
  reads : ((otp.waitForIdle timeoutCycles).run dev state).trace.length ≤ max 1 timeoutCycles.toNat
  ok : ((otp.waitForIdle timeoutCycles).run dev state).result = .ok () ↔
    ∃ status, Access.read (otp.reg Otp.regStatus) status ∈
      ((otp.waitForIdle timeoutCycles).run dev state).trace ∧ Otp.statusNotIdle status = false
  timeout : ((otp.waitForIdle timeoutCycles).run dev state).result ≠ .ok () →
    ((otp.waitForIdle timeoutCycles).run dev state).result = .error .timeout

/-- A function that has entered its wait reports the error exactly if all of
the first `budget` polls are busy, and then it has made no other access. -/
structure TimesOutAfter (budget : Nat) (addr : Word) (busy : Word → Bool) (stream : Nat → Word)
    (entered : Prop) (error : McuError) (run : Run Word Word σ (McuResult α)) : Prop where
  timeout : run.result = .error error ↔ entered ∧ BusyFor busy stream budget
  noFurther : run.result = .error error → run.trace = pollTrace addr stream budget

/-! ## The OTP driver -/

section Otp

variable (otp : Otp) (dev : Device Word Word σ) (state : σ) (timeoutCycles : Word)

/-- The wait is its polling loop with a result made of the outcome. -/
theorem run_waitForIdle :
    (otp.waitForIdle timeoutCycles).run dev state =
      ⟨((pollWhile (otp.reg Otp.regStatus) Otp.statusNotIdle timeoutCycles).run dev state).trace,
        if ((pollWhile (otp.reg Otp.regStatus) Otp.statusNotIdle timeoutCycles).run dev
          state).result then .ok () else .error .timeout,
        ((pollWhile (otp.reg Otp.regStatus) Otp.statusNotIdle timeoutCycles).run dev
          state).state⟩ := by
  rw [Otp.waitForIdle, Program.run_bind]
  generalize (pollWhile (otp.reg Otp.regStatus) Otp.statusNotIdle timeoutCycles).run dev state =
    polled
  rcases polled with ⟨trace, idle, final⟩
  cases idle <;> simp

theorem waitBounded_iff :
    otp.WaitBounded dev state timeoutCycles ↔
      timeoutCycles ≠ 0 ∨
        Otp.statusNotIdle (dev.read state (otp.reg Otp.regStatus)).1 = false := by
  rw [← pollWhile_withinBudget_iff (by decide) timeoutCycles state]
  have ran := run_waitForIdle otp dev state timeoutCycles
  generalize (pollWhile (otp.reg Otp.regStatus) Otp.statusNotIdle timeoutCycles).run dev state =
    polled at ran ⊢
  rcases polled with ⟨trace, idle, final⟩
  have ok : (if idle then .ok () else .error .timeout : McuResult Unit) = .ok () ↔
      idle = true := by
    cases idle <;> simp
  constructor
  · intro bounded
    have found := bounded.ok
    have polls := bounded.polls
    have reads := bounded.reads
    rw [ran] at found polls reads
    exact ⟨polls, reads, ok.symm.trans found⟩
  · intro within
    refine ⟨?_, ?_, ?_, ?_⟩
    · rw [ran]
      exact within.polls
    · rw [ran]
      exact within.reads
    · rw [ran]
      exact ok.trans within.found
    · rw [ran]
      intro failed
      exact if_neg fun free => failed (ok.mpr free)

end Otp

/-! ## The mailbox -/

section Mailbox

variable (soc : CaliptraSoC) (dev : Device Word Word σ) (state : σ)

theorem maxWaitCycles_toNat : maxWaitCycles.toNat = 400000 := rfl

/-- What follows the wait reports other errors. -/
theorem actOn_ne_timeout (kind : CaliptraSoC.StatusKind) :
    ((soc.actOn kind).run dev state).result ≠ .error .mboxTimeout := by
  intro impossible
  cases kind with
  | failure =>
      rcases soc.run_actOn_failure dev state with ⟨reports, final, ran, _⟩
      rw [ran] at impossible
      cases impossible
  | complete => cases impossible
  | unknown => cases impossible
  | dataReady => cases impossible

theorem finishMailboxResp_timesOutAfter (respMinSize respSize : SizeT) :
    TimesOutAfter 400000 (soc.socMboxReg CaliptraSoC.mboxStatus) CaliptraSoC.statusBusy
      (dev.replies (soc.socMboxReg CaliptraSoC.mboxStatus) state)
      (¬ respSize < mailboxRespHeaderSize ∧ ¬ respMinSize < mailboxRespHeaderSize) .mboxTimeout
      ((soc.finishMailboxResp respMinSize respSize).run dev state) := by
  by_cases fits : ¬ respSize < mailboxRespHeaderSize ∧ ¬ respMinSize < mailboxRespHeaderSize
  · rcases CaliptraSoC.timeout_or_waitEnds
      (dev.replies (soc.socMboxReg CaliptraSoC.mboxStatus) state) with allBusy | ⟨count, ends⟩
    · have ran := soc.run_finishMailboxResp_timeout dev fits.1 fits.2 allBusy
      rw [maxWaitCycles_toNat] at ran
      constructor
      · rw [ran]
        exact iff_of_true rfl ⟨fits, allBusy⟩
      · intro _
        rw [ran]
    · have ran := soc.run_finishMailboxResp_ready dev fits.1 fits.2 ends
      have other := actOn_ne_timeout soc
        dev (dev.afterReads (soc.socMboxReg CaliptraSoC.mboxStatus) state (count + 2))
        (CaliptraSoC.statusKind
          (dev.replies (soc.socMboxReg CaliptraSoC.mboxStatus) state (count + 1)))
      constructor
      · rw [ran]
        exact iff_of_false other fun busy => ends.not_timeout busy.2
      · rw [ran]
        intro impossible
        exact absurd impossible other
  · have tooSmall : respSize < mailboxRespHeaderSize ∨ respMinSize < mailboxRespHeaderSize := by
      by_contra neither
      exact fits (not_or.mp neither)
    have ran : (soc.finishMailboxResp respMinSize respSize).run dev state = _ :=
      soc.run_finishMailboxResp_tooSmall dev tooSmall
    constructor
    · rw [ran]
      exact iff_of_false (fun impossible => by cases impossible) fun entered => fits entered.1
    · rw [ran]
      intro impossible
      cases impossible

end Mailbox

/-! ## The cold boot flow -/

section ColdBoot

variable (env : RomEnv) (dev : Device Word Word σ) (state : σ)

theorem pollBudget_readyTimeout : pollBudget ColdBoot.readyTimeout = 100000 := rfl

theorem waitCaliptraReady_timesOutAfter :
    TimesOutAfter 100000 (env.socManager.socMboxReg CaliptraSoC.mboxStatus) CaliptraSoC.statusBusy
      (dev.replies (env.socManager.socMboxReg CaliptraSoC.mboxStatus) state) True .timeout
      ((ColdBoot.waitCaliptraReady env).run dev state) := by
  rcases run_pollWhile_cases dev (env.socManager.socMboxReg CaliptraSoC.mboxStatus)
    CaliptraSoC.statusBusy ColdBoot.readyTimeout state with
    ⟨allBusy, polled⟩ | ⟨index, bound, ready, polled⟩
  · rw [pollBudget_readyTimeout] at allBusy polled
    have ran : (ColdBoot.waitCaliptraReady env).run dev state =
        ⟨pollTrace (env.socManager.socMboxReg CaliptraSoC.mboxStatus)
            (dev.replies (env.socManager.socMboxReg CaliptraSoC.mboxStatus) state) 100000,
          .error .timeout,
          dev.afterReads (env.socManager.socMboxReg CaliptraSoC.mboxStatus) state 100000⟩ := by
      rw [ColdBoot.waitCaliptraReady, Program.run_bind, polled, if_neg Bool.false_ne_true,
        Program.pure_eq, Program.run_ret, Run.after_mk, List.append_nil]
    constructor
    · rw [ran]
      exact iff_of_true rfl ⟨trivial, allBusy⟩
    · intro _
      rw [ran]
  · rw [pollBudget_readyTimeout] at bound
    have result : ((ColdBoot.waitCaliptraReady env).run dev state).result = .ok () := by
      rw [ColdBoot.waitCaliptraReady, Program.run_bind, polled, if_pos rfl]
      rfl
    constructor
    · rw [result]
      refine iff_of_false (fun impossible => by cases impossible) fun entered => ?_
      exact ready.not_busyFor bound entered.2
    · rw [result]
      intro impossible
      cases impossible

end ColdBoot

/-! ## All three -/

/-- The mailbox and the cold boot flow keep their budgets; the driver does
unless it is given none and the first poll is busy. -/
theorem waits_bounded_iff (otp : Otp) (soc : CaliptraSoC) (env : RomEnv)
    (dev : Device Word Word σ) (state : σ) (timeoutCycles : Word) (respMinSize respSize : SizeT) :
    (otp.WaitBounded dev state timeoutCycles ↔
      timeoutCycles ≠ 0 ∨
        Otp.statusNotIdle (dev.read state (otp.reg Otp.regStatus)).1 = false) ∧
    TimesOutAfter 400000 (soc.socMboxReg CaliptraSoC.mboxStatus) CaliptraSoC.statusBusy
      (dev.replies (soc.socMboxReg CaliptraSoC.mboxStatus) state)
      (¬ respSize < mailboxRespHeaderSize ∧ ¬ respMinSize < mailboxRespHeaderSize) .mboxTimeout
      ((soc.finishMailboxResp respMinSize respSize).run dev state) ∧
    TimesOutAfter 100000 (env.socManager.socMboxReg CaliptraSoC.mboxStatus) CaliptraSoC.statusBusy
      (dev.replies (env.socManager.socMboxReg CaliptraSoC.mboxStatus) state) True .timeout
      ((ColdBoot.waitCaliptraReady env).run dev state) := by
  refine ⟨?_, ?_, ?_⟩
  · exact waitBounded_iff otp dev state timeoutCycles
  · exact finishMailboxResp_timesOutAfter soc dev state respMinSize respSize
  · exact waitCaliptraReady_timesOutAfter env dev state

/-- A controller that is busy once and then idle. -/
def busyOnce : Word → Nat → Word := fun _ index => BitVec.ofNat 32 index

/-- Without a budget the wait polls it twice and reports success. -/
theorem waitForIdle_zero_polls_again :
    ((Otp.waitForIdle ⟨0⟩ 0).run Device.scripted busyOnce).trace = [.read 0 0, .read 0 1] ∧
      ((Otp.waitForIdle ⟨0⟩ 0).run Device.scripted busyOnce).result = .ok () ∧
      ¬ Otp.WaitBounded ⟨0⟩ Device.scripted busyOnce 0 := by
  have ready : ReadyAt Otp.statusNotIdle (Device.scripted.replies 0 busyOnce) 1 := by
    refine ⟨fun index bound => ?_, rfl⟩
    rw [Nat.lt_one_iff.mp bound]
    rfl
  have polled := run_pollWhile_ready Device.scripted (0 : Word) Otp.statusNotIdle (0 : Word)
    busyOnce 1 (by decide) ready
  have ran := run_waitForIdle ⟨0⟩ Device.scripted busyOnce 0
  refine ⟨?_, ?_, ?_⟩
  · rw [ran]
    exact congrArg Run.trace polled
  · rw [ran]
    exact if_pos (congrArg Run.result polled)
  · rw [waitBounded_iff]
    decide

end McuRom
