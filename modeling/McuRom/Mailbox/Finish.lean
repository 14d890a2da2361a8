import McuRom.Mailbox.Iteration
import McuRom.Romtime.SocManager

namespace McuRom

open Mmio

/-!
# Finishing a request

After a request has been started the client polls STATUS, acts on one more
STATUS word, and copies the response out.  Each way this can end gets the
complete execution: accesses, result, final device state.  The device behind
the registers is arbitrary.
-/

namespace CaliptraSoC

/-! ## What a STATUS word asks for -/

/-- The four kinds of status `finish_mailbox_resp` tells apart. -/
inductive StatusKind where
  | failure
  | complete
  | unknown
  | dataReady
deriving DecidableEq, Repr

/-- The order of the tests matters: a failure hides a completion, and both
hide response data. -/
def statusKind (status : Word) : StatusKind :=
  if status &&& mboxStatusCmdFailure ≠ 0 then .failure
  else if status &&& mboxStatusCmdComplete ≠ 0 then .complete
  else if status &&& mboxStatusDataReady = 0 then .unknown
  else .dataReady

/-- The wait ends with the reply at `count`, the first that is not busy,
before the countdown does. -/
def WaitEnds (status : Nat → Word) (count : Nat) : Prop :=
  count < maxWaitCycles.toNat ∧ ReadyAt statusBusy status count

theorem pollBudget_maxWaitCycles : pollBudget maxWaitCycles = maxWaitCycles.toNat := rfl

theorem WaitEnds.unique {status : Nat → Word} {first second : Nat}
    (left : WaitEnds status first) (right : WaitEnds status second) : first = second :=
  left.2.unique right.2

theorem timeout_or_waitEnds (status : Nat → Word) :
    BusyFor statusBusy status maxWaitCycles.toNat ∨ ∃ count, WaitEnds status count :=
  busyFor_or_readyAt statusBusy status maxWaitCycles.toNat

theorem WaitEnds.not_timeout {status : Nat → Word} {count : Nat} (ends : WaitEnds status count) :
    ¬ BusyFor statusBusy status maxWaitCycles.toNat :=
  ends.2.not_busyFor ends.1

variable {σ : Type} (soc : CaliptraSoC) (dev : Device Word Word σ)

/-! ## Acting on the status -/

/-- `finish_mailbox_resp` after its last STATUS read, by kind of status. -/
def actOn : StatusKind → Driver (McuResult (Option CaliptraMailboxResponse))
  | .failure => do
    soc.writeSocMbox mboxExecute 0
    let errorCode ← soc.readSocIfc socIfcCptraFwErrorFatal
    if errorCode = 0 then
      let _ ← soc.readSocIfc socIfcCptraFwErrorNonFatal
      pure (.error .mboxCmdFailed)
    else pure (.error .mboxCmdFailed)
  | .complete => do
    soc.writeSocMbox mboxExecute 0
    pure (.ok none)
  | .unknown => pure (.error .mboxInvalidResponse)
  | .dataReady => do
    let dlenBytes ← soc.readSocMbox mboxDlen
    let expectedChecksum ← soc.readSocMbox mboxDataout
    pure (.ok (some (.construct soc.socMboxAddr dlenBytes expectedChecksum)))

/-- The nested tests of the source choose by kind, and the response that is
moved out leaves a local behind whose destructor does nothing. -/
theorem takeMailboxResp_eq :
    soc.takeMailboxResp = (do
      let status ← soc.readSocMbox mboxStatus
      soc.actOn (statusKind status)) := by
  unfold takeMailboxResp
  refine congrArg (Program.read _) (funext fun status => ?_)
  change (if _ then _ else _) = soc.actOn (statusKind status)
  by_cases failed : status &&& mboxStatusCmdFailure ≠ 0
  · rw [statusKind, if_pos failed, if_pos failed]
    rfl
  · by_cases completed : status &&& mboxStatusCmdComplete ≠ 0
    · rw [statusKind, if_neg failed, if_neg failed, if_pos completed, if_pos completed]
      rfl
    · by_cases noData : status &&& mboxStatusDataReady = 0
      · rw [statusKind, if_neg failed, if_neg failed, if_neg completed, if_neg completed,
          if_pos noData, if_pos noData]
        rfl
      · rw [statusKind, if_neg failed, if_neg failed, if_neg completed, if_neg completed,
          if_neg noData, if_neg noData]
        rfl

/-- The registers a failed command is diagnosed from. -/
def IsErrorReport (access : Access Word Word) : Prop :=
  ∃ value, access = .read (soc.socIfcReg socIfcCptraFwErrorFatal) value ∨
    access = .read (soc.socIfcReg socIfcCptraFwErrorNonFatal) value

/-- A failure ends the session first and reads the error registers after. -/
theorem run_actOn_failure (state : σ) :
    ∃ reports final, (soc.actOn .failure).run dev state =
        ⟨.write (soc.socMboxReg mboxExecute) 0 :: reports, .error .mboxCmdFailed, final⟩ ∧
      ∀ access ∈ reports, soc.IsErrorReport access := by
  let fatal := dev.read (dev.write state (soc.socMboxReg mboxExecute) 0)
    (soc.socIfcReg socIfcCptraFwErrorFatal)
  let nonFatal := dev.read fatal.2 (soc.socIfcReg socIfcCptraFwErrorNonFatal)
  have step : (soc.actOn .failure).run dev state =
      ((if fatal.1 = 0 then do
          let _ ← soc.readSocIfc socIfcCptraFwErrorNonFatal
          pure (.error .mboxCmdFailed)
        else pure (.error .mboxCmdFailed) :
          Driver (McuResult (Option CaliptraMailboxResponse))).run dev fatal.2).after
        [.write (soc.socMboxReg mboxExecute) 0,
          .read (soc.socIfcReg socIfcCptraFwErrorFatal) fatal.1] := rfl
  by_cases zero : fatal.1 = 0
  · refine ⟨[.read (soc.socIfcReg socIfcCptraFwErrorFatal) fatal.1,
      .read (soc.socIfcReg socIfcCptraFwErrorNonFatal) nonFatal.1], nonFatal.2, ?_, ?_⟩
    · rw [step, if_pos zero]
      rfl
    · intro access member
      simp only [List.mem_cons, List.not_mem_nil, or_false] at member
      rcases member with rfl | rfl
      · exact ⟨_, Or.inl rfl⟩
      · exact ⟨_, Or.inr rfl⟩
  · refine ⟨[.read (soc.socIfcReg socIfcCptraFwErrorFatal) fatal.1], fatal.2, ?_, ?_⟩
    · rw [step, if_neg zero]
      rfl
    · intro access member
      exact ⟨_, Or.inl (List.mem_singleton.mp member)⟩

theorem run_actOn_complete (state : σ) :
    (soc.actOn .complete).run dev state =
      ⟨[.write (soc.socMboxReg mboxExecute) 0], .ok none,
        dev.write state (soc.socMboxReg mboxExecute) 0⟩ := rfl

theorem run_actOn_unknown (state : σ) :
    (soc.actOn .unknown).run dev state = ⟨[], .error .mboxInvalidResponse, state⟩ := rfl

theorem run_actOn_dataReady (state : σ) :
    (soc.actOn .dataReady).run dev state =
      ⟨[.read (soc.socMboxReg mboxDlen) (dev.read state (soc.socMboxReg mboxDlen)).1,
          .read (soc.socMboxReg mboxDataout)
            (dev.read (dev.read state (soc.socMboxReg mboxDlen)).2 (soc.socMboxReg mboxDataout)).1],
        .ok (some (.construct soc.socMboxAddr (dev.read state (soc.socMboxReg mboxDlen)).1
          (dev.read (dev.read state (soc.socMboxReg mboxDlen)).2 (soc.socMboxReg mboxDataout)).1)),
        (dev.read (dev.read state (soc.socMboxReg mboxDlen)).2 (soc.socMboxReg mboxDataout)).2⟩ :=
  rfl

/-! ## The wait -/

section Wait

variable {respMinSize respSize : SizeT} {state : σ}

theorem run_finishMailboxResp_tooSmall
    (tooSmall : respSize < mailboxRespHeaderSize ∨ respMinSize < mailboxRespHeaderSize) :
    (soc.finishMailboxResp respMinSize respSize).run dev state =
      ⟨[], .error .mboxInvalidResponse, state⟩ := by
  rw [finishMailboxResp]
  by_cases small : respSize < mailboxRespHeaderSize
  · rw [if_pos small]
    rfl
  · rw [if_neg small, if_pos (tooSmall.resolve_left small)]
    rfl

variable (fits : ¬ respSize < mailboxRespHeaderSize) (minFits : ¬ respMinSize < mailboxRespHeaderSize)
include fits minFits

theorem run_finishMailboxResp_timeout
    (timeout : BusyFor statusBusy (dev.replies (soc.socMboxReg mboxStatus) state)
      maxWaitCycles.toNat) :
    (soc.finishMailboxResp respMinSize respSize).run dev state =
      ⟨pollTrace (soc.socMboxReg mboxStatus) (dev.replies (soc.socMboxReg mboxStatus) state)
          maxWaitCycles.toNat, .error .mboxTimeout,
        dev.afterReads (soc.socMboxReg mboxStatus) state maxWaitCycles.toNat⟩ := by
  have polled := run_pollWhile_timeout dev (soc.socMboxReg mboxStatus) statusBusy maxWaitCycles
    state timeout
  rw [finishMailboxResp, if_neg fits, if_neg minFits, Program.run_bind, polled,
    pollBudget_maxWaitCycles, if_neg Bool.false_ne_true]
  simp

/-- Once the wait ends at `count`, the word at `count + 1` decides. -/
theorem run_finishMailboxResp_ready {count : Nat}
    (ends : WaitEnds (dev.replies (soc.socMboxReg mboxStatus) state) count) :
    (soc.finishMailboxResp respMinSize respSize).run dev state =
      ((soc.actOn (statusKind (dev.replies (soc.socMboxReg mboxStatus) state (count + 1)))).run dev
        (dev.afterReads (soc.socMboxReg mboxStatus) state (count + 2))).after
        (pollTrace (soc.socMboxReg mboxStatus) (dev.replies (soc.socMboxReg mboxStatus) state)
          (count + 2)) := by
  have polled := run_pollWhile_ready dev (soc.socMboxReg mboxStatus) statusBusy maxWaitCycles
    state count ends.1 ends.2
  rw [finishMailboxResp, if_neg fits, if_neg minFits, Program.run_bind, polled, if_pos rfl,
    takeMailboxResp_eq, Program.run_bind, readSocMbox, Program.run_readReg,
    pollTrace_append_one _ _ (count + 1), Device.afterReads_succ _ _ _ (count + 1),
    ← Device.replies_eq_read]
  simp only [Run.after_after]

end Wait

/-! ## The whole second half of `exec_mailbox_req_u32` -/

variable (req resp : List Word)

/-- The `resp_len_bytes` of a response array. -/
def respLenBytes : SizeT := sizeT resp.length * 4

/-- An error of `finish_mailbox_resp` is handed on. -/
theorem run_receiveResp_error {state final : σ} {trace : List (Access Word Word)} {e : McuError}
    (finished : (soc.finishMailboxResp (respLenBytes resp) (respLenBytes resp)).run dev state =
      ⟨trace, .error e, final⟩) :
    (soc.receiveResp req resp).run dev state = ⟨trace, ⟨.error e, req, resp⟩, final⟩ := by
  rw [respLenBytes] at finished
  rw [receiveResp, Program.run_bind, finished]
  simp

/-- A completion without data is an error to this caller. -/
theorem run_receiveResp_none {state final : σ} {trace : List (Access Word Word)}
    (finished : (soc.finishMailboxResp (respLenBytes resp) (respLenBytes resp)).run dev state =
      ⟨trace, .ok none, final⟩) :
    (soc.receiveResp req resp).run dev state =
      ⟨trace, ⟨.error .mboxInvalidResponse, req, resp⟩, final⟩ := by
  rw [respLenBytes] at finished
  rw [receiveResp, Program.run_bind, finished]
  simp

/-- A response is copied out and destroyed; its result is not consulted. -/
theorem run_receiveResp_some {state final : σ} {trace : List (Access Word Word)}
    {response : CaliptraMailboxResponse}
    (finished : (soc.finishMailboxResp (respLenBytes resp) (respLenBytes resp)).run dev state =
      ⟨trace, .ok (some response), final⟩)
    (fresh : response.idx = 0) (owned : response.released = false) :
    (soc.receiveResp req resp).run dev state =
      ⟨trace ++ pollTrace response.dataoutReg (dev.replies response.dataoutReg final)
          (response.wordCount.toNat - 1) ++ [.write response.executeReg 0],
        ⟨.ok (), req, (response.copied (dev.replies response.dataoutReg final) resp).2⟩,
        dev.write (dev.afterReads response.dataoutReg final (response.wordCount.toNat - 1))
          response.executeReg 0⟩ := by
  have copied := response.run_copyAll dev resp final fresh
  have destroyed : response.release = Program.writeReg response.executeReg 0 := by
    rw [CaliptraMailboxResponse.release, owned, if_neg Bool.false_ne_true]
    rfl
  rw [respLenBytes] at finished
  rw [receiveResp, Program.run_bind, finished]
  simp only [CaliptraMailboxResponse.moveConstruct, Program.run_bind, copied,
    CaliptraMailboxResponse.destroy, CaliptraMailboxResponse.copied_release, destroyed,
    Program.run_writeReg, Program.pure_eq, Program.run_ret, Run.after_mk, List.append_nil,
    List.append_assoc]

end CaliptraSoC

end McuRom
