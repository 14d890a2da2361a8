import McuRom.Mailbox.Exec
import McuRom.Rom.RomEnv

namespace McuRom

open Mmio

/-!
# Releasing the lock

A client that has read 0 from LOCK owns the mailbox until a 0 is written to
EXECUTE.  Two of the ways a request ends perform that write: a command
failure and a completion without data.  On the others (a response array
without room for the header, a timeout, an unknown status, and a response
that was delivered) the lock stays taken: the error exits write nothing, and
the response object writes its release to the CMD register.
-/

namespace CaliptraSoC

variable {σ : Type} (soc : CaliptraSoC)

/-- A call that acquired the lock has released it; one that did not acquire it
has not written EXECUTE. -/
def ReleasedOnExit {α : Type} (run : Run Word Word (Device.Locked σ) α) : Prop :=
  (soc.Acquired run.trace → run.state.lock = false) ∧
    (¬ soc.Acquired run.trace → ∀ value, .write (soc.socMboxReg mboxExecute) value ∉ run.trace)

/-- The registers a failure is diagnosed from do not alias LOCK. -/
def ErrorRegsApart : Prop :=
  soc.socIfcReg socIfcCptraFwErrorFatal ≠ soc.socMboxReg mboxLock ∧
    soc.socIfcReg socIfcCptraFwErrorNonFatal ≠ soc.socMboxReg mboxLock

/-- The error registers of the ROM's memory map are in another block. -/
theorem errorRegsApart_romEnv : romEnv.socManager.ErrorRegsApart := ⟨by decide, by decide⟩

/-- The lock bit after a trace of this mailbox. -/
def lockAfter (lock : Bool) (trace : List (Access Word Word)) : Bool :=
  Device.lockAfter (soc.socMboxReg mboxLock) (soc.socMboxReg mboxExecute) lock trace

/-! ## The lock at each exit -/

theorem lockAfter_polls (lock : Bool) {polls : List (Access Word Word)}
    (only : soc.OnlyPolls polls) : soc.lockAfter lock polls = lock := by
  apply Device.lockAfter_of_reads
  intro access member
  rcases only access member with ⟨value, rfl⟩
  exact ⟨_, value, rfl, soc.socMboxReg_ne (by decide)⟩

theorem lockAfter_reports (apart : soc.ErrorRegsApart) (lock : Bool)
    {reports : List (Access Word Word)} (report : ∀ access ∈ reports, soc.IsErrorReport access) :
    soc.lockAfter lock reports = lock := by
  apply Device.lockAfter_of_reads
  intro access member
  rcases report access member with ⟨value, rfl | rfl⟩
  · exact ⟨_, value, rfl, apart.1⟩
  · exact ⟨_, value, rfl, apart.2⟩

/-- A release followed by reads of the error registers leaves the lock free. -/
theorem lockAfter_released (apart : soc.ErrorRegsApart) (polls : List (Access Word Word))
    {reports : List (Access Word Word)} (report : ∀ access ∈ reports, soc.IsErrorReport access) :
    soc.lockAfter true (polls ++ .write (soc.socMboxReg mboxExecute) 0 :: reports) = false := by
  rw [lockAfter, Device.lockAfter_append, Device.lockAfter, if_pos ⟨rfl, rfl⟩]
  exact soc.lockAfter_reports apart false report

/-- A delivered response ends with a write to CMD, which releases nothing. -/
theorem lockAfter_delivered {polls : List (Access Word Word)} (only : soc.OnlyPolls polls)
    (dlen header : Word) (stream : Nat → Word) (count : Nat) :
    soc.lockAfter true
      (polls ++ [.read (soc.socMboxReg mboxDlen) dlen, .read (soc.socMboxReg mboxDataout) header] ++
        pollTrace (soc.socMboxReg mboxLock) stream count ++
        [.write (soc.socMboxReg mboxCmd) 0]) = true := by
  apply Device.lockAfter_of_no_release
  intro member
  rcases List.mem_append.mp member with inFront | last
  · rcases List.mem_append.mp inFront with inHead | inReads
    · rcases List.mem_append.mp inHead with inPolls | inHeader
      · rcases only _ inPolls with ⟨value, impossible⟩
        cases impossible
      · simp only [List.mem_cons, List.not_mem_nil, reduceCtorEq, or_false] at inHeader
    · rcases mem_pollTrace.mp inReads with ⟨index, _, impossible⟩
      cases impossible
  · have same := congrArg Access.addr (List.mem_singleton.mp last)
    exact soc.socMboxReg_ne (show mboxExecute ≠ mboxCmd by decide) same

/-- After a request has been started, the lock is released exactly when the
response array can hold a header and the wait ends in a failure or in a
completion without data. -/
theorem receive_lock_iff (apart : soc.ErrorRegsApart) (req resp : List Word)
    (script : Word → Nat → Word) :
    ((soc.receiveResp req resp).run soc.scriptedMailbox ⟨true, script⟩).state.lock = false ↔
      mailboxRespHeaderSize ≤ respLenBytes resp ∧
        (soc.EndsIn script .failure ∨ soc.EndsIn script .complete) := by
  have byTrace : ((soc.receiveResp req resp).run soc.scriptedMailbox ⟨true, script⟩).state.lock =
      soc.lockAfter true
        ((soc.receiveResp req resp).run soc.scriptedMailbox ⟨true, script⟩).trace :=
    Device.run_withLock_lock _ _ Device.scripted _ _
  rw [byTrace]
  by_cases small : respLenBytes resp < mailboxRespHeaderSize
  · rw [soc.run_receive_tooSmall req resp script true small]
    exact ⟨fun free => Bool.noConfusion free, fun both => absurd small (BitVec.not_lt.mpr both.1)⟩
  · have large : mailboxRespHeaderSize ≤ respLenBytes resp := BitVec.not_lt.mp small
    rcases soc.timeout_or_endsIn script with timeout | ⟨kind, ends⟩
    · rcases soc.run_receive_timeout req resp script true small timeout with
        ⟨polls, final, received, only⟩
      rw [received, soc.lockAfter_polls true only]
      refine ⟨fun free => Bool.noConfusion free, ?_⟩
      rintro ⟨_, failed | completed⟩
      · exact absurd timeout failed.not_timeout
      · exact absurd timeout completed.not_timeout
    · cases kind with
      | failure =>
          rcases soc.run_receive_failure req resp script true small ends with
            ⟨polls, reports, final, received, _, report⟩
          rw [received, soc.lockAfter_released apart polls report]
          exact ⟨fun _ => ⟨large, Or.inl ends⟩, fun _ => rfl⟩
      | complete =>
          rcases soc.run_receive_complete req resp script true small ends with
            ⟨polls, final, received, _⟩
          rw [received, soc.lockAfter_released apart polls fun _ member => by cases member]
          exact ⟨fun _ => ⟨large, Or.inr ends⟩, fun _ => rfl⟩
      | unknown =>
          rcases soc.run_receive_unknown req resp script true small ends with
            ⟨polls, final, received, only⟩
          rw [received, soc.lockAfter_polls true only]
          refine ⟨fun free => Bool.noConfusion free, ?_⟩
          rintro ⟨_, failed | completed⟩
          · cases failed.unique ends
          · cases completed.unique ends
      | dataReady =>
          rcases soc.run_receive_dataReady req resp script small ends with
            ⟨polls, final, received, only⟩
          rw [received, soc.lockAfter_delivered only]
          refine ⟨fun free => Bool.noConfusion free, ?_⟩
          rintro ⟨_, failed | completed⟩
          · cases failed.unique ends
          · cases completed.unique ends

/-! ## The whole call -/

variable (cmd : Word) (req resp : List Word) (script : Word → Nat → Word)

/-- For every call and every device behaviour, the lock is released on exit
exactly when a request that was started ends in a failure or in a completion
without data, with room for a response header. -/
theorem releasedOnExit_exec_iff (apart : soc.ErrorRegsApart) (lock : Bool) :
    soc.ReleasedOnExit (soc.execRun cmd req resp script lock) ↔
      (RequestAccepted req → lock = false →
        mailboxRespHeaderSize ≤ respLenBytes resp ∧
          (soc.EndsIn script .failure ∨ soc.EndsIn script .complete)) := by
  by_cases accepted : RequestAccepted req
  · cases lock with
    | false =>
        rw [execRun_free _ _ _ _ _ accepted, ReleasedOnExit, Run.after_trace, Run.after_state,
          soc.receive_lock_iff apart]
        have acquired := soc.acquired_startTrace Device.scripted cmd req ⟨false, script⟩ rfl
          ((soc.receiveResp (preparedReq cmd req) resp).run soc.scriptedMailbox ⟨true, script⟩).trace
        exact ⟨fun released _ _ => released.1 acquired,
          fun ends => ⟨fun _ => ends accepted rfl, fun not => absurd acquired not⟩⟩
    | true =>
        have refused := soc.run_exec_held Device.scripted cmd req resp ⟨true, script⟩ accepted rfl
        have notAcquired := soc.not_acquired_of_held Device.scripted ⟨true, script⟩ rfl
        refine ⟨fun _ _ impossible => Bool.noConfusion impossible, fun _ => ?_⟩
        rw [execRun, refused]
        constructor
        · exact fun acquired => absurd acquired notAcquired
        · intro _ value member
          cases List.mem_singleton.mp member
  · rcases soc.run_exec_rejected Device.scripted cmd req resp ⟨lock, script⟩ accepted with
      ⟨outcome, rejected, _⟩
    refine ⟨fun _ impossible => absurd impossible accepted, fun _ => ?_⟩
    rw [execRun, rejected]
    constructor
    · rintro ⟨value, impossible, _⟩
      cases impossible
    · intro _ value impossible
      cases impossible

/-- A device that completes every command without data is released. -/
theorem releasedOnExit_exec_complete :
    romEnv.socManager.ReleasedOnExit
      (romEnv.socManager.execRun 0 [0] [0, 0] (fun _ _ => mboxStatusCmdComplete) false) :=
  (releasedOnExit_exec_iff romEnv.socManager 0 [0] [0, 0] (fun _ _ => mboxStatusCmdComplete)
    errorRegsApart_romEnv false).mpr fun _ _ =>
      ⟨by decide, Or.inr (romEnv.socManager.endsIn_constant (by decide))⟩

/-- A two-word response that is delivered leaves the mailbox locked. -/
theorem exec_delivered_keeps_lock :
    (romEnv.socManager.execRun 0 [0] [0, 0] readyScript false).result.result = .ok () ∧
      (romEnv.socManager.execRun 0 [0] [0, 0] readyScript false).state.lock = true ∧
      ¬ romEnv.socManager.ReleasedOnExit
        (romEnv.socManager.execRun 0 [0] [0, 0] readyScript false) := by
  have ready := romEnv.socManager.endsIn_readyScript
  rcases romEnv.socManager.run_receive_dataReady (preparedReq 0 [0]) [0, 0] readyScript
    (by decide) ready with ⟨polls, final, received, _⟩
  have keeps : (romEnv.socManager.execRun 0 [0] [0, 0] readyScript false).state.lock = true := by
    rw [execRun_free _ _ _ _ _ requestAccepted_header, Run.after_state]
    apply eq_true_of_ne_false
    intro free
    rcases ((romEnv.socManager.receive_lock_iff errorRegsApart_romEnv _ _ _).mp free).2 with
      failed | completed
    · cases failed.unique ready
    · cases completed.unique ready
  refine ⟨?_, keeps, ?_⟩
  · rw [execRun_free _ _ _ _ _ requestAccepted_header, Run.after_result, received]
  · intro released
    have free := released.1 (by
      rw [execRun_free _ _ _ _ _ requestAccepted_header]
      exact romEnv.socManager.acquired_startTrace Device.scripted 0 [0] ⟨false, readyScript⟩ rfl _)
    rw [keeps] at free
    cases free

end CaliptraSoC

end McuRom
