import McuRom.Mailbox.Request
import McuRom.Mailbox.Finish

namespace McuRom

open Mmio

/-!
# Complete requests

`exec_mailbox_req_u32` either stops before touching the mailbox, is refused
the lock, or starts the request and then receives the response.  Its
executions are given first for an arbitrary device behind the lock.  They are
then specialized to a device that answers every register from a script, since
any behaviour of a device in one execution is such a script.
-/

/-- One call of `exec_mailbox_req_u32`. -/
structure ExecCall where
  cmd : Word
  req : List Word
  resp : List Word
deriving DecidableEq, Repr

namespace CaliptraSoC

/-! ## Which requests are started -/

/-- The sizes that pass both checks on the request. -/
def RequestAccepted (req : List Word) : Prop :=
  mailboxReqHeaderSize ≤ sizeT req.length * 4 ∧ sizeT req.length * 4 ≤ mailboxSize

/-- The request array once the header checksum has been stored. -/
def preparedReq (cmd : Word) (req : List Word) : List Word :=
  req.set 0 (calcChecksum cmd
    (((arrayBytes req).drop mailboxReqHeaderSize.toNat).take
      (sizeT req.length * 4 - mailboxReqHeaderSize).toNat))

variable {σ : Type} (soc : CaliptraSoC) (inner : Device Word Word σ)
variable (cmd : Word) (req resp : List Word)

theorem execMailboxReqU32_eq (long : ¬ sizeT req.length * 4 < mailboxReqHeaderSize) :
    soc.execMailboxReqU32 cmd req resp = (do
      let startResult ← soc.startMailboxReq cmd (sizeT req.length * 4) (preparedReq cmd req)
      match startResult with
      | .error e => pure ⟨.error e, preparedReq cmd req, resp⟩
      | .ok () => soc.receiveResp (preparedReq cmd req) resp) :=
  if_neg long

/-- A request that is too short or too long touches no register. -/
theorem run_exec_rejected (state : Device.Locked σ) (rejected : ¬ RequestAccepted req) :
    ∃ outcome, (soc.execMailboxReqU32 cmd req resp).run (soc.mailbox inner) state =
        ⟨[], outcome, state⟩ ∧ outcome.result = .error .mboxInvalidResponse := by
  by_cases short : sizeT req.length * 4 < mailboxReqHeaderSize
  · refine ⟨⟨.error .mboxInvalidResponse, req, resp⟩, ?_, rfl⟩
    rw [execMailboxReqU32, if_pos short]
    rfl
  · have tooLong : mailboxSize < sizeT req.length * 4 := by
      by_contra fits
      exact rejected ⟨BitVec.not_lt.mp short, BitVec.not_lt.mp fits⟩
    refine ⟨⟨.error .mboxInvalidResponse, preparedReq cmd req, resp⟩, ?_, rfl⟩
    rw [soc.execMailboxReqU32_eq cmd req resp short, Program.run_bind,
      soc.run_startMailboxReq_tooLong inner cmd _ _ state tooLong]
    rfl

/-- A mailbox somebody holds refuses the request after one LOCK read. -/
theorem run_exec_held (state : Device.Locked σ) (accepted : RequestAccepted req)
    (held : state.lock = true) :
    (soc.execMailboxReqU32 cmd req resp).run (soc.mailbox inner) state =
      ⟨[.read (soc.socMboxReg mboxLock) (soc.lockReply inner state)],
        ⟨.error .mboxLockFailed, preparedReq cmd req, resp⟩, state⟩ := by
  rw [soc.execMailboxReqU32_eq cmd req resp (BitVec.not_lt.mpr accepted.1), Program.run_bind,
    soc.run_startMailboxReq_held inner cmd _ _ state (BitVec.not_lt.mpr accepted.2) held]
  rfl

/-- The accesses that start a request on a free mailbox. -/
def startTrace (state : Device.Locked σ) : List (Access Word Word) :=
  .read (soc.socMboxReg mboxLock) (soc.lockReply inner state) ::
    .read (soc.socMboxReg mboxLock) (soc.lockReply inner { state with lock := true }) ::
    Access.ofWrites (soc.requestWrites cmd (sizeT req.length * 4) (preparedReq cmd req))

/-- A free mailbox is locked, given the request, and waited for. -/
theorem run_exec_free (state : Device.Locked σ) (accepted : RequestAccepted req)
    (free : state.lock = false) :
    (soc.execMailboxReqU32 cmd req resp).run (soc.mailbox inner) state =
      ((soc.receiveResp (preparedReq cmd req) resp).run (soc.mailbox inner)
        ⟨true, inner.writeAll state.rest
          (soc.requestWrites cmd (sizeT req.length * 4) (preparedReq cmd req))⟩).after
        (soc.startTrace inner cmd req state) := by
  rw [soc.execMailboxReqU32_eq cmd req resp (BitVec.not_lt.mpr accepted.1), Program.run_bind,
    soc.run_startMailboxReq_free inner cmd _ _ state (BitVec.not_lt.mpr accepted.2) free]
  rfl

/-- Some LOCK read of the trace returned a free lock. -/
def Acquired (trace : List (Access Word Word)) : Prop :=
  ∃ value, .read (soc.socMboxReg mboxLock) value ∈ trace ∧ value &&& 0x01 = 0

/-- Starting a request acquires the lock. -/
theorem acquired_startTrace (state : Device.Locked σ) (free : state.lock = false)
    (later : List (Access Word Word)) :
    soc.Acquired (soc.startTrace inner cmd req state ++ later) := by
  have guard := soc.lockReply_and_one inner state
  rw [free] at guard
  exact ⟨_, List.mem_cons_self, guard⟩

/-- A refused client has not acquired it. -/
theorem not_acquired_of_held (state : Device.Locked σ) (held : state.lock = true) :
    ¬ soc.Acquired [.read (soc.socMboxReg mboxLock) (soc.lockReply inner state)] := by
  have guard := soc.lockReply_and_one inner state
  rw [held] at guard
  rintro ⟨value, member, zero⟩
  cases List.mem_singleton.mp member
  rw [guard] at zero
  cases zero

/-! ## Receiving from a scripted device -/

variable (script : Word → Nat → Word)

/-- The STATUS words a script presents. -/
def statusScript : Nat → Word := script (soc.socMboxReg mboxStatus)

/-- The words a script presents in the data register: header first. -/
def dataScript : Nat → Word := script (soc.socMboxReg mboxDataout)

/-- The response length a script presents. -/
def dlenScript : Word := script (soc.socMboxReg mboxDlen) 0

/-- The wait ends, and the status word after it is of the given kind. -/
def EndsIn (kind : StatusKind) : Prop :=
  ∃ count, WaitEnds (soc.statusScript script) count ∧
    statusKind (soc.statusScript script (count + 1)) = kind

theorem EndsIn.unique {soc : CaliptraSoC} {script : Word → Nat → Word} {first second : StatusKind}
    (left : soc.EndsIn script first) (right : soc.EndsIn script second) : first = second := by
  rcases left with ⟨count, ends, rfl⟩
  rcases right with ⟨other, otherEnds, rfl⟩
  rw [ends.unique otherEnds]

/-- A wait either times out or ends in one of the four kinds. -/
theorem timeout_or_endsIn :
    BusyFor statusBusy (soc.statusScript script) maxWaitCycles.toNat ∨
      ∃ kind, soc.EndsIn script kind := by
  rcases timeout_or_waitEnds (soc.statusScript script) with timeout | ⟨count, ends⟩
  · exact Or.inl timeout
  · exact Or.inr ⟨_, count, ends, rfl⟩

theorem EndsIn.not_timeout {soc : CaliptraSoC} {script : Word → Nat → Word} {kind : StatusKind}
    (ends : soc.EndsIn script kind) :
    ¬ BusyFor statusBusy (soc.statusScript script) maxWaitCycles.toNat := by
  rcases ends with ⟨count, waitEnds, _⟩
  exact waitEnds.not_timeout

/-- The mailbox of a scripted device. -/
abbrev scriptedMailbox : Device Word Word (Device.Locked (Word → Nat → Word)) :=
  soc.mailbox Device.scripted

/-- Away from LOCK, a read takes the next word of the register's script. -/
theorem scriptedMailbox_read {addr : Word} (different : addr ≠ soc.socMboxReg mboxLock)
    (lock : Bool) :
    soc.scriptedMailbox.read ⟨lock, script⟩ addr =
      (script addr 0, ⟨lock, Device.advance script addr 1⟩) := by
  rw [scriptedMailbox, mailbox_read_of_ne _ _ _ different, Device.scripted_read_state]
  rfl

theorem scripted_statusReplies (lock : Bool) :
    soc.scriptedMailbox.replies (soc.socMboxReg mboxStatus) ⟨lock, script⟩ =
      soc.statusScript script := by
  funext count
  have different : soc.socMboxReg mboxStatus ≠ soc.socMboxReg mboxLock :=
    soc.socMboxReg_ne (by decide)
  exact (Device.withLock_replies_of_ne _ _ Device.scripted ⟨lock, script⟩ different count).trans
    (Device.scripted_replies script _ count)

theorem scripted_afterStatus (lock : Bool) (count : Nat) :
    soc.scriptedMailbox.afterReads (soc.socMboxReg mboxStatus) ⟨lock, script⟩ count =
      ⟨lock, Device.advance script (soc.socMboxReg mboxStatus) count⟩ := by
  have different : soc.socMboxReg mboxStatus ≠ soc.socMboxReg mboxLock :=
    soc.socMboxReg_ne (by decide)
  rw [scriptedMailbox, mailbox,
    Device.withLock_afterReads_of_ne _ _ Device.scripted ⟨lock, script⟩ different count,
    Device.scripted_afterReads]

/-- A trace of STATUS polls and nothing else. -/
def OnlyPolls (trace : List (Access Word Word)) : Prop :=
  ∀ access ∈ trace, ∃ value, access = .read (soc.socMboxReg mboxStatus) value

theorem onlyPolls_pollTrace (stream : Nat → Word) (count : Nat) :
    soc.OnlyPolls (pollTrace (soc.socMboxReg mboxStatus) stream count) := by
  intro access member
  rcases mem_pollTrace.mp member with ⟨index, _, rfl⟩
  exact ⟨_, rfl⟩

variable (lock : Bool)

theorem run_receive_tooSmall (small : respLenBytes resp < mailboxRespHeaderSize) :
    (soc.receiveResp req resp).run soc.scriptedMailbox ⟨lock, script⟩ =
      ⟨[], ⟨.error .mboxInvalidResponse, req, resp⟩, ⟨lock, script⟩⟩ :=
  soc.run_receiveResp_error _ req resp
    (soc.run_finishMailboxResp_tooSmall soc.scriptedMailbox (Or.inl small))

theorem run_receive_timeout (large : ¬ respLenBytes resp < mailboxRespHeaderSize)
    (timeout : BusyFor statusBusy (soc.statusScript script) maxWaitCycles.toNat) :
    ∃ polls final, (soc.receiveResp req resp).run soc.scriptedMailbox ⟨lock, script⟩ =
        ⟨polls, ⟨.error .mboxTimeout, req, resp⟩, final⟩ ∧ soc.OnlyPolls polls := by
  rw [← soc.scripted_statusReplies script lock] at timeout
  have finished := soc.run_finishMailboxResp_timeout soc.scriptedMailbox large large timeout
  exact ⟨_, _, soc.run_receiveResp_error _ req resp finished, soc.onlyPolls_pollTrace _ _⟩

/-- The wait of a request that ends in a kind, and the state it acts in. -/
theorem run_finish_of_endsIn {respMinSize respSize : SizeT} {kind : StatusKind}
    (fits : ¬ respSize < mailboxRespHeaderSize) (minFits : ¬ respMinSize < mailboxRespHeaderSize)
    (ends : soc.EndsIn script kind) :
    ∃ polls later, (soc.finishMailboxResp respMinSize respSize).run
        soc.scriptedMailbox ⟨lock, script⟩ =
        ((soc.actOn kind).run soc.scriptedMailbox ⟨lock, later⟩).after polls ∧
      soc.OnlyPolls polls ∧
      ∀ addr ≠ soc.socMboxReg mboxStatus, later addr = script addr := by
  rcases ends with ⟨count, waitEnds, rfl⟩
  have replies := soc.scripted_statusReplies script lock
  rw [← replies] at waitEnds
  have finished := soc.run_finishMailboxResp_ready soc.scriptedMailbox fits minFits waitEnds
  rw [replies, soc.scripted_afterStatus] at finished
  exact ⟨_, _, finished, soc.onlyPolls_pollTrace _ _,
    fun addr different => Device.advance_of_ne script different _⟩

theorem run_receive_failure (large : ¬ respLenBytes resp < mailboxRespHeaderSize)
    (ends : soc.EndsIn script .failure) :
    ∃ polls reports final, (soc.receiveResp req resp).run soc.scriptedMailbox ⟨lock, script⟩ =
        ⟨polls ++ .write (soc.socMboxReg mboxExecute) 0 :: reports,
          ⟨.error .mboxCmdFailed, req, resp⟩, final⟩ ∧
      soc.OnlyPolls polls ∧ ∀ access ∈ reports, soc.IsErrorReport access := by
  rcases soc.run_finish_of_endsIn script lock large large ends with ⟨polls, later, finished, only, _⟩
  rcases soc.run_actOn_failure soc.scriptedMailbox ⟨lock, later⟩ with
    ⟨reports, final, acted, report⟩
  rw [acted] at finished
  exact ⟨polls, reports, final, soc.run_receiveResp_error _ req resp finished, only, report⟩

theorem run_receive_complete (large : ¬ respLenBytes resp < mailboxRespHeaderSize)
    (ends : soc.EndsIn script .complete) :
    ∃ polls final, (soc.receiveResp req resp).run soc.scriptedMailbox ⟨lock, script⟩ =
        ⟨polls ++ [.write (soc.socMboxReg mboxExecute) 0],
          ⟨.error .mboxInvalidResponse, req, resp⟩, final⟩ ∧ soc.OnlyPolls polls := by
  rcases soc.run_finish_of_endsIn script lock large large ends with ⟨polls, later, finished, only, _⟩
  rw [run_actOn_complete] at finished
  exact ⟨polls, _, soc.run_receiveResp_none _ req resp finished, only⟩

theorem run_receive_unknown (large : ¬ respLenBytes resp < mailboxRespHeaderSize)
    (ends : soc.EndsIn script .unknown) :
    ∃ polls final, (soc.receiveResp req resp).run soc.scriptedMailbox ⟨lock, script⟩ =
        ⟨polls, ⟨.error .mboxInvalidResponse, req, resp⟩, final⟩ ∧ soc.OnlyPolls polls := by
  rcases soc.run_finish_of_endsIn script lock large large ends with ⟨polls, later, finished, only, _⟩
  rw [run_actOn_unknown, Run.after_mk, List.append_nil] at finished
  exact ⟨polls, _, soc.run_receiveResp_error _ req resp finished, only⟩

/-- The response object of a script: its length and its header word. -/
def responseOf : CaliptraMailboxResponse :=
  .construct soc.socMboxAddr (soc.dlenScript script) (soc.dataScript script 0)

/-- A response that is ready is handed over with its length and its header,
and nothing of this reads LOCK. -/
theorem run_finish_dataReady {respMinSize respSize : SizeT}
    (fits : ¬ respSize < mailboxRespHeaderSize) (minFits : ¬ respMinSize < mailboxRespHeaderSize)
    (ends : soc.EndsIn script .dataReady) :
    ∃ polls final, (soc.finishMailboxResp respMinSize respSize).run
        soc.scriptedMailbox ⟨lock, script⟩ =
        ⟨polls ++ [.read (soc.socMboxReg mboxDlen) (soc.dlenScript script),
            .read (soc.socMboxReg mboxDataout) (soc.dataScript script 0)],
          .ok (some (soc.responseOf script)), ⟨lock, final⟩⟩ ∧
      soc.OnlyPolls polls ∧
      final (soc.socMboxReg mboxLock) = script (soc.socMboxReg mboxLock) := by
  rcases soc.run_finish_of_endsIn script lock fits minFits ends with
    ⟨polls, later, finished, only, same⟩
  have dlen : later (soc.socMboxReg mboxDlen) = script (soc.socMboxReg mboxDlen) :=
    same _ (soc.socMboxReg_ne (by decide))
  have data : later (soc.socMboxReg mboxDataout) = script (soc.socMboxReg mboxDataout) :=
    same _ (soc.socMboxReg_ne (by decide))
  have dlenRead := soc.scriptedMailbox_read later
    (soc.socMboxReg_ne (show mboxDlen ≠ mboxLock by decide)) lock
  have dataRead := soc.scriptedMailbox_read
    (Device.advance later (soc.socMboxReg mboxDlen) 1)
    (soc.socMboxReg_ne (show mboxDataout ≠ mboxLock by decide)) lock
  rw [Device.advance_of_ne later (soc.socMboxReg_ne (by decide)), data] at dataRead
  rw [dlen] at dlenRead
  rw [run_actOn_dataReady, dlenRead, dataRead, Run.after_mk] at finished
  refine ⟨polls, _, finished, only, ?_⟩
  rw [Device.advance_of_ne _ (soc.socMboxReg_ne (by decide)),
    Device.advance_of_ne _ (soc.socMboxReg_ne (by decide))]
  exact same _ (soc.socMboxReg_ne (by decide))

/-- A delivered response, the lock being held: every word after the header is
the LOCK word, and the final write goes to CMD. -/
theorem run_receive_dataReady (large : ¬ respLenBytes resp < mailboxRespHeaderSize)
    (ends : soc.EndsIn script .dataReady) :
    ∃ polls final, (soc.receiveResp req resp).run soc.scriptedMailbox ⟨true, script⟩ =
        ⟨polls ++ [.read (soc.socMboxReg mboxDlen) (soc.dlenScript script),
            .read (soc.socMboxReg mboxDataout) (soc.dataScript script 0)] ++
            pollTrace (soc.socMboxReg mboxLock)
              (fun _ => soc.lockReply Device.scripted ⟨true, script⟩)
              ((soc.responseOf script).wordCount.toNat - 1) ++
            [.write (soc.socMboxReg mboxCmd) 0],
          ⟨.ok (), req, ((soc.responseOf script).copied
            (fun _ => soc.lockReply Device.scripted ⟨true, script⟩) resp).2⟩, final⟩ ∧
      soc.OnlyPolls polls := by
  rcases soc.run_finish_dataReady script true large large ends with
    ⟨polls, final, finished, only, lockWords⟩
  have received := soc.run_receiveResp_some _ req resp finished rfl rfl
  -- nobody has read LOCK since the request was started
  have stream : soc.scriptedMailbox.replies (soc.socMboxReg mboxLock) ⟨true, final⟩ =
      fun _ => soc.lockReply Device.scripted ⟨true, script⟩ := by
    funext count
    refine (Device.withLock_replies_held _ _ Device.scripted _ count).trans ?_
    rw [lockReply, Device.scripted_read, Device.scripted_read, lockWords]
  rw [← stream]
  exact ⟨polls, _, received, only⟩

/-- Reception succeeds exactly when a response is ready. -/
theorem receive_ok_iff :
    ((soc.receiveResp req resp).run soc.scriptedMailbox ⟨true, script⟩).result.result = .ok () ↔
      mailboxRespHeaderSize ≤ respLenBytes resp ∧ soc.EndsIn script .dataReady := by
  by_cases small : respLenBytes resp < mailboxRespHeaderSize
  · rw [soc.run_receive_tooSmall req resp script true small]
    exact iff_of_false nofun fun both => absurd small (BitVec.not_lt.mpr both.1)
  · have large : mailboxRespHeaderSize ≤ respLenBytes resp := BitVec.not_lt.mp small
    rcases soc.timeout_or_endsIn script with timeout | ⟨kind, ends⟩
    · rcases soc.run_receive_timeout req resp script true small timeout with
        ⟨polls, final, received, _⟩
      rw [received]
      exact iff_of_false nofun fun both => absurd timeout both.2.not_timeout
    · cases kind with
      | failure =>
          rcases soc.run_receive_failure req resp script true small ends with
            ⟨polls, reports, final, received, _, _⟩
          rw [received]
          exact iff_of_false nofun fun both => nomatch both.2.unique ends
      | complete =>
          rcases soc.run_receive_complete req resp script true small ends with
            ⟨polls, final, received, _⟩
          rw [received]
          exact iff_of_false nofun fun both => nomatch both.2.unique ends
      | unknown =>
          rcases soc.run_receive_unknown req resp script true small ends with
            ⟨polls, final, received, _⟩
          rw [received]
          exact iff_of_false nofun fun both => nomatch both.2.unique ends
      | dataReady =>
          rcases soc.run_receive_dataReady req resp script small ends with
            ⟨polls, final, received, _⟩
          rw [received]
          exact iff_of_true rfl ⟨large, ends⟩

/-! ## The whole call on a scripted device -/

/-- One call on the mailbox of a scripted device. -/
def execRun : Run Word Word (Device.Locked (Word → Nat → Word)) ExecOutcome :=
  (soc.execMailboxReqU32 cmd req resp).run soc.scriptedMailbox ⟨lock, script⟩

/-- On a free mailbox the call is the start of the request followed by the
reception of the response. -/
theorem execRun_free (accepted : RequestAccepted req) :
    soc.execRun cmd req resp script false =
      ((soc.receiveResp (preparedReq cmd req) resp).run soc.scriptedMailbox ⟨true, script⟩).after
        (soc.startTrace Device.scripted cmd req ⟨false, script⟩) := by
  have started := soc.run_exec_free Device.scripted cmd req resp ⟨false, script⟩ accepted rfl
  rw [Device.scripted_writeAll] at started
  exact started

/-- The device hands a response over: the request is started, the response
array has room for a header, and the wait ends with data. -/
def Delivered : Prop :=
  RequestAccepted req ∧ lock = false ∧ mailboxRespHeaderSize ≤ respLenBytes resp ∧
    soc.EndsIn script .dataReady

/-- The call succeeds exactly on the responses it is handed. -/
theorem exec_ok_iff :
    (soc.execRun cmd req resp script lock).result.result = .ok () ↔
      soc.Delivered req resp script lock := by
  by_cases accepted : RequestAccepted req
  · cases lock with
    | true =>
        rw [execRun, soc.run_exec_held Device.scripted cmd req resp ⟨true, script⟩ accepted rfl]
        exact iff_of_false nofun fun both => nomatch both.2.1
    | false =>
        rw [execRun_free _ _ _ _ _ accepted, Run.after_result, receive_ok_iff]
        exact ⟨fun ready => ⟨accepted, rfl, ready⟩, fun both => both.2.2⟩
  · rcases soc.run_exec_rejected Device.scripted cmd req resp ⟨lock, script⟩ accepted with
      ⟨outcome, rejected, failed⟩
    rw [execRun, rejected, failed]
    exact iff_of_false nofun fun both => absurd both.1 accepted

/-- A device that answers every read with DATA_READY, which also makes DLEN
eight bytes. -/
def readyScript : Word → Nat → Word := fun _ _ => mboxStatusDataReady

/-- A constant STATUS word that is not busy ends the wait at once. -/
theorem endsIn_constant {status : Word} (ready : statusBusy status = false) :
    soc.EndsIn (fun _ _ => status) (statusKind status) :=
  ⟨0, ⟨by decide, fun _ impossible => absurd impossible (Nat.not_lt_zero _), ready⟩, rfl⟩

theorem endsIn_readyScript : soc.EndsIn readyScript .dataReady :=
  soc.endsIn_constant (show statusBusy mboxStatusDataReady = false by decide)

theorem requestAccepted_header : RequestAccepted [0] := ⟨by decide, by decide⟩

theorem delivered_readyScript : soc.Delivered [0] [0, 0] readyScript false :=
  ⟨requestAccepted_header, rfl, by decide, soc.endsIn_readyScript⟩

end CaliptraSoC

end McuRom
