import McuRom.Mailbox.Checksum
import McuRom.Mailbox.Exec
import McuRom.Rom.RomEnv

namespace McuRom

open Mmio

/-!
# The encoding of requests

What the device sees of a request before the client starts polling is fixed by
the command and by the words behind the header: the header word is replaced by
the one checksum that completes the message.  A caller's buffer is changed in
the process, but only in its header, so a second attempt sends the same words.
-/

namespace CaliptraSoC

/-! ## The prepared buffer -/

theorem requestAccepted_of_length {req : List Word} (nonempty : 1 ≤ req.length)
    (fits : 4 * req.length ≤ mailboxSize.toNat) : RequestAccepted req := by
  have bound : 4 * req.length ≤ 262144 := fits
  have bytes := sizeT_mul_four_toNat (show req.length < 2 ^ 30 by omega)
  constructor
  · rw [BitVec.le_def, bytes]
    change 4 ≤ _
    omega
  · rw [BitVec.le_def, bytes]
    exact fits

/-- An empty request is rejected, and so is one that is too long for the
mailbox but fits the address space. -/
theorem not_requestAccepted_of_length {req : List Word}
    (outside : req.length = 0 ∨ mailboxSize.toNat < 4 * req.length ∧ req.length < 2 ^ 30) :
    ¬ RequestAccepted req := by
  rintro ⟨long, fits⟩
  rcases outside with empty | ⟨tooLong, inSpace⟩
  · rw [empty] at long
    exact absurd long (by decide)
  · rw [BitVec.le_def, sizeT_mul_four_toNat inSpace] at fits
    omega

/-- Storing the checksum replaces the header and nothing else. -/
theorem preparedReq_eq (cmd : Word) {req : List Word} (nonempty : 1 ≤ req.length)
    (fits : 4 * req.length ≤ mailboxSize.toNat) :
    preparedReq cmd req = calcChecksum cmd (arrayBytes req.tail) :: req.tail := by
  have bound : 4 * req.length ≤ 262144 := fits
  have bytes := sizeT_mul_four_toNat (show req.length < 2 ^ 30 by omega)
  cases req with
  | nil => cases nonempty
  | cons header tail =>
      have header_le : mailboxReqHeaderSize ≤ sizeT (header :: tail).length * 4 :=
        (requestAccepted_of_length nonempty fits).1
      have length : (sizeT (header :: tail).length * 4 - mailboxReqHeaderSize).toNat =
          (arrayBytes tail).length := by
        rw [BitVec.toNat_sub_of_le header_le, bytes, arrayBytes_length, List.length_cons]
        change 4 * (tail.length + 1) - 4 = 4 * tail.length
        omega
      have payload : (arrayBytes (header :: tail)).drop mailboxReqHeaderSize.toNat =
          arrayBytes tail := rfl
      rw [preparedReq, length, payload, List.take_length]
      rfl

/-! ## The accesses before the first poll -/

variable {σ : Type} (soc : CaliptraSoC) (inner : Device Word Word σ)

/-- An access to another register than STATUS. -/
def notStatus (access : Access Word Word) : Bool := access.addr != soc.socMboxReg mboxStatus

/-- The register writes a client makes before it first reads STATUS. -/
def writesBeforePolling (trace : List (Access Word Word)) : List (Word × Word) :=
  Access.writes (trace.takeWhile soc.notStatus)

/-- The accesses from the first STATUS read on. -/
def fromPolling (trace : List (Access Word Word)) : List (Access Word Word) :=
  trace.dropWhile soc.notStatus

/-- Receiving either fails at once or begins by polling. -/
theorem receive_begins_with_status (dev : Device Word Word σ) (req resp : List Word) (state : σ) :
    ((soc.receiveResp req resp).run dev state).trace = [] ∨
      ∃ value rest, ((soc.receiveResp req resp).run dev state).trace =
        .read (soc.socMboxReg mboxStatus) value :: rest := by
  by_cases small : respLenBytes resp < mailboxRespHeaderSize
  · rw [soc.run_receiveResp_error dev req resp
      (soc.run_finishMailboxResp_tooSmall dev (Or.inl small))]
    exact Or.inl rfl
  · right
    rw [respLenBytes] at small
    rw [receiveResp, finishMailboxResp, if_neg small, if_neg small, pollWhile]
    exact ⟨_, _, rfl⟩

/-- The accesses of a started request never touch STATUS. -/
theorem startTrace_ne_status (cmd : Word) (req : List Word) (state : Device.Locked σ) :
    ∀ access ∈ soc.startTrace inner cmd req state, access.addr ≠ soc.socMboxReg mboxStatus := by
  intro access member
  rcases List.mem_cons.mp member with rfl | later
  · exact soc.socMboxReg_ne (show mboxLock ≠ mboxStatus by decide)
  rcases List.mem_cons.mp later with rfl | inWrites
  · exact soc.socMboxReg_ne (show mboxLock ≠ mboxStatus by decide)
  rcases Access.mem_ofWrites.mp inWrites with ⟨addr, value, inRequest, rfl⟩
  rcases List.mem_map.mp inRequest with ⟨entry, inList, same⟩
  have entryNe : entry.1 ≠ mboxStatus := by
    simp only [List.mem_append, List.mem_cons, List.mem_map, List.not_mem_nil, or_false] at inList
    rcases inList with ((rfl | rfl) | ⟨word, _, rfl⟩) | rfl
    · exact show mboxCmd ≠ mboxStatus by decide
    · exact show mboxDlen ≠ mboxStatus by decide
    · exact show mboxDatain ≠ mboxStatus by decide
    · exact show mboxExecute ≠ mboxStatus by decide
  cases same
  exact soc.socMboxReg_ne entryNe

/-- The first STATUS read separates the two halves of a call. -/
theorem span_started (cmd : Word) (req : List Word) (state : Device.Locked σ)
    (dev : Device Word Word (Device.Locked σ)) (prepared resp : List Word)
    (later : Device.Locked σ) :
    (soc.startTrace inner cmd req state ++
        ((soc.receiveResp prepared resp).run dev later).trace).span soc.notStatus =
      (soc.startTrace inner cmd req state,
        ((soc.receiveResp prepared resp).run dev later).trace) := by
  have start : ∀ access ∈ soc.startTrace inner cmd req state, soc.notStatus access = true :=
    fun access member => bne_iff_ne.mpr (soc.startTrace_ne_status inner cmd req state access member)
  rw [List.span_eq_takeWhile_dropWhile, List.takeWhile_append_of_pos start,
    List.dropWhile_append_of_pos start]
  rcases soc.receive_begins_with_status dev prepared resp later with empty | ⟨value, rest, polls⟩
  · rw [empty, List.takeWhile_nil, List.dropWhile_nil, List.append_nil]
  · have stops : ¬ soc.notStatus (.read (soc.socMboxReg mboxStatus) value) = true := by
      simp [notStatus, Access.addr]
    rw [polls, List.takeWhile_cons_of_neg stops, List.dropWhile_cons_of_neg stops, List.append_nil]

theorem writesBeforePolling_started (cmd : Word) (req : List Word) (state : Device.Locked σ)
    (dev : Device Word Word (Device.Locked σ)) (prepared resp : List Word)
    (later : Device.Locked σ) :
    soc.writesBeforePolling (soc.startTrace inner cmd req state ++
        ((soc.receiveResp prepared resp).run dev later).trace) =
      soc.requestWrites cmd (sizeT req.length * 4) (preparedReq cmd req) := by
  have halves := soc.span_started inner cmd req state dev prepared resp later
  rw [List.span_eq_takeWhile_dropWhile] at halves
  rw [writesBeforePolling, (Prod.mk.inj halves).1]
  simp only [startTrace, Access.writes_read, Access.writes_ofWrites]

theorem fromPolling_started (cmd : Word) (req : List Word) (state : Device.Locked σ)
    (dev : Device Word Word (Device.Locked σ)) (prepared resp : List Word)
    (later : Device.Locked σ) :
    soc.fromPolling (soc.startTrace inner cmd req state ++
        ((soc.receiveResp prepared resp).run dev later).trace) =
      ((soc.receiveResp prepared resp).run dev later).trace := by
  have halves := soc.span_started inner cmd req state dev prepared resp later
  rw [List.span_eq_takeWhile_dropWhile] at halves
  exact (Prod.mk.inj halves).2

/-- Receiving leaves the request buffer as it was. -/
theorem receiveResp_req (dev : Device Word Word σ) (req resp : List Word) (state : σ) :
    ((soc.receiveResp req resp).run dev state).result.req = req := by
  rw [receiveResp, Program.run_bind, Run.after_result]
  split
  · rfl
  · rfl
  · simp only [CaliptraMailboxResponse.moveConstruct, Program.run_bind, Run.after_result]
    rfl

/-- What a client that obtains the lock has written when it starts polling. -/
theorem writesBeforePolling_exec (cmd : Word) {req : List Word} (resp : List Word)
    (state : Device.Locked σ) (nonempty : 1 ≤ req.length)
    (fits : 4 * req.length ≤ mailboxSize.toNat)
    (acquired : soc.Acquired
      ((soc.execMailboxReqU32 cmd req resp).run (soc.mailbox inner) state).trace) :
    soc.writesBeforePolling
        ((soc.execMailboxReqU32 cmd req resp).run (soc.mailbox inner) state).trace =
      soc.requestWrites cmd (BitVec.ofNat 32 (4 * req.length))
        (calcChecksum cmd (arrayBytes req.tail) :: req.tail) := by
  have accepted := requestAccepted_of_length nonempty fits
  have length : sizeT req.length * 4 = BitVec.ofNat 32 (4 * req.length) := by
    apply BitVec.eq_of_toNat_eq
    have bound : 4 * req.length ≤ 262144 := fits
    rw [sizeT_mul_four_toNat (by omega), BitVec.toNat_ofNat, Nat.mod_eq_of_lt (by omega)]
  cases lock : state.lock with
  | true =>
      rw [soc.run_exec_held inner cmd req resp state accepted lock] at acquired
      exact absurd acquired (soc.not_acquired_of_held inner state lock)
  | false =>
      rw [soc.run_exec_free inner cmd req resp state accepted lock, Run.after_trace,
        writesBeforePolling_started, preparedReq_eq cmd nonempty fits, length]

/-- The caller's buffer after a call: its header is the checksum, whatever
became of the request. -/
theorem exec_req (cmd : Word) {req : List Word} (resp : List Word) (state : Device.Locked σ)
    (nonempty : 1 ≤ req.length) (fits : 4 * req.length ≤ mailboxSize.toNat) :
    ((soc.execMailboxReqU32 cmd req resp).run (soc.mailbox inner) state).result.req =
      calcChecksum cmd (arrayBytes req.tail) :: req.tail := by
  have accepted := requestAccepted_of_length nonempty fits
  rw [← preparedReq_eq cmd nonempty fits]
  cases lock : state.lock with
  | true => rw [soc.run_exec_held inner cmd req resp state accepted lock]
  | false =>
      rw [soc.run_exec_free inner cmd req resp state accepted lock, Run.after_result,
        receiveResp_req]

/-- Every request of acceptable length is written as command, length, the
unique header that completes the message, the caller's remaining words, and
the start of the command; a retry with the buffer the first call left writes
the same.  Any other request fails without an access. -/
theorem exec_request_encoding (cmd : Word) (req resp : List Word) (state : Device.Locked σ) :
    (1 ≤ req.length → 4 * req.length ≤ mailboxSize.toNat →
      ∃ checksum,
        (∀ word, word + byteSum (wordBytes cmd) + byteSum (arrayBytes req.tail) = 0 ↔
          word = checksum) ∧
        (soc.Acquired
            ((soc.execMailboxReqU32 cmd req resp).run (soc.mailbox inner) state).trace →
          soc.writesBeforePolling
              ((soc.execMailboxReqU32 cmd req resp).run (soc.mailbox inner) state).trace =
            soc.requestWrites cmd (BitVec.ofNat 32 (4 * req.length)) (checksum :: req.tail)) ∧
        ∀ (later : Device.Locked σ) (retryResp : List Word),
          soc.Acquired ((soc.execMailboxReqU32 cmd
              ((soc.execMailboxReqU32 cmd req resp).run (soc.mailbox inner) state).result.req
              retryResp).run (soc.mailbox inner) later).trace →
            soc.writesBeforePolling ((soc.execMailboxReqU32 cmd
                ((soc.execMailboxReqU32 cmd req resp).run (soc.mailbox inner) state).result.req
                retryResp).run (soc.mailbox inner) later).trace =
              soc.requestWrites cmd (BitVec.ofNat 32 (4 * req.length)) (checksum :: req.tail)) ∧
      (req.length = 0 ∨ mailboxSize.toNat < 4 * req.length ∧ req.length < 2 ^ 30 →
        ((soc.execMailboxReqU32 cmd req resp).run (soc.mailbox inner) state).result.result =
            .error .mboxInvalidResponse ∧
          ((soc.execMailboxReqU32 cmd req resp).run (soc.mailbox inner) state).trace = []) := by
  constructor
  · intro nonempty fits
    refine ⟨calcChecksum cmd (arrayBytes req.tail), fun word => eq_calcChecksum_iff word cmd _,
      soc.writesBeforePolling_exec inner cmd resp state nonempty fits, ?_⟩
    rw [soc.exec_req inner cmd resp state nonempty fits]
    intro later retryResp acquired
    have same : (calcChecksum cmd (arrayBytes req.tail) :: req.tail).length = req.length := by
      rw [List.length_cons, List.length_tail]
      omega
    have retried := soc.writesBeforePolling_exec inner cmd retryResp later
      (by rw [same]; exact nonempty) (by rw [same]; exact fits) acquired
    rw [same] at retried
    exact retried
  · intro outside
    rcases soc.run_exec_rejected inner cmd req resp state
      (not_requestAccepted_of_length outside) with ⟨outcome, rejected, failed⟩
    rw [rejected]
    exact ⟨failed, rfl⟩

/-- Command `0x01020304` with one payload word `5`: the stale header word is
replaced by `-15`. -/
theorem exec_request_encoding_word :
    let soc := romEnv.socManager
    soc.writesBeforePolling (soc.execRun 0x01020304 [0xDEADBEEF, 5] [] readyScript false).trace =
      [(soc.socMboxReg mboxCmd, 0x01020304), (soc.socMboxReg mboxDlen, 8),
        (soc.socMboxReg mboxDatain, -15), (soc.socMboxReg mboxDatain, 5),
        (soc.socMboxReg mboxExecute, 1)] := by
  rcases (exec_request_encoding romEnv.socManager Device.scripted 0x01020304 [0xDEADBEEF, 5] []
    ⟨false, readyScript⟩).1 (by decide) (by decide) with ⟨checksum, unique, writes, _⟩
  have value : -15 = checksum := (unique (-15)).mp (by decide)
  have accepted : RequestAccepted [0xDEADBEEF, 5] := ⟨by decide, by decide⟩
  have acquired : romEnv.socManager.Acquired
      (romEnv.socManager.execRun 0x01020304 [0xDEADBEEF, 5] [] readyScript false).trace := by
    rw [execRun_free _ _ _ _ _ accepted]
    exact romEnv.socManager.acquired_startTrace Device.scripted _ _ ⟨false, readyScript⟩ rfl _
  have written := writes acquired
  rw [← value] at written
  exact written

end CaliptraSoC

end McuRom
