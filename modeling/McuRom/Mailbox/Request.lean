import McuRom.Mailbox.Session

namespace McuRom

open Mmio

/-!
# Starting a request

A request can be started in one call, or step by step with the lock re-read
before every word.  The two are compared here, and the effect of failed calls
on the lock is determined for every call of the mailbox interface.
-/

namespace CaliptraSoC

variable {σ : Type} (soc : CaliptraSoC) (inner : Device Word Word σ)

/-- The register writes of a complete request. -/
def requestWrites (cmd : Word) (lenBytes : SizeT) (data : List Word) : List (Word × Word) :=
  soc.mboxWrites
    ([(mboxCmd, cmd), (mboxDlen, lenBytes)] ++
      data.map (fun word => (mboxDatain, word)) ++ [(mboxExecute, 0x01)])

/-- Writes that never clear EXECUTE. -/
def KeepsLock (list : List (Word × Word)) : Prop :=
  ∀ entry ∈ list, entry.1 ≠ mboxExecute ∨ entry.2 ≠ 0

theorem KeepsLock.append {first second : List (Word × Word)} (left : KeepsLock first)
    (right : KeepsLock second) : KeepsLock (first ++ second) := by
  intro entry member
  rcases List.mem_append.mp member with inFirst | inSecond
  · exact left entry inFirst
  · exact right entry inSecond

theorem keepsLock_command (cmd : Word) (lenBytes : SizeT) :
    KeepsLock [(mboxCmd, cmd), (mboxDlen, lenBytes)] := by
  intro entry member
  simp only [List.mem_cons, List.not_mem_nil, or_false] at member
  rcases member with rfl | rfl
  · exact Or.inl (show mboxCmd ≠ mboxExecute by decide)
  · exact Or.inl (show mboxDlen ≠ mboxExecute by decide)

theorem keepsLock_data (data : List Word) :
    KeepsLock (data.map fun word => (mboxDatain, word)) := by
  intro entry member
  rcases List.mem_map.mp member with ⟨word, _, rfl⟩
  exact Or.inl (show mboxDatain ≠ mboxExecute by decide)

/-- The write to EXECUTE that starts a command is not a release. -/
theorem keepsLock_execute : KeepsLock [(mboxExecute, 0x01)] := by
  intro entry member
  rcases List.mem_singleton.mp member with rfl
  exact Or.inr (show (0x01 : Word) ≠ 0 by decide)

/-- Writes that never clear EXECUTE leave the lock as it is. -/
theorem mailbox_writeAll (state : Device.Locked σ) {list : List (Word × Word)}
    (keeps : KeepsLock list) :
    (soc.mailbox inner).writeAll state (soc.mboxWrites list) =
      { state with rest := inner.writeAll state.rest (soc.mboxWrites list) } := by
  apply Device.withLock_writeAll
  intro entry member
  rcases List.mem_map.mp member with ⟨original, inside, rfl⟩
  rcases keeps original inside with different | nonzero
  · exact Or.inl (soc.socMboxReg_ne different)
  · exact Or.inr nonzero

theorem lock_writeAll (state : Device.Locked σ) {list : List (Word × Word)}
    (keeps : KeepsLock list) :
    ((soc.mailbox inner).writeAll state (soc.mboxWrites list)).lock = state.lock := by
  rw [soc.mailbox_writeAll inner state keeps]

theorem mboxWrites_append (first second : List (Word × Word)) :
    soc.mboxWrites (first ++ second) = soc.mboxWrites first ++ soc.mboxWrites second :=
  List.map_append

/-- A request in its three parts. -/
theorem requestWrites_eq (cmd : Word) (lenBytes : SizeT) (data : List Word) :
    soc.requestWrites cmd lenBytes data =
      soc.mboxWrites [(mboxCmd, cmd), (mboxDlen, lenBytes)] ++
        soc.mboxWrites (data.map fun word => (mboxDatain, word)) ++
        soc.mboxWrites [(mboxExecute, 0x01)] := by
  rw [requestWrites, mboxWrites_append, mboxWrites_append]

/-- None of a request's writes releases the lock. -/
theorem mailbox_writeAll_request (state : Device.Locked σ) (cmd : Word) (lenBytes : SizeT)
    (data : List Word) :
    (soc.mailbox inner).writeAll state (soc.requestWrites cmd lenBytes data) =
      { state with rest := inner.writeAll state.rest (soc.requestWrites cmd lenBytes data) } :=
  soc.mailbox_writeAll inner state
    (((keepsLock_command cmd lenBytes).append (keepsLock_data data)).append keepsLock_execute)

/-! ## The call `start_mailbox_req` -/

theorem run_startMailboxReq_tooLong (cmd : Word) (lenBytes : SizeT) (data : List Word)
    (state : Device.Locked σ) (tooLong : mailboxSize < lenBytes) :
    (soc.startMailboxReq cmd lenBytes data).run (soc.mailbox inner) state =
      ⟨[], .error .mboxInvalidResponse, state⟩ := by
  rw [startMailboxReq, if_pos tooLong]
  rfl

theorem run_startMailboxReq_held (cmd : Word) (lenBytes : SizeT) (data : List Word)
    (state : Device.Locked σ) (fits : ¬ mailboxSize < lenBytes) (held : state.lock = true) :
    (soc.startMailboxReq cmd lenBytes data).run (soc.mailbox inner) state =
      ⟨[.read (soc.socMboxReg mboxLock) (soc.lockReply inner state)],
        .error .mboxLockFailed, state⟩ := by
  have locked := soc.run_lockMailbox inner state
  have same : { state with lock := true } = state := by rw [← held]
  rw [held, if_pos rfl, same] at locked
  rw [startMailboxReq, if_neg fits, Driver.run_andThen_error _ _ (congrArg Run.result locked),
    locked]

/-- The data loop and the final EXECUTE are one block of writes. -/
theorem writeDatain_execute (data : List Word) :
    (do
      soc.writeDatain data
      soc.writeSocMbox mboxExecute 0x01
      pure (.ok ()) : Driver (McuResult Unit)) =
      Program.writeAll (soc.mboxWrites
        (data.map (fun word => (mboxDatain, word)) ++ [(mboxExecute, 0x01)])) >>=
        fun _ => pure (.ok ()) := by
  rw [mboxWrites_append, Program.writeAll_append, Program.bind_assoc, writeDatain, mboxWrites,
    List.map_map]
  rfl

/-- On a free mailbox the request is written in one piece. -/
theorem run_startMailboxReq_free (cmd : Word) (lenBytes : SizeT) (data : List Word)
    (state : Device.Locked σ) (fits : ¬ mailboxSize < lenBytes) (free : state.lock = false) :
    (soc.startMailboxReq cmd lenBytes data).run (soc.mailbox inner) state =
      ⟨.read (soc.socMboxReg mboxLock) (soc.lockReply inner state) ::
          .read (soc.socMboxReg mboxLock) (soc.lockReply inner { state with lock := true }) ::
          Access.ofWrites (soc.requestWrites cmd lenBytes data),
        .ok (),
        { lock := true, rest := inner.writeAll state.rest (soc.requestWrites cmd lenBytes data) }⟩ := by
  have locked := soc.run_lockMailbox inner state
  rw [free, if_neg Bool.false_ne_true] at locked
  have commanded := soc.run_writeWhileLocked_held inner [(mboxCmd, cmd), (mboxDlen, lenBytes)]
    { state with lock := true } rfl
  have whole := soc.mailbox_writeAll_request inner { state with lock := true } cmd lenBytes data
  have split : soc.requestWrites cmd lenBytes data =
      soc.mboxWrites [(mboxCmd, cmd), (mboxDlen, lenBytes)] ++
        soc.mboxWrites (data.map (fun word => (mboxDatain, word)) ++ [(mboxExecute, 0x01)]) := by
    rw [requestWrites_eq, mboxWrites_append, List.append_assoc]
  rw [startMailboxReq, if_neg fits, Driver.run_andThen_ok _ _ (congrArg Run.result locked),
    locked, setCommand, Driver.run_andThen_ok _ _ (congrArg Run.result commanded), commanded,
    writeDatain_execute, Program.run_bind, Program.run_writeAll, ← Device.writeAll_append,
    ← split, whole, split, Access.ofWrites_append]
  simp

/-! ## The stepwise interface -/

theorem run_initiateRequest_tooLong (cmd : Word) (lenBytes : SizeT) (state : Device.Locked σ)
    (tooLong : mailboxSize < lenBytes) :
    (soc.initiateRequest cmd lenBytes).run (soc.mailbox inner) state =
      ⟨[], .error .mboxInvalidResponse, state⟩ := by
  rw [initiateRequest, if_pos tooLong]
  rfl

theorem run_initiateRequest_held (cmd : Word) (lenBytes : SizeT) (state : Device.Locked σ)
    (fits : ¬ mailboxSize < lenBytes) (held : state.lock = true) :
    (soc.initiateRequest cmd lenBytes).run (soc.mailbox inner) state =
      ⟨[.read (soc.socMboxReg mboxLock) (soc.lockReply inner state)],
        .error .mboxLockFailed, state⟩ := by
  have locked := soc.run_lockMailbox inner state
  have same : { state with lock := true } = state := by rw [← held]
  rw [held, if_pos rfl, same] at locked
  rw [initiateRequest, if_neg fits, Driver.run_andThen_error _ _ (congrArg Run.result locked),
    locked]

theorem run_initiateRequest_free (cmd : Word) (lenBytes : SizeT) (state : Device.Locked σ)
    (fits : ¬ mailboxSize < lenBytes) (free : state.lock = false) :
    (soc.initiateRequest cmd lenBytes).run (soc.mailbox inner) state =
      ⟨.read (soc.socMboxReg mboxLock) (soc.lockReply inner state) ::
          .read (soc.socMboxReg mboxLock) (soc.lockReply inner { state with lock := true }) ::
          Access.ofWrites (soc.mboxWrites [(mboxCmd, cmd), (mboxDlen, lenBytes)]),
        .ok (),
        (soc.mailbox inner).writeAll { state with lock := true }
          (soc.mboxWrites [(mboxCmd, cmd), (mboxDlen, lenBytes)])⟩ := by
  have locked := soc.run_lockMailbox inner state
  rw [free, if_neg Bool.false_ne_true] at locked
  have commanded := soc.run_writeWhileLocked_held inner [(mboxCmd, cmd), (mboxDlen, lenBytes)]
    { state with lock := true } rfl
  rw [initiateRequest, if_neg fits, Driver.run_andThen_ok _ _ (congrArg Run.result locked),
    locked, setCommand, commanded]
  rfl

/-- `write_data(d)` for each word, stopping at the first error. -/
def writeEach : List Word → Driver (McuResult Unit)
  | [] => pure (.ok ())
  | word :: rest => Driver.andThen (soc.writeData word) fun () => writeEach rest

/-- A client of the stepwise interface: initiate, write every word, execute,
stopping at the first error. -/
def stepwiseReq (cmd : Word) (lenBytes : SizeT) (data : List Word) : Driver (McuResult Unit) :=
  Driver.andThen (soc.initiateRequest cmd lenBytes) fun () =>
  Driver.andThen (soc.writeEach data) fun () =>
  soc.executeCommand

/-- While the lock is held no word can be refused, and the extra LOCK reads
change nothing.  The induction is on the words; the lock-held invariant is
carried by `mailbox_writeAll`, because no data word goes to EXECUTE. -/
theorem run_writeEach (data : List Word) (state : Device.Locked σ) (held : state.lock = true) :
    ∃ trace, (soc.writeEach data).run (soc.mailbox inner) state =
        ⟨trace, .ok (), (soc.mailbox inner).writeAll state
          (soc.mboxWrites (data.map fun word => (mboxDatain, word)))⟩ ∧
      Access.writes trace = soc.mboxWrites (data.map fun word => (mboxDatain, word)) := by
  induction data generalizing state with
  | nil => exact ⟨[], rfl, rfl⟩
  | cons word rest ih =>
      have written := soc.run_writeWhileLocked_held inner [(mboxDatain, word)] state held
      have stillHeld : ((soc.mailbox inner).writeAll state
          (soc.mboxWrites [(mboxDatain, word)])).lock = true :=
        (soc.lock_writeAll inner state (keepsLock_data [word])).trans held
      rcases ih _ stillHeld with ⟨trace, later, laterWrites⟩
      refine ⟨.read (soc.socMboxReg mboxLock) (soc.lockReply inner state) ::
        Access.ofWrites (soc.mboxWrites [(mboxDatain, word)]) ++ trace, ?_, ?_⟩
      · rw [writeEach, writeData, Driver.run_andThen_ok _ _ (congrArg Run.result written),
          written, later, ← Device.writeAll_append]
        rfl
      · rw [Access.writes_append, laterWrites, Access.writes_read, Access.writes_ofWrites]
        rfl

/-- One-shot and stepwise requests agree: same result, same register writes,
same final mailbox, lock included.  Once the request is initiated, neither a
data word nor the execute call can fail. -/
theorem startMailboxReq_eq_stepwiseReq (cmd : Word) (lenBytes : SizeT) (data : List Word)
    (state : Device.Locked σ) :
    ((soc.stepwiseReq cmd lenBytes data).run (soc.mailbox inner) state).result =
        ((soc.startMailboxReq cmd lenBytes data).run (soc.mailbox inner) state).result ∧
      Access.writes ((soc.stepwiseReq cmd lenBytes data).run (soc.mailbox inner) state).trace =
        Access.writes
          ((soc.startMailboxReq cmd lenBytes data).run (soc.mailbox inner) state).trace ∧
      ((soc.stepwiseReq cmd lenBytes data).run (soc.mailbox inner) state).state =
        ((soc.startMailboxReq cmd lenBytes data).run (soc.mailbox inner) state).state ∧
      (((soc.initiateRequest cmd lenBytes).run (soc.mailbox inner) state).result = .ok () →
        ((soc.stepwiseReq cmd lenBytes data).run (soc.mailbox inner) state).result = .ok ()) := by
  by_cases tooLong : mailboxSize < lenBytes
  · have initiated := soc.run_initiateRequest_tooLong inner cmd lenBytes state tooLong
    rw [stepwiseReq, Driver.run_andThen_error _ _ (congrArg Run.result initiated), initiated,
      soc.run_startMailboxReq_tooLong inner cmd lenBytes data state tooLong]
    exact ⟨rfl, rfl, rfl, fun impossible => by cases impossible⟩
  · cases lock : state.lock with
    | true =>
        have initiated := soc.run_initiateRequest_held inner cmd lenBytes state tooLong lock
        rw [stepwiseReq, Driver.run_andThen_error _ _ (congrArg Run.result initiated), initiated,
          soc.run_startMailboxReq_held inner cmd lenBytes data state tooLong lock]
        exact ⟨rfl, rfl, rfl, fun impossible => by cases impossible⟩
    | false =>
        have initiated := soc.run_initiateRequest_free inner cmd lenBytes state tooLong lock
        let held : Device.Locked σ := { state with lock := true }
        have commandHeld := soc.lock_writeAll inner held (keepsLock_command cmd lenBytes)
        rcases soc.run_writeEach inner data _ commandHeld with ⟨trace, words, wordWrites⟩
        have dataHeld := (soc.lock_writeAll inner _ (keepsLock_data data)).trans commandHeld
        have executed := soc.run_writeWhileLocked_held inner [(mboxExecute, 0x01)] _ dataHeld
        have whole := soc.mailbox_writeAll_request inner held cmd lenBytes data
        rw [requestWrites_eq, Device.writeAll_append, Device.writeAll_append] at whole
        rw [stepwiseReq, Driver.run_andThen_ok _ _ (congrArg Run.result initiated), initiated,
          Driver.run_andThen_ok _ _ (congrArg Run.result words), words, executeCommand, executed,
          soc.run_startMailboxReq_free inner cmd lenBytes data state tooLong lock,
          requestWrites_eq]
        refine ⟨rfl, ?_, whole, fun _ => rfl⟩
        simp only [Run.after_trace, Access.writes_append, Access.writes_read,
          Access.writes_ofWrites, wordWrites, List.append_assoc]

end CaliptraSoC

end McuRom
