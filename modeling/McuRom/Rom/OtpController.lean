import McuRom.Rom.OtpDiscipline

namespace McuRom

open Mmio

/-!
# A direct access controller

The controller has four registers in front of an array of OTP words.  A
command takes the address and the data that are presented when it is written.
The controller is then busy for some number of STATUS reads, possibly for
ever, and carries the command out at the read that finds it idle again: a
write stores its data, a read loads its word, and a command that fails does
neither.  The error bit is that of the last command carried out.

How long each command takes and whether it fails is a plan, fixed in advance
and arbitrary.  The controller may start with a command of an earlier call
still in flight.
-/

/-- What happens to a command: the STATUS reads that find the controller busy
with it, none if it never returns to idle, and whether it fails. -/
structure OtpOutcome where
  busyReads : Option Nat
  fails : Bool
deriving DecidableEq, Repr

/-- A command in flight, with what was presented to it. -/
structure OtpCommand where
  cmd : Word
  address : Word
  wdata : Word
  outcome : OtpOutcome
deriving DecidableEq, Repr

/-- The state of the controller. -/
structure OtpController where
  words : Word → Word
  address : Word
  wdata : Word
  rdata : Word
  error : Bool
  inFlight : Option OtpCommand
  plan : Nat → OtpOutcome

namespace OtpController

/-- The STATUS word. -/
def statusWord (idle error : Bool) : Word :=
  (if idle then Otp.statusIdle else 0) ||| (if error then Otp.statusError else 0)

/-- Carry a command out. -/
def complete (state : OtpController) (command : OtpCommand) : OtpController :=
  { state with
    inFlight := none
    error := command.outcome.fails
    words :=
      if command.cmd = Otp.cmdWrite ∧ command.outcome.fails = false then
        Function.update state.words command.address command.wdata
      else state.words
    rdata :=
      if command.cmd = Otp.cmdRead ∧ command.outcome.fails = false then
        state.words command.address
      else state.rdata }

/-- The controller once the command in flight is through. -/
def settled (state : OtpController) : OtpController :=
  match state.inFlight with
  | none => state
  | some command => state.complete command

/-- Read STATUS. -/
def pollStatus (state : OtpController) : Word × OtpController :=
  match state.inFlight with
  | none => (statusWord true state.error, state)
  | some command =>
    match command.outcome.busyReads with
    | none => (statusWord false state.error, state)
    | some 0 => (statusWord true command.outcome.fails, state.complete command)
    | some (count + 1) =>
      (statusWord false state.error,
        { state with
          inFlight := some { command with
            outcome := { command.outcome with busyReads := some count } } })

/-- Write the command register.  A controller that is busy ignores it. -/
def issue (state : OtpController) (cmd : Word) : OtpController :=
  match state.inFlight with
  | some _ => state
  | none =>
    { state with
      inFlight := some ⟨cmd, state.address, state.wdata, state.plan 0⟩
      plan := fun later => state.plan (later + 1) }

/-- The registers of the driver's controller. -/
def device (otp : Otp) : Device Word Word OtpController where
  read state reg :=
    if reg = otp.reg Otp.regStatus then state.pollStatus
    else if reg = otp.reg Otp.regDirectAccessRdata0 then (state.rdata, state)
    else (0, state)
  write state reg value :=
    if reg = otp.reg Otp.regDirectAccessAddr then { state with address := value }
    else if reg = otp.reg Otp.regDirectAccessWdata0 then { state with wdata := value }
    else if reg = otp.reg Otp.regDirectAccessCmd then state.issue value
    else state

/-! ## Waiting for the command in flight -/

@[simp] theorem statusNotIdle_statusWord (idle error : Bool) :
    Otp.statusNotIdle (statusWord idle error) = !idle := by
  cases idle <;> cases error <;> rfl

@[simp] theorem statusHasError_statusWord (idle error : Bool) :
    Otp.statusHasError (statusWord idle error) = error := by
  cases idle <;> cases error <;> rfl

variable (otp : Otp) {state : OtpController}

theorem read_status (state : OtpController) :
    (device otp).read state (otp.reg Otp.regStatus) = state.pollStatus :=
  if_pos rfl

@[simp] theorem settled_inFlight (state : OtpController) : state.settled.inFlight = none := by
  unfold settled
  split
  · assumption
  · rfl

theorem settled_of_idle (idle : state.inFlight = none) : state.settled = state := by
  unfold settled
  rw [idle]

theorem pollStatus_of_idle (idle : state.inFlight = none) :
    state.pollStatus = (statusWord true state.error, state) := by
  unfold pollStatus
  rw [idle]

/-- Every STATUS read either finds the controller busy, with the OTP words and
the command in flight as they were, or finds the command through. -/
theorem pollStatus_cases (state : OtpController) :
    (Otp.statusNotIdle state.pollStatus.1 = true ∧ state.pollStatus.2.words = state.words ∧
        state.pollStatus.2.settled = state.settled) ∨
      state.pollStatus = (statusWord true state.settled.error, state.settled) := by
  rcases state with ⟨words, address, wdata, rdata, error, inFlight, plan⟩
  cases inFlight with
  | none => exact Or.inr rfl
  | some command =>
      rcases command with ⟨cmd, target, data, busyReads, fails⟩
      rcases busyReads with _ | _ | count
      · exact Or.inl ⟨statusNotIdle_statusWord false error, rfl, rfl⟩
      · exact Or.inr rfl
      · exact Or.inl ⟨statusNotIdle_statusWord false error, rfl, rfl⟩

/-- While the controller is busy, reading STATUS changes neither the OTP words
nor what the command in flight will do. -/
theorem afterWait_busy (count : Nat)
    (busy : BusyFor Otp.statusNotIdle ((device otp).replies (otp.reg Otp.regStatus) state) count) :
    (otp.afterWait (device otp) state count).words = state.words ∧
      (otp.afterWait (device otp) state count).settled = state.settled := by
  induction count generalizing state with
  | zero => exact ⟨rfl, rfl⟩
  | succ count ih =>
      have first := busy 0 (Nat.succ_pos count)
      simp only [Device.replies, read_status] at first
      rcases state.pollStatus_cases with ⟨_, words, settled⟩ | through
      · have rest : BusyFor Otp.statusNotIdle
            ((device otp).replies (otp.reg Otp.regStatus) state.pollStatus.2) count := by
          intro index bound
          have next := busy (index + 1) (Nat.succ_lt_succ bound)
          simpa only [Device.replies, read_status] using next
        have later := ih rest
        simp only [Otp.afterWait, Device.afterReads, read_status] at later ⊢
        exact ⟨later.1.trans words, later.2.trans settled⟩
      · rw [through] at first
        simp at first

/-- A wait that succeeds ends with the command through. -/
theorem afterWait_idle {count : Nat} (idle : otp.IdleAt (device otp) state count) :
    otp.afterWait (device otp) state (count + 1) = state.settled := by
  have before := afterWait_busy otp count idle.2.1
  have last := idle.2.2
  rw [Device.replies_eq_read, read_status] at last
  rw [Otp.afterWait, Device.afterReads_succ, read_status]
  rw [Otp.afterWait] at before
  rcases ((device otp).afterReads (otp.reg Otp.regStatus) state count).pollStatus_cases with
    ⟨busy, _, _⟩ | through
  · rw [busy] at last
    cases last
  · rw [through]
    exact before.2

/-- The STATUS word behind a wait shows the error bit of the last command. -/
theorem finalStatus_idle {count : Nat} (idle : otp.IdleAt (device otp) state count) :
    Otp.statusHasError (otp.finalStatus (device otp) state count) = state.settled.error ∧
      otp.afterWait (device otp) state (count + 2) = state.settled := by
  have waited := afterWait_idle otp idle
  rw [Otp.afterWait] at waited
  have quiet := pollStatus_of_idle state.settled_inFlight
  constructor
  · rw [Otp.finalStatus, Device.replies_eq_read, waited, read_status, quiet,
      statusHasError_statusWord]
  · rw [Otp.afterWait, Device.afterReads_succ, waited, read_status, quiet]

/-! ## One word -/

/-- The OTP words as a call finds them: an earlier call's command may still be
in flight, or may have landed. -/
def Found (state : OtpController) (words : Word → Word) : Prop :=
  words = state.words ∨ words = state.settled.words

theorem found_iff_of_idle (idle : state.inFlight = none) (words : Word → Word) :
    state.Found words ↔ words = state.words := by
  rw [Found, settled_of_idle idle, or_self]

/-- Present an address and write the read command. -/
def startRead (state : OtpController) (addr : Word) : OtpController :=
  { state with address := addr }.issue Otp.cmdRead

/-- Present an address and a word and write the write command. -/
def startWrite (state : OtpController) (addr value : Word) : OtpController :=
  { state with address := addr, wdata := value }.issue Otp.cmdWrite

theorem write_address (state : OtpController) (addr : Word) :
    (device otp).write state (otp.reg Otp.regDirectAccessAddr) addr =
      { state with address := addr } :=
  if_pos rfl

theorem write_wdata (state : OtpController) (value : Word) :
    (device otp).write state (otp.reg Otp.regDirectAccessWdata0) value =
      { state with wdata := value } :=
  (if_neg (Otp.reg_ne (by decide))).trans (if_pos rfl)

theorem write_command (state : OtpController) (cmd : Word) :
    (device otp).write state (otp.reg Otp.regDirectAccessCmd) cmd = state.issue cmd :=
  (if_neg (Otp.reg_ne (by decide))).trans
    ((if_neg (Otp.reg_ne (by decide))).trans (if_pos rfl))

theorem read_rdata (state : OtpController) :
    (device otp).read state (otp.reg Otp.regDirectAccessRdata0) = (state.rdata, state) :=
  (if_neg (Otp.reg_ne (by decide))).trans (if_pos rfl)

theorem writeAll_readWrites (addr : Word) :
    (device otp).writeAll state (otp.readWrites addr) = state.startRead addr := by
  rw [Otp.readWrites, Device.writeAll_cons, Device.writeAll_cons, Device.writeAll_nil,
    write_address, write_command]
  rfl

theorem writeAll_writeWrites (addr value : Word) :
    (device otp).writeAll state (otp.writeWrites addr value) = state.startWrite addr value := by
  rw [Otp.writeWrites, Device.writeAll_cons, Device.writeAll_cons, Device.writeAll_cons,
    Device.writeAll_nil, write_address, write_wdata, write_command]
  rfl

/-- What a read command does once it is through. -/
theorem settled_startRead (idle : state.inFlight = none) (addr : Word) :
    (state.startRead addr).words = state.words ∧
      (state.startRead addr).settled.words = state.words ∧
      (state.startRead addr).settled.error = (state.plan 0).fails ∧
      ((state.plan 0).fails = false →
        (state.startRead addr).settled.rdata = state.words addr) := by
  rcases state with ⟨words, address, wdata, rdata, error, inFlight, plan⟩
  cases idle
  refine ⟨rfl, rfl, rfl, fun succeeds => ?_⟩
  exact if_pos ⟨rfl, succeeds⟩

/-- What a write command does once it is through. -/
theorem settled_startWrite (idle : state.inFlight = none) (addr value : Word) :
    (state.startWrite addr value).words = state.words ∧
      (state.startWrite addr value).settled.error = (state.plan 0).fails ∧
      (state.startWrite addr value).settled.words =
        if (state.plan 0).fails then state.words else Function.update state.words addr value := by
  rcases state with ⟨words, address, wdata, rdata, error, inFlight, plan⟩
  cases idle
  refine ⟨rfl, rfl, ?_⟩
  cases outcome : (plan 0).fails with
  | true => exact if_neg fun both => by rw [outcome] at both; cases both.2
  | false => exact if_pos ⟨rfl, outcome⟩

section Transfer

variable {otp} {α : Type} {list : List (Word × Word)} {failure : McuError}
  {finish : Driver (McuResult α)} {next : OtpController}

/-- A transfer that finds the controller idle, and idle again after its
register writes, goes on with the command through. -/
theorem run_transfer_settled {first second : Nat} (idle : otp.IdleAt (device otp) state first)
    (leads : (device otp).writeAll state.settled list = next)
    (again : otp.IdleAt (device otp) next second) :
    ∃ trace, (otp.transfer list failure finish).run (device otp) state =
      ((if next.settled.error then pure (.error failure) else finish :
        Driver (McuResult α)).run (device otp) next.settled).after trace := by
  have commanded : otp.commanded (device otp) list state first = next := by
    rw [Otp.commanded, afterWait_idle otp idle, leads]
  have status := finalStatus_idle otp again
  rw [otp.run_transfer_idle (device otp) _ _ _ idle (commanded ▸ again), commanded, status.1,
    status.2]
  exact ⟨_, rfl⟩

variable (list failure finish)

/-- A transfer whose register writes lead to `next` either fails, before its
command, while it is in flight or by the error bit, or goes on from there. -/
theorem transfer_outcome (leads : (device otp).writeAll state.settled list = next) :
    let run := (otp.transfer list failure finish).run (device otp) state
    (∃ e, run.result = .error e ∧
        (run.state.words = state.words ∨ run.state.words = next.words ∨
          next.settled.error = true ∧ run.state.words = next.settled.words)) ∨
      (next.settled.error = false ∧
        run.result = (finish.run (device otp) next.settled).result ∧
        run.state = (finish.run (device otp) next.settled).state) := by
  intro run
  have equation : run = (otp.transfer list failure finish).run (device otp) state := rfl
  rcases otp.neverIdle_or_idleAt (device otp) state with busy | ⟨first, idle⟩
  · rw [otp.run_transfer_notIdle (device otp) _ _ _ busy] at equation
    rw [equation]
    exact Or.inl ⟨.timeout, rfl, Or.inl (afterWait_busy otp _ busy).1⟩
  rcases otp.neverIdle_or_idleAt (device otp) next with busy | ⟨second, again⟩
  · have commanded : otp.commanded (device otp) list state first = next := by
      rw [Otp.commanded, afterWait_idle otp idle, leads]
    rw [otp.run_transfer_hung (device otp) _ _ _ idle (commanded ▸ busy), commanded] at equation
    rw [equation]
    exact Or.inl ⟨.timeout, rfl, Or.inr (Or.inl (afterWait_busy otp _ busy).1)⟩
  · rcases run_transfer_settled idle leads again with ⟨trace, settled⟩
    rw [settled] at equation
    rw [equation]
    cases failed : next.settled.error with
    | true => exact Or.inl ⟨failure, rfl, Or.inr (Or.inr ⟨rfl, rfl⟩)⟩
    | false => exact Or.inr ⟨rfl, rfl, rfl⟩

end Transfer

/-- A read that succeeds delivers the word at its address.  However it ends,
the OTP words are as it found them. -/
theorem run_readWord (state : OtpController) (addr : Word) :
    let run := (otp.readWord addr).run (device otp) state
    (∃ e, run.result = .error e ∧ state.Found run.state.words) ∨
      (run.result = .ok (state.settled.words addr) ∧ run.state.words = state.settled.words ∧
        run.state.inFlight = none) := by
  intro run
  have started := settled_startRead state.settled_inFlight addr
  rcases transfer_outcome (otp.readWrites addr) .otpReadError otp.readData
    (writeAll_readWrites otp addr) with ⟨e, failed, words⟩ | ⟨good, result, final⟩
  · refine Or.inl ⟨e, failed, ?_⟩
    rcases words with kept | hung | ⟨_, refused⟩
    · exact Or.inl kept
    · exact Or.inr (hung.trans started.1)
    · exact Or.inr (refused.trans started.2.1)
  · rw [started.2.2.1] at good
    rw [otp.run_readData, read_rdata] at result final
    refine Or.inr ⟨result.trans (congrArg Except.ok (started.2.2.2 good)), ?_, ?_⟩
    · exact (congrArg words final).trans started.2.1
    · exact (congrArg inFlight final).trans (settled_inFlight _)

/-- A write that succeeds stores its word and touches no other.  One that
fails leaves the OTP words as it found them. -/
theorem run_writeWord (state : OtpController) (addr value : Word) :
    let run := (otp.writeWord addr value).run (device otp) state
    (∃ e, run.result = .error e ∧ state.Found run.state.words) ∨
      (run.result = .ok () ∧ run.state.words = Function.update state.settled.words addr value ∧
        run.state.inFlight = none) := by
  intro run
  have started := settled_startWrite state.settled_inFlight addr value
  rcases transfer_outcome (otp.writeWrites addr value) .otpWriteError (pure (.ok ()))
    (writeAll_writeWrites otp addr value) with ⟨e, failed, words⟩ | ⟨good, result, final⟩
  · refine Or.inl ⟨e, failed, ?_⟩
    rcases words with kept | hung | ⟨refused, same⟩
    · exact Or.inl kept
    · exact Or.inr (hung.trans started.1)
    · rw [started.2.1] at refused
      rw [started.2.2, if_pos refused] at same
      exact Or.inr same
  · rw [started.2.1] at good
    refine Or.inr ⟨result, ?_, ?_⟩
    · have stored := (congrArg words final).trans started.2.2
      rw [good, if_neg Bool.false_ne_true] at stored
      exact stored
    · exact (congrArg inFlight final).trans (settled_inFlight _)

end OtpController

end McuRom
