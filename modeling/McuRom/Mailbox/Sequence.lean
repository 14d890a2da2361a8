import McuRom.Mailbox.Release

namespace McuRom

open Mmio

/-!
# Sequences of requests

One client calls `exec_mailbox_req_u32` again and again.  The device behind
the lock bit is a script, so that it may behave differently on every call.

A call that ends in a failure or in a completion without data gives the lock
back, and the next call finds a free mailbox.  A call that ends in any other
way after it has taken the lock keeps it, and then no later call gets past its
first read of LOCK.
-/

namespace CaliptraSoC

variable (soc : CaliptraSoC)

/-- A run of a call on the mailbox of a scripted device. -/
abbrev ExecRun := Run Word Word (Device.Locked (Word → Nat → Word)) ExecOutcome

/-- One call from a state of the mailbox. -/
def runCall (call : ExecCall) (state : Device.Locked (Word → Nat → Word)) : ExecRun :=
  soc.execRun call.cmd call.req call.resp state.rest state.lock

/-- The runs of a sequence of calls, each from the state the one before left. -/
def execRuns : List ExecCall → Device.Locked (Word → Nat → Word) → List ExecRun
  | [], _ => []
  | call :: rest, state => soc.runCall call state :: execRuns rest (soc.runCall call state).state

/-- The client has been refused: it has written nothing and has not got the
lock. -/
structure Refused (run : ExecRun) : Prop where
  lock : run.state.lock = true
  writes : Access.writes run.trace = []
  result : run.result.result = .error .mboxLockFailed ∨
    run.result.result = .error .mboxInvalidResponse

/-- Under a lock that is held every call is refused. -/
theorem refused_of_held (call : ExecCall) {state : Device.Locked (Word → Nat → Word)}
    (held : state.lock = true) : Refused (soc.runCall call state) := by
  by_cases accepted : RequestAccepted call.req
  · have ran := soc.run_exec_held Device.scripted call.cmd call.req call.resp state accepted held
    have equal : soc.runCall call state = _ := ran
    rw [equal]
    exact ⟨held, rfl, Or.inl rfl⟩
  · rcases soc.run_exec_rejected Device.scripted call.cmd call.req call.resp state accepted with
      ⟨outcome, ran, failed⟩
    have equal : soc.runCall call state = _ := ran
    rw [equal]
    exact ⟨held, rfl, Or.inr failed⟩

theorem refused_execRuns (calls : List ExecCall) {state : Device.Locked (Word → Nat → Word)}
    (held : state.lock = true) : ∀ run ∈ soc.execRuns calls state, Refused run := by
  induction calls generalizing state with
  | nil => exact fun _ impossible => absurd impossible List.not_mem_nil
  | cons call rest ih =>
      have refused := soc.refused_of_held call held
      intro run member
      rcases List.mem_cons.mp member with rfl | later
      · exact refused
      · exact ih refused.lock run later

/-- A call that leaves the mailbox free has failed. -/
theorem failed_of_free (apart : soc.ErrorRegsApart) (call : ExecCall)
    {state : Device.Locked (Word → Nat → Word)} (free : (soc.runCall call state).state.lock = false) :
    (soc.runCall call state).result.result = .error .mboxCmdFailed ∨
      (soc.runCall call state).result.result = .error .mboxInvalidResponse := by
  rcases state with ⟨lock, script⟩
  cases lock with
  | true =>
      have held := (@refused_of_held soc call ⟨true, script⟩ rfl).lock
      rw [free] at held
      cases held
  | false =>
      by_cases accepted : RequestAccepted call.req
      · have ran := execRun_free soc call.cmd call.req call.resp script accepted
        have equal : soc.runCall call ⟨false, script⟩ = _ := ran
        rw [equal] at free ⊢
        rcases (soc.receive_lock_iff apart _ _ _).mp free with ⟨room, failure | complete⟩
        · rcases soc.run_receive_failure (preparedReq call.cmd call.req) call.resp script true
            (BitVec.not_lt.mpr room) failure with ⟨_, _, _, received, _⟩
          rw [received]
          exact Or.inl rfl
        · rcases soc.run_receive_complete (preparedReq call.cmd call.req) call.resp script true
            (BitVec.not_lt.mpr room) complete with ⟨_, _, received, _⟩
          rw [received]
          exact Or.inr rfl
      · rcases soc.run_exec_rejected Device.scripted call.cmd call.req call.resp ⟨false, script⟩
          accepted with ⟨outcome, ran, failed⟩
        have equal : soc.runCall call ⟨false, script⟩ = _ := ran
        rw [equal]
        exact Or.inr failed

/-- What a call leaves decides about all later calls: once the lock is kept,
they are refused. -/
theorem execRuns_pairwise (calls : List ExecCall) (state : Device.Locked (Word → Nat → Word)) :
    (soc.execRuns calls state).Pairwise fun earlier later =>
      earlier.state.lock = true → Refused later := by
  induction calls generalizing state with
  | nil => exact List.Pairwise.nil
  | cons call rest ih =>
      refine List.pairwise_cons.mpr ⟨?_, ih _⟩
      intro later member kept
      exact soc.refused_execRuns rest kept later member

end CaliptraSoC

end McuRom
