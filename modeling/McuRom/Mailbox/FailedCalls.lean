import McuRom.Mailbox.Request

namespace McuRom

open Mmio

/-!
# What a failed call leaves behind

Reading 0 from LOCK takes the lock.  `lock_mailbox` relies on that; the guard
of `set_command`, `write_data` and `execute_command` performs the same read
with the opposite polarity.  On a mailbox nobody holds, a guarded call
therefore fails and keeps the lock its own read has just taken.

The harm is confined to those calls.  Over any sequence of calls, every failed
call leaves the mailbox as it was exactly when the guarded ones are made only
while the lock is held.
-/

/-- The calls of the mailbox interface. -/
inductive MailboxCall where
  | lockMailbox
  | setCommand (cmd : Word) (payloadLenBytes : SizeT)
  | writeData (data : Word)
  | executeCommand
  | startMailboxReq (cmd : Word) (lenBytes : SizeT) (data : List Word)
  | initiateRequest (cmd : Word) (lenBytes : SizeT)
deriving DecidableEq, Repr

namespace MailboxCall

/-- The driver code of a call. -/
def program (soc : CaliptraSoC) : MailboxCall → Driver (McuResult Unit)
  | lockMailbox => soc.lockMailbox
  | setCommand cmd payloadLenBytes => soc.setCommand cmd payloadLenBytes
  | writeData data => soc.writeData data
  | executeCommand => soc.executeCommand
  | startMailboxReq cmd lenBytes data => soc.startMailboxReq cmd lenBytes data
  | initiateRequest cmd lenBytes => soc.initiateRequest cmd lenBytes

/-- The calls that begin by reading LOCK and expect a 1. -/
def guarded : MailboxCall → Bool
  | setCommand _ _ | writeData _ | executeCommand => true
  | lockMailbox | startMailboxReq _ _ _ | initiateRequest _ _ => false

/-- A guarded call is the shared guard in front of some register writes. -/
theorem program_of_guarded (soc : CaliptraSoC) {call : MailboxCall}
    (isGuarded : call.guarded = true) :
    ∃ list, call.program soc = soc.writeWhileLocked list := by
  cases call with
  | setCommand cmd payloadLenBytes => exact ⟨_, rfl⟩
  | writeData data => exact ⟨_, rfl⟩
  | executeCommand => exact ⟨_, rfl⟩
  | lockMailbox | startMailboxReq | initiateRequest => cases isGuarded

variable {σ : Type} (soc : CaliptraSoC) (inner : Device Word Word σ)

/-- Run one call on the mailbox. -/
def run (call : MailboxCall) (state : Device.Locked σ) :
    Run Word Word (Device.Locked σ) (McuResult Unit) :=
  (call.program soc).run (soc.mailbox inner) state

/-- The state after a sequence of calls by one client. -/
def runAll : List MailboxCall → Device.Locked σ → Device.Locked σ
  | [], state => state
  | call :: rest, state => runAll rest (call.run soc inner state).state

/-- Every call of the sequence that returns `MBOX_LOCK_FAILED` leaves the
mailbox, the lock included, as it was before the call. -/
def FailuresHarmless : List MailboxCall → Device.Locked σ → Prop
  | [], _ => True
  | call :: rest, state =>
      ((call.run soc inner state).result = .error .mboxLockFailed →
        (call.run soc inner state).state = state) ∧
      FailuresHarmless rest (call.run soc inner state).state

/-- Guarded calls are made only while the lock is held. -/
def GuardsHeld : List MailboxCall → Device.Locked σ → Prop
  | [], _ => True
  | call :: rest, state =>
      (call.guarded = true → state.lock = true) ∧
      GuardsHeld rest (call.run soc inner state).state

/-- Every call of the sequence fails, with whatever error. -/
def AllFail : List MailboxCall → Device.Locked σ → Prop
  | [], _ => True
  | call :: rest, state =>
      (∃ e, (call.run soc inner state).result = .error e) ∧
      AllFail rest (call.run soc inner state).state

/-- With the lock held, a guarded call succeeds. -/
theorem run_guarded_held {call : MailboxCall} (isGuarded : call.guarded = true)
    {state : Device.Locked σ} (held : state.lock = true) :
    (call.run soc inner state).result = .ok () := by
  rcases program_of_guarded soc isGuarded with ⟨list, same⟩
  rw [run, same, soc.run_writeWhileLocked_held inner list state held]

/-- With the lock free, a guarded call fails and takes the lock. -/
theorem run_guarded_free {call : MailboxCall} (isGuarded : call.guarded = true)
    {state : Device.Locked σ} (free : state.lock = false) :
    (call.run soc inner state).result = .error .mboxLockFailed ∧
      (call.run soc inner state).state = { state with lock := true } := by
  rcases program_of_guarded soc isGuarded with ⟨list, same⟩
  rw [run, same, soc.run_writeWhileLocked_free inner list state free]
  exact ⟨rfl, rfl⟩

/-- The other calls test LOCK with the polarity that takes it on success
only, so a failure of theirs changes nothing. -/
theorem run_unguarded_failed {call : MailboxCall} (unguarded : call.guarded = false)
    {state : Device.Locked σ} {e : McuError} (failed : (call.run soc inner state).result = .error e) :
    (call.run soc inner state).state = state := by
  cases call with
  | setCommand | writeData | executeCommand => cases unguarded
  | lockMailbox =>
      simp only [run, program, soc.run_lockMailbox inner state] at failed ⊢
      cases lock : state.lock with
      | true => rw [← lock]
      | false => simp [lock] at failed
  | startMailboxReq cmd lenBytes data =>
      simp only [run, program] at failed ⊢
      by_cases tooLong : mailboxSize < lenBytes
      · rw [soc.run_startMailboxReq_tooLong inner cmd lenBytes data state tooLong]
      · cases lock : state.lock with
        | true => rw [soc.run_startMailboxReq_held inner cmd lenBytes data state tooLong lock]
        | false =>
            rw [soc.run_startMailboxReq_free inner cmd lenBytes data state tooLong lock] at failed
            cases failed
  | initiateRequest cmd lenBytes =>
      simp only [run, program] at failed ⊢
      by_cases tooLong : mailboxSize < lenBytes
      · rw [soc.run_initiateRequest_tooLong inner cmd lenBytes state tooLong]
      · cases lock : state.lock with
        | true => rw [soc.run_initiateRequest_held inner cmd lenBytes state tooLong lock]
        | false =>
            rw [soc.run_initiateRequest_free inner cmd lenBytes state tooLong lock] at failed
            cases failed

/-- One call: a lock failure is harmless exactly when a guarded call finds
the lock held. -/
theorem lockFailed_harmless_iff (call : MailboxCall) (state : Device.Locked σ) :
    ((call.run soc inner state).result = .error .mboxLockFailed →
        (call.run soc inner state).state = state) ↔
      (call.guarded = true → state.lock = true) := by
  constructor
  · intro harmless isGuarded
    by_contra notHeld
    have free : state.lock = false := Bool.eq_false_iff.mpr notHeld
    rcases run_guarded_free soc inner isGuarded free with ⟨failed, taken⟩
    have same := congrArg Device.Locked.lock (taken.symm.trans (harmless failed))
    rw [free] at same
    cases same
  · intro held failed
    cases isGuarded : call.guarded with
    | true =>
        rw [run_guarded_held soc inner isGuarded (held isGuarded)] at failed
        cases failed
    | false => exact run_unguarded_failed soc inner isGuarded failed

/-- While guarded calls are made only under the lock, failed calls of any kind
leave the mailbox where it was. -/
theorem runAll_of_allFail (calls : List MailboxCall) (state : Device.Locked σ)
    (held : GuardsHeld soc inner calls state) (failed : AllFail soc inner calls state) :
    runAll soc inner calls state = state := by
  induction calls generalizing state with
  | nil => rfl
  | cons call rest ih =>
      rcases failed with ⟨⟨e, callFailed⟩, restFailed⟩
      have unchanged : (call.run soc inner state).state = state := by
        cases isGuarded : call.guarded with
        | true =>
            rw [run_guarded_held soc inner isGuarded (held.1 isGuarded)] at callFailed
            cases callFailed
        | false => exact run_unguarded_failed soc inner isGuarded callFailed
      have restHeld := held.2
      rw [unchanged] at restHeld restFailed
      rw [runAll, unchanged]
      exact ih state restHeld restFailed

/-- Over every sequence of calls, lock failures are harmless exactly when the
guarded calls are made under the lock; and then a mailbox nobody holds can
still be locked after any number of failed calls. -/
theorem failuresHarmless_iff_guardsHeld (calls : List MailboxCall) (state : Device.Locked σ) :
    (FailuresHarmless soc inner calls state ↔ GuardsHeld soc inner calls state) ∧
      (GuardsHeld soc inner calls state → AllFail soc inner calls state → state.lock = false →
        (lockMailbox.run soc inner (runAll soc inner calls state)).result = .ok ()) := by
  constructor
  · induction calls generalizing state with
    | nil => exact Iff.rfl
    | cons call rest ih =>
        exact and_congr (lockFailed_harmless_iff soc inner call state) (ih _)
  · intro held failed free
    rw [runAll_of_allFail soc inner calls state held failed, run, program,
      soc.run_lockMailbox inner state, free, if_neg Bool.false_ne_true]

/-- The mailbox at its default address with nobody holding it and every
register answering zero. -/
def idleMailbox : Device.Locked (Word → Nat → Word) where
  lock := false
  rest := fun _ _ => 0

/-- On a mailbox nobody holds, one `set_command` fails, keeps the lock, and
leaves the next `lock_mailbox` refused. -/
theorem setCommand_takes_lock :
    ¬ FailuresHarmless (CaliptraSoC.construct none none none) Device.scripted
        [.setCommand 0 0] idleMailbox ∧
      AllFail (CaliptraSoC.construct none none none) Device.scripted
        [.setCommand 0 0] idleMailbox ∧
      idleMailbox.lock = false ∧
      (lockMailbox.run (CaliptraSoC.construct none none none) Device.scripted
        (runAll (CaliptraSoC.construct none none none) Device.scripted
          [.setCommand 0 0] idleMailbox)).result = .error .mboxLockFailed := by
  have isGuarded : (setCommand 0 0).guarded = true := rfl
  have isFree : idleMailbox.lock = false := rfl
  rcases run_guarded_free (CaliptraSoC.construct none none none) Device.scripted
    isGuarded isFree with ⟨failed, taken⟩
  refine ⟨?_, ⟨⟨_, failed⟩, trivial⟩, rfl, ?_⟩
  · rintro ⟨harmless, _⟩
    have same := congrArg Device.Locked.lock (taken.symm.trans (harmless failed))
    cases same
  · rw [runAll, taken, runAll, run, program, CaliptraSoC.run_lockMailbox, if_pos rfl]

end MailboxCall

end McuRom
