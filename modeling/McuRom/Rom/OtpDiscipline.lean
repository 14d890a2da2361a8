import McuRom.Rom.OtpAccess
import McuRom.Rom.RomEnv
import McuRom.Mmio.Handshake

namespace McuRom

open Mmio

/-!
# The direct access discipline

The controller works on one command at a time.  A transfer waits for idle
before its command and looks at the error bit after it, so it keeps the
discipline whatever the calls before it left behind.  `lock_partition` does
neither: it writes its digest command straight away, and returns what the wait
behind the command returns.

A sequence of calls therefore keeps the discipline exactly when every
`lock_partition` in it happens to find the controller shown idle, and happens
to be answered without the error bit.
-/

namespace Otp

variable (otp : Otp)

/-! ## Events of the handshake -/

/-- A write to the direct access command register. -/
def IsCommand (access : Access Word Word) : Prop :=
  ∃ cmd, access = .write (otp.reg regDirectAccessCmd) cmd

/-- A STATUS read that shows idle. -/
def ShowsIdle (access : Access Word Word) : Prop :=
  ∃ status, access = .read (otp.reg regStatus) status ∧ statusNotIdle status = false

/-- A STATUS read with the error bit clear. -/
def ShowsNoError (access : Access Word Word) : Prop :=
  ∃ status, access = .read (otp.reg regStatus) status ∧ statusHasError status = false

/-- The accesses issue no command. -/
abbrev Quiet (trace : List (Access Word Word)) : Prop := Handshake.Quiet otp.IsCommand trace

/-- A STATUS read since the last command shows idle. -/
abbrev IdleSince (history : List (Access Word Word)) : Prop :=
  Handshake.ReadySince otp.IsCommand otp.ShowsIdle history

/-- Every command of the trace is written with idle shown since the command
before it. -/
abbrev Awaited (history trace : List (Access Word Word)) : Prop :=
  Handshake.Guarded otp.IsCommand otp.ShowsIdle history trace

/-- Every command of the trace is followed by an idle word and a clear error
bit. -/
abbrev Confirmed (trace : List (Access Word Word)) : Prop :=
  Handshake.AllConfirmed otp.IsCommand otp.ShowsIdle otp.ShowsNoError trace

variable {otp} {σ α β : Type} {dev : Device Word Word σ} {state : σ}

theorem reg_ne {first second : Word} (different : first ≠ second) :
    otp.reg first ≠ otp.reg second :=
  offset_ne _ different

theorem quiet_read (addr value : Word) : otp.Quiet [.read addr value] := by
  rintro access member ⟨cmd, equal⟩
  cases List.mem_singleton.mp member
  cases equal

theorem quiet_waitTrace (dev : Device Word Word σ) (state : σ) (count : Nat) :
    otp.Quiet (otp.waitTrace dev state count) := by
  rintro access member ⟨cmd, equal⟩
  rcases mem_pollTrace.mp member with ⟨index, _, rfl⟩
  cases equal

/-- Register writes that avoid the command register. -/
theorem quiet_ofWrites {list : List (Word × Word)}
    (avoids : ∀ entry ∈ list, entry.1 ≠ otp.reg regDirectAccessCmd) :
    otp.Quiet (Access.ofWrites list) := by
  rintro access member ⟨cmd, equal⟩
  rcases Access.mem_ofWrites.mp member with ⟨addr, value, inside, rfl⟩
  cases equal
  exact avoids _ inside rfl

/-- The words before the one that ends a wait are busy. -/
theorem waitTrace_not_idle {count : Nat}
    (busy : BusyFor statusNotIdle (dev.replies (otp.reg regStatus) state) count) :
    ∀ access ∈ otp.waitTrace dev state count, ¬ otp.ShowsIdle access := by
  rintro access member ⟨status, equal, idle⟩
  rcases mem_pollTrace.mp member with ⟨index, bound, rfl⟩
  cases equal
  rw [busy index bound] at idle
  cases idle

/-- A wait that succeeds shows idle with its last read. -/
theorem idleSince_wait {count : Nat} (idle : otp.IdleAt dev state count)
    (history : List (Access Word Word)) :
    otp.IdleSince (history ++ otp.waitTrace dev state (count + 1)) := by
  rw [otp.waitTrace_idle dev, ← List.append_assoc]
  exact Handshake.readySince_append_one ⟨_, rfl, idle.2.2⟩ _

/-! ## Programs that keep the discipline on their own -/

variable (otp) in
/-- On every device the program awaits its commands itself, and confirms them
if it succeeds. -/
def Careful (succeeds : α → Prop) (program : Driver α) : Prop :=
  ∀ (σ : Type) (dev : Device Word Word σ) (state : σ),
    otp.Awaited [] (program.run dev state).trace ∧
      (succeeds (program.run dev state).result → otp.Confirmed (program.run dev state).trace)

theorem careful_of_quiet {succeeds : α → Prop} {program : Driver α}
    (quiet : ∀ (σ : Type) (dev : Device Word Word σ) (state : σ),
      otp.Quiet (program.run dev state).trace) : otp.Careful succeeds program :=
  fun σ dev state => ⟨Handshake.guarded_quiet (quiet σ dev state) [],
    fun _ => Handshake.allConfirmed_quiet (quiet σ dev state)⟩

theorem careful_ret (succeeds : α → Prop) (value : α) :
    otp.Careful succeeds (.ret value : Driver α) :=
  careful_of_quiet fun _ _ _ => Handshake.quiet_nil

/-- Sequencing, where the whole succeeds only if the first part did. -/
theorem Careful.bind {succeeds : α → Prop} {passes : β → Prop} {program : Driver α}
    {rest : α → Driver β} (first : otp.Careful succeeds program)
    (second : ∀ value, otp.Careful passes (rest value))
    (strict : ∀ (σ : Type) (dev : Device Word Word σ) (state : σ) (value : α),
      passes ((rest value).run dev state).result → succeeds value) :
    otp.Careful passes (program >>= rest) := by
  intro σ dev state
  have left := first σ dev state
  have right := second (program.run dev state).result σ dev (program.run dev state).state
  rw [Program.run_bind]
  constructor
  · apply (Handshake.guarded_append [] _ _).mpr
    refine ⟨left.1, ?_⟩
    have later := right.1.after (program.run dev state).trace
    rwa [List.append_nil] at later
  · intro passed
    exact (left.2 (strict σ dev _ _ passed)).append (right.2 passed)

/-- The call returned `Ok`. -/
def IsOk (result : McuResult α) : Prop := ∃ value, result = .ok value

theorem Careful.andThen {call : Driver (McuResult α)} {rest : α → Driver (McuResult β)}
    (first : otp.Careful IsOk call) (second : ∀ value, otp.Careful IsOk (rest value)) :
    otp.Careful IsOk (Driver.andThen call rest) := by
  refine first.bind ?_ ?_
  · intro result
    cases result with
    | error e => exact careful_ret IsOk _
    | ok value => exact second value
  · intro σ dev state result passed
    cases result with
    | error e =>
        rcases passed with ⟨value, impossible⟩
        cases impossible
    | ok value => exact ⟨value, rfl⟩

/-! ## Waits and transfers -/

theorem careful_waitForIdle : otp.Careful IsOk (otp.waitForIdle defaultTimeoutCycles) := by
  apply careful_of_quiet
  intro σ dev state
  rcases otp.neverIdle_or_idleAt dev state with busy | ⟨count, idle⟩
  · rw [otp.run_waitForIdle_timeout dev busy]
    exact quiet_waitTrace dev state idleBudget
  · rw [otp.run_waitForIdle_idle dev idle]
    exact quiet_waitTrace dev state (count + 1)

/-- Success behind a command: the wait ends, and the next word has no error. -/
theorem confirmed_answer {count : Nat} (idle : otp.IdleAt dev state count)
    (good : statusHasError (otp.finalStatus dev state count) = false)
    (more : List (Access Word Word)) :
    Handshake.Confirmed otp.IsCommand otp.ShowsIdle otp.ShowsNoError
      (otp.waitTrace dev state (count + 2) ++ more) := by
  let ready := dev.replies (otp.reg regStatus) state count
  let last := otp.finalStatus dev state count
  refine ⟨otp.waitTrace dev state count, .read (otp.reg regStatus) ready,
    .read (otp.reg regStatus) last :: more, ?_, quiet_waitTrace dev state count,
    ⟨ready, rfl, idle.2.2⟩, [.read (otp.reg regStatus) ready], .read (otp.reg regStatus) last, more,
    rfl, quiet_read _ _, ⟨last, rfl, good⟩⟩
  rw [otp.waitTrace_idle dev state (count + 1), otp.waitTrace_idle dev state count,
    List.append_assoc, List.append_assoc]
  rfl

/-- Where the command stands in the trace of a transfer. -/
theorem transfer_split (before after : List (Access Word Word)) (setup : List (Word × Word))
    (cmd : Word) :
    before ++ Access.ofWrites (setup ++ [(otp.reg regDirectAccessCmd, cmd)]) ++ after =
      (before ++ Access.ofWrites setup) ++ .write (otp.reg regDirectAccessCmd) cmd :: after := by
  rw [Access.ofWrites_append]
  simp only [Access.ofWrites, List.map_cons, List.map_nil, List.append_assoc, List.cons_append,
    List.nil_append]

/-- A transfer whose last register write is its only command. -/
theorem careful_transfer (setup : List (Word × Word)) {cmd : Word} {failure : McuError}
    {finish : Driver (McuResult α)}
    (avoids : ∀ entry ∈ setup, entry.1 ≠ otp.reg regDirectAccessCmd)
    (reads : ∀ (σ : Type) (dev : Device Word Word σ) (state : σ),
      otp.Quiet (finish.run dev state).trace) :
    otp.Careful IsOk
      (otp.transfer (setup ++ [(otp.reg regDirectAccessCmd, cmd)]) failure finish) := by
  intro σ dev state
  rcases otp.neverIdle_or_idleAt dev state with busy | ⟨first, idle⟩
  · rw [otp.run_transfer_notIdle dev _ failure finish busy]
    constructor
    · exact Handshake.guarded_quiet (quiet_waitTrace dev state idleBudget) []
    · rintro ⟨value, impossible⟩
      cases impossible
  have issued : otp.IsCommand (.write (otp.reg regDirectAccessCmd) cmd) := ⟨cmd, rfl⟩
  have before := (quiet_waitTrace dev state (first + 1)).append (quiet_ofWrites avoids)
  have since := (idleSince_wait idle []).append_quiet (quiet_ofWrites avoids)
  rw [List.nil_append] at since
  rcases otp.neverIdle_or_idleAt dev (otp.commanded dev _ state first) with
    busy | ⟨second, again⟩
  · rw [otp.run_transfer_hung dev _ failure finish idle busy]
    constructor
    · rw [transfer_split]
      exact (Handshake.guarded_single before issued (quiet_waitTrace dev _ idleBudget)).mpr since
    · rintro ⟨value, impossible⟩
      cases impossible
  · rw [otp.run_transfer_idle dev _ failure finish idle again]
    rw [Run.after_trace, Run.after_result, List.append_assoc, transfer_split]
    cases good : statusHasError (otp.finalStatus dev (otp.commanded dev _ state first) second) with
    | true =>
        constructor
        · exact (Handshake.guarded_single before issued
            ((quiet_waitTrace dev _ (second + 2)).append Handshake.quiet_nil)).mpr since
        · rintro ⟨value, impossible⟩
          cases impossible
    | false =>
        constructor
        · exact (Handshake.guarded_single before issued
            ((quiet_waitTrace dev _ (second + 2)).append (reads σ dev _))).mpr since
        · intro _
          exact (Handshake.allConfirmed_single before issued
            ((quiet_waitTrace dev _ (second + 2)).append (reads σ dev _))).mpr
            (confirmed_answer again good _)

theorem careful_readWord (addr : Word) : otp.Careful IsOk (otp.readWord addr) := by
  rw [otp.readWord_eq]
  refine careful_transfer [(otp.reg regDirectAccessAddr, addr)] ?_ ?_
  · intro entry member
    cases List.mem_singleton.mp member
    exact reg_ne (by decide)
  · intro σ dev state
    exact quiet_read _ _

theorem careful_writeWord (addr value : Word) : otp.Careful IsOk (otp.writeWord addr value) := by
  rw [otp.writeWord_eq]
  refine careful_transfer [(otp.reg regDirectAccessAddr, addr),
    (otp.reg regDirectAccessWdata0, value)] ?_ fun _ _ _ => Handshake.quiet_nil
  intro entry member
  simp only [List.mem_cons, List.not_mem_nil, or_false] at member
  rcases member with rfl | rfl
  · exact reg_ne (by decide)
  · exact reg_ne (by decide)

/-- By induction on the words left; a word that fails ends the loop. -/
theorem careful_readWordsFrom (addr : Word) (i : Nat) (buffer : List Word) :
    otp.Careful (fun outcome => IsOk outcome.1) (otp.readWordsFrom addr i buffer) := by
  induction buffer generalizing i with
  | nil => exact careful_ret _ _
  | cons old rest ih =>
      refine (careful_readWord (addr + sizeT i * 4)).bind ?_ ?_
      · intro result
        cases result with
        | error e => exact careful_ret _ _
        | ok word =>
            refine (ih (i + 1)).bind (fun outcome => careful_ret _ _) ?_
            intro σ dev state outcome passed
            exact passed
      · intro σ dev state result passed
        cases result with
        | error e =>
            rcases passed with ⟨value, impossible⟩
            cases impossible
        | ok word => exact ⟨word, rfl⟩

theorem careful_writeWordsFrom (addr : Word) (i : Nat) (data : List Word) :
    otp.Careful IsOk (otp.writeWordsFrom addr i data) := by
  induction data generalizing i with
  | nil => exact careful_ret _ _
  | cons word rest ih => exact (careful_writeWord _ word).andThen fun _ => ih (i + 1)

end Otp

/-! ## Sequences of calls -/

/-- The calls that reach the direct access interface. -/
inductive OtpCall where
  | init
  | readWord (addr : Word)
  | readWords (addr : Word) (buffer : List Word)
  | writeWord (addr value : Word)
  | writeWords (addr : Word) (data : List Word)
  | lockPartition (partition : OtpPartition)
deriving DecidableEq, Repr

namespace OtpCall

variable (otp : Otp)

/-- The driver code of a call; the words a read delivers are dropped. -/
def program : OtpCall → Driver (McuResult Unit)
  | init => otp.init
  | readWord addr => Driver.andThen (otp.readWord addr) fun _ => pure (.ok ())
  | readWords addr buffer => do
    let (outcome, _) ← otp.readWords addr buffer
    pure outcome
  | writeWord addr value => otp.writeWord addr value
  | writeWords addr data => otp.writeWords addr data
  | lockPartition partition => otp.lockPartition partition

/-- The call is a `lock_partition`. -/
def isLock : OtpCall → Bool
  | lockPartition _ => true
  | init | readWord _ | readWords _ _ | writeWord _ _ | writeWords _ _ => false

theorem careful_of_not_lock {call : OtpCall} (other : call.isLock = false) :
    otp.Careful Otp.IsOk (call.program otp) := by
  cases call with
  | init => exact Otp.careful_waitForIdle
  | readWord addr => exact (Otp.careful_readWord addr).andThen fun _ => Otp.careful_ret _ _
  | readWords addr buffer =>
      refine (Otp.careful_readWordsFrom addr 0 buffer).bind (fun outcome => Otp.careful_ret _ _) ?_
      intro σ dev state outcome passed
      exact passed
  | writeWord addr value => exact Otp.careful_writeWord addr value
  | writeWords addr data => exact Otp.careful_writeWordsFrom addr 0 data
  | lockPartition partition => cases other

variable {σ : Type} (dev : Device Word Word σ)

/-- Run one call. -/
def run (call : OtpCall) (state : σ) : Run Word Word σ (McuResult Unit) :=
  (call.program otp).run dev state

/-- The accesses of a sequence of calls, whatever each of them returns. -/
def historyTrace : List OtpCall → σ → List (Access Word Word)
  | [], _ => []
  | call :: rest, state =>
      (call.run otp dev state).trace ++ historyTrace rest (call.run otp dev state).state

/-- Every call that returns `Ok` has its commands confirmed. -/
def SuccessesConfirmed : List OtpCall → σ → Prop
  | [], _ => True
  | call :: rest, state =>
      ((call.run otp dev state).result = .ok () → otp.Confirmed (call.run otp dev state).trace) ∧
      SuccessesConfirmed rest (call.run otp dev state).state

/-- The direct access discipline over a sequence of calls. -/
structure Disciplined (calls : List OtpCall) (state : σ) : Prop where
  awaited : otp.Awaited [] (historyTrace otp dev calls state)
  confirmed : SuccessesConfirmed otp dev calls state

/-- If the wait behind a digest command ends, its last word has no error. -/
def DigestClear (state : σ) : Prop :=
  ∀ count, otp.IdleAt dev (otp.digesting dev state) count →
    Otp.statusHasError (dev.replies (otp.reg Otp.regStatus) (otp.digesting dev state) count) = false

/-- Every `lock_partition` finds idle shown since the last command of the
accesses before it, and its digest is answered without the error bit. -/
def LocksLucky : List (Access Word Word) → List OtpCall → σ → Prop
  | _, [], _ => True
  | history, call :: rest, state =>
      (call.isLock = true → otp.IdleSince history ∧ DigestClear otp dev state) ∧
      LocksLucky (history ++ (call.run otp dev state).trace) rest (call.run otp dev state).state

variable {otp dev} {state : σ}

/-- A `lock_partition` finds the controller shown idle only if the calls
before it left it so. -/
theorem awaited_lockPartition (history : List (Access Word Word)) (partition : OtpPartition) :
    otp.Awaited history ((lockPartition partition).run otp dev state).trace ↔
      otp.IdleSince history := by
  have issued : otp.IsCommand otp.digestWrite := ⟨Otp.cmdDigest, rfl⟩
  have single : ∀ {after}, otp.Quiet after →
      (otp.Awaited history (otp.digestWrite :: after) ↔ otp.IdleSince history) := by
    intro after quiet
    have single : otp.Awaited history (otp.digestWrite :: after) ↔
        otp.IdleSince (history ++ []) :=
      Handshake.guarded_single Handshake.quiet_nil issued quiet
    rwa [List.append_nil] at single
  unfold run program
  rcases otp.neverIdle_or_idleAt dev (otp.digesting dev state) with busy | ⟨count, idle⟩
  · rw [otp.run_lockPartition_hung dev partition busy]
    exact single (Otp.quiet_waitTrace dev _ _)
  · rw [otp.run_lockPartition_idle dev partition idle]
    exact single (Otp.quiet_waitTrace dev _ _)

/-- The word that ends its wait is the only one that can confirm the digest. -/
theorem confirmed_lockPartition (partition : OtpPartition) :
    (((lockPartition partition).run otp dev state).result = .ok () →
      otp.Confirmed ((lockPartition partition).run otp dev state).trace) ↔
      DigestClear otp dev state := by
  have issued : otp.IsCommand otp.digestWrite := ⟨Otp.cmdDigest, rfl⟩
  unfold run program DigestClear
  rcases otp.neverIdle_or_idleAt dev (otp.digesting dev state) with busy | ⟨count, idle⟩
  · rw [otp.run_lockPartition_hung dev partition busy]
    constructor
    · intro _ count idle
      exact absurd busy idle.not_neverIdle
    · intro _ impossible
      cases impossible
  · rw [otp.run_lockPartition_idle dev partition idle]
    have single : otp.Confirmed
        (otp.digestWrite :: otp.waitTrace dev (otp.digesting dev state) (count + 1)) ↔
        Otp.statusHasError
          (dev.replies (otp.reg Otp.regStatus) (otp.digesting dev state) count) = false := by
      apply (Handshake.allConfirmed_single Handshake.quiet_nil issued
        (Otp.quiet_waitTrace dev _ _)).trans
      rw [otp.waitTrace_idle dev]
      apply (Handshake.confirmed_append_one (Otp.quiet_waitTrace dev _ _)
        (Otp.waitTrace_not_idle idle.2.1) ⟨_, rfl, idle.2.2⟩).trans
      constructor
      · rintro ⟨status, equal, good⟩
        cases equal
        exact good
      · intro good
        exact ⟨_, rfl, good⟩
    constructor
    · intro confirmed other again
      cases idle.unique again
      exact single.mp (confirmed rfl)
    · intro clear _
      exact single.mpr (clear count idle)

/-- By induction on the calls: what one of them needs is settled by the
accesses before it and by its own. -/
theorem disciplined_from_iff (calls : List OtpCall) (state : σ)
    (history : List (Access Word Word)) :
    otp.Awaited history (historyTrace otp dev calls state) ∧
      SuccessesConfirmed otp dev calls state ↔ LocksLucky otp dev history calls state := by
  induction calls generalizing state history with
  | nil => exact ⟨fun _ => trivial, fun _ => ⟨trivial, trivial⟩⟩
  | cons call rest ih =>
      have later := ih (call.run otp dev state).state (history ++ (call.run otp dev state).trace)
      simp only [historyTrace, SuccessesConfirmed, LocksLucky, Handshake.guarded_append, ← later]
      have step : otp.Awaited history (call.run otp dev state).trace ∧
          ((call.run otp dev state).result = .ok () →
            otp.Confirmed (call.run otp dev state).trace) ↔
          (call.isLock = true → otp.IdleSince history ∧ DigestClear otp dev state) := by
        cases kind : call.isLock with
        | false =>
            have careful := careful_of_not_lock otp kind σ dev state
            have awaited := careful.1.after history
            rw [List.append_nil] at awaited
            constructor
            · intro _ impossible
              cases impossible
            · intro _
              exact ⟨awaited, fun passed => careful.2 ⟨(), passed⟩⟩
        | true =>
            cases call with
            | lockPartition partition =>
                rw [awaited_lockPartition history partition, confirmed_lockPartition partition]
                exact ⟨fun both _ => both, fun both => both rfl⟩
            | init | readWord | readWords | writeWord | writeWords => cases kind
      rw [← step]
      constructor
      · rintro ⟨⟨awaited, following⟩, confirmed, passing⟩
        exact ⟨⟨awaited, confirmed⟩, following, passing⟩
      · rintro ⟨⟨awaited, confirmed⟩, following, passing⟩
        exact ⟨⟨awaited, following⟩, confirmed, passing⟩

/-- The calls keep the discipline exactly when each `lock_partition` among
them is lucky. -/
theorem disciplined_iff_locksLucky (otp : Otp) (dev : Device Word Word σ) (calls : List OtpCall)
    (state : σ) : Disciplined otp dev calls state ↔ LocksLucky otp dev [] calls state := by
  rw [← disciplined_from_iff]
  exact ⟨fun disciplined => ⟨disciplined.awaited, disciplined.confirmed⟩,
    fun both => ⟨both.1, both.2⟩⟩

/-- Without `lock_partition` the discipline is kept on every device, however
many of the calls fail. -/
theorem disciplined_of_not_lock {calls : List OtpCall}
    (others : ∀ call ∈ calls, call.isLock = false) : Disciplined otp dev calls state := by
  have lucky : ∀ history state, LocksLucky otp dev history calls state := by
    induction calls with
    | nil => exact fun _ _ => trivial
    | cons call rest ih =>
        intro history state
        constructor
        · intro isLock
          rw [others call List.mem_cons_self] at isLock
          cases isLock
        · exact ih (fun later member => others later (List.mem_cons_of_mem _ member)) _ _
  have both := (disciplined_from_iff calls state []).mpr (lucky [] state)
  exact ⟨both.1, both.2⟩

/-- A controller that is idle with its error bit set: the first call of a
history already issues a command nothing waited for, and reports success. -/
theorem lockPartition_undisciplined :
    ¬ romEnv.otp.Awaited []
        (historyTrace romEnv.otp Device.scripted [lockPartition .secret0] fun _ _ => 0x03) ∧
      ¬ SuccessesConfirmed romEnv.otp Device.scripted [lockPartition .secret0]
        (fun _ _ => 0x03) := by
  have idle : romEnv.otp.IdleAt Device.scripted
      (romEnv.otp.digesting Device.scripted fun _ _ => 0x03) 0 :=
    romEnv.otp.idleAt_zero Device.scripted rfl
  constructor
  · intro awaited
    rw [historyTrace, historyTrace, List.append_nil, awaited_lockPartition] at awaited
    exact Handshake.not_readySince_nil awaited
  · intro confirmed
    have clear := (confirmed_lockPartition .secret0).mp confirmed.1 0 idle
    exact absurd clear (by decide)

end OtpCall

end McuRom
