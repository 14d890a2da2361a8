import McuRom.Rom.OtpDiscipline
import McuRom.Mmio.Registers

namespace McuRom

open Mmio

/-!
# Which partition a lock hits

The direct access interface carries out a command at the address that was
presented last.  A transfer presents its own address before its command.
`lock_partition` presents none, so its digest command lands wherever the last
transfer before it pointed, whichever partition it was called for.

Two runs of `lock_partition` are compared by the commands they issue, each
paired with the address that stands in the address register at that moment.
-/

namespace Otp

variable (otp : Otp)

/-- The direct access address register. -/
def addressReg : Word := otp.reg regDirectAccessAddr

theorem command_ne_address : otp.reg regDirectAccessCmd ≠ otp.addressReg := reg_ne (by decide)

/-- The commands of a trace, with the address presented to each. -/
def issuedCommands : Word → List (Access Word Word) → List (Word × Word)
  | _, [] => []
  | address, .read _ _ :: rest => issuedCommands address rest
  | address, .write reg value :: rest =>
      if reg = otp.reg regDirectAccessCmd then (value, address) :: issuedCommands address rest
      else issuedCommands (if reg = otp.addressReg then value else address) rest

variable {otp} {σ : Type} {dev : Device Word Word σ} {state : σ}

theorem issuedCommands_append (address : Word) (first second : List (Access Word Word)) :
    otp.issuedCommands address (first ++ second) = otp.issuedCommands address first ++
      otp.issuedCommands (Access.lastWrite otp.addressReg address first) second := by
  induction first generalizing address with
  | nil => rfl
  | cons access rest ih =>
      cases access with
      | read reg value => exact ih address
      | write reg value =>
          by_cases command : reg = otp.reg regDirectAccessCmd
          · have other : reg ≠ otp.addressReg := by
              rw [command]
              exact command_ne_address otp
            simp only [List.cons_append, issuedCommands, Access.lastWrite, if_pos command,
              if_neg other, ih]
          · simp only [List.cons_append, issuedCommands, Access.lastWrite, if_neg command, ih]

theorem issuedCommands_quiet {trace : List (Access Word Word)} (quiet : otp.Quiet trace)
    (address : Word) : otp.issuedCommands address trace = [] := by
  induction trace generalizing address with
  | nil => rfl
  | cons access rest ih =>
      have later := ih fun event member => quiet event (List.mem_cons_of_mem _ member)
      cases access with
      | read reg value => exact later address
      | write reg value =>
          have other : reg ≠ otp.reg regDirectAccessCmd := by
            rintro rfl
            exact quiet _ List.mem_cons_self ⟨value, rfl⟩
          rw [issuedCommands, if_neg other]
          exact later _

/-! ## Transfers present their own address -/

section Transfer

variable {α : Type} {addr cmd : Word} {failure : McuError}
  {finish : Driver (McuResult α)} {first : Nat}

/-- A transfer's registers: the address, perhaps data, and the command. -/
theorem transfer_presents (data : List (Word × Word)) (idle : otp.IdleAt dev state first)
    (avoids : ∀ entry ∈ data, entry.1 ≠ otp.addressReg ∧ entry.1 ≠ otp.reg regDirectAccessCmd)
    (reads : ∀ after, ∀ access ∈ (finish.run dev after).trace,
      ∃ addr value, access = .read addr value) (held : Word) :
    otp.issuedCommands held ((otp.transfer ((otp.addressReg, addr) :: data ++
        [(otp.reg regDirectAccessCmd, cmd)]) failure finish).run dev state).trace =
        [(cmd, addr)] ∧
      Access.lastWrite otp.addressReg held ((otp.transfer ((otp.addressReg, addr) :: data ++
        [(otp.reg regDirectAccessCmd, cmd)]) failure finish).run dev state).trace = addr := by
  rcases otp.transfer_trace dev ((otp.addressReg, addr) :: data ++
    [(otp.reg regDirectAccessCmd, cmd)]) failure finish idle reads with ⟨after, equal, onlyReads⟩
  let before := otp.waitTrace dev state (first + 1) ++
    .write otp.addressReg addr :: Access.ofWrites data
  have shape : otp.waitTrace dev state (first + 1) ++ Access.ofWrites ((otp.addressReg, addr) ::
      data ++ [(otp.reg regDirectAccessCmd, cmd)]) ++ after =
      before ++ .write (otp.reg regDirectAccessCmd) cmd :: after := by
    simp [before, Access.ofWrites]
  have quietData : otp.Quiet (Access.ofWrites data) :=
    quiet_ofWrites fun entry member => (avoids entry member).2
  have quietAfter : otp.Quiet after := by
    rintro access member ⟨value, rfl⟩
    rcases onlyReads _ member with ⟨reg, reply, impossible⟩
    cases impossible
  have quietBefore : otp.Quiet before := by
    refine (quiet_waitTrace dev state _).append ?_
    rintro access member ⟨value, rfl⟩
    rcases List.mem_cons.mp member with same | later
    · exact absurd (Access.write.inj same).1 (command_ne_address otp)
    · exact quietData _ later ⟨value, rfl⟩
  have presented : Access.lastWrite otp.addressReg held before = addr :=
    Access.lastWrite_write addr
      (Access.untouched_ofWrites fun entry member => (avoids entry member).1) held
  rw [equal, shape]
  constructor
  · rw [issuedCommands_append, presented, issuedCommands_quiet quietBefore, issuedCommands,
      if_pos rfl, issuedCommands_quiet quietAfter]
    rfl
  · rw [Access.lastWrite_append, presented, Access.lastWrite, if_neg (command_ne_address otp),
      Access.lastWrite_untouched (Access.untouched_reads onlyReads)]

end Transfer

/-- `read_word` presents its address and leaves it in the register, even if
it fails after its command. -/
theorem readWord_presents (addr : Word) {first : Nat} (idle : otp.IdleAt dev state first)
    (held : Word) :
    otp.issuedCommands held ((otp.readWord addr).run dev state).trace = [(cmdRead, addr)] ∧
      Access.lastWrite otp.addressReg held ((otp.readWord addr).run dev state).trace = addr := by
  rw [otp.readWord_eq]
  exact transfer_presents [] idle (fun _ impossible => by cases impossible)
    (otp.readData_reads dev) held

end Otp

/-! ## Locks after a history of calls -/

namespace OtpCall

variable (otp : Otp) {σ τ : Type} (dev : Device Word Word σ) (other : Device Word Word τ)

/-- The state a sequence of calls leaves. -/
def historyState : List OtpCall → σ → σ
  | [], state => state
  | call :: rest, state => historyState rest (call.run otp dev state).state

/-- What the address register holds after a sequence of calls, if it held
`initial` before. -/
def addressAfter (initial : Word) (calls : List OtpCall) (state : σ) : Word :=
  Access.lastWrite otp.addressReg initial (historyTrace otp dev calls state)

/-- The commands `lock_partition` issues after a sequence of calls, with the
address presented to each. -/
def lockTargets (initial : Word) (calls : List OtpCall) (state : σ) (partition : OtpPartition) :
    List (Word × Word) :=
  otp.issuedCommands (addressAfter otp dev initial calls state)
    ((lockPartition partition).run otp dev (historyState otp dev calls state)).trace

variable {otp dev other}

/-- One digest command, at whatever address the calls before it left. -/
theorem lockTargets_eq (initial : Word) (calls : List OtpCall) (state : σ)
    (partition : OtpPartition) :
    lockTargets otp dev initial calls state partition =
      [(Otp.cmdDigest, addressAfter otp dev initial calls state)] := by
  have digest : ∀ {after}, otp.Quiet after → ∀ address,
      otp.issuedCommands address (otp.digestWrite :: after) = [(Otp.cmdDigest, address)] := by
    intro after quiet address
    rw [Otp.digestWrite, Otp.issuedCommands, if_pos rfl, Otp.issuedCommands_quiet quiet]
  unfold lockTargets run program
  rcases otp.neverIdle_or_idleAt dev (otp.digesting dev (historyState otp dev calls state)) with
    busy | ⟨count, idle⟩
  · rw [otp.run_lockPartition_hung dev partition busy]
    exact digest (Otp.quiet_waitTrace dev _ _) _
  · rw [otp.run_lockPartition_idle dev partition idle]
    exact digest (Otp.quiet_waitTrace dev _ _) _

/-- Two locks hit the same place exactly for the same partition, if and only
if the address registers they find say so already. -/
theorem lockTargets_agree_iff (otp : Otp) (dev : Device Word Word σ) (other : Device Word Word τ)
    (initial : Word) (calls : List OtpCall) (state : σ) (partition : OtpPartition)
    (initial' : Word) (calls' : List OtpCall) (state' : τ) (partition' : OtpPartition) :
    (lockTargets otp dev initial calls state partition =
        lockTargets otp other initial' calls' state' partition' ↔ partition = partition') ↔
      (addressAfter otp dev initial calls state = addressAfter otp other initial' calls' state' ↔
        partition = partition') := by
  rw [lockTargets_eq, lockTargets_eq]
  simp only [List.cons.injEq, Prod.mk.injEq, true_and, and_true]

theorem historyTrace_append (calls rest : List OtpCall) (state : σ) :
    historyTrace otp dev (calls ++ rest) state = historyTrace otp dev calls state ++
      historyTrace otp dev rest (historyState otp dev calls state) := by
  induction calls generalizing state with
  | nil => rfl
  | cons call later ih =>
      simp only [List.cons_append, historyTrace, historyState, ih, List.append_assoc]

/-- The word a read delivers is dropped without further accesses. -/
theorem trace_readWord (addr : Word) (state : σ) :
    ((readWord addr).run otp dev state).trace = ((otp.readWord addr).run dev state).trace := by
  unfold run program
  cases outcome : ((otp.readWord addr).run dev state).result with
  | error e => rw [Driver.run_andThen_error dev _ outcome]
  | ok value =>
      rw [Driver.run_andThen_ok dev _ outcome]
      exact List.append_nil _

/-- A read that finds the controller idle decides where the next lock lands,
whatever came before it. -/
theorem addressAfter_readWord (calls : List OtpCall) {state : σ} {count : Nat}
    (idle : otp.IdleAt dev (historyState otp dev calls state) count) (initial addr : Word) :
    addressAfter otp dev initial (calls ++ [readWord addr]) state = addr := by
  have presented := Otp.readWord_presents addr idle (addressAfter otp dev initial calls state)
  rw [addressAfter, historyTrace_append, Access.lastWrite_append, historyTrace, historyTrace,
    List.append_nil, trace_readWord]
  exact presented.2

/-- On a controller that is always idle, the word read last decides which
partition a lock hits, and the partition asked for does not. -/
theorem lockPartition_ignores_partition :
    lockTargets romEnv.otp Device.scripted 0 [readWord 0x00] (fun _ _ => 0x01) .secret0 ≠
        lockTargets romEnv.otp Device.scripted 0 [readWord 0x40] (fun _ _ => 0x01) .secret0 ∧
      lockTargets romEnv.otp Device.scripted 0 [readWord 0x00] (fun _ _ => 0x01) .secret0 =
        lockTargets romEnv.otp Device.scripted 0 [readWord 0x00] (fun _ _ => 0x01) .secret1 := by
  have ready : romEnv.otp.IdleAt Device.scripted (fun _ _ => 0x01) 0 :=
    romEnv.otp.idleAt_zero Device.scripted rfl
  have lands := fun addr => addressAfter_readWord [] ready 0 addr
  simp only [List.nil_append] at lands
  rw [lockTargets_eq, lockTargets_eq, lockTargets_eq, lands, lands]
  exact ⟨by decide, rfl⟩

end OtpCall

end McuRom
