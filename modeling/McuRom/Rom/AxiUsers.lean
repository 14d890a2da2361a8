import Mathlib.Order.Fin.Basic
import McuRom.Mmio.Sticky
import McuRom.Rom.Hardware
import McuRom.Rom.Verification

namespace McuRom

open Mmio

/-!
# Mailbox users behind sticky locks

MCI protects each valid-user register by the lock register of its slot.  The
two functions of the ROM are a configurator that writes and locks the slots it
is given, and a verifier that compares slots with a configuration.

A slot is seen as a user and a lock bit.  On that view the configurator and
the verifier are two small functions, and the code is shown to compute them.
-/

/-- The mailboxes of MCI. -/
inductive Mbox where
  | mbox0
  | mbox1
deriving DecidableEq, Repr

namespace Mbox

def userBase : Mbox → Word
  | mbox0 => Mci.regMbox0ValidAxiUserBase
  | mbox1 => Mci.regMbox1ValidAxiUserBase

def lockBase : Mbox → Word
  | mbox0 => Mci.regMbox0AxiUserLockBase
  | mbox1 => Mci.regMbox1AxiUserLockBase

/-- The valid-user register of a slot. -/
def userReg (mbox : Mbox) (index : Nat) : Word :=
  romEnv.mci.reg (mbox.userBase + sizeT index * 4)

/-- The lock register of a slot. -/
def lockReg (mbox : Mbox) (index : Nat) : Word :=
  romEnv.mci.reg (mbox.lockBase + sizeT index * 4)

end Mbox

/-! ## The registers -/

/-- The slots the driver exposes, eight in each mailbox. -/
def axiSlots : List (Mbox × Nat) :=
  [Mbox.mbox0, Mbox.mbox1].flatMap fun mbox =>
    (List.range Mci.mboxAxiUserCount).map fun index => (mbox, index)

/-- Each slot's lock register protects its valid-user register. -/
def axiLocks : LockMap Word where
  isLock addr := axiSlots.any fun slot => slot.1.lockReg slot.2 == addr
  lockOf addr := (axiSlots.find? fun slot => slot.1.userReg slot.2 == addr).map fun slot =>
    slot.1.lockReg slot.2

/-- MCI with its sticky locks, and a script for everything else. -/
def lockableMci : Device Word Word HardwareState :=
  Device.route isMci (Device.sticky axiLocks) Device.scripted

/-- A slot that the ROM's arrays have an entry for. -/
abbrev Slot := Mbox × Fin mcuMboxUsers

namespace Slot

def userReg (slot : Slot) : Word := slot.1.userReg slot.2
def lockReg (slot : Slot) : Word := slot.1.lockReg slot.2

end Slot

/-- What MCI holds for a slot: the user, and whether it is locked. -/
def slotView (regs : Word → Word) (slot : Slot) : Word × Bool :=
  (regs slot.userReg, Device.lockBit (regs slot.lockReg))

namespace Slot

theorem isMci_regs (slot : Slot) : isMci slot.userReg = true ∧ isMci slot.lockReg = true := by
  rcases slot with ⟨mbox, i⟩
  revert i
  cases mbox <;> decide

theorem userReg_inj {first second : Slot} : first.userReg = second.userReg ↔ first = second := by
  rcases first with ⟨m, i⟩
  rcases second with ⟨n, j⟩
  revert i j
  cases m <;> cases n <;> decide

theorem lockReg_inj {first second : Slot} : first.lockReg = second.lockReg ↔ first = second := by
  rcases first with ⟨m, i⟩
  rcases second with ⟨n, j⟩
  revert i j
  cases m <;> cases n <;> decide

theorem userReg_ne_lockReg (first second : Slot) : first.userReg ≠ second.lockReg := by
  rcases first with ⟨m, i⟩
  rcases second with ⟨n, j⟩
  revert i j
  cases m <;> cases n <;> decide

theorem lockOf_userReg (slot : Slot) : axiLocks.lockOf slot.userReg = some slot.lockReg := by
  rcases slot with ⟨mbox, i⟩
  revert i
  cases mbox <;> decide

theorem lockOf_lockReg (slot : Slot) : axiLocks.lockOf slot.lockReg = none := by
  rcases slot with ⟨mbox, i⟩
  revert i
  cases mbox <;> decide

theorem isLock_regs (slot : Slot) :
    axiLocks.isLock slot.userReg = false ∧ axiLocks.isLock slot.lockReg = true := by
  rcases slot with ⟨mbox, i⟩
  revert i
  cases mbox <;> decide

end Slot

/-! ## The bus -/

variable (state : HardwareState)

theorem lockableMci_ignoresConsole : IgnoresConsole lockableMci :=
  fun state value => Device.route_write_right isMci (Device.sticky axiLocks) Device.scripted
    (show isMci uartTx = false by decide) state value

theorem lockableMci_read {addr : Word} (inMci : isMci addr = true) :
    lockableMci.read state addr = (state.1 addr, state) :=
  Device.route_read_left isMci (Device.sticky axiLocks) Device.scripted inMci state

theorem lockableMci_write {addr : Word} (inMci : isMci addr = true) (value : Word) :
    lockableMci.write state addr value = ((Device.sticky axiLocks).write state.1 addr value, state.2) :=
  Device.route_write_left isMci (Device.sticky axiLocks) Device.scripted inMci state value

theorem run_mciRead {offset : Word} (inMci : isMci (romEnv.mci.reg offset) = true) :
    (romEnv.mci.readReg offset).run lockableMci state =
      ⟨[.read (romEnv.mci.reg offset) (state.1 (romEnv.mci.reg offset))],
        state.1 (romEnv.mci.reg offset), state⟩ := by
  rw [Mci.readReg, Program.run_readReg, lockableMci_read state inMci]

theorem isProtected_userReg (regs : Word → Word) (slot : Slot) :
    Device.isProtected axiLocks regs slot.userReg = (slotView regs slot).2 := by
  rw [Device.isProtected, slot.lockOf_userReg]
  rfl

theorem isProtected_lockReg (regs : Word → Word) (slot : Slot) :
    Device.isProtected axiLocks regs slot.lockReg = false := by
  rw [Device.isProtected, slot.lockOf_lockReg]

/-- A user that is written arrives unless the slot is locked. -/
theorem slotView_writeUser (regs : Word → Word) (slot : Slot) (value : Word) :
    slotView ((Device.sticky axiLocks).write regs slot.userReg value) =
      Function.update (slotView regs) slot
        (if (slotView regs slot).2 then (slotView regs slot).1 else value, (slotView regs slot).2) := by
  funext other
  have lock : (Device.sticky axiLocks).write regs slot.userReg value other.lockReg =
      regs other.lockReg := Device.sticky_write_of_ne (Slot.userReg_ne_lockReg slot other).symm value
  by_cases same : other = slot
  · subst same
    rw [Function.update_self, slotView, lock]
    cases locked : (slotView regs other).2 with
    | true =>
        rw [Device.sticky_write_protected ((isProtected_userReg regs other).trans locked)]
        exact congrArg (Prod.mk _) locked
    | false =>
        rw [Device.sticky_write_free ((isProtected_userReg regs other).trans locked)
          other.isLock_regs.1, Function.update_self]
        exact congrArg (Prod.mk _) locked
  · have user : other.userReg ≠ slot.userReg := fun equal => same (Slot.userReg_inj.mp equal)
    rw [Function.update_of_ne same, slotView, lock, Device.sticky_write_of_ne user]
    rfl

/-- A lock that is written is set. -/
theorem slotView_writeLock (regs : Word → Word) (slot : Slot) :
    slotView ((Device.sticky axiLocks).write regs slot.lockReg Mci.mboxAxiUserLockBit) =
      Function.update (slotView regs) slot ((slotView regs slot).1, true) := by
  funext other
  have user : (Device.sticky axiLocks).write regs slot.lockReg Mci.mboxAxiUserLockBit other.userReg =
      regs other.userReg := Device.sticky_write_of_ne (Slot.userReg_ne_lockReg other slot) _
  by_cases same : other = slot
  · subst same
    rw [Function.update_self, slotView, user, Device.sticky_write_lock
      (isProtected_lockReg regs other) other.isLock_regs.2, Function.update_self]
    exact congrArg (Prod.mk _) (Device.lockBit_or (Or.inl (by decide)))
  · have lock : other.lockReg ≠ slot.lockReg := fun equal => same (Slot.lockReg_inj.mp equal)
    rw [Function.update_of_ne same, slotView, user, Device.sticky_write_of_ne lock]
    rfl

/-- A locked slot survives any program, whatever it writes. -/
theorem slotView_locked {α : Type} (program : Driver α) {slot : Slot}
    (locked : (slotView state.1 slot).2 = true) :
    slotView (program.run lockableMci state).state.1 slot = slotView state.1 slot := by
  refine Program.run_invariant
    (fun later : HardwareState => slotView later.1 slot = slotView state.1 slot) ?_ ?_ program rfl
  · intro later addr same
    cases inMci : isMci addr with
    | true =>
        rw [lockableMci_read later inMci]
        exact same
    | false =>
        rw [lockableMci, Device.route_read_right _ _ _ inMci]
        exact same
  · intro later addr value same
    cases inMci : isMci addr with
    | true =>
        have set : Device.lockBit (later.1 slot.lockReg) = true :=
          (congrArg Prod.snd same).trans locked
        have keeps := Device.sticky_write_keeps slot.isLock_regs.2 set addr value
        rw [lockableMci_write later inMci]
        refine (Prod.ext (keeps.2 _ slot.lockOf_userReg) ?_ : _ = slotView later.1 slot).trans same
        exact keeps.1.trans set.symm
    | false =>
        rw [lockableMci, Device.route_write_right _ _ _ inMci]
        exact same

/-! ## The configurator -/

/-- Write a user into a slot and lock it. -/
def configureSlot (user : Word) (slot : Word × Bool) : Word × Bool :=
  (if slot.2 then slot.1 else user, true)

/-- Writing a user and then the lock configures the slot. -/
theorem slotView_configure (regs : Word → Word) (slot : Slot) (user : Word) :
    slotView ((Device.sticky axiLocks).write
        ((Device.sticky axiLocks).write regs slot.userReg user) slot.lockReg Mci.mboxAxiUserLockBit) =
      Function.update (slotView regs) slot (configureSlot user (slotView regs slot)) := by
  rw [slotView_writeLock, slotView_writeUser, Function.update_self, Function.update_idem]
  rfl

theorem configureSlot_idem (user : Word) (slot : Word × Bool) :
    configureSlot user (configureSlot user slot) = configureSlot user slot := rfl

namespace Mbox

variable (mbox : Mbox)

def readValidAxiUser (index : SizeT) : Driver (Option Word) :=
  romEnv.mci.readArray mbox.userBase Mci.mboxAxiUserCount index

def readAxiUserLock (index : SizeT) : Driver (Option Bool) :=
  romEnv.mci.readLockArray mbox.lockBase Mci.mboxAxiUserCount index

def writeValidAxiUser (index : SizeT) (value : Word) : Driver Bool :=
  romEnv.mci.writeArray mbox.userBase Mci.mboxAxiUserCount index value

def lockAxiUser (index : SizeT) : Driver Bool :=
  romEnv.mci.writeArray mbox.lockBase Mci.mboxAxiUserCount index Mci.mboxAxiUserLockBit

/-- The ROM's slots are within the driver's arrays. -/
theorem inRange (i : Fin mcuMboxUsers) : ¬ sizeT Mci.mboxAxiUserCount ≤ sizeT i := by
  revert i
  decide

theorem run_writeValidAxiUser (i : Fin mcuMboxUsers) (value : Word) :
    (mbox.writeValidAxiUser (sizeT i) value).run lockableMci state =
      ⟨[.write (Slot.userReg (mbox, i)) value], true,
        ((Device.sticky axiLocks).write state.1 (Slot.userReg (mbox, i)) value, state.2)⟩ := by
  rw [writeValidAxiUser, Mci.writeArray, if_neg (inRange i), Program.run_bind]
  exact congrArg (Run.mk _ true) (lockableMci_write state (Slot.isMci_regs (mbox, i)).1 value)

theorem run_lockAxiUser (i : Fin mcuMboxUsers) :
    (mbox.lockAxiUser (sizeT i)).run lockableMci state =
      ⟨[.write (Slot.lockReg (mbox, i)) Mci.mboxAxiUserLockBit], true,
        ((Device.sticky axiLocks).write state.1 (Slot.lockReg (mbox, i)) Mci.mboxAxiUserLockBit,
          state.2)⟩ := by
  rw [lockAxiUser, Mci.writeArray, if_neg (inRange i), Program.run_bind]
  exact congrArg (Run.mk _ true) (lockableMci_write state (Slot.isMci_regs (mbox, i)).2 _)

/-- An entry that is filled in first is an entry of the longer list. -/
theorem fill_cons {β : Type} {mboxUsers : MboxArray Word} {i : Fin mcuMboxUsers}
    (rest : List (Fin mcuMboxUsers)) (used : mboxUsers i ≠ 0) (content start : MboxArray β) :
    (fun j => if j ∈ rest ∧ mboxUsers j ≠ 0 then content j
      else Function.update start i (content i) j) =
      fun j => if j ∈ i :: rest ∧ mboxUsers j ≠ 0 then content j else start j := by
  funext j
  by_cases same : j = i
  · subst same
    rw [Function.update_self, ite_self, if_pos ⟨List.mem_cons_self, used⟩]
  · simp only [Function.update_of_ne same, List.mem_cons, same, false_or]

/-- The loop over one mailbox: each slot of the list with a user is written
and locked, the others are left alone, and the arrays say which is which. -/
theorem run_configureMboxUsers (gWriter : Option Writer) (message : String)
    (mboxUsers : MboxArray Word) (list : List (Fin mcuMboxUsers))
    (users : MboxArray (Option Word)) (locks : MboxArray Bool) (state : HardwareState) :
    let run := (configureMboxUsers gWriter message mbox.writeValidAxiUser mbox.lockAxiUser mboxUsers
      list users locks).run lockableMci state
    run.result =
        (fun i => if i ∈ list ∧ mboxUsers i ≠ 0 then some (mboxUsers i) else users i,
          fun i => if i ∈ list ∧ mboxUsers i ≠ 0 then true else locks i) ∧
      slotView run.state.1 = fun slot =>
        if slot.1 = mbox ∧ slot.2 ∈ list ∧ mboxUsers slot.2 ≠ 0 then
          configureSlot (mboxUsers slot.2) (slotView state.1 slot)
        else slotView state.1 slot := by
  induction list generalizing users locks state with
  | nil => simp [configureMboxUsers]
  | cons i rest ih =>
      by_cases unused : mboxUsers i = 0
      · have step := ih users locks state
        have skip : ∀ j, (j ∈ i :: rest ∧ mboxUsers j ≠ 0) ↔ (j ∈ rest ∧ mboxUsers j ≠ 0) := by
          intro j
          constructor
          · rintro ⟨member, used⟩
            rcases List.mem_cons.mp member with same | later
            · exact absurd (same ▸ unused) used
            · exact ⟨later, used⟩
          · rintro ⟨member, used⟩
            exact ⟨List.mem_cons_of_mem _ member, used⟩
        rw [configureMboxUsers, if_neg (not_not_intro unused)]
        simp only [skip]
        exact step
      · let next : HardwareState :=
          ((Device.sticky axiLocks).write
            ((Device.sticky axiLocks).write state.1 (Slot.userReg (mbox, i)) (mboxUsers i))
            (Slot.lockReg (mbox, i)) Mci.mboxAxiUserLockBit, state.2)
        have step := ih (Function.update users i (some (mboxUsers i))) (Function.update locks i true)
          next
        have view : slotView next.1 = Function.update (slotView state.1) (mbox, i)
            (configureSlot (mboxUsers i) (slotView state.1 (mbox, i))) := slotView_configure _ _ _
        have used : mboxUsers i ≠ 0#32 := unused
        rw [configureMboxUsers, if_pos unused]
        simp only [Program.run_bind, lockableMci_ignoresConsole.run_println,
          run_writeValidAxiUser, run_lockAxiUser, Run.after_result, Run.after_state]
        refine ⟨step.1.trans ?_, step.2.trans ?_⟩
        · apply Prod.ext
          · exact fill_cons rest used (fun j => some (mboxUsers j)) users
          · exact fill_cons rest used (fun _ => true) locks
        · rw [view]
          funext slot
          by_cases same : slot = (mbox, i)
          · simp [same, used, configureSlot_idem]
          · have other : slot.1 = mbox → slot.2 ≠ i := fun mine equal => same (Prod.ext mine equal)
            by_cases mine : slot.1 = mbox
            · simp [Function.update_of_ne same, mine, other mine]
            · simp [Function.update_of_ne same, mine]

end Mbox

/-! ## Configuring both mailboxes -/

/-- Per-mailbox access to the arrays of a configuration. -/
def McuMboxAxiUserConfig.users (config : McuMboxAxiUserConfig) (slot : Slot) : Option Word :=
  match slot.1 with
  | .mbox0 => config.mbox0Users slot.2
  | .mbox1 => config.mbox1Users slot.2

def McuMboxAxiUserConfig.locks (config : McuMboxAxiUserConfig) (slot : Slot) : Bool :=
  match slot.1 with
  | .mbox0 => config.mbox0Locks slot.2
  | .mbox1 => config.mbox1Locks slot.2

/-- The user a slot is strapped with. -/
def strapped (mbox0Users mbox1Users : MboxArray Word) (slot : Slot) : Word :=
  match slot.1 with
  | .mbox0 => mbox0Users slot.2
  | .mbox1 => mbox1Users slot.2

/-- The configurator fills in every slot with a user, and nothing else. -/
theorem run_configureMcuMboxAxiUsers (gWriter : Option Writer)
    (mbox0Users mbox1Users : MboxArray Word) (state : HardwareState) :
    let run := (configureMcuMboxAxiUsers gWriter romEnv.mci mbox0Users mbox1Users).run lockableMci
      state
    let user := strapped mbox0Users mbox1Users
    (∀ slot, run.result.users slot = if user slot ≠ 0 then some (user slot) else none) ∧
      (∀ slot, run.result.locks slot = if user slot ≠ 0 then true else false) ∧
      ∀ slot, slotView run.state.1 slot =
        if user slot ≠ 0 then configureSlot (user slot) (slotView state.1 slot)
        else slotView state.1 slot := by
  intro run user
  let first := (configureMboxUsers gWriter "[mcu-rom] Setting MCI mailbox 0 user"
    Mbox.mbox0.writeValidAxiUser Mbox.mbox0.lockAxiUser mbox0Users (List.finRange mcuMboxUsers)
    (fun _ => none) (fun _ => false)).run lockableMci state
  let second := (configureMboxUsers gWriter "[mcu-rom] Setting MCI mailbox 1 user"
    Mbox.mbox1.writeValidAxiUser Mbox.mbox1.lockAxiUser mbox1Users (List.finRange mcuMboxUsers)
    (fun _ => none) (fun _ => false)).run lockableMci first.state
  have whole : run.result = ⟨first.result.1, second.result.1, first.result.2, second.result.2⟩ ∧
      run.state = second.state := by
    simp only [run, configureMcuMboxAxiUsers, Program.run_bind, Run.after_result, Run.after_state,
      Program.pure_eq, Program.run_ret]
    exact ⟨rfl, rfl⟩
  have left := Mbox.mbox0.run_configureMboxUsers gWriter "[mcu-rom] Setting MCI mailbox 0 user"
    mbox0Users (List.finRange mcuMboxUsers) (fun _ => none) (fun _ => false) state
  have right := Mbox.mbox1.run_configureMboxUsers gWriter "[mcu-rom] Setting MCI mailbox 1 user"
    mbox1Users (List.finRange mcuMboxUsers) (fun _ => none) (fun _ => false) first.state
  simp only [List.mem_finRange, true_and] at left right
  refine ⟨?_, ?_, ?_⟩
  · rintro ⟨mbox, i⟩
    rw [whole.1]
    cases mbox with
    | mbox0 => exact congrFun (congrArg Prod.fst left.1) i
    | mbox1 => exact congrFun (congrArg Prod.fst right.1) i
  · rintro ⟨mbox, i⟩
    rw [whole.1]
    cases mbox with
    | mbox0 => exact congrFun (congrArg Prod.snd left.1) i
    | mbox1 => exact congrFun (congrArg Prod.snd right.1) i
  · rintro ⟨mbox, i⟩
    have after := congrFun right.2 (mbox, i)
    have before := congrFun left.2 (mbox, i)
    rw [whole.2]
    cases mbox with
    | mbox0 =>
        simp only [reduceCtorEq, false_and, if_false, true_and] at after before
        exact after.trans before
    | mbox1 =>
        simp only [reduceCtorEq, false_and, if_false, true_and] at after before
        rw [before] at after
        exact after

/-! ## The verifier -/

/-- A check: it leaves the hardware alone, and succeeds exactly if a
condition holds. -/
structure Decides (program : Driver (McuResult Unit)) (state : HardwareState) (holds : Prop) :
    Prop where
  frame : (program.run lockableMci state).state = state
  accepts : holds → (program.run lockableMci state).result = .ok ()
  rejects : ¬ holds → (program.run lockableMci state).result = .error .mboxInvalidResponse

namespace Decides

variable {state} {program : Driver (McuResult Unit)} {first second : Prop}

theorem ok_iff (decides : Decides program state first) :
    (program.run lockableMci state).result = .ok () ↔ first := by
  constructor
  · intro accepted
    by_contra wrong
    rw [decides.rejects wrong] at accepted
    cases accepted
  · exact decides.accepts

theorem congr (decides : Decides program state first) (same : first ↔ second) :
    Decides program state second :=
  ⟨decides.frame, fun holds => decides.accepts (same.mpr holds),
    fun wrong => decides.rejects fun holds => wrong (same.mp holds)⟩

/-- Two checks in a row. -/
theorem andThen {rest : Driver (McuResult Unit)} (left : Decides program state first)
    (right : Decides rest state second) :
    Decides (Driver.andThen program fun () => rest) state (first ∧ second) := by
  by_cases holds : first
  · have ran := Driver.run_andThen_ok lockableMci (fun () => rest) (left.accepts holds)
    rw [left.frame] at ran
    refine ⟨?_, fun both => ?_, fun wrong => ?_⟩
    · rw [ran]
      exact right.frame
    · rw [ran]
      exact right.accepts both.2
    · rw [ran]
      exact right.rejects fun other => wrong ⟨holds, other⟩
  · have ran := Driver.run_andThen_error lockableMci (fun () => rest) (left.rejects holds)
    refine ⟨?_, fun both => absurd both.1 holds, fun _ => ?_⟩
    · rw [ran]
      exact left.frame
    · rw [ran]

/-- Reading a register and comparing it with what is expected of it. -/
theorem compare {α : Type} [DecidableEq α] {read : Driver (Option α)} {actual : α}
    (answer : (read.run lockableMci state).result = some actual)
    (frame : (read.run lockableMci state).state = state) (gWriter : Option Writer)
    (message : String) (expected default : α) :
    Decides (do
      let actualResult ← read
      if expected ≠ actualResult.getD default then do
        println gWriter message
        pure (.error .mboxInvalidResponse)
      else pure (.ok ())) state (expected = actual) := by
  by_cases same : expected = actual
  · refine ⟨?_, fun _ => ?_, fun wrong => absurd same wrong⟩
    · simp only [Program.run_bind, answer, frame, Option.getD_some, same, ne_eq, not_true_eq_false,
        if_false]
      rfl
    · simp only [Program.run_bind, answer, frame, Option.getD_some, same, ne_eq, not_true_eq_false,
        if_false]
      rfl
  · refine ⟨?_, fun holds => absurd holds same, fun _ => ?_⟩
    · simp only [Program.run_bind, answer, frame, Option.getD_some, same, ne_eq, not_false_eq_true,
        if_true, lockableMci_ignoresConsole.run_println]
      rfl
    · simp only [Program.run_bind, answer, frame, Option.getD_some, same, ne_eq, not_false_eq_true,
        if_true, lockableMci_ignoresConsole.run_println]
      rfl

end Decides

/-- A slot is as a configuration has it. -/
def SlotMatches (user : Option Word) (lock : Bool) (slot : Word × Bool) : Prop :=
  (∀ value, user = some value → slot.1 = value) ∧ slot.2 = lock

namespace Mbox

variable (state : HardwareState) (mbox : Mbox) (gWriter : Option Writer)

theorem readValidAxiUser_answer (i : Fin mcuMboxUsers) :
    ((mbox.readValidAxiUser (sizeT i)).run lockableMci state).result =
        some (slotView state.1 (mbox, i)).1 ∧
      ((mbox.readValidAxiUser (sizeT i)).run lockableMci state).state = state := by
  rw [readValidAxiUser, Mci.readArray, if_neg (inRange i), Program.run_bind,
    run_mciRead state (Slot.isMci_regs (mbox, i)).1]
  exact ⟨rfl, rfl⟩

theorem readAxiUserLock_answer (i : Fin mcuMboxUsers) :
    ((mbox.readAxiUserLock (sizeT i)).run lockableMci state).result =
        some (slotView state.1 (mbox, i)).2 ∧
      ((mbox.readAxiUserLock (sizeT i)).run lockableMci state).state = state := by
  rw [readAxiUserLock, Mci.readLockArray, if_neg (inRange i), Program.run_bind,
    run_mciRead state (Slot.isMci_regs (mbox, i)).2]
  exact ⟨rfl, rfl⟩

theorem decides_verifyMboxUser (message : String) (expected : Option Word) (i : Fin mcuMboxUsers) :
    Decides (verifyMboxUser gWriter message mbox.readValidAxiUser expected (sizeT i)) state
      (∀ value, expected = some value → (slotView state.1 (mbox, i)).1 = value) := by
  have answer := mbox.readValidAxiUser_answer state i
  cases expected with
  | none =>
      refine ⟨rfl, fun _ => rfl, fun wrong => absurd ?_ wrong⟩
      intro value impossible
      cases impossible
  | some value =>
      refine (Decides.compare answer.1 answer.2 gWriter message value 0).congr ?_
      constructor
      · rintro same other ⟨⟩
        exact same.symm
      · intro all
        exact (all value rfl).symm

theorem decides_verifyMboxLock (message : String) (expected : Bool) (i : Fin mcuMboxUsers) :
    Decides (verifyMboxLock gWriter message mbox.readAxiUserLock expected (sizeT i)) state
      (expected = (slotView state.1 (mbox, i)).2) :=
  Decides.compare (mbox.readAxiUserLock_answer state i).1 (mbox.readAxiUserLock_answer state i).2
    gWriter message expected false

/-- The loop over one mailbox checks the slots of the list. -/
theorem decides_verifyMboxUsers (userMessage lockMessage : String)
    (users : MboxArray (Option Word)) (locks : MboxArray Bool) (list : List (Fin mcuMboxUsers)) :
    Decides (verifyMboxUsers gWriter userMessage lockMessage mbox.readValidAxiUser
        mbox.readAxiUserLock users locks list) state
      (∀ i ∈ list, SlotMatches (users i) (locks i) (slotView state.1 (mbox, i))) := by
  induction list with
  | nil =>
      refine ⟨rfl, fun _ => rfl, fun wrong => absurd ?_ wrong⟩
      intro i impossible
      cases impossible
  | cons i rest ih =>
      have user := mbox.decides_verifyMboxUser state gWriter userMessage (users i) i
      have lock := mbox.decides_verifyMboxLock state gWriter lockMessage (locks i) i
      refine (user.andThen (lock.andThen ih)).congr ?_
      rw [List.forall_mem_cons, SlotMatches, eq_comm (a := locks i), and_assoc]

end Mbox

variable (gWriter : Option Writer) (expected : McuMboxAxiUserConfig)

/-- The verifier accepts exactly if every slot that the arrays have an entry
for is as the configuration has it. -/
theorem decides_verifyMcuMboxAxiUsers :
    Decides (verifyMcuMboxAxiUsers gWriter romEnv.mci expected) state
      (∀ slot, SlotMatches (expected.users slot) (expected.locks slot) (slotView state.1 slot)) := by
  have passed : Decides (do
      println gWriter "[mcu-rom] MCU mailbox AXI user verification passed"
      pure (.ok ())) state True := by
    refine ⟨?_, fun _ => ?_, fun wrong => absurd trivial wrong⟩
    · rw [Program.run_bind, lockableMci_ignoresConsole.run_println]
      rfl
    · rw [Program.run_bind, lockableMci_ignoresConsole.run_println]
      rfl
  have left := Mbox.mbox0.decides_verifyMboxUsers state gWriter
    "[mcu-rom] MCU mailbox 0 user verification failed"
    "[mcu-rom] MCU mailbox 0 user lock verification failed" expected.mbox0Users
    expected.mbox0Locks (List.finRange mcuMboxUsers)
  have right := Mbox.mbox1.decides_verifyMboxUsers state gWriter
    "[mcu-rom] MCU mailbox 1 user verification failed"
    "[mcu-rom] MCU mailbox 1 user lock verification failed" expected.mbox1Users
    expected.mbox1Locks (List.finRange mcuMboxUsers)
  refine (left.andThen (right.andThen passed)).congr ?_
  constructor
  · rintro ⟨first, second, _⟩ ⟨mbox, i⟩
    cases mbox with
    | mbox0 => exact first i (List.mem_finRange i)
    | mbox1 => exact second i (List.mem_finRange i)
  · intro all
    exact ⟨fun i _ => all (.mbox0, i), fun i _ => all (.mbox1, i), trivial⟩

end McuRom
