import McuRom.Mmio.Objects
import McuRom.Mmio.RegisterArrays
import McuRom.Romtime.Interrupts
import McuRom.Romtime.MciDriver
import McuRom.Romtime.SlotRegisters

namespace McuRom

open Mmio

/-!
# The MCI driver implements a record

To its callers the control interface is a record: the watchdog timers have
64-bit periods, the flow status is a checkpoint and a set of milestones, the
mailboxes have eight users each with a lock.  The driver works on it one
32-bit register after another.  Whatever sequence of calls is made, it returns
what the record would return.

The notification register is cleared by writing ones to it; the other
registers keep what is written to them.
-/

namespace Mci

/-! ## The record -/

/-- The eight AXI users of a mailbox, and which of them are locked. -/
structure MboxUsers where
  users : Fin mboxAxiUserCount → Word
  locked : Fin mboxAxiUserCount → Bool

/-- The control interface as a record. -/
structure Block where
  securityState : Word
  hwFlowStatus : Word
  resetReason : Word
  inputWires : Fin 2 → Word
  pkHash : Fin pkHashRegCount → Word
  bootGo : Word
  flow : FlowCells
  fwErrorFatal : Word
  nmiVector : Word
  /-- the periods of the watchdog timers -/
  wdt1 : BitVec 64
  wdt2 : BitVec 64
  wdt1Ctrl : Word
  wdt1En : Word
  resetRequest : Word
  ssConfigDoneSticky : Bool
  ssConfigDone : Bool
  notif0Trig : Word
  /-- the notifications that are pending -/
  notif0 : Word
  mbox0 : MboxUsers
  mbox1 : MboxUsers

namespace Block

/-- The lifecycle is encoded in two bits. -/
def lifecycle (block : Block) : DeviceLifecycleState :=
  match block.securityState.toNat % 4 with
  | 0 => .deviceUnprovisioned
  | 1 => .deviceManufacturing
  | 2 => .deviceProvisioned
  | _ => .deviceSecurityLocked

/-- Is the reset reason the given one? -/
def isReason (block : Block) (reason : McuResetReason) : Bool :=
  decodeResetReason block.resetReason == reason

def reply (block : Block) : Call → Reply
  | .deviceLifecycleState => .lifecycle block.lifecycle
  | .securityState => .word block.securityState
  | .flowStatus => .word block.flow.status
  | .flowCheckpoint => .half block.flow.checkpoint
  | .flowMilestone => .half block.flow.milestone
  | .hwFlowStatus => .word block.hwFlowStatus
  | .genericInputWires index => .word ((entryAt block.inputWires index).getD 0)
  | .resetReason => .word block.resetReason
  | .resetReasonEnum => .reason (decodeResetReason block.resetReason)
  | .isColdReset => .bool (block.isReason .coldBoot)
  | .isWarmReset => .bool (block.isReason .warmReset)
  | .isFwBootUpdateReset => .bool (block.isReason .firmwareBootReset)
  | .isFwHitlessUpdateReset => .bool (block.isReason .firmwareHitlessUpdate)
  | .readNotif0IntrTrigR => .word block.notif0Trig
  | .readWdtTimer1En => .word block.wdt1En
  | .isSsConfigDoneSticky => .bool block.ssConfigDoneSticky
  | .isSsConfigDone => .bool block.ssConfigDone
  | .readProdDebugUnlockPkHash index => .word? (entryAt block.pkHash index)
  | .prodDebugUnlockPkHashLen => .size (sizeT pkHashRegCount)
  | .readMbox0ValidAxiUser index => .word? (entryAt block.mbox0.users index)
  | .readMbox0AxiUserLock index => .bool? (entryAt block.mbox0.locked index)
  | .readMbox1ValidAxiUser index => .word? (entryAt block.mbox1.users index)
  | .readMbox1AxiUserLock index => .bool? (entryAt block.mbox1.locked index)
  | .mboxAxiUserLen => .size (sizeT mboxAxiUserCount)
  | .writeMbox0ValidAxiUser index _ | .lockMbox0AxiUser index
  | .writeMbox1ValidAxiUser index _ | .lockMbox1AxiUser index =>
      .bool (decide (index.toNat < mboxAxiUserCount))
  | _ => .unit

def update (block : Block) : Call → Block
  | .caliptraBootGo => { block with bootGo := 1 }
  | .setFlowStatus status => { block with flow := FlowCells.ofStatus status }
  | .setFlowCheckpoint checkpoint =>
      { block with flow := block.flow.update (.setFlowCheckpoint checkpoint) }
  | .setFlowMilestone milestone =>
      { block with flow := block.flow.update (.setFlowMilestone milestone) }
  | .setFwFatalError code => { block with fwErrorFatal := code }
  | .setNmiVector nmiVector => { block with nmiVector := nmiVector }
  | .configureWdt wdt1 wdt2 =>
      { block with
        wdt1 := wdt1.setWidth 64
        wdt2 := wdt2.setWidth 64
        wdt1Ctrl := 1
        wdt1En := 1 }
  | .disableWdt => { block with wdt1En := 0 }
  | .writeNotif0IntrTrigR value => { block with notif0Trig := value }
  | .writeWdtTimer1En value => { block with wdt1En := value }
  | .handleInterrupt =>
      -- with a reset request, every notification is cleared
      if block.notif0 &&& notifCptraMcuResetReqStsMask ≠ 0 then
        { block with notif0 := 0, resetRequest := block.resetRequest ||| resetRequestMcuReq }
      else block
  | .triggerWarmReset => { block with resetRequest := 1 }
  | .setSsConfigDoneSticky => { block with ssConfigDoneSticky := true }
  | .setSsConfigDone => { block with ssConfigDone := true }
  | .writeMbox0ValidAxiUser index value =>
      { block with mbox0 := { block.mbox0 with users := setEntry block.mbox0.users index value } }
  | .lockMbox0AxiUser index =>
      { block with mbox0 := { block.mbox0 with locked := setEntry block.mbox0.locked index true } }
  | .writeMbox1ValidAxiUser index value =>
      { block with mbox1 := { block.mbox1 with users := setEntry block.mbox1.users index value } }
  | .lockMbox1AxiUser index =>
      { block with mbox1 := { block.mbox1 with locked := setEntry block.mbox1.locked index true } }
  | _ => block

/-- The record as an object. -/
def object : Object Call Reply Block := ⟨reply, update⟩

end Block

/-! ## The registers as a record -/

def isLocked (word : Word) : Bool := word &&& mboxAxiUserLockBit != 0

/-- The record that registers represent, by their offsets. -/
def Block.ofCells (cells : Word → Word) (pending : Word) : Block where
  securityState := cells regSecurityState
  hwFlowStatus := cells regHwFlowStatus
  resetReason := cells regResetReason
  inputWires := entries cells 0x400 2
  pkHash := entries cells regProdDebugUnlockPkHashBase pkHashRegCount
  bootGo := cells regCptraBootGo
  flow := FlowCells.ofStatus (cells regFwFlowStatus)
  fwErrorFatal := cells regFwErrorFatal
  nmiVector := cells regMcuNmiVector
  wdt1 := cells regWdtTimer1TimeoutPeriod1 ++ cells regWdtTimer1TimeoutPeriod0
  wdt2 := cells regWdtTimer2TimeoutPeriod1 ++ cells regWdtTimer2TimeoutPeriod0
  wdt1Ctrl := cells regWdtTimer1Ctrl
  wdt1En := cells regWdtTimer1En
  resetRequest := cells regResetRequest
  ssConfigDoneSticky := cells regSsConfigDoneSticky &&& ssConfigDoneBit != 0
  ssConfigDone := cells regSsConfigDone &&& ssConfigDoneBit != 0
  notif0Trig := cells regNotif0IntrTrigR
  notif0 := pending
  mbox0 := ⟨entries cells regMbox0ValidAxiUserBase mboxAxiUserCount,
    fun i => isLocked (entries cells regMbox0AxiUserLockBase mboxAxiUserCount i)⟩
  mbox1 := ⟨entries cells regMbox1ValidAxiUserBase mboxAxiUserCount,
    fun i => isLocked (entries cells regMbox1AxiUserLockBase mboxAxiUserCount i)⟩

variable (mci : Mci)

/-- The interrupt register in front of the other registers. -/
def registerDevice : Device Word Word (Notifications 32 (Word → Word)) :=
  Device.writeOneToClear (mci.reg regNotif0InternalIntrR) Device.storage

/-- The record that the registers represent. -/
def block (state : Notifications 32 (Word → Word)) : Block :=
  Block.ofCells (fun offset => state.rest (mci.reg offset)) state.pending

/-! ## One register -/

variable {mci} {cells : Word → Word}

/-- A read of which the caller uses what the record has. -/
theorem acts_readPart {α : Type} {offset : Word} (part : Word → α) {content : Block → α}
    (notIntr : offset ≠ regNotif0InternalIntrR)
    (shown : ∀ cells pending, part (cells offset) = content (Block.ofCells cells pending)) :
    Program.Acts mci.registerDevice mci.block
      (mci.readReg offset >>= fun value => pure (part value)) content id := by
  constructor
  · intro state
    rw [Program.run_bind, readReg, Program.run_readReg, registerDevice,
      Device.writeOneToClear_read_of_ne (reg_ne mci notIntr)]
    exact shown (fun offset => state.rest (mci.reg offset)) state.pending
  · intro state
    rw [Program.run_bind, readReg, Program.run_readReg, registerDevice,
      Device.writeOneToClear_read_of_ne (reg_ne mci notIntr)]
    rfl

theorem acts_readReg {offset : Word} {content : Block → Word}
    (notIntr : offset ≠ regNotif0InternalIntrR)
    (shown : ∀ cells pending, cells offset = content (Block.ofCells cells pending)) :
    Program.Acts mci.registerDevice mci.block (mci.readReg offset) content id :=
  acts_readPart id notIntr shown

/-- Writing a register, seen by the offsets. -/
theorem cells_update (file : Word → Word) (offset value : Word) :
    (fun other => Function.update file (mci.reg offset) value (mci.reg other)) =
      Function.update (fun other => file (mci.reg other)) offset value := by
  funext other
  by_cases same : other = offset
  · rw [same, Function.update_self, Function.update_self]
  · rw [Function.update_of_ne same, Function.update_of_ne (reg_ne mci same)]

theorem acts_writeReg {offset value : Word} {update : Block → Block}
    (notIntr : offset ≠ regNotif0InternalIntrR)
    (stored : ∀ cells pending, Block.ofCells (Function.update cells offset value) pending =
      update (Block.ofCells cells pending)) :
    Program.Acts mci.registerDevice mci.block (mci.writeReg offset value) (fun _ => ()) update := by
  apply Program.acts_writeReg
  intro state
  rw [registerDevice, Device.writeOneToClear_write_of_ne (reg_ne mci notIntr)]
  exact (congrArg (fun cells => Block.ofCells cells state.pending)
    (cells_update state.rest offset value)).trans (stored _ _)

/-! ## The mailboxes' arrays -/

/-- The index need not be a number. -/
theorem user_toNat {base : Word} {index : SizeT} (inside : index.toNat < mboxAxiUserCount)
    (fits : base.toNat + 4 * mboxAxiUserCount ≤ 2 ^ 32) :
    (base + index * 4).toNat = base.toNat + 4 * index.toNat := by
  rw [← slot_index, slot_toNat fits inside]

theorem cells_of_user {base offset : Word} {index : SizeT}
    (inside : index.toNat < mboxAxiUserCount) (fits : base.toNat + 4 * mboxAxiUserCount ≤ 2 ^ 32)
    (outside : offset.toNat < base.toNat ∨ base.toNat + 4 * mboxAxiUserCount ≤ offset.toNat)
    (value : Word) : Function.update cells (base + index * 4) value offset = cells offset := by
  apply Function.update_of_ne
  rintro rfl
  rw [user_toNat inside fits] at outside
  omega

theorem entries_of_user {base other : Word} {count : Nat} {index : SizeT}
    (inside : index.toNat < mboxAxiUserCount) (fits : base.toNat + 4 * mboxAxiUserCount ≤ 2 ^ 32)
    (otherFits : other.toNat + 4 * count ≤ 2 ^ 32)
    (apart : other.toNat + 4 * count ≤ base.toNat ∨
      base.toNat + 4 * mboxAxiUserCount ≤ other.toNat) (value : Word) :
    entries (Function.update cells (base + index * 4) value) other count =
      entries cells other count := by
  apply entries_of_outside otherFits
  rw [user_toNat inside fits]
  omega

/-- Locking a user sets its lock bit. -/
theorem isLocked_setEntry {count : Nat} (content : Fin count → Word) (index : SizeT)
    (value : Word) : (fun i => isLocked (setEntry content index value i)) =
      setEntry (fun i => isLocked (content i)) index (isLocked value) := by
  funext i
  exact apply_ite isLocked (i.val = index.toNat) value (content i)

/-! ## What a write to a register means for the record -/

section Stored

variable (cells : Word → Word) (pending value : Word)

theorem ofCells_bootGo : Block.ofCells (Function.update cells regCptraBootGo value) pending =
    { Block.ofCells cells pending with bootGo := value } := by
  unfold Block.ofCells
  simp (disch := decide) only [Function.update_of_ne, Function.update_self, entries_of_outside]

theorem ofCells_fwErrorFatal : Block.ofCells (Function.update cells regFwErrorFatal value) pending =
    { Block.ofCells cells pending with fwErrorFatal := value } := by
  unfold Block.ofCells
  simp (disch := decide) only [Function.update_of_ne, Function.update_self, entries_of_outside]

theorem ofCells_nmiVector : Block.ofCells (Function.update cells regMcuNmiVector value) pending =
    { Block.ofCells cells pending with nmiVector := value } := by
  unfold Block.ofCells
  simp (disch := decide) only [Function.update_of_ne, Function.update_self, entries_of_outside]

theorem ofCells_wdt1En : Block.ofCells (Function.update cells regWdtTimer1En value) pending =
    { Block.ofCells cells pending with wdt1En := value } := by
  unfold Block.ofCells
  simp (disch := decide) only [Function.update_of_ne, Function.update_self, entries_of_outside]

theorem ofCells_resetRequest : Block.ofCells (Function.update cells regResetRequest value) pending =
    { Block.ofCells cells pending with resetRequest := value } := by
  unfold Block.ofCells
  simp (disch := decide) only [Function.update_of_ne, Function.update_self, entries_of_outside]

theorem ofCells_flow : Block.ofCells (Function.update cells regFwFlowStatus value) pending =
    { Block.ofCells cells pending with flow := FlowCells.ofStatus value } := by
  unfold Block.ofCells
  simp (disch := decide) only [Function.update_of_ne, Function.update_self, entries_of_outside]

theorem ofCells_ssConfigDoneSticky :
    Block.ofCells (Function.update cells regSsConfigDoneSticky value) pending =
    { Block.ofCells cells pending with
      ssConfigDoneSticky := value &&& ssConfigDoneBit != 0 } := by
  unfold Block.ofCells
  simp (disch := decide) only [Function.update_of_ne, Function.update_self, entries_of_outside]

theorem ofCells_ssConfigDone : Block.ofCells (Function.update cells regSsConfigDone value) pending =
    { Block.ofCells cells pending with ssConfigDone := value &&& ssConfigDoneBit != 0 } := by
  unfold Block.ofCells
  simp (disch := decide) only [Function.update_of_ne, Function.update_self, entries_of_outside]

theorem ofCells_notif0Trig : Block.ofCells (Function.update cells regNotif0IntrTrigR value) pending =
    { Block.ofCells cells pending with notif0Trig := value } := by
  unfold Block.ofCells
  simp (disch := decide) only [Function.update_of_ne, Function.update_self, entries_of_outside]

/-- The six writes that configure the watchdogs. -/
theorem ofCells_configureWdt (wdt1 wdt2 : Word) :
    Block.ofCells (Function.update (Function.update (Function.update (Function.update
        (Function.update (Function.update cells regWdtTimer1TimeoutPeriod0 wdt1)
          regWdtTimer1TimeoutPeriod1 0) regWdtTimer2TimeoutPeriod0 wdt2)
        regWdtTimer2TimeoutPeriod1 0) regWdtTimer1Ctrl 1) regWdtTimer1En 1) pending =
      { Block.ofCells cells pending with
        wdt1 := (0 : Word) ++ wdt1
        wdt2 := (0 : Word) ++ wdt2
        wdt1Ctrl := 1
        wdt1En := 1 } := by
  unfold Block.ofCells
  simp (disch := decide) only [Function.update_of_ne, Function.update_self, entries_of_outside]

theorem ofCells_mbox0Users {index : SizeT} (inside : index.toNat < mboxAxiUserCount) :
    Block.ofCells (Function.update cells (regMbox0ValidAxiUserBase + index * 4) value) pending =
      (Block.ofCells cells pending).update (.writeMbox0ValidAxiUser index value) := by
  unfold Block.ofCells
  simp (disch := first | decide | exact inside) only [cells_of_user inside,
    entries_of_user inside, entries_of_inside]
  rfl

theorem ofCells_mbox0Locked {index : SizeT} (inside : index.toNat < mboxAxiUserCount) :
    Block.ofCells (Function.update cells (regMbox0AxiUserLockBase + index * 4)
        mboxAxiUserLockBit) pending =
      (Block.ofCells cells pending).update (.lockMbox0AxiUser index) := by
  unfold Block.ofCells
  simp (disch := first | decide | exact inside) only [cells_of_user inside,
    entries_of_user inside, entries_of_inside, isLocked_setEntry]
  rfl

theorem ofCells_mbox1Users {index : SizeT} (inside : index.toNat < mboxAxiUserCount) :
    Block.ofCells (Function.update cells (regMbox1ValidAxiUserBase + index * 4) value) pending =
      (Block.ofCells cells pending).update (.writeMbox1ValidAxiUser index value) := by
  unfold Block.ofCells
  simp (disch := first | decide | exact inside) only [cells_of_user inside,
    entries_of_user inside, entries_of_inside]
  rfl

theorem ofCells_mbox1Locked {index : SizeT} (inside : index.toNat < mboxAxiUserCount) :
    Block.ofCells (Function.update cells (regMbox1AxiUserLockBase + index * 4)
        mboxAxiUserLockBit) pending =
      (Block.ofCells cells pending).update (.lockMbox1AxiUser index) := by
  unfold Block.ofCells
  simp (disch := first | decide | exact inside) only [cells_of_user inside,
    entries_of_user inside, entries_of_inside, isLocked_setEntry]
  rfl

end Stored

end Mci

end McuRom
