import McuRom.Common.Types

namespace McuRom

open Mmio

/-!
# The MCI driver

Boot progress, fatal errors and the reset reason live in the MCU control
interface.  Checkpoint and milestone share one register: the low half holds
the last checkpoint and the high half accumulates milestones.
-/

/-- MCU Reset Reason -/
inductive McuResetReason where
  | coldBoot
  | warmReset
  | firmwareBootReset
  | firmwareHitlessUpdate
  | invalid
deriving DecidableEq, Repr

/-- Device Lifecycle State -/
inductive DeviceLifecycleState where
  | deviceUnprovisioned
  | deviceManufacturing
  | deviceProvisioned
  | deviceSecurityLocked
deriving DecidableEq, Repr

/-- MCI (MCU Control Interface) driver -/
structure Mci where
  baseAddr : Word
deriving DecidableEq, Repr

namespace Mci

/-! ## Register map -/

def regSecurityState : Word := 0x00
def regCptraBootGo : Word := 0x04
def regFwFlowStatus : Word := 0x08
def regFwErrorFatal : Word := 0x0C
def regHwFlowStatus : Word := 0x10
def regMcuNmiVector : Word := 0x14
def regWdtTimer1TimeoutPeriod0 : Word := 0x18
def regWdtTimer1TimeoutPeriod1 : Word := 0x1C
def regWdtTimer2TimeoutPeriod0 : Word := 0x20
def regWdtTimer2TimeoutPeriod1 : Word := 0x24
def regWdtTimer1Ctrl : Word := 0x28
def regWdtTimer1En : Word := 0x2C
def regResetReason : Word := 0x30
def regResetRequest : Word := 0x34
def regSsConfigDoneSticky : Word := 0x38
def regSsConfigDone : Word := 0x3C
def regProdDebugUnlockPkHashBase : Word := 0x40
def regMbox0ValidAxiUserBase : Word := 0x80
def regMbox0AxiUserLockBase : Word := 0xA0
def regMbox1ValidAxiUserBase : Word := 0xC0
def regMbox1AxiUserLockBase : Word := 0xE0
def regNotif0IntrTrigR : Word := 0x100
def regNotif0InternalIntrR : Word := 0x104

def pkHashRegCount : Nat := 12
def mboxAxiUserCount : Nat := 8

def resetReasonWarmReset : Word := 0x01
def resetReasonFwBootUpdReset : Word := 0x02
def resetReasonFwHitlessUpdReset : Word := 0x04
def notifCptraMcuResetReqStsMask : Word := 0x02
def resetRequestMcuReq : Word := 0x01

/-- The registers of an array, four bytes apart. -/
def regArray (base : Word) (count : Nat) : List Word :=
  (List.range count).map fun index => base + BitVec.ofNat 32 (4 * index)

/-- The offset of every register the driver defines. -/
def registers : List Word :=
  [regSecurityState, regCptraBootGo, regFwFlowStatus, regFwErrorFatal, regHwFlowStatus,
    regMcuNmiVector, regWdtTimer1TimeoutPeriod0, regWdtTimer1TimeoutPeriod1,
    regWdtTimer2TimeoutPeriod0, regWdtTimer2TimeoutPeriod1, regWdtTimer1Ctrl, regWdtTimer1En,
    regResetReason, regResetRequest, regSsConfigDoneSticky, regSsConfigDone] ++
  regArray regProdDebugUnlockPkHashBase pkHashRegCount ++
  regArray regMbox0ValidAxiUserBase mboxAxiUserCount ++
  regArray regMbox0AxiUserLockBase mboxAxiUserCount ++
  regArray regMbox1ValidAxiUserBase mboxAxiUserCount ++
  regArray regMbox1AxiUserLockBase mboxAxiUserCount ++
  [regNotif0IntrTrigR, regNotif0InternalIntrR]

/-! ## Register access -/

variable (mci : Mci)

def reg (offset : Word) : Word := mci.baseAddr + offset

def readReg (offset : Word) : Driver Word := Program.readReg (mci.reg offset)

def writeReg (offset value : Word) : Driver Unit := Program.writeReg (mci.reg offset) value

def modifyReg (offset mask value : Word) : Driver Unit := do
  let current ← mci.readReg offset
  mci.writeReg offset ((current &&& ~~~mask) ||| (value &&& mask))

/-- Get device lifecycle state -/
def deviceLifecycleState : Driver DeviceLifecycleState := do
  let value ← mci.readReg regSecurityState
  let state := value &&& 0x03
  pure <|
    if state = 0 then .deviceUnprovisioned
    else if state = 1 then .deviceManufacturing
    else if state = 2 then .deviceProvisioned
    else if state = 3 then .deviceSecurityLocked
    else .deviceUnprovisioned

/-- Assert Caliptra boot go -/
def caliptraBootGo : Driver Unit := mci.writeReg regCptraBootGo 1

/-- Set flow status register -/
def setFlowStatus (status : Word) : Driver Unit := mci.writeReg regFwFlowStatus status

/-- Get flow status register -/
def flowStatus : Driver Word := mci.readReg regFwFlowStatus

/-- The milestone half of a flow status word. -/
def milestoneOf (status : Word) : HalfWord := (status >>> 16).setWidth 16

/-- The checkpoint half of a flow status word. -/
def checkpointOf (status : Word) : HalfWord := (status &&& 0x0000FFFF).setWidth 16

/-- Get flow milestone -/
def flowMilestone : Driver HalfWord := do
  let status ← mci.flowStatus
  pure (milestoneOf status)

/-- Get flow checkpoint -/
def flowCheckpoint : Driver HalfWord := do
  let status ← mci.flowStatus
  pure (checkpointOf status)

/-- Set flow checkpoint (preserves milestone) -/
def setFlowCheckpoint (checkpoint : HalfWord) : Driver Unit := do
  let current ← mci.flowMilestone
  let milestone := current.setWidth 32 <<< 16
  mci.setFlowStatus (milestone ||| checkpoint.setWidth 32)

/-- Set fatal error code -/
def setFwFatalError (code : Word) : Driver Unit := mci.writeReg regFwErrorFatal code

/-- Set flow milestone (OR with current milestones) -/
def setFlowMilestone (milestone : HalfWord) : Driver Unit := do
  let milestoneVal := milestone.setWidth 32 <<< 16
  let status ← mci.flowStatus
  mci.setFlowStatus (milestoneVal ||| status)

/-- Get generic input wires value -/
def genericInputWires (index : SizeT) : Driver Word :=
  let regGenericInputWiresBase : Word := 0x400
  if 2 ≤ index then pure 0 else mci.readReg (regGenericInputWiresBase + index * 4)

/-- Get raw reset reason register value -/
def resetReason : Driver Word := mci.readReg regResetReason

/-- The decoding of the reset reason register. -/
def decodeResetReason (reason : Word) : McuResetReason :=
  let warmReset : Bool := reason &&& resetReasonWarmReset != 0
  let fwBootUpd : Bool := reason &&& resetReasonFwBootUpdReset != 0
  let fwHitlessUpd : Bool := reason &&& resetReasonFwHitlessUpdReset != 0
  if !warmReset && !fwBootUpd && !fwHitlessUpd then .coldBoot
  else if warmReset && !fwBootUpd && !fwHitlessUpd then .warmReset
  else if !warmReset && fwBootUpd && !fwHitlessUpd then .firmwareBootReset
  else if !warmReset && !fwBootUpd && fwHitlessUpd then .firmwareHitlessUpdate
  else .invalid

/-- Get reset reason as enum -/
def resetReasonEnum : Driver McuResetReason := do
  let reason ← mci.resetReason
  pure (decodeResetReason reason)

/-- Handle MCI interrupt -/
def handleInterrupt : Driver Unit := do
  let intrStatus ← mci.readReg regNotif0InternalIntrR
  if intrStatus &&& notifCptraMcuResetReqStsMask ≠ 0 then
    -- Clear interrupt
    mci.modifyReg regNotif0InternalIntrR notifCptraMcuResetReqStsMask notifCptraMcuResetReqStsMask
    -- Request MCU reset
    mci.modifyReg regResetRequest resetRequestMcuReq resetRequestMcuReq

/-! ## Register arrays

Every indexed accessor checks its index against the length the driver gives
the array. -/

def mboxAxiUserLockBit : Word := 0x01

/-- Read one register of an array. -/
def readArray (base : Word) (count : Nat) (index : SizeT) : Driver (Option Word) :=
  if sizeT count ≤ index then pure none
  else do
    let value ← mci.readReg (base + index * 4)
    pure (some value)

/-- Read the lock bit in one register of an array. -/
def readLockArray (base : Word) (count : Nat) (index : SizeT) : Driver (Option Bool) :=
  if sizeT count ≤ index then pure none
  else do
    let value ← mci.readReg (base + index * 4)
    pure (some (value &&& mboxAxiUserLockBit != 0))

/-- Write one register of an array. -/
def writeArray (base : Word) (count : Nat) (index : SizeT) (value : Word) : Driver Bool :=
  if sizeT count ≤ index then pure false
  else do
    mci.writeReg (base + index * 4) value
    pure true

def readProdDebugUnlockPkHash (index : SizeT) : Driver (Option Word) :=
  mci.readArray regProdDebugUnlockPkHashBase pkHashRegCount index

def prodDebugUnlockPkHashLen : SizeT := sizeT pkHashRegCount

def readMbox0ValidAxiUser (index : SizeT) : Driver (Option Word) :=
  mci.readArray regMbox0ValidAxiUserBase mboxAxiUserCount index

def readMbox0AxiUserLock (index : SizeT) : Driver (Option Bool) :=
  mci.readLockArray regMbox0AxiUserLockBase mboxAxiUserCount index

def readMbox1ValidAxiUser (index : SizeT) : Driver (Option Word) :=
  mci.readArray regMbox1ValidAxiUserBase mboxAxiUserCount index

def readMbox1AxiUserLock (index : SizeT) : Driver (Option Bool) :=
  mci.readLockArray regMbox1AxiUserLockBase mboxAxiUserCount index

def mboxAxiUserLen : SizeT := sizeT mboxAxiUserCount

def writeMbox0ValidAxiUser (index : SizeT) (value : Word) : Driver Bool :=
  mci.writeArray regMbox0ValidAxiUserBase mboxAxiUserCount index value

def lockMbox0AxiUser (index : SizeT) : Driver Bool :=
  mci.writeArray regMbox0AxiUserLockBase mboxAxiUserCount index mboxAxiUserLockBit

def writeMbox1ValidAxiUser (index : SizeT) (value : Word) : Driver Bool :=
  mci.writeArray regMbox1ValidAxiUserBase mboxAxiUserCount index value

def lockMbox1AxiUser (index : SizeT) : Driver Bool :=
  mci.writeArray regMbox1AxiUserLockBase mboxAxiUserCount index mboxAxiUserLockBit

end Mci

end McuRom
