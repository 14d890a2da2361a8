import McuRom.Romtime.Mci

namespace McuRom

open Mmio

/-!
# The rest of the MCI driver

The boot flows use a part of the driver.  Here are the other functions, and
all of them as calls, so that a client is a sequence of calls.
-/

namespace Mci

def ssConfigDoneBit : Word := 0x01

variable (mci : Mci)

/-! ## Functions -/

/-- Get security state -/
def securityState : Driver Word := mci.readReg regSecurityState

/-- Get hardware flow status -/
def hwFlowStatus : Driver Word := mci.readReg regHwFlowStatus

/-- Set NMI vector address -/
def setNmiVector (nmiVector : Word) : Driver Unit := mci.writeReg regMcuNmiVector nmiVector

/-- Configure watchdog timers -/
def configureWdt (wdt1Timeout wdt2Timeout : Word) : Driver Unit := do
  -- Set WDT1 period
  mci.writeReg regWdtTimer1TimeoutPeriod0 wdt1Timeout
  mci.writeReg regWdtTimer1TimeoutPeriod1 0
  -- Set WDT2 period
  mci.writeReg regWdtTimer2TimeoutPeriod0 wdt2Timeout
  mci.writeReg regWdtTimer2TimeoutPeriod1 0
  -- Enable WDT1
  mci.writeReg regWdtTimer1Ctrl 1
  mci.writeReg regWdtTimer1En 1

/-- Disable watchdog -/
def disableWdt : Driver Unit := mci.writeReg regWdtTimer1En 0

def isColdReset : Driver Bool := do
  let reason ← mci.resetReasonEnum
  pure (reason == .coldBoot)

def isWarmReset : Driver Bool := do
  let reason ← mci.resetReasonEnum
  pure (reason == .warmReset)

def isFwBootUpdateReset : Driver Bool := do
  let reason ← mci.resetReasonEnum
  pure (reason == .firmwareBootReset)

def isFwHitlessUpdateReset : Driver Bool := do
  let reason ← mci.resetReasonEnum
  pure (reason == .firmwareHitlessUpdate)

def readNotif0IntrTrigR : Driver Word := mci.readReg regNotif0IntrTrigR

def writeNotif0IntrTrigR (value : Word) : Driver Unit := mci.writeReg regNotif0IntrTrigR value

def readWdtTimer1En : Driver Word := mci.readReg regWdtTimer1En

def writeWdtTimer1En (value : Word) : Driver Unit := mci.writeReg regWdtTimer1En value

/-- Trigger warm reset -/
def triggerWarmReset : Driver Unit := mci.writeReg regResetRequest 1

def setSsConfigDoneSticky : Driver Unit := mci.writeReg regSsConfigDoneSticky ssConfigDoneBit

def isSsConfigDoneSticky : Driver Bool := do
  let value ← mci.readReg regSsConfigDoneSticky
  pure (value &&& ssConfigDoneBit != 0)

def setSsConfigDone : Driver Unit := mci.writeReg regSsConfigDone ssConfigDoneBit

def isSsConfigDone : Driver Bool := do
  let value ← mci.readReg regSsConfigDone
  pure (value &&& ssConfigDoneBit != 0)

/-! ## Calls -/

/-- The calls of the driver. -/
inductive Call where
  | deviceLifecycleState
  | securityState
  | caliptraBootGo
  | setFlowStatus (status : Word)
  | flowStatus
  | setFlowCheckpoint (checkpoint : HalfWord)
  | flowCheckpoint
  | setFwFatalError (code : Word)
  | setFlowMilestone (milestone : HalfWord)
  | flowMilestone
  | hwFlowStatus
  | setNmiVector (nmiVector : Word)
  | configureWdt (wdt1Timeout wdt2Timeout : Word)
  | disableWdt
  | genericInputWires (index : SizeT)
  | resetReason
  | resetReasonEnum
  | isColdReset
  | isWarmReset
  | isFwBootUpdateReset
  | isFwHitlessUpdateReset
  | readNotif0IntrTrigR
  | writeNotif0IntrTrigR (value : Word)
  | readWdtTimer1En
  | writeWdtTimer1En (value : Word)
  | handleInterrupt
  | triggerWarmReset
  | setSsConfigDoneSticky
  | isSsConfigDoneSticky
  | setSsConfigDone
  | isSsConfigDone
  | readProdDebugUnlockPkHash (index : SizeT)
  | prodDebugUnlockPkHashLen
  | readMbox0ValidAxiUser (index : SizeT)
  | readMbox0AxiUserLock (index : SizeT)
  | readMbox1ValidAxiUser (index : SizeT)
  | readMbox1AxiUserLock (index : SizeT)
  | mboxAxiUserLen
  | writeMbox0ValidAxiUser (index : SizeT) (value : Word)
  | lockMbox0AxiUser (index : SizeT)
  | writeMbox1ValidAxiUser (index : SizeT) (value : Word)
  | lockMbox1AxiUser (index : SizeT)

/-- What a call returns. -/
inductive Reply where
  | unit
  | word (value : Word)
  | size (value : SizeT)
  | half (value : HalfWord)
  | bool (value : Bool)
  | lifecycle (value : DeviceLifecycleState)
  | reason (value : McuResetReason)
  | word? (value : Option Word)
  | bool? (value : Option Bool)

namespace Reply

/-- The reply of a function that returns nothing. -/
def ofUnit (_ : Unit) : Reply := unit

end Reply

/-- A call, as the driver performs it. -/
def perform : Call → Driver Reply
  | .deviceLifecycleState => Reply.lifecycle <$> mci.deviceLifecycleState
  | .securityState => Reply.word <$> mci.securityState
  | .caliptraBootGo => Reply.ofUnit <$> mci.caliptraBootGo
  | .setFlowStatus status => Reply.ofUnit <$> mci.setFlowStatus status
  | .flowStatus => Reply.word <$> mci.flowStatus
  | .setFlowCheckpoint checkpoint => Reply.ofUnit <$> mci.setFlowCheckpoint checkpoint
  | .flowCheckpoint => Reply.half <$> mci.flowCheckpoint
  | .setFwFatalError code => Reply.ofUnit <$> mci.setFwFatalError code
  | .setFlowMilestone milestone => Reply.ofUnit <$> mci.setFlowMilestone milestone
  | .flowMilestone => Reply.half <$> mci.flowMilestone
  | .hwFlowStatus => Reply.word <$> mci.hwFlowStatus
  | .setNmiVector nmiVector => Reply.ofUnit <$> mci.setNmiVector nmiVector
  | .configureWdt wdt1 wdt2 => Reply.ofUnit <$> mci.configureWdt wdt1 wdt2
  | .disableWdt => Reply.ofUnit <$> mci.disableWdt
  | .genericInputWires index => Reply.word <$> mci.genericInputWires index
  | .resetReason => Reply.word <$> mci.resetReason
  | .resetReasonEnum => Reply.reason <$> mci.resetReasonEnum
  | .isColdReset => Reply.bool <$> mci.isColdReset
  | .isWarmReset => Reply.bool <$> mci.isWarmReset
  | .isFwBootUpdateReset => Reply.bool <$> mci.isFwBootUpdateReset
  | .isFwHitlessUpdateReset => Reply.bool <$> mci.isFwHitlessUpdateReset
  | .readNotif0IntrTrigR => Reply.word <$> mci.readNotif0IntrTrigR
  | .writeNotif0IntrTrigR value => Reply.ofUnit <$> mci.writeNotif0IntrTrigR value
  | .readWdtTimer1En => Reply.word <$> mci.readWdtTimer1En
  | .writeWdtTimer1En value => Reply.ofUnit <$> mci.writeWdtTimer1En value
  | .handleInterrupt => Reply.ofUnit <$> mci.handleInterrupt
  | .triggerWarmReset => Reply.ofUnit <$> mci.triggerWarmReset
  | .setSsConfigDoneSticky => Reply.ofUnit <$> mci.setSsConfigDoneSticky
  | .isSsConfigDoneSticky => Reply.bool <$> mci.isSsConfigDoneSticky
  | .setSsConfigDone => Reply.ofUnit <$> mci.setSsConfigDone
  | .isSsConfigDone => Reply.bool <$> mci.isSsConfigDone
  | .readProdDebugUnlockPkHash index => Reply.word? <$> mci.readProdDebugUnlockPkHash index
  | .prodDebugUnlockPkHashLen => pure (.size prodDebugUnlockPkHashLen)
  | .readMbox0ValidAxiUser index => Reply.word? <$> mci.readMbox0ValidAxiUser index
  | .readMbox0AxiUserLock index => Reply.bool? <$> mci.readMbox0AxiUserLock index
  | .readMbox1ValidAxiUser index => Reply.word? <$> mci.readMbox1ValidAxiUser index
  | .readMbox1AxiUserLock index => Reply.bool? <$> mci.readMbox1AxiUserLock index
  | .mboxAxiUserLen => pure (.size mboxAxiUserLen)
  | .writeMbox0ValidAxiUser index value => Reply.bool <$> mci.writeMbox0ValidAxiUser index value
  | .lockMbox0AxiUser index => Reply.bool <$> mci.lockMbox0AxiUser index
  | .writeMbox1ValidAxiUser index value => Reply.bool <$> mci.writeMbox1ValidAxiUser index value
  | .lockMbox1AxiUser index => Reply.bool <$> mci.lockMbox1AxiUser index

end Mci

end McuRom
