import McuRom.Rom.BootStatus
import McuRom.Rom.RomEnv
import McuRom.Romtime.Print

namespace McuRom

open Mmio

/-!
# Boot flows

The four flows `rom_start` dispatches to, and the device ownership transfer
that the cold boot runs.  Stages the source leaves empty return `Ok` without
touching hardware; they are kept so that every early return of the source has
its counterpart.
-/

/-- `env.mci().set_flow_checkpoint(static_cast<std::uint16_t>(status))` -/
def RomEnv.checkpoint (env : RomEnv) (status : McuRomBootStatus) : Driver Unit :=
  env.mci.setFlowCheckpoint status.code

/-! ## Device ownership transfer -/

/-- Device ownership state -/
inductive OwnershipState where
  | noOwner
  | ownerExists
  | transferPending
  | transferComplete
deriving DecidableEq, Repr

namespace DeviceOwnershipTransfer

def readOwnershipFlash (_env : RomEnv) : Driver (McuResult Unit) := pure (.ok ())

def deriveStableKey (_env : RomEnv) : Driver (McuResult Unit) := pure (.ok ())

def burnFuses (_env : RomEnv) : Driver (McuResult Unit) := pure (.ok ())

def determineOwner (_env : RomEnv) : Driver (McuResult OwnershipState) := pure (.ok .noOwner)

def completeTransfer (_env : RomEnv) : Driver (McuResult Unit) := pure (.ok ())

/-- If transfer pending, derive stable key and burn fuses -/
def transferIfPending (env : RomEnv) (state : OwnershipState) : Driver (McuResult Unit) :=
  if state = .transferPending then
    Driver.andThen (deriveStableKey env) fun () => do
    env.checkpoint .deviceOwnershipDeriveStableKey
    Driver.andThen (burnFuses env) fun () => do
    env.checkpoint .deviceOwnershipBurnFuses
    completeTransfer env
  else pure (.ok ())

/-- Execute ownership transfer flow -/
def execute (gWriter : Option Writer) (env : RomEnv) : Driver (McuResult Unit) := do
  env.checkpoint .deviceOwnershipTransferStarted
  println gWriter "[ROM] Device ownership transfer started"
  Driver.andThen (readOwnershipFlash env) fun () => do
  env.checkpoint .deviceOwnershipTransferFlashRead
  Driver.andThen (determineOwner env) fun state => do
  env.checkpoint .deviceOwnershipDetermineOwner
  Driver.andThen (transferIfPending env state) fun () => do
  env.checkpoint .deviceOwnershipTransferComplete
  println gWriter "[ROM] Device ownership transfer complete"
  pure (.ok ())

end DeviceOwnershipTransfer

/-! ## Cold boot -/

namespace ColdBoot

def initMemoryMap (_env : RomEnv) : Driver (McuResult Unit) := pure (.ok ())

def loadStraps (_env : RomEnv) : Driver (McuResult Unit) := pure (.ok ())

/-- Initialize peripherals -/
def initPeripherals (env : RomEnv) : Driver (McuResult Unit) :=
  Driver.andThen env.i3c.init fun () =>
  Driver.andThen env.otp.init fun () =>
  pure (.ok ())

/-- Configure Caliptra boot -/
def configureCaliptra (env : RomEnv) : Driver (McuResult Unit) := do
  env.mci.caliptraBootGo
  pure (.ok ())

def populateFuses (_env : RomEnv) : Driver (McuResult Unit) := pure (.ok ())

/-- The countdown of `wait_caliptra_ready`. -/
def readyTimeout : Word := 100000

/-- Wait for Caliptra to become ready for mailbox commands.  The loop polls
`is_mailbox_busy()`; `delay()` accesses no register. -/
def waitCaliptraReady (env : RomEnv) : Driver (McuResult Unit) := do
  let ready ← pollWhile (env.socManager.socMboxReg CaliptraSoC.mboxStatus)
    CaliptraSoC.statusBusy readyTimeout
  if ready then pure (.ok ()) else pure (.error .timeout)

def deviceOwnershipTransfer (gWriter : Option Writer) (env : RomEnv) :
    Driver (McuResult Unit) :=
  DeviceOwnershipTransfer.execute gWriter env

def loadFirmware (_env : RomEnv) : Driver (McuResult Unit) := pure (.ok ())

/-- Execute cold boot flow -/
def execute (gWriter : Option Writer) (env : RomEnv) : Driver (McuResult Unit) := do
  env.checkpoint .coldBootFlowStarted
  env.mci.setFlowMilestone BootMilestones.romStarted
  println gWriter "[ROM] Cold boot flow started"
  Driver.andThen (initMemoryMap env) fun () => do
  env.checkpoint .mcuMemoryMapInitialized
  Driver.andThen (loadStraps env) fun () => do
  env.checkpoint .strapsLoaded
  Driver.andThen (initPeripherals env) fun () => do
  env.checkpoint .mcuRegistersInitialized
  Driver.andThen (configureCaliptra env) fun () => do
  env.mci.setFlowMilestone BootMilestones.cptraBootGoAsserted
  env.checkpoint .caliptraBootGoAsserted
  Driver.andThen (populateFuses env) fun () => do
  env.mci.setFlowMilestone BootMilestones.cptraFusesWritten
  env.checkpoint .fusesPopulatedToCaliptra
  Driver.andThen (waitCaliptraReady env) fun () => do
  env.checkpoint .caliptraReadyForMailbox
  Driver.andThen (deviceOwnershipTransfer gWriter env) fun () => do
  env.checkpoint .deviceOwnershipTransferComplete
  Driver.andThen (loadFirmware env) fun () => do
  env.mci.setFlowMilestone BootMilestones.coldBootFlowComplete
  env.checkpoint .coldBootFlowComplete
  println gWriter "[ROM] Cold boot flow complete"
  pure (.ok ())

end ColdBoot

/-! ## Warm boot -/

namespace WarmBoot

def restoreContext (_env : RomEnv) : Driver (McuResult Unit) := pure (.ok ())

def verifyRuntime (_env : RomEnv) : Driver (McuResult Unit) := pure (.ok ())

def resumeRuntime (_env : RomEnv) : Driver (McuResult Unit) := pure (.ok ())

/-- Execute warm boot flow -/
def execute (gWriter : Option Writer) (env : RomEnv) : Driver (McuResult Unit) := do
  env.checkpoint .warmResetFlowStarted
  println gWriter "[ROM] Warm boot flow started"
  Driver.andThen (restoreContext env) fun () =>
  Driver.andThen (verifyRuntime env) fun () =>
  Driver.andThen (resumeRuntime env) fun () => do
  env.mci.setFlowMilestone BootMilestones.warmResetFlowComplete
  env.checkpoint .warmResetFlowComplete
  println gWriter "[ROM] Warm boot flow complete"
  pure (.ok ())

end WarmBoot

/-! ## Firmware boot -/

namespace FwBoot

def validateFirmware (_env : RomEnv) : Driver (McuResult Unit) := pure (.ok ())

/-- Execute firmware boot flow -/
def execute (gWriter : Option Writer) (env : RomEnv) : Driver (McuResult Unit) := do
  env.checkpoint .firmwareBootFlowStarted
  println gWriter "[ROM] Firmware boot flow started"
  Driver.andThen (validateFirmware env) fun () => do
  env.checkpoint .firmwareValidationComplete
  env.mci.setFlowMilestone BootMilestones.firmwareBootFlowComplete
  env.checkpoint .firmwareBootFlowComplete
  println gWriter "[ROM] Firmware boot flow complete"
  pure (.ok ())

end FwBoot

/-! ## Firmware hitless update -/

namespace FwHitlessUpdate

def validateNewFirmware (_env : RomEnv) : Driver (McuResult Unit) := pure (.ok ())

def swapFirmware (_env : RomEnv) : Driver (McuResult Unit) := pure (.ok ())

def commitUpdate (_env : RomEnv) : Driver (McuResult Unit) := pure (.ok ())

/-- Execute hitless update flow -/
def execute (gWriter : Option Writer) (env : RomEnv) : Driver (McuResult Unit) := do
  env.checkpoint .hitlessUpdateFlowStarted
  println gWriter "[ROM] Hitless update flow started"
  Driver.andThen (validateNewFirmware env) fun () =>
  Driver.andThen (swapFirmware env) fun () =>
  Driver.andThen (commitUpdate env) fun () => do
  env.checkpoint .hitlessUpdateFlowComplete
  println gWriter "[ROM] Hitless update flow complete"
  pure (.ok ())

end FwHitlessUpdate

end McuRom
