import McuRom.Common.Types

namespace McuRom

/-!
# Boot status codes

Checkpoint codes and milestone flags that the boot flows report through the
flow status register.
-/

def romInitializationBase : HalfWord := 1
def caliptraSetupBase : HalfWord := 193
def firmwareLoadingBase : HalfWord := 257
def bootFlowBase : HalfWord := 385

/-- Status codes used by MCU ROM to log boot progress. -/
inductive McuRomBootStatus where
  | mcuMemoryMapInitialized | strapsLoaded | mcuRegistersInitialized
  | caliptraBootGoAsserted | fusesPopulatedToCaliptra | caliptraReadyForMailbox
  | deviceOwnershipTransferFlashRead | deviceOwnershipTransferStarted
  | deviceOwnershipDeriveStableKey | deviceOwnershipBurnFuses
  | deviceOwnershipDetermineOwner | deviceOwnershipTransferComplete
  | firmwareValidationComplete
  | coldBootFlowStarted | coldBootFlowComplete
  | warmResetFlowStarted | warmResetFlowComplete
  | firmwareBootFlowStarted | firmwareBootFlowComplete
  | hitlessUpdateFlowStarted | hitlessUpdateFlowComplete
deriving DecidableEq, Repr

/-- The enumerator's value. -/
def McuRomBootStatus.code : McuRomBootStatus → HalfWord
  | mcuMemoryMapInitialized => romInitializationBase + 1
  | strapsLoaded => romInitializationBase + 2
  | mcuRegistersInitialized => romInitializationBase + 3
  | caliptraBootGoAsserted => caliptraSetupBase
  | fusesPopulatedToCaliptra => caliptraSetupBase + 4
  | caliptraReadyForMailbox => caliptraSetupBase + 11
  | deviceOwnershipTransferFlashRead => caliptraSetupBase + 12
  | deviceOwnershipTransferStarted => caliptraSetupBase + 13
  | deviceOwnershipDeriveStableKey => caliptraSetupBase + 14
  | deviceOwnershipBurnFuses => caliptraSetupBase + 15
  | deviceOwnershipDetermineOwner => caliptraSetupBase + 16
  | deviceOwnershipTransferComplete => caliptraSetupBase + 17
  | firmwareValidationComplete => firmwareLoadingBase + 5
  | coldBootFlowStarted => bootFlowBase
  | coldBootFlowComplete => bootFlowBase + 1
  | warmResetFlowStarted => bootFlowBase + 2
  | warmResetFlowComplete => bootFlowBase + 3
  | firmwareBootFlowStarted => bootFlowBase + 4
  | firmwareBootFlowComplete => bootFlowBase + 5
  | hitlessUpdateFlowStarted => bootFlowBase + 6
  | hitlessUpdateFlowComplete => bootFlowBase + 7

/-! ## MCU Boot Milestones bitflags -/

namespace BootMilestones

def romStarted : HalfWord := 0x0001
def cptraBootGoAsserted : HalfWord := 0x0002
def cptraFusesWritten : HalfWord := 0x0004
def coldBootFlowComplete : HalfWord := 0x0020
def warmResetFlowComplete : HalfWord := 0x0040
def firmwareBootFlowComplete : HalfWord := 0x0080

end BootMilestones

end McuRom
