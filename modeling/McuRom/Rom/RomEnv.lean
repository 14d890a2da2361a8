import McuRom.Rom.I3c
import McuRom.Rom.Otp
import McuRom.Romtime.Mci
import McuRom.Romtime.SocManager

namespace McuRom

/-!
# ROM environment

The peripherals of the ROM at the base addresses of the memory map.
-/

/-- MCU memory map configuration -/
structure McuMemoryMap where
  otpOffset : Word
  i3cOffset : Word
  socOffset : Word
  mciOffset : Word
  mboxOffset : Word
deriving DecidableEq, Repr

/-- Memory map matching the emulator configuration (mcu-config-emulator) -/
def gMcuMemoryMap : McuMemoryMap where
  otpOffset := 0x70000000
  i3cOffset := 0x20004000
  socOffset := 0x30030000
  mciOffset := 0x21000000
  mboxOffset := 0x30020000

/-- ROM Environment containing all peripherals and managers -/
structure RomEnv where
  mci : Mci
  otp : Otp
  i3c : I3c
  socManager : CaliptraSoC
deriving DecidableEq, Repr

/-- Create a new ROM environment with all peripherals initialized -/
def romEnv : RomEnv where
  mci := ⟨gMcuMemoryMap.mciOffset⟩
  otp := ⟨gMcuMemoryMap.otpOffset⟩
  i3c := ⟨gMcuMemoryMap.i3cOffset⟩
  socManager := CaliptraSoC.construct (some gMcuMemoryMap.socOffset)
    (some gMcuMemoryMap.socOffset) (some gMcuMemoryMap.mboxOffset)

end McuRom
