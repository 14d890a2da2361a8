import McuRom.Rom.RomStart

namespace McuRom

open Mmio

/-!
# The Caliptra SoC interface

The setters write Caliptra's configuration registers; those of the mailbox
AXI users check their index and end in a fatal error if it is too large.

`populate_fuses` fills Caliptra's fuse registers.  It returns nothing, and it
has the console and the OTP controller to talk to on the way.
-/

/-- SOC interface for Caliptra SoC registers -/
structure Soc where
  baseAddr : Word
deriving DecidableEq, Repr

/-- AXI user configuration -/
structure AxiUsers where
  mboxUsers : Fin 5 → Option Word
  fuseUser : Word
  trngUser : Word
  dmaUser : Word

/-- A call that may end in a fatal error, and what follows if it returns. -/
def Driver.unlessHalted (call rest : Driver (Except Halt Unit)) : Driver (Except Halt Unit) := do
  match ← call with
  | .ok () => rest
  | .error halt => pure (.error halt)

def mldsaCaliptraValue : Byte := 1
def otpDaiIdleBitOffset : Word := 22
def otpDirectAccessCmdRegOffset : Word := 0x60

namespace Soc

def cptraFlowStatus : Word := 0x00
def ssGenericFwExecCtrl0 : Word := 0x04
def cptraFwErrorFatal : Word := 0x08
def cptraWdtCfgBase : Word := 0x0C
def cptraMboxValidAxiUserBase : Word := 0x20
def cptraMboxAxiUserLockBase : Word := 0x34
def cptraFuseValidAxiUser : Word := 0x48
def cptraFuseAxiUserLock : Word := 0x4C
def cptraTrngValidAxiUser : Word := 0x50
def cptraTrngAxiUserLock : Word := 0x54
def ssCaliptraDmaAxiUser : Word := 0x58
def cptraFuseWrDone : Word := 0x5C
def fuseVendorPkHashBase : Word := 0x100
def fusePqcKeyType : Word := 0x140
def fuseFmcKeyManifestSvn : Word := 0x144
def fuseRuntimeSvnBase : Word := 0x148
def ssUdsSeedBaseAddrL : Word := 0x200
def ssUdsSeedBaseAddrH : Word := 0x204
def ssStrapGenericBase : Word := 0x208

/-- The named registers and register blocks, by ascending offset. -/
def registers : List Word :=
  [cptraFlowStatus, ssGenericFwExecCtrl0, cptraFwErrorFatal, cptraWdtCfgBase,
    cptraMboxValidAxiUserBase, cptraMboxAxiUserLockBase, cptraFuseValidAxiUser,
    cptraFuseAxiUserLock, cptraTrngValidAxiUser, cptraTrngAxiUserLock, ssCaliptraDmaAxiUser,
    cptraFuseWrDone, fuseVendorPkHashBase, fusePqcKeyType, fuseFmcKeyManifestSvn,
    fuseRuntimeSvnBase, ssUdsSeedBaseAddrL, ssUdsSeedBaseAddrH, ssStrapGenericBase]

/-- The placeholder for the offset of the UDS partition. -/
def secretManufOffset : Word := 0x0

variable (soc : Soc)

def reg (offset : Word) : Word := soc.baseAddr + offset

def writeReg (offset value : Word) : Driver Unit := Program.writeReg (soc.reg offset) value

/-- Set Caliptra WDT configuration -/
def setCptraWdtCfg (index : SizeT) (value : Word) : Driver Unit :=
  soc.writeReg (cptraWdtCfgBase + index * 4) value

/-- Write one of the five registers of an AXI user block, or end in a fatal
error. -/
def setAxiUserBlock (globals : Globals) (base : Word) (index : SizeT) (value : Word) :
    Driver (Except Halt Unit) :=
  if 5 ≤ index then do
    let halt ← fatalError globals .invalidParameter
    pure (.error halt)
  else do
    soc.writeReg (base + index * 4) value
    pure (.ok ())

/-- Set Caliptra mailbox valid AXI user -/
def setCptraMboxValidAxiUser (globals : Globals) (index : SizeT) (value : Word) :
    Driver (Except Halt Unit) :=
  soc.setAxiUserBlock globals cptraMboxValidAxiUserBase index value

/-- Set Caliptra mailbox AXI user lock -/
def setCptraMboxAxiUserLock (globals : Globals) (index : SizeT) (value : Word) :
    Driver (Except Halt Unit) :=
  soc.setAxiUserBlock globals cptraMboxAxiUserLockBase index value

/-- Set Caliptra fuse valid AXI user -/
def setCptraFuseValidAxiUser (value : Word) : Driver Unit :=
  soc.writeReg cptraFuseValidAxiUser value

/-- Set Caliptra fuse AXI user lock -/
def setCptraFuseAxiUserLock (value : Word) : Driver Unit := soc.writeReg cptraFuseAxiUserLock value

/-- Set Caliptra TRNG valid AXI user -/
def setCptraTrngValidAxiUser (value : Word) : Driver Unit :=
  soc.writeReg cptraTrngValidAxiUser value

/-- Set Caliptra TRNG AXI user lock -/
def setCptraTrngAxiUserLock (value : Word) : Driver Unit := soc.writeReg cptraTrngAxiUserLock value

/-- Set SS Caliptra DMA AXI user -/
def setSsCaliptraDmaAxiUser (value : Word) : Driver Unit := soc.writeReg ssCaliptraDmaAxiUser value

/-- The loop of `set_axi_users` over the mailbox users, from some slots on. -/
def setMboxUsers (globals : Globals) (users : Fin 5 → Option Word) :
    List (Fin 5) → Driver (Except Halt Unit)
  | [] => pure (.ok ())
  | i :: rest =>
    match users i with
    | some user => do
      print globals.gWriter "[mcu-rom] Setting Caliptra mailbox user "
      Driver.unlessHalted (soc.setCptraMboxValidAxiUser globals (sizeT i) user) do
      println globals.gWriter "[mcu-rom] Locking Caliptra mailbox user"
      Driver.unlessHalted (soc.setCptraMboxAxiUserLock globals (sizeT i) 1) do
      setMboxUsers globals users rest
    | none => setMboxUsers globals users rest

/-- Set AXI users from configuration -/
def setAxiUsers (globals : Globals) (users : AxiUsers) : Driver (Except Halt Unit) :=
  -- Set mailbox users
  Driver.unlessHalted (soc.setMboxUsers globals users.mboxUsers (List.finRange 5)) do
  println globals.gWriter "[mcu-rom] Setting fuse user"
  soc.setCptraFuseValidAxiUser users.fuseUser
  println globals.gWriter "[mcu-rom] Locking fuse user"
  soc.setCptraFuseAxiUserLock 1
  println globals.gWriter "[mcu-rom] Setting TRNG user"
  soc.setCptraTrngValidAxiUser users.trngUser
  println globals.gWriter "[mcu-rom] Locking TRNG user"
  soc.setCptraTrngAxiUserLock 1
  println globals.gWriter "[mcu-rom] Setting DMA user"
  soc.setSsCaliptraDmaAxiUser users.dmaUser
  pure (.ok ())

/-- Populate fuses from OTP to Caliptra -/
def populateFuses (gWriter : Option Writer) (otp : Otp) (_mci : Mci) : Driver Unit := do
  println gWriter "[mcu-fuse-write] Setting UDS/FE base address"
  soc.writeReg ssUdsSeedBaseAddrL secretManufOffset
  soc.writeReg ssUdsSeedBaseAddrH 0
  println gWriter "[mcu-fuse-write] Setting DAI idle bit offset and direct access cmd reg offset"
  soc.writeReg ssStrapGenericBase (otpDaiIdleBitOffset <<< 16)
  soc.writeReg (ssStrapGenericBase + 4) otpDirectAccessCmdRegOffset
  soc.writeReg fusePqcKeyType (mldsaCaliptraValue.setWidth 32)
  println gWriter "[mcu-fuse-write] Setting vendor PQC type"
  -- FMC Key Manifest SVN
  let svnResult ← otp.readWord 0
  match svnResult with
  | .ok svn => soc.writeReg fuseFmcKeyManifestSvn svn
  | .error _ => pure ()

end Soc

end McuRom
