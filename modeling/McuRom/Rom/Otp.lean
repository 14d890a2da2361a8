import McuRom.Common.Error
import McuRom.Mmio.Polling

namespace McuRom

open Mmio

/-!
# The OTP controller driver

A word is transferred by the direct access interface: present an address,
issue a command, wait until the controller is idle again, and look at the
error bit.
-/

/-- OTP partition identifiers -/
inductive OtpPartition where
  | creatorSwCfg
  | ownerSwCfg
  | rotCreatorAuthCodesign
  | rotCreatorAuthState
  | hwCfg0
  | hwCfg1
  | secret0
  | secret1
  | secret2
  | lifeCycle
deriving DecidableEq, Repr

/-- OTP controller driver -/
structure Otp where
  baseAddr : Word
deriving DecidableEq, Repr

namespace Otp

/-! ## Register map -/

def regStatus : Word := 0x00
def regDirectAccessCmd : Word := 0x08
def regDirectAccessAddr : Word := 0x0C
def regDirectAccessWdata0 : Word := 0x10
def regDirectAccessRdata0 : Word := 0x18

def cmdRead : Word := 0x01
def cmdWrite : Word := 0x02
def cmdDigest : Word := 0x04

def statusIdle : Word := 0x01
def statusError : Word := 0x02

variable (otp : Otp)

def reg (offset : Word) : Word := otp.baseAddr + offset

def readReg (offset : Word) : Driver Word := Program.readReg (otp.reg offset)

def writeReg (offset value : Word) : Driver Unit := Program.writeReg (otp.reg offset) value

/-- `!is_idle()` as a test of the status word. -/
def statusNotIdle (status : Word) : Bool := status &&& statusIdle == 0

/-- Wait for OTP operation to complete -/
def waitForIdle (timeoutCycles : Word) : Driver (McuResult Unit) := do
  let idle ← pollWhile (otp.reg regStatus) statusNotIdle timeoutCycles
  if idle then pure (.ok ()) else pure (.error .timeout)

/-- The default argument of `wait_for_idle`. -/
def defaultTimeoutCycles : Word := 10000

/-- Initialize OTP controller -/
def init : Driver (McuResult Unit) := otp.waitForIdle defaultTimeoutCycles

/-- `has_error()` as a test of the status word. -/
def statusHasError (status : Word) : Bool := status &&& statusError != 0

/-- Check if OTP has errors -/
def hasError : Driver Bool := do
  let status ← otp.readReg regStatus
  pure (statusHasError status)

/-! ## Direct access -/

/-- Read a word from OTP at given address -/
def readWord (addr : Word) : Driver (McuResult Word) :=
  Driver.andThen (otp.waitForIdle defaultTimeoutCycles) fun () => do
  otp.writeReg regDirectAccessAddr addr
  otp.writeReg regDirectAccessCmd cmdRead
  Driver.andThen (otp.waitForIdle defaultTimeoutCycles) fun () => do
  let failed ← otp.hasError
  if failed then pure (.error .otpReadError)
  else
    let data ← otp.readReg regDirectAccessRdata0
    pure (.ok data)

/-- The loop of `read_words` from index `i` on.  The words of the span that
are still to be filled become the words read, up to the first failure. -/
def readWordsFrom (addr : Word) : Nat → List Word → Driver (McuResult Unit × List Word)
  | _, [] => pure (.ok (), [])
  | i, old :: rest => do
    let result ← otp.readWord (addr + sizeT i * 4)
    match result with
    | .error e => pure (.error e, old :: rest)
    | .ok word =>
      let (outcome, filled) ← readWordsFrom addr (i + 1) rest
      pure (outcome, word :: filled)

/-- Read multiple words from OTP -/
def readWords (addr : Word) (buffer : List Word) : Driver (McuResult Unit × List Word) :=
  otp.readWordsFrom addr 0 buffer

/-- Write a word to OTP at given address -/
def writeWord (addr value : Word) : Driver (McuResult Unit) :=
  Driver.andThen (otp.waitForIdle defaultTimeoutCycles) fun () => do
  otp.writeReg regDirectAccessAddr addr
  otp.writeReg regDirectAccessWdata0 value
  otp.writeReg regDirectAccessCmd cmdWrite
  Driver.andThen (otp.waitForIdle defaultTimeoutCycles) fun () => do
  let failed ← otp.hasError
  if failed then pure (.error .otpWriteError) else pure (.ok ())

/-- The loop of `write_words` from index `i` on. -/
def writeWordsFrom (addr : Word) : Nat → List Word → Driver (McuResult Unit)
  | _, [] => pure (.ok ())
  | i, word :: rest =>
    Driver.andThen (otp.writeWord (addr + sizeT i * 4) word) fun () =>
      writeWordsFrom addr (i + 1) rest

/-- Write multiple words to OTP -/
def writeWords (addr : Word) (data : List Word) : Driver (McuResult Unit) :=
  otp.writeWordsFrom addr 0 data

/-- Lock a partition; the argument is not used. -/
def lockPartition (_partition : OtpPartition) : Driver (McuResult Unit) := do
  otp.writeReg regDirectAccessCmd cmdDigest
  otp.waitForIdle defaultTimeoutCycles

end Otp

end McuRom
