import McuRom.Common.Error
import McuRom.Mmio.Waiting

namespace McuRom

open Mmio

/-!
# The I3C controller driver

Bytes are moved through two FIFOs.  Before each byte the driver polls the
level of the FIFO without a limit, so the transfers take the number of polls
after which a wait is cut, and return nothing if one is.
-/

/-- I3C transfer result -/
structure I3cTransferResult where
  bytesTransferred : SizeT
  success : Bool
  errorCode : Byte
deriving DecidableEq, Repr

/-- I3C controller driver -/
structure I3c where
  baseAddr : Word
deriving DecidableEq, Repr

namespace I3c

def regCtrl : Word := 0x00
def regTxFifo : Word := 0x10
def regRxFifo : Word := 0x14
def regTxFifoStatus : Word := 0x18
def regRxFifoStatus : Word := 0x1C

def ctrlEnable : Word := 0x01
def ctrlTxFifoRst : Word := 0x02
def ctrlRxFifoRst : Word := 0x04

variable (i3c : I3c)

def reg (offset : Word) : Word := i3c.baseAddr + offset

def readReg (offset : Word) : Driver Word := Program.readReg (i3c.reg offset)

def writeReg (offset value : Word) : Driver Unit := Program.writeReg (i3c.reg offset) value

def modifyReg (offset mask value : Word) : Driver Unit := do
  let current ← i3c.readReg offset
  i3c.writeReg offset ((current &&& ~~~mask) ||| (value &&& mask))

/-- Clear FIFOs -/
def clearTxFifo : Driver Unit := do
  i3c.modifyReg regCtrl ctrlTxFifoRst ctrlTxFifoRst
  -- Clear the reset bit
  i3c.modifyReg regCtrl ctrlTxFifoRst 0

def clearRxFifo : Driver Unit := do
  i3c.modifyReg regCtrl ctrlRxFifoRst ctrlRxFifoRst
  -- Clear the reset bit
  i3c.modifyReg regCtrl ctrlRxFifoRst 0

/-- Enable controller -/
def enable : Driver Unit := i3c.modifyReg regCtrl ctrlEnable ctrlEnable

/-- Initialize I3C controller -/
def init : Driver (McuResult Unit) := do
  i3c.clearTxFifo
  i3c.clearRxFifo
  i3c.enable
  pure (.ok ())

/-! ## Transfers -/

/-- Get FIFO status -/
def txFifoLevel : Driver Word := do
  let status ← i3c.readReg regTxFifoStatus
  pure (status &&& 0x1F)

def rxFifoLevel : Driver Word := do
  let status ← i3c.readReg regRxFifoStatus
  pure (status &&& 0x1F)

/-- The loop of `write` over the rest of the data. -/
def writeBytes (fuel : Nat) : List Byte → I3cTransferResult → Driver (Option I3cTransferResult)
  | [], result => pure (some result)
  | byte :: rest, result => do
    -- Wait for TX FIFO space
    let space ← Program.waitWhile i3c.txFifoLevel (fun level => 16 ≤ level) fuel
    if space then
      i3c.writeReg regTxFifo (byte.setWidth 32)
      writeBytes fuel rest { result with bytesTransferred := result.bytesTransferred + 1 }
    else pure none

/-- Write data to I3C bus (target mode) -/
def write (fuel : Nat) (data : List Byte) : Driver (Option I3cTransferResult) :=
  i3c.writeBytes fuel data ⟨0, true, 0⟩

/-- The loop of `read`, with the bytes stored so far and the number to come. -/
def readBytes (fuel : Nat) : Nat → List Byte → I3cTransferResult →
    Driver (Option (I3cTransferResult × List Byte))
  | 0, buffer, result => pure (some (result, buffer))
  | count + 1, buffer, result => do
    -- Wait for RX data
    let available ← Program.waitWhile i3c.rxFifoLevel (fun level => level = 0) fuel
    if available then
      let word ← i3c.readReg regRxFifo
      readBytes fuel count (buffer ++ [(word &&& 0xFF).setWidth 8])
        { result with bytesTransferred := result.bytesTransferred + 1 }
    else pure none

/-- Read data from I3C bus (target mode) into a buffer of the given size. -/
def read (fuel : Nat) (size : SizeT) : Driver (Option (I3cTransferResult × List Byte)) :=
  i3c.readBytes fuel size.toNat [] ⟨0, true, 0⟩

end I3c

end McuRom
