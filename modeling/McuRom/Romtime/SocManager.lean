import McuRom.Romtime.MailboxResponse
import McuRom.Mmio.Polling

namespace McuRom

open Mmio

/-!
# The Caliptra SoC manager

`CaliptraSoC` is the client side of the Caliptra mailbox: take the lock, write
command, length and data, start the command, poll for completion, and hand
the response to an iterator.  The definitions follow `soc_manager.cpp` access
by access.  `delay()` only advances a counter inside the object and performs
no register access, so it leaves no trace here.
-/

/-- Mailbox size constant -/
def mailboxSize : SizeT := 256 * 1024

/-- Maximum wait cycles -/
def maxWaitCycles : Word := 400000

/-- `sizeof(MailboxReqHeader)` -/
def mailboxReqHeaderSize : SizeT := 4

/-- `sizeof(MailboxRespHeader)` -/
def mailboxRespHeaderSize : SizeT := 8

/-- Calculate mailbox checksum -/
def calcChecksum (cmd : Word) (payload : List Byte) : Word :=
  let checksum : Word := 0
  let checksum := checksum + ((cmd >>> 0) &&& 0xFF)
  let checksum := checksum + ((cmd >>> 8) &&& 0xFF)
  let checksum := checksum + ((cmd >>> 16) &&& 0xFF)
  let checksum := checksum + ((cmd >>> 24) &&& 0xFF)
  let checksum := payload.foldl (fun sum byte => sum + byte.setWidth 32) checksum
  ~~~checksum + 1

/-- Caliptra SoC Manager -/
structure CaliptraSoC where
  socIfcAddr : Word
  socIfcTrngAddr : Word
  socMboxAddr : Word
deriving DecidableEq, Repr

namespace CaliptraSoC

/-! ## Register map of the SoC manager -/

def mboxLock : Word := 0x00
def mboxCmd : Word := 0x04
def mboxDlen : Word := 0x08
def mboxDatain : Word := 0x0C
def mboxDataout : Word := 0x10
def mboxStatus : Word := 0x14
def mboxExecute : Word := 0x18

def socIfcCptraFwErrorFatal : Word := 0x00
def socIfcCptraFwErrorNonFatal : Word := 0x04

def mboxStatusCmdBusy : Word := 0x01
def mboxStatusCmdFailure : Word := 0x02
def mboxStatusCmdComplete : Word := 0x04
def mboxStatusDataReady : Word := 0x08

def defaultSocIfcAddr : Word := 0x30030000
def defaultMboxAddr : Word := 0x30020000

/-- Construct with optional register base addresses -/
def construct (socIfcAddr socIfcTrngAddr socMboxAddr : Option Word) : CaliptraSoC where
  socIfcAddr := socIfcAddr.getD defaultSocIfcAddr
  socIfcTrngAddr := socIfcTrngAddr.getD defaultSocIfcAddr
  socMboxAddr := socMboxAddr.getD defaultMboxAddr

variable (soc : CaliptraSoC)

/-- `soc_mbox_reg` -/
def socMboxReg (offset : Word) : Word := soc.socMboxAddr + offset

/-- `soc_ifc_reg` -/
def socIfcReg (offset : Word) : Word := soc.socIfcAddr + offset

def readSocMbox (offset : Word) : Driver Word := Program.readReg (soc.socMboxReg offset)

def readSocIfc (offset : Word) : Driver Word := Program.readReg (soc.socIfcReg offset)

def writeSocMbox (offset value : Word) : Driver Unit :=
  Program.writeReg (soc.socMboxReg offset) value

/-- `(status & MBOX_STATUS_CMD_BUSY) != 0` -/
def statusBusy (status : Word) : Bool := status &&& mboxStatusCmdBusy != 0

/-- Check if mailbox is busy -/
def isMailboxBusy : Driver Bool := do
  let status ← soc.readSocMbox mboxStatus
  pure (statusBusy status)

/-- Lock the mailbox: read a 0 to get the lock -/
def lockMailbox : Driver (McuResult Unit) := do
  let lock ← soc.readSocMbox mboxLock
  if lock &&& 0x01 ≠ 0 then pure (.error .mboxLockFailed) else pure (.ok ())

/-- The guard that `set_command`, `write_data` and `execute_command` share:
mailbox lock should read 1 now, and then the given registers are written. -/
def writeWhileLocked (list : List (Word × Word)) : Driver (McuResult Unit) := do
  let lock ← soc.readSocMbox mboxLock
  if lock &&& 0x01 = 0 then pure (.error .mboxLockFailed)
  else
    Program.writeAll (list.map fun entry => (soc.socMboxReg entry.1, entry.2))
    pure (.ok ())

/-- Set command and length -/
def setCommand (cmd : Word) (payloadLenBytes : SizeT) : Driver (McuResult Unit) :=
  soc.writeWhileLocked [(mboxCmd, cmd), (mboxDlen, payloadLenBytes)]

/-- Write data word to mailbox -/
def writeData (data : Word) : Driver (McuResult Unit) :=
  soc.writeWhileLocked [(mboxDatain, data)]

/-- Execute the mailbox command -/
def executeCommand : Driver (McuResult Unit) :=
  soc.writeWhileLocked [(mboxExecute, 0x01)]

/-- `for (i = 0; i < data_count; ++i) write_soc_mbox(MBOX_DATAIN, data[i]);` -/
def writeDatain (data : List Word) : Driver Unit :=
  Program.writeAll (data.map fun word => (soc.socMboxReg mboxDatain, word))

/-- Start a mailbox request (don't wait for response) -/
def startMailboxReq (cmd : Word) (lenBytes : SizeT) (data : List Word) :
    Driver (McuResult Unit) :=
  if mailboxSize < lenBytes then pure (.error .mboxInvalidResponse)
  else
    Driver.andThen soc.lockMailbox fun () =>
    Driver.andThen (soc.setCommand cmd lenBytes) fun () => do
      soc.writeDatain data
      soc.writeSocMbox mboxExecute 0x01
      pure (.ok ())

/-- Initiate a request (lock and set command, but don't write data) -/
def initiateRequest (cmd : Word) (lenBytes : SizeT) : Driver (McuResult Unit) :=
  if mailboxSize < lenBytes then pure (.error .mboxInvalidResponse)
  else Driver.andThen soc.lockMailbox fun () => soc.setCommand cmd lenBytes

/-- The part of `finish_mailbox_resp` after the wait. -/
def takeMailboxResp : Driver (McuResult (Option CaliptraMailboxResponse)) := do
  let status ← soc.readSocMbox mboxStatus
  if status &&& mboxStatusCmdFailure ≠ 0 then
    soc.writeSocMbox mboxExecute 0
    let errorCode ← soc.readSocIfc socIfcCptraFwErrorFatal
    if errorCode = 0 then
      let _ ← soc.readSocIfc socIfcCptraFwErrorNonFatal
      pure (.error .mboxCmdFailed)
    else pure (.error .mboxCmdFailed)
  else if status &&& mboxStatusCmdComplete ≠ 0 then
    soc.writeSocMbox mboxExecute 0
    pure (.ok none)
  else if status &&& mboxStatusDataReady = 0 then pure (.error .mboxInvalidResponse)
  else
    let dlenBytes ← soc.readSocMbox mboxDlen
    let expectedChecksum ← soc.readSocMbox mboxDataout
    let response := CaliptraMailboxResponse.construct soc.socMboxAddr dlenBytes expectedChecksum
    -- std::move(response) into the result, then the moved-from local dies
    let (stored, response) := response.moveConstruct
    response.destroy
    pure (.ok (some stored))

/-- Finish mailbox request and get response -/
def finishMailboxResp (respMinSize respSize : SizeT) :
    Driver (McuResult (Option CaliptraMailboxResponse)) :=
  if respSize < mailboxRespHeaderSize then pure (.error .mboxInvalidResponse)
  else if respMinSize < mailboxRespHeaderSize then pure (.error .mboxInvalidResponse)
  else do
    let ready ← pollWhile (soc.socMboxReg mboxStatus) statusBusy maxWaitCycles
    if ready then soc.takeMailboxResp else pure (.error .mboxTimeout)

/-- What `exec_mailbox_req_u32` leaves to its caller: the returned result and
the two arrays it was given by pointer. -/
structure ExecOutcome where
  result : McuResult Unit
  req : List Word
  resp : List Word
deriving Repr

/-- The part of `exec_mailbox_req_u32` after the request has been started. -/
def receiveResp (req resp : List Word) : Driver ExecOutcome := do
  let respLenBytes := sizeT resp.length * 4
  let finishResult ← soc.finishMailboxResp respLenBytes respLenBytes
  match finishResult with
  | .error e => pure ⟨.error e, req, resp⟩
  | .ok none => pure ⟨.error .mboxInvalidResponse, req, resp⟩
  | .ok (some stored) =>
    -- std::move(finish_result).value() moves the response out of the result
    let (response, _) := stored.moveConstruct
    let (response, resp) ← response.copyAll resp
    -- resp_opt leaves its scope
    response.destroy
    pure ⟨.ok (), req, resp⟩

/-- Execute mailbox request with u32 arrays -/
def execMailboxReqU32 (cmd : Word) (req resp : List Word) : Driver ExecOutcome :=
  let reqCount := sizeT req.length
  if reqCount * 4 < mailboxReqHeaderSize then pure ⟨.error .mboxInvalidResponse, req, resp⟩
  else
    let payloadLen := reqCount * 4 - mailboxReqHeaderSize
    let payloadBytes := ((arrayBytes req).drop mailboxReqHeaderSize.toNat).take payloadLen.toNat
    let checksum := calcChecksum cmd payloadBytes
    let req := req.set 0 checksum
    do
      let startResult ← soc.startMailboxReq cmd (reqCount * 4) req
      match startResult with
      | .error e => pure ⟨.error e, req, resp⟩
      | .ok () => soc.receiveResp req resp

end CaliptraSoC

end McuRom
