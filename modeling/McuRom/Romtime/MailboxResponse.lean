import McuRom.Common.Error

namespace McuRom

open Mmio

/-!
# The mailbox response iterator

`CaliptraMailboxResponse` hands out the words of a response one by one while
it accumulates a byte checksum, and owns the obligation to end the mailbox
session: its destructor performs a release write unless ownership has moved
elsewhere.  The class keeps a private register map of its own, which is
reproduced here as it stands.
-/

/-- Caliptra mailbox response iterator -/
structure CaliptraMailboxResponse where
  mboxBase : Word
  idx : SizeT
  dlenBytes : SizeT
  checksum : Word
  expectedChecksum : Word
  released : Bool
deriving DecidableEq, Repr

namespace CaliptraMailboxResponse

/-! ## Register map of the response class -/

def mboxDataout : Word := 0x00
def mboxExecute : Word := 0x04

/-! ## Special member functions -/

/-- The constructor; the remaining members have default initializers. -/
def construct (mboxBase : Word) (dlenBytes : SizeT) (expectedChecksum : Word) :
    CaliptraMailboxResponse where
  mboxBase := mboxBase
  idx := 0
  dlenBytes := dlenBytes
  checksum := 0
  expectedChecksum := expectedChecksum
  released := false

/-- The release write shared by the destructor and move assignment. -/
def release (response : CaliptraMailboxResponse) : Driver Unit :=
  if response.released then pure ()
  else Program.writeReg (response.mboxBase + mboxExecute) 0

/-- The destructor. -/
def destroy (response : CaliptraMailboxResponse) : Driver Unit := response.release

/-- The move constructor: the new object and what is left of the old one. -/
def moveConstruct (other : CaliptraMailboxResponse) :
    CaliptraMailboxResponse × CaliptraMailboxResponse :=
  (other, { other with released := true })

/-- Move assignment behind its test for self-assignment: the overwritten
object and what is left of the other one. -/
def moveAssign (target other : CaliptraMailboxResponse) :
    Driver (CaliptraMailboxResponse × CaliptraMailboxResponse) := do
  target.release
  pure (other, { other with released := true })

/-- Verify the checksum of the response -/
def verifyChecksum (response : CaliptraMailboxResponse) : McuResult Unit :=
  if 0 - response.checksum = response.expectedChecksum then .ok ()
  else .error .mboxInvalidResponse

/-! ## Iteration -/

/-- The number of words `next` hands out, `(dlen_bytes_ + 3) / 4`. -/
def wordCount (response : CaliptraMailboxResponse) : SizeT := (response.dlenBytes + 3) / 4

/-- `checksum_ += (valid_data >> (i * 8)) & 0xFF` for each valid byte. -/
def addBytes (checksum validData : Word) (remainingBytes : Nat) : Word :=
  (List.range remainingBytes).foldl
    (fun sum i => sum + ((validData >>> (i * 8)) &&& 0xFF)) checksum

/-- Remaining bytes for the word that moved the index to `idx`, at most four. -/
def remainingBytes (response : CaliptraMailboxResponse) (idx : SizeT) : SizeT :=
  let remaining := response.dlenBytes - (idx - 1) * 4
  if 4 < remaining then 4 else remaining

/-- Mask invalid bytes if this is the last chunk. -/
def validData (data : Word) (remaining : SizeT) : Word :=
  if remaining < 4 then data &&& (((1 : Word) <<< (remaining * 8)) - 1) else data

/-- What `next` does with a word it read from the data register. -/
def absorb (response : CaliptraMailboxResponse) (data : Word) :
    Option Word × CaliptraMailboxResponse :=
  let idx := response.idx + 1
  let remaining := response.remainingBytes idx
  let valid := validData data remaining
  (some valid,
    { response with idx := idx, checksum := addBytes response.checksum valid remaining.toNat })

/-- Read next word from response -/
def next (response : CaliptraMailboxResponse) :
    Driver (Option Word × CaliptraMailboxResponse) :=
  if response.wordCount ≤ response.idx then pure (none, response)
  else if response.idx = 0 then
    pure (some response.expectedChecksum, { response with idx := response.idx + 1 })
  else do
    let data ← Program.readReg (response.mboxBase + mboxDataout)
    pure (response.absorb data)

/-- Reset iteration -/
def reset (response : CaliptraMailboxResponse) : CaliptraMailboxResponse :=
  { response with idx := 0, checksum := 0 }

/-- `while (auto word = response.next()) { if (i < resp_count) resp[i] = *word; ++i; }`
The loop is cut after `fuel` calls of `next`; `run_copyAll` shows that with the
fuel `copyAll` supplies it runs until `next` returns nothing. -/
def copyWords (respCount : SizeT) : Nat → CaliptraMailboxResponse → Nat → List Word →
    Driver (CaliptraMailboxResponse × List Word)
  | 0, response, _, resp => pure (response, resp)
  | fuel + 1, response, i, resp => do
    let (word, response) ← response.next
    match word with
    | none => pure (response, resp)
    | some word =>
      copyWords respCount fuel response (i + 1)
        (if i < respCount.toNat then resp.set i word else resp)

/-- The whole loop: `wordCount` words and one call that returns nothing. -/
def copyAll (response : CaliptraMailboxResponse) (resp : List Word) :
    Driver (CaliptraMailboxResponse × List Word) :=
  copyWords (sizeT resp.length) (response.wordCount.toNat + 1) response 0 resp

end CaliptraMailboxResponse

end McuRom
