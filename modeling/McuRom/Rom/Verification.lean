import McuRom.Rom.Otp
import McuRom.Rom.RomEnv
import McuRom.Romtime.Print

namespace McuRom

open Mmio

/-!
# Provisioning checks

The ROM writes the mailbox users it was strapped with into MCI and locks them,
and later verifies that MCI still holds them.  It also compares the public key
hashes for the production debug unlock between OTP and MCI.

The loops over the two mailboxes are the same loop around different accessors.
-/

/-- Number of users supported by the MCU MBOX ACL mechanism. -/
def mcuMboxUsers : Nat := 5

/-- `std::array<T, MCU_MBOX_USERS>` -/
abbrev MboxArray (α : Type) := Fin mcuMboxUsers → α

/-- MCU mailbox AXI user configuration -/
structure McuMboxAxiUserConfig where
  /-- Expected values for MBOX0 valid AXI users (nullopt = not configured) -/
  mbox0Users : MboxArray (Option Word)
  /-- Expected values for MBOX1 valid AXI users (nullopt = not configured) -/
  mbox1Users : MboxArray (Option Word)
  /-- Expected lock status for MBOX0 AXI users -/
  mbox0Locks : MboxArray Bool
  /-- Expected lock status for MBOX1 AXI users -/
  mbox1Locks : MboxArray Bool

/-! ## Configuring mailbox users -/

/-- The loop of `configure_mcu_mbox_axi_users` over one mailbox, from some
slots on.  It fills the mailbox's two arrays of the configuration. -/
def configureMboxUsers (gWriter : Option Writer) (message : String)
    (writeValidAxiUser : SizeT → Word → Driver Bool) (lockAxiUser : SizeT → Driver Bool)
    (mboxUsers : MboxArray Word) : List (Fin mcuMboxUsers) → MboxArray (Option Word) →
    MboxArray Bool → Driver (MboxArray (Option Word) × MboxArray Bool)
  | [], users, locks => pure (users, locks)
  | i :: rest, users, locks =>
    if mboxUsers i ≠ 0 then do
      println gWriter message
      let _ ← writeValidAxiUser (sizeT i) (mboxUsers i)
      let _ ← lockAxiUser (sizeT i)
      configureMboxUsers gWriter message writeValidAxiUser lockAxiUser mboxUsers rest
        (Function.update users i (some (mboxUsers i))) (Function.update locks i true)
    else
      configureMboxUsers gWriter message writeValidAxiUser lockAxiUser mboxUsers rest users locks

/-- Configure MCU mailbox AXI users in MCI -/
def configureMcuMboxAxiUsers (gWriter : Option Writer) (mci : Mci)
    (mbox0Users mbox1Users : MboxArray Word) : Driver McuMboxAxiUserConfig := do
  let (users0, locks0) ← configureMboxUsers gWriter "[mcu-rom] Setting MCI mailbox 0 user"
    mci.writeMbox0ValidAxiUser mci.lockMbox0AxiUser mbox0Users (List.finRange mcuMboxUsers)
    (fun _ => none) (fun _ => false)
  let (users1, locks1) ← configureMboxUsers gWriter "[mcu-rom] Setting MCI mailbox 1 user"
    mci.writeMbox1ValidAxiUser mci.lockMbox1AxiUser mbox1Users (List.finRange mcuMboxUsers)
    (fun _ => none) (fun _ => false)
  pure ⟨users0, users1, locks0, locks1⟩

/-! ## Verifying mailbox users -/

/-- Verify AXI user value if configured -/
def verifyMboxUser (gWriter : Option Writer) (message : String)
    (readValidAxiUser : SizeT → Driver (Option Word)) (expected : Option Word) (i : SizeT) :
    Driver (McuResult Unit) :=
  match expected with
  | none => pure (.ok ())
  | some expectedVal => do
    let actualResult ← readValidAxiUser i
    let actualVal := actualResult.getD 0
    if expectedVal ≠ actualVal then do
      println gWriter message
      pure (.error .mboxInvalidResponse)
    else pure (.ok ())

/-- Verify lock status -/
def verifyMboxLock (gWriter : Option Writer) (message : String)
    (readAxiUserLock : SizeT → Driver (Option Bool)) (expected : Bool) (i : SizeT) :
    Driver (McuResult Unit) := do
  let actualResult ← readAxiUserLock i
  let actualLocked := actualResult.getD false
  if expected ≠ actualLocked then do
    println gWriter message
    pure (.error .mboxInvalidResponse)
  else pure (.ok ())

/-- The loop of `verify_mcu_mbox_axi_users` over one mailbox, from some slots
on. -/
def verifyMboxUsers (gWriter : Option Writer) (userMessage lockMessage : String)
    (readValidAxiUser : SizeT → Driver (Option Word))
    (readAxiUserLock : SizeT → Driver (Option Bool)) (users : MboxArray (Option Word))
    (locks : MboxArray Bool) : List (Fin mcuMboxUsers) → Driver (McuResult Unit)
  | [] => pure (.ok ())
  | i :: rest =>
    Driver.andThen (verifyMboxUser gWriter userMessage readValidAxiUser (users i) (sizeT i))
      fun () =>
    Driver.andThen (verifyMboxLock gWriter lockMessage readAxiUserLock (locks i) (sizeT i))
      fun () =>
    verifyMboxUsers gWriter userMessage lockMessage readValidAxiUser readAxiUserLock users locks rest

/-- Verify MCU mailbox AXI user configuration -/
def verifyMcuMboxAxiUsers (gWriter : Option Writer) (mci : Mci)
    (expected : McuMboxAxiUserConfig) : Driver (McuResult Unit) :=
  Driver.andThen (verifyMboxUsers gWriter "[mcu-rom] MCU mailbox 0 user verification failed"
    "[mcu-rom] MCU mailbox 0 user lock verification failed" mci.readMbox0ValidAxiUser
    mci.readMbox0AxiUserLock expected.mbox0Users expected.mbox0Locks
    (List.finRange mcuMboxUsers)) fun () =>
  Driver.andThen (verifyMboxUsers gWriter "[mcu-rom] MCU mailbox 1 user verification failed"
    "[mcu-rom] MCU mailbox 1 user lock verification failed" mci.readMbox1ValidAxiUser
    mci.readMbox1AxiUserLock expected.mbox1Users expected.mbox1Locks
    (List.finRange mcuMboxUsers)) fun () => do
  println gWriter "[mcu-rom] MCU mailbox AXI user verification passed"
  pure (.ok ())

/-! ## Verifying the public key hashes -/

/-- The indices of the nested loops, in order: eight hashes of twelve words. -/
def hashWordIndices : List (Nat × Nat) :=
  (List.range 8).flatMap fun hashIdx => (List.range 12).map fun wordIdx => (hashIdx, wordIdx)

/-- The OTP address of a hash word. -/
def hashWordAddr (hashIdx wordIdx : Nat) : Word :=
  124 + sizeT hashIdx * 48 + sizeT wordIdx * 4

/-- The nested loops of `verify_prod_debug_unlock_pk_hash`, from some words on. -/
def compareHashWords (mci : Mci) (otp : Otp) : List (Nat × Nat) → Bool → Driver (McuResult Bool)
  | [], mismatch => pure (.ok mismatch)
  | (hashIdx, wordIdx) :: rest, mismatch => do
    let regIdx := sizeT hashIdx * 12 + sizeT wordIdx
    let expectedResult ← otp.readWord (hashWordAddr hashIdx wordIdx)
    match expectedResult with
    | .error _ => pure (.error .otpReadError)
    | .ok expected =>
      let actualResult ← mci.readProdDebugUnlockPkHash regIdx
      let actual := actualResult.getD 0
      compareHashWords mci otp rest (mismatch || expected != actual)

/-- The `expected_len` of the source: 384 bytes = 96 u32 words. -/
def pkHashExpectedLen : SizeT := 96

/-- Verify production debug unlock PK hash -/
def verifyProdDebugUnlockPkHash (gWriter : Option Writer) (mci : Mci) (otp : Otp) :
    Driver (McuResult Unit) := do
  let pkHashLen := Mci.prodDebugUnlockPkHashLen
  if pkHashLen ≠ pkHashExpectedLen then do
    println gWriter "[mcu-rom] PK hash length mismatch"
    pure (.error .otpReadError)
  else
    Driver.andThen (compareHashWords mci otp hashWordIndices false) fun mismatch => do
    if mismatch then do
      println gWriter "[mcu-rom] Prod debug unlock PK hash verification failed"
      pure (.error .otpReadError)
    else do
      println gWriter "[mcu-rom] Prod debug unlock PK hash verification passed"
      pure (.ok ())

end McuRom
