import McuRom.Mailbox.Checksum
import McuRom.Mailbox.Exec
import McuRom.Rom.RomEnv

namespace McuRom

open Mmio

/-!
# Response integrity

A response is a byte string of length DLEN, cut from the little-endian words
of the data register.  Its first word is a header checksum that completes the
remaining bytes to zero.  The client returns `Ok` for every response it is
handed: no step between the data register and the result compares the header
with the bytes that were read.
-/

/-- The bytes of a response: the first `dlen` bytes of its words. -/
def responseBytes (words : Nat → Word) (dlen : Nat) : List Byte :=
  (arrayBytes ((List.range ((dlen + 3) / 4)).map words)).take dlen

/-- The header word and the bytes behind it sum to zero. -/
def ResponseChecksumCorrect (words : Nat → Word) (dlen : Nat) : Prop :=
  words 0 + byteSum ((responseBytes words dlen).drop 4) = 0

instance (words : Nat → Word) (dlen : Nat) : Decidable (ResponseChecksumCorrect words dlen) :=
  inferInstanceAs (Decidable (_ = _))

namespace CaliptraSoC

variable (soc : CaliptraSoC) (cmd : Word) (req resp : List Word) (script : Word → Nat → Word)
variable (lock : Bool)

/-- Success implies a correct checksum, and a response with a wrong checksum
is answered with `MBOX_INVALID_RESPONSE`. -/
def RejectsCorrupt : Prop :=
  ((soc.execRun cmd req resp script lock).result.result = .ok () →
      ResponseChecksumCorrect (soc.dataScript script) (soc.dlenScript script).toNat) ∧
    (soc.Delivered req resp script lock →
      ¬ ResponseChecksumCorrect (soc.dataScript script) (soc.dlenScript script).toNat →
      (soc.execRun cmd req resp script lock).result.result = .error .mboxInvalidResponse)

/-- The checksum is never looked at, so a corrupt response is rejected only
where none is delivered. -/
theorem rejectsCorrupt_iff :
    soc.RejectsCorrupt cmd req resp script lock ↔
      (soc.Delivered req resp script lock →
        ResponseChecksumCorrect (soc.dataScript script) (soc.dlenScript script).toNat) := by
  have ok := soc.exec_ok_iff cmd req resp script lock
  constructor
  · intro rejects delivered
    exact rejects.1 (ok.mpr delivered)
  · intro intact
    exact ⟨fun succeeded => intact (ok.mp succeeded),
      fun delivered corrupt => absurd (intact delivered) corrupt⟩

/-- A header of 8 over a payload word of 8 sums to 16, and is accepted. -/
theorem exec_accepts_corrupt :
    (romEnv.socManager.execRun 0 [0] [0, 0] readyScript false).result.result = .ok () ∧
      ¬ ResponseChecksumCorrect (romEnv.socManager.dataScript readyScript)
        (romEnv.socManager.dlenScript readyScript).toNat ∧
      ¬ romEnv.socManager.RejectsCorrupt 0 [0] [0, 0] readyScript false := by
  have succeeded := (romEnv.socManager.exec_ok_iff 0 [0] [0, 0] readyScript false).mpr
    romEnv.socManager.delivered_readyScript
  have corrupt : ¬ ResponseChecksumCorrect (romEnv.socManager.dataScript readyScript)
      (romEnv.socManager.dlenScript readyScript).toNat := by decide
  exact ⟨succeeded, corrupt, fun rejects => corrupt (rejects.1 succeeded)⟩

end CaliptraSoC

end McuRom
