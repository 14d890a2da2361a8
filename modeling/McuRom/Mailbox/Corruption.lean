import McuRom.Mailbox.Decoding
import Mathlib.Data.List.Forall2
import Mathlib.Algebra.BigOperators.Group.List.Basic

namespace McuRom

open Mmio

/-!
# What the response checksum detects

The checksum adds up bytes.  A response whose payload has been changed on the
way is accepted exactly if the bytes still have the same sum.  So exchanged
bytes go unnoticed; but a fault that only sets bits, or only clears them, does
not, wherever and how often it strikes.  No response is long enough for such
a sum to wrap around.
-/

/-- No byte has become smaller. -/
def NoneSmaller : List Byte → List Byte → Prop := List.Forall₂ (· ≤ ·)

/-- The sum of bytes as a number. -/
def byteTotal (bytes : List Byte) : Nat := (bytes.map BitVec.toNat).sum

/-! ## Sums of bytes -/

theorem byteTotal_le (bytes : List Byte) : byteTotal bytes ≤ 255 * bytes.length := by
  unfold byteTotal
  induction bytes with
  | nil => exact Nat.le_refl 0
  | cons byte rest ih =>
      have bound : byte.toNat < 2 ^ 8 := byte.isLt
      rw [List.map_cons, List.sum_cons, List.length_cons]
      omega

theorem byteSum_eq_ofNat (bytes : List Byte) : byteSum bytes = BitVec.ofNat 32 (byteTotal bytes) := by
  unfold byteTotal
  induction bytes with
  | nil => rfl
  | cons byte rest ih =>
      rw [byteSum, ih, List.map_cons, List.sum_cons, BitVec.ofNat_add, ← BitVec.ofNat_toNat]

/-- Up to the length of a mailbox, and far beyond it, the sum is exact. -/
theorem byteSum_toNat {bytes : List Byte} (short : bytes.length < 2 ^ 24) :
    (byteSum bytes).toNat = byteTotal bytes := by
  have bound := byteTotal_le bytes
  rw [byteSum_eq_ofNat, BitVec.toNat_ofNat, Nat.mod_eq_of_lt (by omega)]

theorem NoneSmaller.total_le {first second : List Byte} (none : NoneSmaller first second) :
    byteTotal first ≤ byteTotal second := by
  unfold byteTotal
  induction none with
  | nil => exact Nat.le_refl 0
  | cons smaller rest ih =>
      rw [List.map_cons, List.map_cons, List.sum_cons, List.sum_cons]
      exact Nat.add_le_add smaller ih

/-- Where no byte has become smaller, an equal sum means that nothing has
changed. -/
theorem NoneSmaller.eq_of_total {first second : List Byte} (none : NoneSmaller first second)
    (same : byteTotal first = byteTotal second) : first = second := by
  induction none with
  | nil => rfl
  | @cons byte changed first second smaller rest ih =>
      have later := NoneSmaller.total_le rest
      unfold byteTotal at same later ih
      rw [List.map_cons, List.map_cons, List.sum_cons, List.sum_cons] at same
      have smaller : byte.toNat ≤ changed.toNat := smaller
      have head : byte.toNat = changed.toNat := by omega
      rw [BitVec.eq_of_toNat_eq head, ih (by omega)]

/-- A fault in one direction changes the sum. -/
theorem byteSum_ne {first second : List Byte} (short : first.length < 2 ^ 24)
    (direction : NoneSmaller first second ∨ NoneSmaller second first)
    (different : first ≠ second) : byteSum first ≠ byteSum second := by
  have lengths : first.length = second.length := by
    rcases direction with grown | shrunk
    · exact grown.length_eq
    · exact shrunk.length_eq.symm
  intro same
  have totals := congrArg BitVec.toNat same
  rw [byteSum_toNat short, byteSum_toNat (lengths ▸ short)] at totals
  rcases direction with grown | shrunk
  · exact different (grown.eq_of_total totals)
  · exact different (shrunk.eq_of_total totals.symm).symm

/-- Two payloads that differ in one byte only. -/
theorem one_direction_of_single {before after : List Byte} (byte changed : Byte) :
    NoneSmaller (before ++ byte :: after) (before ++ changed :: after) ∨
      NoneSmaller (before ++ changed :: after) (before ++ byte :: after) := by
  have same (bytes : List Byte) : List.Forall₂ (· ≤ ·) bytes bytes :=
    List.forall₂_same.mpr fun byte _ => BitVec.le_refl byte
  rcases BitVec.le_total byte changed with grown | shrunk
  · exact Or.inl (List.rel_append (same before) (.cons grown (same after)))
  · exact Or.inr (List.rel_append (same before) (.cons shrunk (same after)))

/-! ## Corrupt responses -/

namespace CaliptraMailboxResponse

variable {σ τ : Type} (intact : Device Word Word σ) (corrupt : Device Word Word τ)
variable (mboxBase header : Word) (dlenBytes : SizeT) (state : σ) (corruptState : τ)

/-- What a response is taken for whose words have been changed on the way.
It has been read to its end on a device that delivers `corrupt` words. -/
structure DetectsCorruption (fuel : Nat) : Prop where
  exactly : (drainRun corrupt mboxBase header dlenBytes corruptState fuel).result.2.verifyChecksum =
      .ok () ↔
    byteSum (payloadRead corrupt mboxBase header dlenBytes corruptState) =
      byteSum (payloadRead intact mboxBase header dlenBytes state)
  oneDirection : payloadRead intact mboxBase header dlenBytes state ≠
      payloadRead corrupt mboxBase header dlenBytes corruptState →
    (NoneSmaller (payloadRead intact mboxBase header dlenBytes state)
        (payloadRead corrupt mboxBase header dlenBytes corruptState) ∨
      NoneSmaller (payloadRead corrupt mboxBase header dlenBytes corruptState)
        (payloadRead intact mboxBase header dlenBytes state)) →
    (drainRun corrupt mboxBase header dlenBytes corruptState fuel).result.2.verifyChecksum =
      .error .mboxInvalidResponse
  oneByte : ∀ before byte changed after, byte ≠ changed →
    payloadRead intact mboxBase header dlenBytes state = before ++ byte :: after →
    payloadRead corrupt mboxBase header dlenBytes corruptState = before ++ changed :: after →
    (drainRun corrupt mboxBase header dlenBytes corruptState fuel).result.2.verifyChecksum =
      .error .mboxInvalidResponse
  header : ∀ changed, changed ≠ header →
    payloadRead corrupt mboxBase changed dlenBytes corruptState =
      payloadRead intact mboxBase header dlenBytes state →
    (drainRun corrupt mboxBase changed dlenBytes corruptState fuel).result.2.verifyChecksum =
      .error .mboxInvalidResponse

/-- There are two answers only. -/
theorem verifyChecksum_error {response : CaliptraMailboxResponse}
    (rejected : response.verifyChecksum ≠ .ok ()) :
    response.verifyChecksum = .error .mboxInvalidResponse := by
  unfold verifyChecksum at rejected ⊢
  by_cases same : 0 - response.checksum = response.expectedChecksum
  · exact absurd (if_pos same) rejected
  · exact if_neg same

end CaliptraMailboxResponse

end McuRom
