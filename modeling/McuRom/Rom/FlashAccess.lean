import McuRom.Rom.FlashMemory
import Mathlib.Algebra.Ring.Nat

namespace McuRom

open Mmio

/-!
# Accesses to a flash region

The bounds of a region are checked in 32-bit arithmetic, where the end of an
access, and the end of the region itself, can wrap to small values.  Away from
these wraps an access stays in its region and addresses are translated
consistently.

A word is assembled from four bytes whether or not the HIL delivered all of
them.
-/

/-- A region that lies in the address space. -/
structure FlashRegion extends FlashMemory where
  fits : baseAddress.toNat + size.toNat ≤ 2 ^ 32

namespace FlashMemory

variable (memory : FlashMemory)

/-- The byte with this address belongs to the region. -/
def InRegion (address : Nat) : Prop :=
  memory.baseAddress.toNat ≤ address ∧ address < memory.baseAddress.toNat + memory.size.toNat

/-- The end of an access wraps to an offset within the region. -/
def EndWraps (offset length : Word) : Prop :=
  2 ^ 32 ≤ offset.toNat + length.toNat ∧ offset + length ≤ memory.size

variable {α β σ : Type}

/-- An access reaches the HIL only if it ends within the region, and then with
a range of the region; otherwise it is rejected at once. -/
structure StaysInRegion (offset length : Word)
    (run : Run FlashRequest (McuResult (List Byte)) σ α) (result : McuResult β) : Prop where
  calls : ∀ access ∈ run.trace, offset.toNat + length.toNat ≤ memory.size.toNat ∧
    ∀ index < access.addr.length.toNat, memory.InRegion (access.addr.address.toNat + index)
  rejects : memory.size.toNat < offset.toNat + length.toNat →
    run.trace = [] ∧ result = .error .flashInvalidAddress

variable {memory}

/-- The check is right about every access whose end does not wrap. -/
theorem check_iff {offset length : Word} (noWrap : ¬ memory.EndWraps offset length) :
    memory.size < offset + length ↔ memory.size.toNat < offset.toNat + length.toNat := by
  have bounded := memory.size.isLt
  rw [EndWraps, BitVec.le_def, BitVec.toNat_add] at noWrap
  rw [BitVec.lt_def, BitVec.toNat_add]
  omega

end FlashMemory

namespace FlashRegion

open FlashMemory

variable {α β σ : Type} (region : FlashRegion)
variable {offset length : Word} {run : Run FlashRequest (McuResult (List Byte)) σ α}
variable {result : McuResult β}

/-- Both kinds of access are rejected or make one call, depending on the same
check. -/
theorem staysInRegion_iff
    (outside : region.size < offset + length →
      run.trace = [] ∧ result = .error .flashInvalidAddress)
    (inside : ¬ region.size < offset + length →
      ∃ reply, run.trace = [.read ⟨region.baseAddress + offset, length⟩ reply]) :
    region.StaysInRegion offset length run result ↔ ¬ region.EndWraps offset length := by
  have bounded := region.size.isLt
  constructor
  · intro stays wraps
    rcases inside (BitVec.not_lt.mpr wraps.2) with ⟨reply, called⟩
    have rejected := (stays.rejects (by have := wraps.1; omega)).1
    rw [rejected] at called
    cases called
  · intro noWrap
    have check := check_iff noWrap
    by_cases rejected : region.size < offset + length
    · have silent := outside rejected
      refine ⟨fun access member => ?_, fun _ => silent⟩
      rw [silent.1] at member
      cases member
    · rcases inside rejected with ⟨reply, called⟩
      rw [check, Nat.not_lt] at rejected
      refine ⟨fun access member => ⟨rejected, fun index below => ?_⟩, fun beyond => ?_⟩
      · rw [called, List.mem_singleton] at member
        subst member
        change index < length.toNat at below
        change region.InRegion ((region.baseAddress + offset).toNat + index)
        have fits := region.fits
        rw [InRegion, BitVec.toNat_add]
        omega
      · omega

/-- Accesses stay in the region exactly if their end does not wrap into it. -/
theorem accesses_stay_iff (hil : FlashHil σ) (state : σ) (offset : Word) (length : SizeT)
    (buffer : Buffer) :
    (region.StaysInRegion offset length ((region.read offset buffer length).run hil.device state)
        ((region.read offset buffer length).run hil.device state).result.1 ↔
      ¬ region.EndWraps offset length) ∧
    (region.StaysInRegion offset 4 ((region.readWord offset buffer).run hil.device state)
        ((region.readWord offset buffer).run hil.device state).result ↔
      ¬ region.EndWraps offset 4) := by
  constructor
  · apply region.staysInRegion_iff
    · intro outside
      rw [run_read_outside hil.device state buffer outside]
      exact ⟨rfl, rfl⟩
    · intro inside
      rw [run_read_inside hil.device state buffer inside]
      exact ⟨_, rfl⟩
  · apply region.staysInRegion_iff
    · intro outside
      rw [run_readWord_outside hil.device state buffer outside]
      exact ⟨rfl, rfl⟩
    · intro inside
      rw [run_readWord_inside hil.device state buffer inside]
      exact ⟨_, rfl⟩

end FlashRegion

/-- Erased flash behind a controller that delivers so many bytes at a time. -/
def erasedFlash (chunk : Nat) : FlashHil Unit where
  device :=
    { read := fun _ request => (.ok (List.replicate (min chunk request.length.toNat) 0xFF), ())
      write := fun _ _ _ => () }
  bounded := by
    intro _ request bytes delivered
    cases delivered
    rw [List.length_replicate]
    exact Nat.min_le_right _ _

namespace FlashRegion

/-- The first four kilobytes. -/
def lowRegion : FlashRegion := ⟨⟨0, 0x1000⟩, by decide⟩

/-- Two accesses far behind the first four kilobytes, whose ends wrap to 0 and
to 16, reach the HIL. -/
theorem wrapped_accesses_reach_hil :
    ((lowRegion.readWord 0xFFFFFFFC fun _ => 0).run (erasedFlash 4).device ()).trace =
        [.read ⟨0xFFFFFFFC, 4⟩ (.ok [0xFF, 0xFF, 0xFF, 0xFF])] ∧
      ¬ lowRegion.StaysInRegion 0xFFFFFFFC 4
        ((lowRegion.readWord 0xFFFFFFFC fun _ => 0).run (erasedFlash 4).device ())
        ((lowRegion.readWord 0xFFFFFFFC fun _ => 0).run (erasedFlash 4).device ()).result ∧
      ¬ lowRegion.StaysInRegion 0xFFFFFFF0 0x20
        ((lowRegion.read 0xFFFFFFF0 (fun _ => 0) 0x20).run (erasedFlash 4).device ())
        ((lowRegion.read 0xFFFFFFF0 (fun _ => 0) 0x20).run (erasedFlash 4).device ()).result.1 := by
  have word : lowRegion.EndWraps 0xFFFFFFFC 4 := by
    constructor <;> decide
  have block : lowRegion.EndWraps 0xFFFFFFF0 0x20 := by
    constructor <;> decide
  refine ⟨rfl, fun stays => ?_, fun stays => ?_⟩
  · refine absurd word ((lowRegion.staysInRegion_iff ?_ fun _ => ⟨_, rfl⟩).mp stays)
    exact fun outside => absurd outside (by decide)
  · refine absurd block ((lowRegion.staysInRegion_iff ?_ fun _ => ⟨_, rfl⟩).mp stays)
    exact fun outside => absurd outside (by decide)

end FlashRegion

/-! ## Words and bytes -/

namespace FlashMemory

variable {σ : Type} (memory : FlashMemory) (hil : FlashHil σ) (state : σ) (offset : Word)
variable (stack buffer : Buffer)

/-- What reading a word returns, and what reading four bytes in the same state
returns and leaves in the buffer. -/
def wordResult : McuResult Word := ((memory.readWord offset stack).run hil.device state).result

def bytesResult : McuResult SizeT × Buffer :=
  ((memory.read offset buffer 4).run hil.device state).result

/-- A word is read exactly where four bytes are, and it is their value. -/
structure WordAgrees : Prop where
  returns : (∃ word, memory.wordResult hil state offset stack = .ok word) ↔
    (memory.bytesResult hil state offset buffer).1 = .ok 4
  value : ∀ word, memory.wordResult hil state offset stack = .ok word →
    word = assembleWord (memory.bytesResult hil state offset buffer).2
  fails : (memory.bytesResult hil state offset buffer).1 ≠ .ok 4 →
    ∃ e, memory.wordResult hil state offset stack = .error e

/-- The HIL does not answer a request for this word with fewer bytes. -/
def NotShort : Prop :=
  ∀ bytes, (hil.device.read state ⟨memory.baseAddress + offset, 4⟩).1 = .ok bytes →
    bytes.length = 4

variable {memory hil state offset}

/-- A byte the HIL delivers does not depend on what the buffer held. -/
theorem deliver_inside {bytes : List Byte} {index : Nat} (inside : index < bytes.length) :
    deliver bytes stack index = deliver bytes buffer index := by
  simp only [deliver, List.getD_eq_getElem?_getD, List.getElem?_eq_getElem inside]
  rfl

theorem assembleWord_deliver {bytes : List Byte} (whole : bytes.length = 4) :
    assembleWord (deliver bytes stack) = assembleWord (deliver bytes buffer) := by
  unfold assembleWord
  rw [deliver_inside stack buffer (show 0 < bytes.length by omega),
    deliver_inside stack buffer (show 1 < bytes.length by omega),
    deliver_inside stack buffer (show 2 < bytes.length by omega),
    deliver_inside stack buffer (show 3 < bytes.length by omega)]

theorem sizeT_eq_four_iff {count : Nat} (bounded : count ≤ 4) : sizeT count = 4 ↔ count = 4 := by
  constructor
  · intro same
    have value := congrArg BitVec.toNat same
    rw [sizeT, BitVec.toNat_ofNat] at value
    change count % 2 ^ 32 = 4 at value
    omega
  · intro same
    rw [same]
    rfl

variable {stack buffer}

theorem wordAgrees_of_errors {first second : McuError}
    (word : memory.wordResult hil state offset stack = .error first)
    (bytes : (memory.bytesResult hil state offset buffer).1 = .error second) :
    memory.WordAgrees hil state offset stack buffer := by
  refine ⟨?_, ?_, fun _ => ⟨first, word⟩⟩
  · rw [word, bytes]
    exact iff_of_false (fun ⟨_, impossible⟩ => by cases impossible) nofun
  · intro value impossible
    rw [word] at impossible
    cases impossible

/-- Once the HIL has delivered bytes, the word is returned in any case. -/
theorem wordAgrees_of_delivered {delivered : List Byte} (bounded : delivered.length ≤ 4)
    (word : memory.wordResult hil state offset stack = .ok (assembleWord (deliver delivered stack)))
    (bytes : memory.bytesResult hil state offset buffer =
      (.ok (sizeT delivered.length), deliver delivered buffer)) :
    memory.WordAgrees hil state offset stack buffer ↔ delivered.length = 4 := by
  constructor
  · intro agrees
    have whole := agrees.returns.mp ⟨_, word⟩
    rw [bytes] at whole
    exact (sizeT_eq_four_iff bounded).mp (Except.ok.inj whole)
  · intro whole
    have count : (memory.bytesResult hil state offset buffer).1 = .ok 4 := by
      rw [bytes, whole]
      rfl
    refine ⟨iff_of_true ⟨_, word⟩ count, ?_, fun short => absurd count short⟩
    intro value same
    rw [word] at same
    rw [bytes, ← Except.ok.inj same]
    exact assembleWord_deliver stack buffer whole

variable (memory hil state offset stack buffer)

/-- The two ways of reading agree exactly where the HIL is not asked or does
not deliver less than a word. -/
theorem wordAgrees_iff :
    memory.WordAgrees hil state offset stack buffer ↔
      memory.size < offset + 4 ∨ memory.NotShort hil state offset := by
  by_cases outside : memory.size < offset + 4
  · have word := congrArg Run.result (run_readWord_outside hil.device state stack outside)
    have bytes := congrArg Run.result (run_read_outside hil.device state buffer outside)
    exact iff_of_true (wordAgrees_of_errors word (congrArg Prod.fst bytes)) (Or.inl outside)
  · have word := congrArg Run.result (run_readWord_inside hil.device state stack outside)
    have bytes := congrArg Run.result (run_read_inside hil.device state buffer outside)
    rw [← wordResult] at word
    rw [← bytesResult] at bytes
    rw [or_iff_right outside]
    cases reply : (hil.device.read state ⟨memory.baseAddress + offset, 4⟩).1 with
    | error e =>
        rw [reply] at word bytes
        apply iff_of_true (wordAgrees_of_errors word (congrArg Prod.fst bytes))
        intro delivered impossible
        rw [reply] at impossible
        cases impossible
    | ok delivered =>
        rw [reply] at word bytes
        rw [wordAgrees_of_delivered (hil.bounded _ _ _ reply) word bytes]
        constructor
        · intro whole other same
          cases reply.symm.trans same
          exact whole
        · intro notShort
          exact notShort delivered reply

/-- Two delivered bytes become a word with the two bytes of the stack above
them, where reading bytes reports two. -/
theorem readWord_short :
    FlashMemory.wordResult ⟨0, 0x1000⟩ (erasedFlash 2) () 0 (fun _ => 0xAB) = .ok 0xABABFFFF ∧
      (FlashMemory.bytesResult ⟨0, 0x1000⟩ (erasedFlash 2) () 0 fun _ => 0).1 = .ok 2 ∧
      ¬ FlashMemory.WordAgrees ⟨0, 0x1000⟩ (erasedFlash 2) () 0 (fun _ => 0xAB) fun _ => 0 := by
  have word : FlashMemory.wordResult ⟨0, 0x1000⟩ (erasedFlash 2) () 0 (fun _ => 0xAB) =
      .ok 0xABABFFFF := rfl
  have bytes : (FlashMemory.bytesResult ⟨0, 0x1000⟩ (erasedFlash 2) () 0 fun _ => 0).1 = .ok 2 :=
    rfl
  refine ⟨word, bytes, fun agrees => ?_⟩
  have whole := agrees.returns.mp ⟨_, word⟩
  rw [bytes] at whole
  exact absurd (Except.ok.inj whole) (by decide)

end FlashMemory

/-! ## Addresses and offsets -/

namespace FlashRegion

open FlashMemory

variable (region : FlashRegion) {address : Word}

/-- An address is contained in the region if it lies in it, which is when its
offset is less than the size; and a word in the region is read with one call
at its own address. -/
structure Translates (address : Word) : Prop where
  contained : region.contains address = true ↔ region.InRegion address.toNat
  offset : region.InRegion address.toNat ↔ region.toFlashOffset address < region.size
  reads : region.InRegion address.toNat →
    address.toNat + 4 ≤ region.baseAddress.toNat + region.size.toNat →
    ∀ (σ : Type) (hil : FlashHil σ) (state : σ) (buffer : Buffer), ∃ reply,
      ((region.readWord (region.toFlashOffset address) buffer).run hil.device state).trace =
        [.read ⟨address, 4⟩ reply]

/-- Offsets are exact: the region does not wrap. -/
theorem inRegion_iff_offset :
    region.InRegion address.toNat ↔ region.toFlashOffset address < region.size := by
  have fits := region.fits
  have bounded := address.isLt
  rw [InRegion, toFlashOffset, BitVec.lt_def, BitVec.toNat_sub]
  omega

theorem toFlashOffset_toNat (inside : region.InRegion address.toNat) :
    (region.toFlashOffset address).toNat = address.toNat - region.baseAddress.toNat := by
  have bounded := address.isLt
  unfold InRegion at inside
  rw [toFlashOffset, BitVec.toNat_sub]
  omega

/-- Only the upper end of the region can wrap. -/
theorem contains_iff :
    (region.contains address = true ↔ region.InRegion address.toNat) ↔
      region.baseAddress.toNat + region.size.toNat < 2 ^ 32 ∨ address < region.baseAddress := by
  have fits := region.fits
  have bounded := address.isLt
  rw [contains, Bool.and_eq_true, decide_eq_true_iff, decide_eq_true_iff, InRegion, BitVec.le_def,
    BitVec.lt_def, BitVec.lt_def, BitVec.toNat_add]
  omega

theorem readWord_at_address (inside : region.InRegion address.toNat)
    (room : address.toNat + 4 ≤ region.baseAddress.toNat + region.size.toNat)
    (σ : Type) (hil : FlashHil σ) (state : σ) (buffer : Buffer) :
    ∃ reply, ((region.readWord (region.toFlashOffset address) buffer).run hil.device
      state).trace = [.read ⟨address, 4⟩ reply] := by
  have offset := region.toFlashOffset_toNat inside
  have back : region.baseAddress + region.toFlashOffset address = address := by
    rw [toFlashOffset, BitVec.add_comm]
    exact BitVec.sub_add_cancel ..
  have accepted : ¬ region.size < region.toFlashOffset address + 4 := by
    have fits := region.size.isLt
    unfold InRegion at inside
    rw [BitVec.lt_def, BitVec.toNat_add, offset]
    change ¬ _ < (_ + 4) % _
    omega
  rw [run_readWord_inside hil.device state buffer accepted, back]
  exact ⟨_, rfl⟩

/-- Addresses are translated consistently exactly where the end of the region
does not wrap, or the address lies below the region. -/
theorem translates_iff (address : Word) :
    region.Translates address ↔
      region.baseAddress.toNat + region.size.toNat < 2 ^ 32 ∨ address < region.baseAddress := by
  rw [← region.contains_iff]
  constructor
  · exact fun translates => translates.contained
  · intro contained
    exact ⟨contained, region.inRegion_iff_offset, region.readWord_at_address⟩

/-- The last megabyte of the address space does not contain its own bytes. -/
theorem contains_misses_top :
    FlashMemory.contains ⟨0xFFF00000, 0x100000⟩ 0xFFF00000 = false ∧
      ¬ FlashRegion.Translates ⟨⟨0xFFF00000, 0x100000⟩, by decide⟩ 0xFFF00000 := by
  refine ⟨by decide, fun translates => ?_⟩
  have contained := translates.contained.mpr ⟨by decide, by decide⟩
  exact absurd contained (by decide)

end FlashRegion

end McuRom
