import McuRom.Romtime.MailboxResponse
import McuRom.Mmio.Polling

namespace McuRom

open Mmio

/-!
# Iterating a response

The loop over `next` reads the response's own data register once for every
word but the first, which is the header the constructor was given.  The
results here hold for any device behind that register; which register it is
depends on the offset the class uses.
-/

namespace CaliptraMailboxResponse

variable {σ : Type} (dev : Device Word Word σ)

/-- The register `next` pops. -/
def dataoutReg (response : CaliptraMailboxResponse) : Word := response.mboxBase + mboxDataout

/-- The register `release` writes. -/
def executeReg (response : CaliptraMailboxResponse) : Word := response.mboxBase + mboxExecute

/-! ## One call of `next` -/

theorem next_done {response : CaliptraMailboxResponse}
    (done : response.wordCount ≤ response.idx) : response.next = pure (none, response) :=
  if_pos done

theorem next_header {response : CaliptraMailboxResponse} (start : response.idx = 0)
    (more : ¬ response.wordCount ≤ response.idx) :
    response.next =
      pure (some response.expectedChecksum, { response with idx := response.idx + 1 }) := by
  rw [next, if_neg more, if_pos start]

theorem next_word {response : CaliptraMailboxResponse} (started : response.idx ≠ 0)
    (more : ¬ response.wordCount ≤ response.idx) :
    response.next = (do
      let data ← Program.readReg response.dataoutReg
      pure (response.absorb data)) := by
  rw [next, if_neg more, if_neg started]
  rfl

/-! ## The rest of the response after the header -/

/-- Store a word the way the loop does, ignoring what does not fit. -/
def store (respCount : SizeT) (i : Nat) (word : Word) (resp : List Word) : List Word :=
  if i < respCount.toNat then resp.set i word else resp

/-- The effect of `remaining` further calls of `next` whose reads return the
words of `stream`. -/
def absorbAll (respCount : SizeT) : Nat → (Nat → Word) → CaliptraMailboxResponse → Nat →
    List Word → CaliptraMailboxResponse × List Word
  | 0, _, response, _, resp => (response, resp)
  | remaining + 1, stream, response, i, resp =>
      absorbAll respCount remaining (fun index => stream (index + 1))
        (response.absorb (stream 0)).2 (i + 1)
        (store respCount i (validData (stream 0) (response.remainingBytes (response.idx + 1))) resp)

/-- Absorbing words changes neither where the response releases nor whether
it still has to. -/
theorem absorbAll_release (respCount : SizeT) (remaining : Nat) (stream : Nat → Word)
    (response : CaliptraMailboxResponse) (i : Nat) (resp : List Word) :
    (absorbAll respCount remaining stream response i resp).1.release = response.release := by
  induction remaining generalizing stream response i resp with
  | zero => rfl
  | succ remaining ih => exact ih _ _ _ _

/-- The index stays within the word count, so it never wraps. -/
theorem idx_succ_toNat {response : CaliptraMailboxResponse} {remaining : Nat}
    (position : response.idx.toNat + (remaining + 1) = response.wordCount.toNat) :
    (response.idx + 1).toNat = response.idx.toNat + 1 := by
  have bounded := response.wordCount.isLt
  rw [BitVec.toNat_add]
  exact Nat.mod_eq_of_lt (by simp only [BitVec.ofNat_eq_ofNat, BitVec.toNat_ofNat]; omega)

theorem done_of_position {response : CaliptraMailboxResponse}
    (position : response.idx.toNat + 0 = response.wordCount.toNat) :
    response.wordCount ≤ response.idx := by
  rw [BitVec.le_def, ← position]
  exact Nat.le_refl _

theorem more_of_position {response : CaliptraMailboxResponse} {remaining : Nat}
    (position : response.idx.toNat + (remaining + 1) = response.wordCount.toNat) :
    ¬ response.wordCount ≤ response.idx := by
  rw [BitVec.le_def, ← position]
  omega

/-- After a word the iteration is one further, and still past the header. -/
theorem absorb_position {response : CaliptraMailboxResponse} {remaining : Nat}
    (position : response.idx.toNat + (remaining + 1) = response.wordCount.toNat) (data : Word) :
    (response.absorb data).2.idx ≠ 0 ∧
      (response.absorb data).2.idx.toNat + remaining =
        (response.absorb data).2.wordCount.toNat := by
  have step := idx_succ_toNat position
  constructor
  · intro wrapped
    have zero := congrArg BitVec.toNat wrapped
    change (response.idx + 1).toNat = 0 at zero
    omega
  · change (response.idx + 1).toNat + remaining = response.wordCount.toNat
    omega

/-- Once the header is out, every remaining word costs one read of the data
register, and the call that returns nothing costs none.  The induction is on
the number of words left; the fuel only has to exceed it. -/
theorem run_copyWords (respCount : SizeT) (remaining fuel : Nat)
    (response : CaliptraMailboxResponse) (i : Nat) (resp : List Word) (state : σ)
    (enough : remaining < fuel) (started : response.idx ≠ 0)
    (position : response.idx.toNat + remaining = response.wordCount.toNat) :
    (copyWords respCount fuel response i resp).run dev state =
      ⟨pollTrace response.dataoutReg (dev.replies response.dataoutReg state) remaining,
        absorbAll respCount remaining (dev.replies response.dataoutReg state) response i resp,
        dev.afterReads response.dataoutReg state remaining⟩ := by
  induction remaining generalizing fuel response i resp state with
  | zero =>
      obtain ⟨fuel, rfl⟩ := Nat.exists_eq_succ_of_ne_zero (Nat.ne_zero_of_lt enough)
      rw [copyWords, next_done (done_of_position position)]
      rfl
  | succ remaining ih =>
      obtain ⟨fuel, rfl⟩ := Nat.exists_eq_succ_of_ne_zero (Nat.ne_zero_of_lt enough)
      have moved := absorb_position position (dev.read state response.dataoutReg).1
      have later := ih fuel (response.absorb (dev.read state response.dataoutReg).1).2 (i + 1)
        (store respCount i
          (validData (dev.read state response.dataoutReg).1
            (response.remainingBytes (response.idx + 1))) resp)
        (dev.read state response.dataoutReg).2 (Nat.lt_of_succ_lt_succ enough) moved.1 moved.2
      rw [copyWords, next_word started (more_of_position position), pollTrace_succ]
      simp only [Program.bind_assoc, Program.run_bind, Program.run_readReg]
      exact congrArg (Run.after _) later

/-! ## The whole loop -/

/-- What the loop computes from the words its reads return. -/
def copied (response : CaliptraMailboxResponse) (stream : Nat → Word) (resp : List Word) :
    CaliptraMailboxResponse × List Word :=
  if response.wordCount = 0 then (response, resp)
  else
    absorbAll (sizeT resp.length) (response.wordCount.toNat - 1) stream
      { response with idx := response.idx + 1 } 1
      (store (sizeT resp.length) 0 response.expectedChecksum resp)

theorem copied_release (response : CaliptraMailboxResponse) (stream : Nat → Word)
    (resp : List Word) : (response.copied stream resp).1.release = response.release := by
  unfold copied
  split
  · rfl
  · exact absorbAll_release ..

/-- A fresh response is copied with one read for every word after the header. -/
theorem run_copyAll (response : CaliptraMailboxResponse) (resp : List Word) (state : σ)
    (fresh : response.idx = 0) :
    (response.copyAll resp).run dev state =
      ⟨pollTrace response.dataoutReg (dev.replies response.dataoutReg state)
          (response.wordCount.toNat - 1),
        response.copied (dev.replies response.dataoutReg state) resp,
        dev.afterReads response.dataoutReg state (response.wordCount.toNat - 1)⟩ := by
  by_cases empty : response.wordCount = 0
  · have done : response.wordCount ≤ response.idx := by
      rw [empty, fresh]
      exact BitVec.le_refl 0
    rw [copyAll, copyWords, next_done done, copied, if_pos empty, empty]
    rfl
  · have nonzero : response.wordCount.toNat ≠ 0 := fun zero =>
      empty (BitVec.eq_of_toNat_eq zero)
    have more : ¬ response.wordCount ≤ response.idx := by
      rw [fresh, BitVec.le_def]
      exact fun bound => nonzero (Nat.le_zero.mp bound)
    have one : (response.idx + 1).toNat = 1 := by rw [fresh]; rfl
    have rest := run_copyWords dev (sizeT resp.length) (response.wordCount.toNat - 1)
      response.wordCount.toNat { response with idx := response.idx + 1 } 1
      (store (sizeT resp.length) 0 response.expectedChecksum resp) state (by omega)
      (fun zero => by
        have impossible := congrArg BitVec.toNat zero
        change (response.idx + 1).toNat = 0 at impossible
        omega)
      (by
        change (response.idx + 1).toNat + _ = response.wordCount.toNat
        omega)
    rw [copyAll, copyWords, next_header fresh more, copied, if_neg empty]
    exact rest

end CaliptraMailboxResponse

end McuRom
