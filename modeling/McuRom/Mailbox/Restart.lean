import McuRom.Mailbox.Decoding

namespace McuRom

open Mmio

/-!
# Restarting an iteration

`reset` rewinds the index and the checksum of a response.  The words come out
of a FIFO, which is not rewound: the second iteration goes on where the first
one stopped, unless the FIFO holds the same words once more.
-/

namespace CaliptraMailboxResponse

/-- Call `next` a number of times and drop what it returns. -/
def skip : Nat → CaliptraMailboxResponse → Driver CaliptraMailboxResponse
  | 0, response => pure response
  | count + 1, response => do
    let (_, response) ← response.next
    skip count response

variable (mboxBase header : Word) (dlenBytes : SizeT)

/-- The number of words of a response, as `next` computes it. -/
def totalWords : Nat := (construct mboxBase dlenBytes header).wordCount.toNat

/-- The number of words that a number of calls takes from the FIFO.  The first
call returns the header, and there are no words after the last. -/
def popped (calls : Nat) : Nat := min (calls - 1) (totalWords mboxBase header dlenBytes - 1)

/-- Some calls of `next`, then `reset`, then a whole iteration. -/
def resetDrain (calls : Nat) : Driver (List Word × CaliptraMailboxResponse) := do
  let response ← skip calls (construct mboxBase dlenBytes header)
  drain (totalWords mboxBase header dlenBytes + 1) response.reset

variable (calls : Nat) (script : Word → Nat → Word)

/-- The iteration after `reset` yields the words of an uninterrupted one, and
the checksum gets the same verdict. -/
structure Restarts : Prop where
  words : ((resetDrain mboxBase header dlenBytes calls).run Device.scripted script).result.1 =
    (drainRun Device.scripted mboxBase header dlenBytes script
      (totalWords mboxBase header dlenBytes + 1)).result.1
  verdict :
    ((resetDrain mboxBase header dlenBytes calls).run Device.scripted
      script).result.2.verifyChecksum =
    (drainRun Device.scripted mboxBase header dlenBytes script
      (totalWords mboxBase header dlenBytes + 1)).result.2.verifyChecksum

/-- What follows in the FIFO is what was taken from it, as far as the bytes of
the response go. -/
def Repeats : Prop :=
  ∀ index < totalWords mboxBase header dlenBytes - 1,
    clearBeyond dlenBytes.toNat (1 + index) (script (mboxBase + mboxDataout)
      (popped mboxBase header dlenBytes calls + index)) =
    clearBeyond dlenBytes.toNat (1 + index) (script (mboxBase + mboxDataout) index)

/-! ## What interrupted iterations leave -/

variable {σ : Type} (dev : Device Word Word σ)

theorem skip_done {response : CaliptraMailboxResponse}
    (done : response.wordCount ≤ response.idx) (count : Nat) :
    skip count response = pure response := by
  induction count with
  | zero => rfl
  | succ count ih =>
      rw [skip, next_done done]
      exact ih

/-- After the header, every call pops one word while there are words left. -/
theorem run_skip_started (count remaining : Nat) (response : CaliptraMailboxResponse) (state : σ)
    (started : response.idx ≠ 0)
    (position : response.idx.toNat + remaining = response.wordCount.toNat) :
    ((skip count response).run dev state).result.reset = response.reset ∧
      ((skip count response).run dev state).state =
        dev.afterReads response.dataoutReg state (min count remaining) := by
  induction count generalizing remaining response state with
  | zero =>
      rw [Nat.zero_min]
      exact ⟨rfl, rfl⟩
  | succ count ih =>
      cases remaining with
      | zero =>
          rw [skip_done (done_of_position position), Nat.min_zero]
          exact ⟨rfl, rfl⟩
      | succ remaining =>
          have moved := absorb_position position (dev.read state response.dataoutReg).1
          have later := ih remaining _ (dev.read state response.dataoutReg).2 moved.1 moved.2
          rw [skip, next_word started (more_of_position position), Nat.succ_min_succ]
          simp only [Program.bind_assoc, Program.run_bind, Program.run_readReg, Run.after_result,
            Run.after_state]
          exact later

/-- An interrupted iteration of a new response has popped its words, and
`reset` makes the response new again. -/
theorem run_skip (state : σ) :
    ((skip calls (construct mboxBase dlenBytes header)).run dev state).result.reset =
        construct mboxBase dlenBytes header ∧
      ((skip calls (construct mboxBase dlenBytes header)).run dev state).state =
        dev.afterReads (mboxBase + mboxDataout) state (popped mboxBase header dlenBytes calls) := by
  let response := construct mboxBase dlenBytes header
  by_cases done : response.wordCount ≤ response.idx
  · have none : totalWords mboxBase header dlenBytes = 0 := Nat.le_zero.mp (BitVec.le_def.mp done)
    rw [skip_done done, popped, none, Nat.zero_sub, Nat.min_zero]
    exact ⟨rfl, rfl⟩
  · cases calls with
    | zero =>
        rw [popped, Nat.zero_sub, Nat.zero_min]
        exact ⟨rfl, rfl⟩
    | succ calls =>
        have some : totalWords mboxBase header dlenBytes ≠ 0 := fun none =>
          done (BitVec.le_def.mpr (Nat.le_of_eq none))
        have rest := run_skip_started dev calls (totalWords mboxBase header dlenBytes - 1)
          { response with idx := response.idx + 1 } state (by decide : (0 : SizeT) + 1 ≠ 0)
          (show 1 + _ = totalWords mboxBase header dlenBytes by omega)
        rw [popped, Nat.add_sub_cancel, skip, next_header rfl done]
        exact rest

/-- The second iteration is that of a new response on what the first one left
in the FIFO. -/
theorem run_resetDrain (state : σ) :
    ((resetDrain mboxBase header dlenBytes calls).run dev state).result =
      (drainRun dev mboxBase header dlenBytes
        (dev.afterReads (mboxBase + mboxDataout) state (popped mboxBase header dlenBytes calls))
        (totalWords mboxBase header dlenBytes + 1)).result := by
  have skipped := run_skip mboxBase header dlenBytes calls dev state
  rw [resetDrain, Program.run_bind, Run.after_result, skipped.1, skipped.2]
  rfl

/-! ## What the words of a response determine -/

/-- The bytes of a word up to the end of the response survive clearing. -/
theorem wordBytes_clearBeyond (dlen index : Nat) (data : Word) :
    (wordBytes (clearBeyond dlen index data)).take (dlen - 4 * index) =
      (wordBytes data).take (dlen - 4 * index) := by
  rw [List.take_eq_take_min, List.take_eq_take_min (l := wordBytes data), wordBytes_length,
    wordBytes_length, Nat.min_comm, clearBeyond_eq, wordBytes_take _ (Nat.min_le_left 4 _)]
  exact bytes_clear data (Nat.min_le_left 4 _)

/-- Responses with the same words have the same payload. -/
theorem restBytes_congr (dlen index count : Nat) {first second : Nat → Word}
    (same : ∀ later < count,
      clearBeyond dlen (index + later) (first later) =
        clearBeyond dlen (index + later) (second later)) :
    restBytes dlen index count first = restBytes dlen index count second := by
  induction count generalizing index first second with
  | zero => rfl
  | succ count ih =>
      have head := same 0 (Nat.succ_pos count)
      have tail : restBytes dlen (index + 1) count (fun later => first (later + 1)) =
          restBytes dlen (index + 1) count fun later => second (later + 1) := by
        apply ih
        intro later below
        rw [Nat.add_assoc, Nat.add_comm 1]
        exact same (later + 1) (Nat.succ_lt_succ below)
      rw [Nat.add_zero] at head
      rw [restBytes_succ, restBytes_succ, tail, ← wordBytes_clearBeyond dlen index (first 0), head,
        wordBytes_clearBeyond]

theorem restWords_congr_iff (dlen index count : Nat) (first second : Nat → Word) :
    restWords dlen index count first = restWords dlen index count second ↔
      ∀ later < count, clearBeyond dlen (index + later) (first later) =
        clearBeyond dlen (index + later) (second later) := by
  rw [restWords, restWords, List.map_inj_left]
  simp only [List.mem_range]

/-! ## The second iteration -/

/-- A response whose words can be counted at all does not wrap. -/
theorem fits_of_words (some : totalWords mboxBase header dlenBytes ≠ 0) :
    dlenBytes.toNat + 3 < 2 ^ 32 := by
  have bounded := dlenBytes.isLt
  rw [totalWords, wordCount, BitVec.toNat_udiv, BitVec.toNat_add] at some
  change (dlenBytes.toNat + 3) % 2 ^ 32 / 4 ≠ 0 at some
  omega

/-- Without words both iterations end at once. -/
theorem drainRun_empty (none : totalWords mboxBase header dlenBytes = 0) (state : σ) (fuel : Nat) :
    (drainRun dev mboxBase header dlenBytes state fuel).result =
      ([], construct mboxBase dlenBytes header) := by
  have done : (construct mboxBase dlenBytes header).wordCount ≤ 0 :=
    BitVec.le_def.mpr (Nat.le_of_eq none)
  rw [drainRun]
  cases fuel with
  | zero => rfl
  | succ fuel =>
      rw [drain, next_done done]
      rfl

/-- Otherwise an iteration yields the header and what the FIFO holds. -/
theorem drainRun_words (some : totalWords mboxBase header dlenBytes ≠ 0) :
    (drainRun Device.scripted mboxBase header dlenBytes script
      (totalWords mboxBase header dlenBytes + 1)).result =
      (header :: restWords dlenBytes.toNat 1 (totalWords mboxBase header dlenBytes - 1)
          (script (mboxBase + mboxDataout)),
        (construct mboxBase dlenBytes header).drained
          (restBytes dlenBytes.toNat 1 (totalWords mboxBase header dlenBytes - 1)
            (script (mboxBase + mboxDataout)))) := by
  have fits := fits_of_words mboxBase header dlenBytes some
  have total : totalWords mboxBase header dlenBytes = (dlenBytes.toNat + 3) / 4 :=
    wordCount_toNat fits
  have count : (dlenBytes.toNat + 3) / 4 = totalWords mboxBase header dlenBytes - 1 + 1 := by
    omega
  have reads : dataReads Device.scripted mboxBase script = script (mboxBase + mboxDataout) :=
    funext fun index => Device.scripted_replies script _ index
  rw [drainRun_eq Device.scripted mboxBase header dlenBytes script fits (by omega), payloadRead,
    reads, decodedWords_succ header _ count, payloadBytes_succ header _ count]

/-- An iteration after `reset` is a whole one exactly if the FIFO repeats. -/
theorem restarts_iff :
    Restarts mboxBase header dlenBytes calls script ↔
      Repeats mboxBase header dlenBytes calls script := by
  have second := run_resetDrain mboxBase header dlenBytes calls Device.scripted script
  by_cases none : totalWords mboxBase header dlenBytes = 0
  · rw [drainRun_empty _ _ _ _ none] at second
    refine iff_of_true ⟨?_, ?_⟩ ?_
    · rw [second, drainRun_empty _ _ _ _ none]
    · rw [second, drainRun_empty _ _ _ _ none]
    · intro index below
      rw [none] at below
      cases below
  · have advanced : Device.advance script (mboxBase + mboxDataout)
        (popped mboxBase header dlenBytes calls) (mboxBase + mboxDataout) =
        fun index => script (mboxBase + mboxDataout)
          (popped mboxBase header dlenBytes calls + index) :=
      funext fun index => Device.advance_self script _ _ index
    rw [Device.scripted_afterReads, drainRun_words _ _ _ _ none, advanced] at second
    have first := drainRun_words mboxBase header dlenBytes script none
    constructor
    · intro restarts
      have same := restarts.words
      rw [second, first] at same
      exact (restWords_congr_iff _ _ _ _ _).mp (List.cons.inj same).2
    · intro repeats
      refine ⟨?_, ?_⟩
      · rw [second, first]
        exact congrArg (List.cons header) ((restWords_congr_iff _ _ _ _ _).mpr repeats)
      · rw [second, first, restBytes_congr _ _ _ repeats]

/-- A FIFO of ascending words. -/
def ascending : Word → Nat → Word := fun _ index => BitVec.ofNat 32 (index + 1)

/-- After a whole iteration over a valid response, the next one yields what
follows in the FIFO, and its checksum is wrong. -/
theorem reset_continues :
    ((resetDrain 0 0xFFFFFFFD 12 4).run Device.scripted ascending).result.1 =
        [0xFFFFFFFD, 3, 4] ∧
      ((resetDrain 0 0xFFFFFFFD 12 4).run Device.scripted ascending).result.2.verifyChecksum =
        .error .mboxInvalidResponse ∧
      (drainRun Device.scripted 0 0xFFFFFFFD 12 ascending (totalWords 0 0xFFFFFFFD 12 + 1)).result.1 =
        [0xFFFFFFFD, 1, 2] ∧
      (drainRun Device.scripted 0 0xFFFFFFFD 12 ascending
        (totalWords 0 0xFFFFFFFD 12 + 1)).result.2.verifyChecksum = .ok () ∧
      ¬ Restarts 0 0xFFFFFFFD 12 4 ascending := by
  have some : totalWords 0 0xFFFFFFFD 12 ≠ 0 := by decide
  have first := drainRun_words 0 0xFFFFFFFD 12 ascending some
  have second := run_resetDrain 0 0xFFFFFFFD 12 4 Device.scripted ascending
  rw [Device.scripted_afterReads, drainRun_words _ _ _ _ some] at second
  rw [second, first]
  refine ⟨by decide, by decide, by decide, by decide, fun restarts => ?_⟩
  have same := restarts.words
  rw [second, first] at same
  exact absurd same (by decide)

end CaliptraMailboxResponse

end McuRom
