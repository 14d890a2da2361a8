import McuRom.Rom.OtpController
import McuRom.Mmio.Registers

namespace McuRom

open Mmio

/-!
# Block transfers

`write_words` and `read_words` transfer one word after the other and stop at
the first that fails.  On a direct access controller a block that is written
stands at its addresses and nowhere else; a block that fails is a prefix.  The
addresses wrap, and a block of at most `2 ^ 30` words still has them distinct.
-/

namespace Otp

variable (otp : Otp)

/-- The OTP address of the word with the given index. -/
def wordAddr (addr : Word) (index : Nat) : Word := addr + sizeT index * 4

/-- Addresses within a block are distinct, the wrap included. -/
theorem wordAddr_inj (addr : Word) {first second : Nat} (left : first < 2 ^ 30)
    (right : second < 2 ^ 30) (same : wordAddr addr first = wordAddr addr second) :
    first = second := by
  have offsets := congrArg BitVec.toNat ((BitVec.add_right_inj addr).mp same)
  rw [sizeT_mul_four_toNat left, sizeT_mul_four_toNat right] at offsets
  omega

variable {σ : Type} (dev : Device Word Word σ)

/-- The number of words written before the first that fails: its index, or
the length of the block. -/
def writesDone (addr : Word) : Nat → List Word → σ → Nat
  | _, [], _ => 0
  | i, word :: rest, state =>
    match ((otp.writeWord (wordAddr addr i) word).run dev state).result with
    | .error _ => 0
    | .ok () =>
      writesDone addr (i + 1) rest ((otp.writeWord (wordAddr addr i) word).run dev state).state + 1

/-- The number of words read before the first that fails. -/
def readsDone (addr : Word) : Nat → List Word → σ → Nat
  | _, [], _ => 0
  | i, _ :: rest, state =>
    match ((otp.readWord (wordAddr addr i)).run dev state).result with
    | .error _ => 0
    | .ok _ => readsDone addr (i + 1) rest ((otp.readWord (wordAddr addr i)).run dev state).state + 1

/-- The result of a loop that gets through `done` of `length` words. -/
def StopsAt (result : McuResult Unit) (done length : Nat) : Prop :=
  result = .ok () ∧ done = length ∨ (∃ e, result = .error e) ∧ done < length

theorem StopsAt.succ {result : McuResult Unit} {done length : Nat}
    (stops : StopsAt result done length) : StopsAt result (done + 1) (length + 1) := by
  rcases stops with ⟨ended, all⟩ | ⟨failed, short⟩
  · exact Or.inl ⟨ended, congrArg Nat.succ all⟩
  · exact Or.inr ⟨failed, Nat.succ_lt_succ short⟩

theorem StopsAt.all {result : McuResult Unit} {done length : Nat}
    (stops : StopsAt result done length) (ended : result = .ok ()) : done = length := by
  rcases stops with ⟨_, all⟩ | ⟨⟨e, failed⟩, _⟩
  · exact all
  · rw [ended] at failed
    cases failed

/-! ## The loops on a direct access controller -/

open OtpController in
/-- By induction on the words left.  A word that is written leaves nothing in
flight, so the words behind it find what it stored. -/
theorem run_writeWordsFrom (addr : Word) (i : Nat) (data : List Word) (state : OtpController) :
    let run := (otp.writeWordsFrom addr i data).run (device otp) state
    let done := otp.writesDone (device otp) addr i data state
    StopsAt run.result done data.length ∧
      (∃ words, state.Found words ∧
        run.state.words = storeBlock (wordAddr addr) i (data.take done) words) ∧
      (run.result = .ok () → data ≠ [] → run.state.inFlight = none) := by
  induction data generalizing i state with
  | nil => exact ⟨Or.inl ⟨rfl, rfl⟩, ⟨state.words, Or.inl rfl, rfl⟩, fun _ empty => absurd rfl empty⟩
  | cons word rest ih =>
      let step := (otp.writeWord (wordAddr addr i) word).run (device otp) state
      rcases run_writeWord otp state (wordAddr addr i) word with
        ⟨e, failed, found⟩ | ⟨stored, words, idle⟩
      · have whole : (otp.writeWordsFrom addr i (word :: rest)).run (device otp) state =
            ⟨step.trace, .error e, step.state⟩ := Driver.run_andThen_error (device otp) _ failed
        have none : otp.writesDone (device otp) addr i (word :: rest) state = 0 := by
          rw [writesDone, failed]
        simp only [whole, none, List.take_zero]
        refine ⟨Or.inr ⟨⟨e, rfl⟩, Nat.succ_pos _⟩, ⟨step.state.words, found, rfl⟩, ?_⟩
        intro impossible
        cases impossible
      · have whole : (otp.writeWordsFrom addr i (word :: rest)).run (device otp) state =
            ((otp.writeWordsFrom addr (i + 1) rest).run (device otp) step.state).after step.trace :=
          Driver.run_andThen_ok (device otp) _ stored
        have more : otp.writesDone (device otp) addr i (word :: rest) state =
            otp.writesDone (device otp) addr (i + 1) rest step.state + 1 := by
          rw [writesDone, stored]
        rcases ih (i + 1) step.state with ⟨stops, ⟨found, same, final⟩, settles⟩
        rw [found_iff_of_idle idle, words] at same
        simp only [whole, more, Run.after_result, Run.after_state, List.take_succ_cons]
        refine ⟨stops.succ, ⟨state.settled.words, Or.inr rfl, ?_⟩, ?_⟩
        · rw [final, same]
          rfl
        · intro ended _
          cases rest with
          | nil => exact idle
          | cons next others => exact settles ended (List.cons_ne_nil _ _)

variable {dev}

/-- A word that cannot be read ends the loop. -/
theorem run_readWordsFrom_error {addr : Word} {i : Nat} {state : σ} {e : McuError} (old : Word)
    (rest : List Word) (failed : ((otp.readWord (wordAddr addr i)).run dev state).result = .error e) :
    (otp.readWordsFrom addr i (old :: rest)).run dev state =
      ⟨((otp.readWord (wordAddr addr i)).run dev state).trace, (.error e, old :: rest),
        ((otp.readWord (wordAddr addr i)).run dev state).state⟩ := by
  unfold wordAddr at failed ⊢
  rw [readWordsFrom, Program.run_bind, failed]
  simp only [Program.pure_eq, Program.run_ret, Run.after_mk, List.append_nil]

/-- A word that is read takes its place in the buffer. -/
theorem run_readWordsFrom_ok {addr : Word} {i : Nat} {state : σ} {word : Word} (old : Word)
    (rest : List Word) (loaded : ((otp.readWord (wordAddr addr i)).run dev state).result = .ok word) :
    let step := (otp.readWord (wordAddr addr i)).run dev state
    let later := (otp.readWordsFrom addr (i + 1) rest).run dev step.state
    (otp.readWordsFrom addr i (old :: rest)).run dev state =
      ⟨step.trace ++ later.trace, (later.result.1, word :: later.result.2), later.state⟩ := by
  unfold wordAddr at loaded ⊢
  rw [readWordsFrom, Program.run_bind, loaded]
  simp only [Program.run_bind, Program.pure_eq, Program.run_ret, Run.after_mk, List.append_nil]

open OtpController in
/-- Reading changes no word, and fills the buffer up to where it stops. -/
theorem run_readWordsFrom (addr : Word) (i : Nat) (buffer : List Word) (state : OtpController) :
    let run := (otp.readWordsFrom addr i buffer).run (device otp) state
    let done := otp.readsDone (device otp) addr i buffer state
    StopsAt run.result.1 done buffer.length ∧
      ∃ words, state.Found words ∧ run.state.words = words ∧
        run.result.2 = (List.range' i done).map (fun index => words (wordAddr addr index)) ++
          buffer.drop done := by
  induction buffer generalizing i state with
  | nil => exact ⟨Or.inl ⟨rfl, rfl⟩, state.words, Or.inl rfl, rfl, rfl⟩
  | cons old rest ih =>
      let step := (otp.readWord (wordAddr addr i)).run (device otp) state
      rcases run_readWord otp state (wordAddr addr i) with
        ⟨e, failed, found⟩ | ⟨loaded, words, idle⟩
      · have whole := otp.run_readWordsFrom_error old rest failed
        have none : otp.readsDone (device otp) addr i (old :: rest) state = 0 := by
          rw [readsDone, failed]
        simp only [whole, none]
        exact ⟨Or.inr ⟨⟨e, rfl⟩, Nat.succ_pos _⟩, step.state.words, found, rfl, rfl⟩
      · have whole := otp.run_readWordsFrom_ok old rest loaded
        have more : otp.readsDone (device otp) addr i (old :: rest) state =
            otp.readsDone (device otp) addr (i + 1) rest step.state + 1 := by
          rw [readsDone, loaded]
        rcases ih (i + 1) step.state with ⟨stops, found, same, final, filled⟩
        rw [found_iff_of_idle idle, words] at same
        simp only [whole, more]
        refine ⟨stops.succ, found, Or.inr same, final, ?_⟩
        rw [filled, same, List.range'_succ, List.map_cons, List.drop_succ_cons]
        rfl

/-! ## Blocks -/

section Blocks

open OtpController

variable (addr : Word) (state : OtpController)

/-- `write_words` on a controller. -/
def written (data : List Word) : Run Word Word OtpController (McuResult Unit) :=
  (otp.writeWords addr data).run (device otp) state

/-- `read_words` on a controller. -/
def filled (buffer : List Word) : Run Word Word OtpController (McuResult Unit × List Word) :=
  (otp.readWords addr buffer).run (device otp) state

/-- `write_words` stores exactly the words below the index it fails at, all
of them if it does not fail. -/
structure StoresPrefix (data : List Word) : Prop where
  stops : StopsAt (otp.written addr state data).result
    (otp.writesDone (device otp) addr 0 data state) data.length
  stored : ∀ index (inside : index < data.length),
    index < otp.writesDone (device otp) addr 0 data state →
      (otp.written addr state data).state.words (wordAddr addr index) = data[index]
  kept : ∃ words, state.Found words ∧ ∀ target,
    (∀ index < otp.writesDone (device otp) addr 0 data state, target ≠ wordAddr addr index) →
      (otp.written addr state data).state.words target = words target

/-- `read_words` fills the buffer with the words below the index it fails at
and leaves the rest of it, and the controller's words, alone. -/
structure FillsPrefix (buffer : List Word) : Prop where
  stops : StopsAt (otp.filled addr state buffer).result.1
    (otp.readsDone (device otp) addr 0 buffer state) buffer.length
  loaded : state.Found (otp.filled addr state buffer).state.words ∧
    ∀ index < otp.readsDone (device otp) addr 0 buffer state,
      (otp.filled addr state buffer).result.2[index]? =
        some ((otp.filled addr state buffer).state.words (wordAddr addr index))
  untouched : (otp.filled addr state buffer).result.2.drop
      (otp.readsDone (device otp) addr 0 buffer state) =
    buffer.drop (otp.readsDone (device otp) addr 0 buffer state)
  sameLength : (otp.filled addr state buffer).result.2.length = buffer.length

variable {otp addr state}

theorem storesPrefix {data : List Word} (fits : data.length ≤ 2 ^ 30) :
    otp.StoresPrefix addr state data := by
  rcases otp.run_writeWordsFrom addr 0 data state with ⟨stops, ⟨words, found, final⟩, _⟩
  have apart : ∀ first < 2 ^ 30, ∀ second < 2 ^ 30,
      wordAddr addr first = wordAddr addr second → first = second :=
    fun _ left _ right => wordAddr_inj addr left right
  have short : (data.take (otp.writesDone (device otp) addr 0 data state)).length ≤
      otp.writesDone (device otp) addr 0 data state := List.length_take_le _ _
  refine ⟨stops, ?_, words, found, ?_⟩
  · intro index inside below
    have within : index < (data.take (otp.writesDone (device otp) addr 0 data state)).length := by
      rw [List.length_take]
      omega
    have placed := storeBlock_place apart 0 _ words
      (by rw [Nat.zero_add, List.length_take]; omega) within
    rw [Nat.zero_add] at placed
    rw [written, writeWords, final, placed, List.getElem_take]
  · intro target outside
    rw [written, writeWords, final, storeBlock_of_ne]
    intro index inside
    rw [Nat.zero_add]
    exact outside index (by omega)

theorem fillsPrefix (buffer : List Word) : otp.FillsPrefix addr state buffer := by
  rcases otp.run_readWordsFrom addr 0 buffer state with ⟨stops, words, found, same, loaded⟩
  have bounded : otp.readsDone (device otp) addr 0 buffer state ≤ buffer.length := by
    rcases stops with ⟨_, all⟩ | ⟨_, below⟩
    · exact Nat.le_of_eq all
    · exact Nat.le_of_lt below
  refine ⟨stops, ⟨?_, ?_⟩, ?_, ?_⟩
  · rw [filled, readWords, same]
    exact found
  · intro index below
    rw [filled, readWords, loaded, same, List.getElem?_append_left (by simpa using below)]
    simp [below]
  · rw [filled, readWords, loaded, List.drop_append_of_le_length (by simp)]
    simp
  · rw [filled, readWords, loaded]
    simp only [List.length_append, List.length_map, List.length_range', List.length_drop]
    omega

/-- What was written is what a following read delivers. -/
theorem filled_written {data : List Word} (fits : data.length ≤ 2 ^ 30)
    (stored : (otp.written addr state data).result = .ok ()) {buffer : List Word}
    (sameLength : buffer.length = data.length)
    (read : (otp.filled addr (otp.written addr state data).state buffer).result.1 = .ok ()) :
    (otp.filled addr (otp.written addr state data).state buffer).result.2 = data := by
  let later := (otp.written addr state data).state
  have writes : otp.StoresPrefix addr state data := storesPrefix fits
  have reads : otp.FillsPrefix addr later buffer := fillsPrefix buffer
  have allWritten := writes.stops.all stored
  have allRead := reads.stops.all read
  apply List.ext_getElem?
  intro index
  by_cases inside : index < data.length
  · have idle : later.inFlight = none := by
      rcases otp.run_writeWordsFrom addr 0 data state with ⟨_, _, settles⟩
      apply settles stored
      rintro rfl
      cases inside
    have unchanged := (found_iff_of_idle idle _).mp reads.loaded.1
    rw [reads.loaded.2 index (by omega), unchanged,
      writes.stored index inside (by omega), List.getElem?_eq_getElem inside]
  · have short : (otp.filled addr later buffer).result.2.length ≤ index := by
      rw [reads.sameLength]
      omega
    rw [List.getElem?_eq_none short, List.getElem?_eq_none (by omega)]

variable (otp addr state)

/-- Block transfers on a direct access controller, whatever its plan of delays
and failures: written blocks are prefixes, read blocks are prefixes, and what
was written is read back. -/
theorem block_transfer (data : List Word) (fits : data.length ≤ 2 ^ 30) :
    otp.StoresPrefix addr state data ∧
      ((otp.written addr state data).result = .ok () →
        ∀ buffer : List Word, buffer.length = data.length →
          (otp.filled addr (otp.written addr state data).state buffer).result.1 = .ok () →
            (otp.filled addr (otp.written addr state data).state buffer).result.2 = data) ∧
      ∀ buffer : List Word, otp.FillsPrefix addr state buffer :=
  ⟨storesPrefix fits, fun stored _ sameLength read => filled_written fits stored sameLength read,
    fun buffer => fillsPrefix buffer⟩

/-- A block across the end of the address space, on a controller whose every
command takes three reads. -/
theorem block_transfer_wrap :
    let idle : OtpController :=
      ⟨fun _ => 0, 0, 0, 0, false, none, fun _ => ⟨some 3, false⟩⟩
    romEnv.otp.StoresPrefix 0xFFFFFFFC idle [0x11, 0x22] ∧
      romEnv.otp.FillsPrefix 0xFFFFFFFC idle [0, 0] :=
  ⟨(block_transfer romEnv.otp 0xFFFFFFFC _ [0x11, 0x22] (by decide)).1,
    (block_transfer romEnv.otp 0xFFFFFFFC _ [0x11, 0x22] (by decide)).2.2 [0, 0]⟩

end Blocks

end Otp

end McuRom
