import McuRom.Riscv.Assertions
import McuRom.Rom.Startup

namespace McuRom

open Memory Riscv

/-!
# Startup, instruction by instruction

A trap can be taken in front of any instruction of `_start`, not only where it
calls `main`.  What has been set up by then is written in front of each line,
and shown to hold in every state the startup goes through.
-/

namespace Layout

variable (layout : Layout) (state : State)

/-! ## What is set up -/

/-- The pointers of the C++ environment. -/
structure Stacked : Prop where
  globals : state.regs gp = layout.address .globalPointer
  stack : state.regs sp = layout.address .stackTop

/-- A trap goes to the exception handler. -/
structure Guarded : Prop extends layout.Stacked state where
  vector : state.csrs mtvec = layout.exceptionHandler

/-- The memory may be accessed. -/
structure Ready : Prop extends layout.Guarded state where
  regions : state.csrs mrac = mracValue

/-- The loop over BSS has cleared `k` words. -/
structure Clearing (k : Nat) : Prop extends layout.Ready state where
  pointer : state.regs t0 = BitVec.ofNat 32 (layout.bssStart + 4 * k)
  bound : state.regs t1 = BitVec.ofNat 32 layout.bssEnd

/-- The loop over the data section has read `j` and stored `k` words. -/
structure Transferring (j k : Nat) : Prop extends layout.Ready state where
  source : state.regs t0 = BitVec.ofNat 32 (layout.romDataStart + 4 * j)
  target : state.regs t1 = BitVec.ofNat 32 (layout.dataStart + 4 * k)
  bound : state.regs t2 = BitVec.ofNat 32 layout.dataEnd

def bssWords : Nat := words (layout.bssEnd - layout.bssStart)

def dataWords : Nat := words (layout.dataEnd - layout.dataStart)

/-- The listing with what holds in front of each line. -/
def startOutline : Outline StartLabel StartSymbol :=
  [(.label .start, fun _ => True),
    (.insn (.la gp .globalPointer), fun _ => True),
    (.insn (.la sp .stackTop), fun state => state.regs gp = layout.address .globalPointer),
    (.insn (.la t0 .exceptionHandler), layout.Stacked),
    (.insn (.csrw mtvec t0), fun state =>
      layout.Stacked state ∧ state.regs t0 = layout.exceptionHandler),
    (.insn (.lui t0 (hi mracValue)), layout.Guarded),
    (.insn (.addi t0 t0 (lo mracValue)), fun state =>
      layout.Guarded state ∧ state.regs t0 = (hi mracValue).setWidth 32 <<< 12),
    (.insn (.csrw mrac t0), fun state => layout.Guarded state ∧ state.regs t0 = mracValue),
    -- Zero BSS section
    (.insn (.la t0 .bssStart), layout.Ready),
    (.insn (.la t1 .bssEnd), fun state =>
      layout.Ready state ∧ state.regs t0 = layout.address .bssStart),
    (.label .zeroBss, fun state => ∃ k ≤ layout.bssWords, layout.Clearing state k),
    (.insn (.bge t0 t1 .endZeroBss), fun state => ∃ k ≤ layout.bssWords, layout.Clearing state k),
    (.insn (.sw zero 0 t0), fun state => ∃ k < layout.bssWords, layout.Clearing state k),
    (.insn (.addi t0 t0 4), fun state => ∃ k < layout.bssWords, layout.Clearing state k),
    (.insn (.j .zeroBss), fun state => ∃ k < layout.bssWords, layout.Clearing state (k + 1)),
    (.label .endZeroBss, layout.Ready),
    -- Copy ROM data to RAM
    (.insn (.la t0 .romDataStart), layout.Ready),
    (.insn (.la t1 .dataStart), fun state =>
      layout.Ready state ∧ state.regs t0 = layout.address .romDataStart),
    (.insn (.la t2 .dataEnd), fun state =>
      layout.Ready state ∧ state.regs t0 = layout.address .romDataStart ∧
        state.regs t1 = layout.address .dataStart),
    (.label .copyData, fun state => ∃ k ≤ layout.dataWords, layout.Transferring state k k),
    (.insn (.bge t1 t2 .endCopyData), fun state =>
      ∃ k ≤ layout.dataWords, layout.Transferring state k k),
    (.insn (.lw t3 0 t0), fun state => ∃ k < layout.dataWords, layout.Transferring state k k),
    (.insn (.sw t3 0 t1), fun state => ∃ k < layout.dataWords, layout.Transferring state k k),
    (.insn (.addi t0 t0 4), fun state => ∃ k < layout.dataWords, layout.Transferring state k k),
    (.insn (.addi t1 t1 4), fun state =>
      ∃ k < layout.dataWords, layout.Transferring state (k + 1) k),
    (.insn (.j .copyData), fun state =>
      ∃ k < layout.dataWords, layout.Transferring state (k + 1) (k + 1)),
    (.label .endCopyData, layout.Ready),
    -- Call main entry point
    (.insn (.call .main), layout.Ready),
    -- behind the call, where the machine has stopped
    (.insn (.la t0 .emuCtrlExit), fun _ => False),
    (.insn (.sw zero 0 t0), fun _ => False)]

theorem startOutline_lines : layout.startOutline.lines = startListing := rfl

variable {layout state}

/-! ## One line -/

/-- Lines that leave the pointers and the control registers alone. -/
theorem Guarded.keep (guarded : layout.Guarded state) {after : State}
    (globals : after.regs gp = state.regs gp) (stack : after.regs sp = state.regs sp)
    (csrs : after.csrs = state.csrs) : layout.Guarded after :=
  ⟨⟨globals.trans guarded.globals, stack.trans guarded.stack⟩,
    (congrFun csrs mtvec).trans guarded.vector⟩

theorem Ready.keep (ready : layout.Ready state) {after : State}
    (globals : after.regs gp = state.regs gp) (stack : after.regs sp = state.regs sp)
    (csrs : after.csrs = state.csrs) : layout.Ready after :=
  ⟨ready.toGuarded.keep globals stack csrs, (congrFun csrs mrac).trans ready.regions⟩

/-- Short of the last word there is another one to go. -/
theorem lt_words_of_lt {start finish k : Nat} (short : start + 4 * k < finish) :
    k < words (finish - start) := by
  unfold words
  omega

/-- The pointer of a loop is compared with its bound as the numbers are. -/
theorem Clearing.done_iff {k : Nat} (clearing : layout.Clearing state k) (k_le : k ≤ layout.bssWords) :
    (state.regs t1).toInt ≤ (state.regs t0).toInt ↔ layout.bssEnd ≤ layout.bssStart + 4 * k := by
  have rounded := roundUp_eq layout.bss_aligned layout.bss_le
  have top := layout.roundUp_bssEnd_le
  have small := layout.stackOrigin_lt
  have ordered := layout.bss_stack
  unfold bssWords at k_le
  rw [clearing.pointer, clearing.bound, toInt_le_iff (by omega) (by omega)]

theorem Transferring.done_iff {k : Nat} (transferring : layout.Transferring state k k)
    (k_le : k ≤ layout.dataWords) :
    (state.regs t2).toInt ≤ (state.regs t1).toInt ↔ layout.dataEnd ≤ layout.dataStart + 4 * k := by
  have rounded := roundUp_eq layout.data_aligned layout.data_le
  have top := layout.roundUp_dataEnd_le
  have small := layout.bssStart_lt
  have ordered := layout.data_bss
  unfold dataWords at k_le
  rw [transferring.target, transferring.bound, toInt_le_iff (by omega) (by omega)]

/-- Turns of the loops leave what they do not step. -/
theorem Clearing.keep {k : Nat} (clearing : layout.Clearing state k) {after : State}
    (regs : after.regs = state.regs) (csrs : after.csrs = state.csrs) :
    layout.Clearing after k where
  toReady := clearing.toReady.keep (congrFun regs gp) (congrFun regs sp) csrs
  pointer := (congrFun regs t0).trans clearing.pointer
  bound := (congrFun regs t1).trans clearing.bound

theorem Transferring.keep {j k : Nat} (transferring : layout.Transferring state j k) {after : State}
    (globals : after.regs gp = state.regs gp) (stack : after.regs sp = state.regs sp)
    (source : after.regs t0 = state.regs t0) (target : after.regs t1 = state.regs t1)
    (bound : after.regs t2 = state.regs t2) (csrs : after.csrs = state.csrs) :
    layout.Transferring after j k where
  toReady := transferring.toReady.keep globals stack csrs
  source := source.trans transferring.source
  target := target.trans transferring.target
  bound := bound.trans transferring.bound

variable (layout) in
/-- Every line establishes what holds in front of the next one. -/
theorem startOutline_checks : layout.startOutline.Checks layout.address layout.startOutline := by
  refine ⟨?start, ?laGp, ?laSp, ?laVector, ?csrwVector, ?lui, ?addi, ?csrwRegions, ?laBss,
    ?laBssEnd, ?zeroBss, ?bgeBss, ?swBss, ?addiBss, ?jBss, ?endZeroBss, ?laSource, ?laTarget,
    ?laDataEnd, ?copyData, ?bgeData, ?lwData, ?swData, ?addiSource, ?addiTarget, ?jData,
    ?endCopyData, ?call, ?laExit, ?swExit, trivial⟩
  case start => exact fun _ _ => trivial
  case laGp => intro state after _ executed; cases executed; rfl
  case laSp => intro state after globals executed; cases executed; exact ⟨globals, rfl⟩
  case laVector =>
    intro state after stacked executed
    cases executed
    exact ⟨⟨stacked.globals, stacked.stack⟩, rfl⟩
  case csrwVector =>
    intro state after stacked executed
    cases executed
    exact ⟨⟨stacked.1.globals, stacked.1.stack⟩, stacked.2⟩
  case lui =>
    intro state after guarded executed
    cases executed
    exact ⟨Guarded.keep guarded rfl rfl rfl, rfl⟩
  case addi =>
    intro state after guarded executed
    cases executed
    refine ⟨guarded.1.keep rfl rfl rfl, ?_⟩
    change state.regs t0 + (lo mracValue).signExtend 32 = mracValue
    rw [guarded.2]
    decide
  case csrwRegions =>
    intro state after guarded executed
    cases executed
    exact ⟨⟨⟨guarded.1.globals, guarded.1.stack⟩, guarded.1.vector⟩, guarded.2⟩
  case laBss =>
    intro state after ready executed
    cases executed
    exact ⟨Ready.keep ready rfl rfl rfl, rfl⟩
  case laBssEnd =>
    intro state after ready executed
    cases executed
    exact ⟨0, Nat.zero_le _, ready.1.keep rfl rfl rfl, ready.2, rfl⟩
  case zeroBss =>
    rintro state ⟨k, k_le, clearing⟩
    exact ⟨k, k_le, clearing.keep rfl rfl⟩
  case bgeBss =>
    rintro state ⟨k, k_le, clearing⟩
    split
    · exact ⟨_, _, rfl, clearing.toReady.keep rfl rfl rfl⟩
    · rename_i notDone
      have more := lt_words_of_lt (Nat.not_le.mp (mt (clearing.done_iff k_le).mpr notDone))
      exact ⟨k, more, clearing.keep rfl rfl⟩
  case swBss =>
    rintro state after ⟨k, more, clearing⟩ executed
    cases executed
    exact ⟨k, more, clearing.keep rfl rfl⟩
  case addiBss =>
    rintro state after ⟨k, more, clearing⟩ executed
    cases executed
    exact ⟨k, more, clearing.toReady.keep rfl rfl rfl, next_word clearing.pointer, clearing.bound⟩
  case jBss =>
    rintro state ⟨k, more, clearing⟩
    exact ⟨_, _, rfl, k + 1, more, clearing.keep rfl rfl⟩
  case endZeroBss => exact fun state ready => Ready.keep ready rfl rfl rfl
  case laSource =>
    intro state after ready executed
    cases executed
    exact ⟨Ready.keep ready rfl rfl rfl, rfl⟩
  case laTarget =>
    intro state after ready executed
    cases executed
    exact ⟨ready.1.keep rfl rfl rfl, ready.2, rfl⟩
  case laDataEnd =>
    intro state after ready executed
    cases executed
    exact ⟨0, Nat.zero_le _, ready.1.keep rfl rfl rfl, ready.2.1, ready.2.2, rfl⟩
  case copyData =>
    rintro state ⟨k, k_le, transferring⟩
    exact ⟨k, k_le, transferring.keep rfl rfl rfl rfl rfl rfl⟩
  case bgeData =>
    rintro state ⟨k, k_le, transferring⟩
    split
    · exact ⟨_, _, rfl, transferring.toReady.keep rfl rfl rfl⟩
    · rename_i notDone
      have more := lt_words_of_lt (Nat.not_le.mp (mt (transferring.done_iff k_le).mpr notDone))
      exact ⟨k, more, transferring.keep rfl rfl rfl rfl rfl rfl⟩
  case lwData | swData =>
    rintro state after ⟨k, more, transferring⟩ executed
    cases executed
    exact ⟨k, more, transferring.keep rfl rfl rfl rfl rfl rfl⟩
  case addiSource =>
    rintro state after ⟨k, more, transferring⟩ executed
    cases executed
    exact ⟨k, more, transferring.toReady.keep rfl rfl rfl, next_word transferring.source,
      transferring.target, transferring.bound⟩
  case addiTarget =>
    rintro state after ⟨k, more, transferring⟩ executed
    cases executed
    exact ⟨k, more, transferring.toReady.keep rfl rfl rfl, transferring.source,
      next_word transferring.target, transferring.bound⟩
  case jData =>
    rintro state ⟨k, more, transferring⟩
    exact ⟨_, _, rfl, k + 1, more, transferring.keep rfl rfl rfl rfl rfl rfl⟩
  case endCopyData => exact fun state ready => Ready.keep ready rfl rfl rfl
  case call => intro state after _ executed; cases executed
  case laExit => exact fun state after impossible _ => impossible
  case swExit => exact fun state after impossible _ => impossible

/-! ## Memory accesses -/

variable (layout)

/-- The bytes of BSS and of the data section, rounded up to whole words. -/
def InStatic (addr : Nat) : Prop :=
  (layout.bssStart ≤ addr ∧ addr < roundUp layout.bssEnd) ∨
    (layout.dataStart ≤ addr ∧ addr < roundUp layout.dataEnd)

variable {layout}

/-- Two of the lines in front of the call store a word. -/
theorem storing_lines :
    layout.startOutline.filter (fun entry => entry.1.stores) =
      [(.insn (.sw zero 0 t0), fun state => ∃ k < layout.bssWords, layout.Clearing state k),
        (.insn (.sw t3 0 t1), fun state => ∃ k < layout.dataWords, layout.Transferring state k k),
        (.insn (.sw zero 0 t0), fun _ => False)] :=
  rfl

/-- One line loads a word. -/
theorem loading_lines :
    layout.startOutline.filter (fun entry => entry.1.loads) =
      [(.insn (.lw t3 0 t0), fun state =>
        ∃ k < layout.dataWords, layout.Transferring state k k)] :=
  rfl

theorem calling_lines :
    layout.startOutline.filter (fun entry => entry.1.calls) =
      [(.insn (.call .main), layout.Ready)] :=
  rfl

/-- What holds in front of the line control is at. -/
abbrev Asserted (layout : Layout) : State → Prop := layout.startOutline.Asserted

/-- A word of BSS or of the data section is stored. -/
theorem Asserted.stores (asserted : layout.Asserted state) {addr : Word}
    (stores : storeAddr? startListing state = some addr) :
    layout.Ready state ∧ ∀ i < 4, layout.InStatic (addr.toNat + i) := by
  have bss := layout.roundUp_bssEnd_le
  have data := layout.roundUp_dataEnd_le
  have small := layout.stackOrigin_lt
  have bssRounded := roundUp_eq layout.bss_aligned layout.bss_le
  have dataRounded := roundUp_eq layout.data_aligned layout.data_le
  have ordered := layout.bss_le
  have below := layout.bss_stack
  rw [← layout.startOutline_lines] at stores
  rcases Outline.Asserted.storing asserted stores with ⟨rs2, imm, rs1, holds, member, held, rfl⟩
  rw [storing_lines, List.mem_cons, List.mem_cons, List.mem_singleton] at member
  rcases member with line | line | line
  · cases line
    rcases held with ⟨k, more, clearing⟩
    unfold bssWords at more
    refine ⟨clearing.toReady, fun i within => Or.inl ?_⟩
    rw [no_offset, State.get, if_neg (by decide), clearing.pointer, BitVec.toNat_ofNat,
      Nat.mod_eq_of_lt (by omega)]
    omega
  · cases line
    rcases held with ⟨k, more, transferring⟩
    unfold dataWords at more
    refine ⟨transferring.toReady, fun i within => Or.inr ?_⟩
    rw [no_offset, State.get, if_neg (by decide), transferring.target, BitVec.toNat_ofNat,
      Nat.mod_eq_of_lt (by omega)]
    omega
  · cases line
    exact held.elim

/-- A word of the image is loaded; the last one may reach beyond its end. -/
theorem Asserted.loads (asserted : layout.Asserted state) {addr : Word}
    (loads : loadAddr? startListing state = some addr) :
    layout.Ready state ∧ layout.romDataStart ≤ addr.toNat ∧
      addr.toNat < layout.romDataStart + (layout.dataEnd - layout.dataStart) := by
  have image := layout.romImage_fits
  rw [← layout.startOutline_lines] at loads
  rcases Outline.Asserted.loading asserted loads with ⟨rd, imm, rs1, holds, member, held, rfl⟩
  rw [loading_lines, List.mem_singleton] at member
  cases member
  rcases held with ⟨k, more, transferring⟩
  have inside := lt_of_lt_words more
  refine ⟨transferring.toReady, ?_⟩
  rw [no_offset, State.get, if_neg (by decide), transferring.source, BitVec.toNat_ofNat,
    Nat.mod_eq_of_lt (by omega)]
  omega

/-- Startup does not stop before the call. -/
theorem Asserted.stops (asserted : layout.Asserted state)
    (stopped : Riscv.step layout.address startListing state = none) :
    CallsMain state ∧ layout.Ready state := by
  rw [← layout.startOutline_lines] at stopped
  rcases Outline.Asserted.stopping asserted stopped with ⟨symbol, holds, there, member, held⟩
  rw [calling_lines, List.mem_singleton] at member
  cases member
  exact ⟨there, held⟩

variable (layout)

/-- No byte outside the static data has changed. -/
def Kept (before : Word → Byte) (state : State) : Prop :=
  ∀ addr : Word, ¬ layout.InStatic addr.toNat → state.memory addr = before addr

variable {layout}

theorem Asserted.kept {original : Word → Byte} {before after : State}
    (asserted : layout.Asserted before) (kept : layout.Kept original before)
    (stepped : Riscv.step layout.address startListing before = some after) :
    layout.Kept original after := by
  intro addr outside
  rw [← kept addr outside]
  cases stores : storeAddr? startListing before with
  | none => rw [step_memory stepped stores]
  | some target =>
      rcases step_store stepped stores with ⟨word, stored⟩
      rcases asserted.stores stores with ⟨_, inside⟩
      have apart : ¬ (target.toNat ≤ addr.toNat ∧ addr.toNat < target.toNat + 4) := by
        intro within
        apply outside
        rw [← Nat.add_sub_cancel' within.1]
        exact inside _ (by omega)
      have fits : target.toNat + 4 ≤ 2 ^ 32 := by
        have last := inside 3 (by omega)
        have bss := layout.roundUp_bssEnd_le
        have data := layout.roundUp_dataEnd_le
        have small := layout.stackOrigin_lt
        have ordered := layout.bss_le
        have below := layout.bss_stack
        unfold InStatic at last
        omega
      have same : storeWord before.memory (BitVec.ofNat 32 target.toNat) word addr =
          before.memory addr := storeWord_outside word fits apart
      rwa [ofNat_toNat_self, ← stored] at same

/-! ## The whole startup -/

variable (layout)

/-- The next instruction stores into the static data only, and loads from its
image only.  Neither happens, and `main` is not called, before the pointers,
the trap vector and the memory regions are set up.  There is no other place
to stop, and the rest of the memory is as it was at reset. -/
structure SafeAt (before : Word → Byte) (state : State) : Prop where
  stores : ∀ addr, storeAddr? startListing state = some addr →
    layout.Ready state ∧ ∀ i < 4, layout.InStatic (addr.toNat + i)
  loads : ∀ addr, loadAddr? startListing state = some addr →
    layout.Ready state ∧ layout.romDataStart ≤ addr.toNat ∧
      addr.toNat < layout.romDataStart + (layout.dataEnd - layout.dataStart)
  stops : Riscv.step layout.address startListing state = none →
    CallsMain state ∧ layout.Ready state
  kept : layout.Kept before state

/-- All states from a given one on are safe. -/
def SafeStartup (start : State) : Prop :=
  ∀ state, Reaches layout.address startListing start state → layout.SafeAt start.memory state

end Layout

end McuRom
