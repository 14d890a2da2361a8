import McuRom.Riscv.Machine

namespace McuRom
namespace Riscv

open Memory

/-!
# Assertions about every state of a run

What holds when control is at a line and is established again by the line that
follows holds in every state a run goes through, not only where it stops.  A
proof outline writes such an assertion in front of each line of a listing; it
is checked line by line, and the lines are not numbered.
-/

variable {Label Symbol : Type} [DecidableEq Label] [DecidableEq Symbol]

namespace Instruction

variable (state : State)

/-- The address of the word an instruction stores. -/
def storeAddr? : Instruction Label Symbol → Option (BitVec 32)
  | sw _ imm rs1 => some (state.get rs1 + imm.signExtend 32)
  | _ => none

/-- The address of the word an instruction loads. -/
def loadAddr? : Instruction Label Symbol → Option (BitVec 32)
  | lw _ imm rs1 => some (state.get rs1 + imm.signExtend 32)
  | _ => none

/-- An instruction that does not store leaves the memory alone. -/
theorem execute_memory {address : Symbol → BitVec 32} {listing : List (Line Label Symbol)}
    {instruction : Instruction Label Symbol} {after : State}
    (executed : instruction.execute address listing state = some after)
    (storesNot : instruction.storeAddr? state = none) : after.memory = state.memory := by
  cases instruction with
  | sw rs2 imm rs1 => cases storesNot
  | call symbol => cases executed
  | bge rs1 rs2 target =>
      rw [execute] at executed
      split at executed
      · cases executed
        rfl
      · cases executed
        rfl
  | _ =>
      cases executed
      rfl

/-- An instruction that stores does nothing else to the memory. -/
theorem execute_store {address : Symbol → BitVec 32} {listing : List (Line Label Symbol)}
    {instruction : Instruction Label Symbol} {after : State} {addr : BitVec 32}
    (executed : instruction.execute address listing state = some after)
    (stores : instruction.storeAddr? state = some addr) :
    ∃ word, after.memory = storeWord state.memory addr word := by
  cases instruction with
  | sw rs2 imm rs1 =>
      cases executed
      cases stores
      exact ⟨state.get rs2, rfl⟩
  | _ => cases stores

end Instruction

namespace Line

/-- The lines that access the memory, and those that leave the listing. -/
def stores : Line Label Symbol → Bool
  | insn (.sw ..) => true
  | _ => false

def loads : Line Label Symbol → Bool
  | insn (.lw ..) => true
  | _ => false

def calls : Line Label Symbol → Bool
  | insn (.call _) => true
  | _ => false

end Line

section Runs

variable (listing : List (Line Label Symbol)) (state : State)

/-- The instruction control is at. -/
def current? : Option (Instruction Label Symbol) :=
  match listing[state.pc]? with
  | some (.insn instruction) => some instruction
  | _ => none

def storeAddr? : Option (BitVec 32) := (current? listing state).bind (·.storeAddr? state)

def loadAddr? : Option (BitVec 32) := (current? listing state).bind (·.loadAddr? state)

end Runs

variable {address : Symbol → BitVec 32} {listing : List (Line Label Symbol)}

/-- A line that does not store leaves the memory alone. -/
theorem step_memory {before after : State} (stepped : step address listing before = some after)
    (storesNot : storeAddr? listing before = none) : after.memory = before.memory := by
  unfold step at stepped
  unfold storeAddr? current? at storesNot
  split at stepped
  · cases stepped
  · cases stepped
    rfl
  · rename_i instruction at_line
    rw [at_line] at storesNot
    exact instruction.execute_memory before stepped storesNot

theorem step_store {before after : State} {addr : BitVec 32}
    (stepped : step address listing before = some after)
    (stores : storeAddr? listing before = some addr) :
    ∃ word, after.memory = storeWord before.memory addr word := by
  unfold step at stepped
  unfold storeAddr? current? at stores
  split at stepped
  · cases stepped
  · rename_i at_line
    rw [at_line] at stores
    cases stores
  · rename_i instruction at_line
    rw [at_line] at stores
    exact instruction.execute_store before stepped stores

/-- What every step keeps holds wherever a run gets to. -/
theorem Reaches.keeps {holds : State → Prop}
    (kept : ∀ before after, holds before → step address listing before = some after → holds after)
    {start final : State} (reached : Reaches address listing start final) (begins : holds start) :
    holds final := by
  induction reached with
  | refl => exact begins
  | tail earlier stepped ih => exact kept _ _ ih stepped

/-- A listing stops at its calls and at its end. -/
theorem step_eq_none {state : State} (stopped : step address listing state = none) :
    listing[state.pc]? = none ∨ ∃ symbol, listing[state.pc]? = some (.insn (.call symbol)) := by
  unfold step at stopped
  split at stopped
  · rename_i beyond
    exact Or.inl beyond
  · cases stopped
  · rename_i instruction at_line
    cases instruction with
    | call symbol => exact Or.inr ⟨symbol, at_line⟩
    | bge rs1 rs2 target =>
        rw [Instruction.execute] at stopped
        split at stopped <;> cases stopped
    | _ => cases stopped

/-! ## Proof outlines -/

/-- A listing with what is asserted in front of each line.  Assertions are about
the registers and the memory; where control is, they are told by their place. -/
abbrev Outline (Label Symbol : Type) := List (Line Label Symbol × (State → Prop))

namespace Outline

variable (address) (outline : Outline Label Symbol)

def lines : List (Line Label Symbol) := outline.map Prod.fst

/-- What is asserted where control is. -/
def Asserted (state : State) : Prop :=
  ∃ line holds, outline[state.pc]? = some (line, holds) ∧ holds state

/-- What is asserted where a label is. -/
def At (name : Label) (state : State) : Prop :=
  outline.Asserted { state with pc := position outline.lines name }

/-- What is asserted in front of the first line. -/
def front : Outline Label Symbol → State → Prop
  | [] => fun _ => False
  | (_, holds) :: _ => holds

/-- A line leads from what is asserted in front of it to what is asserted behind
it, and a jump to what is asserted at its label. -/
def Establishes (holds behind : State → Prop) : Line Label Symbol → Prop
  | .label _ => ∀ state, holds state → behind state.next
  | .insn (.bge rs1 rs2 target) => ∀ state, holds state →
      if (state.get rs2).toInt ≤ (state.get rs1).toInt then outline.At target state
      else behind state.next
  | .insn (.j target) => ∀ state, holds state → outline.At target state
  | .insn instruction => ∀ state after, holds state →
      instruction.execute address outline.lines state = some after → behind after

/-- Every line of a part of the outline does. -/
def Checks : Outline Label Symbol → Prop
  | [] => True
  | (line, holds) :: rest => outline.Establishes address holds (front rest) line ∧ Checks rest

variable {address outline}

theorem Checks.establishes {part : Outline Label Symbol} (checks : outline.Checks address part)
    {index : Nat} {line : Line Label Symbol} {holds : State → Prop}
    (there : part[index]? = some (line, holds)) :
    outline.Establishes address holds (front (part.drop (index + 1))) line := by
  induction part generalizing index with
  | nil => cases there
  | cons entry rest ih =>
      cases index with
      | zero =>
          cases there
          exact checks.1
      | succ index => exact ih checks.2 there

omit [DecidableEq Label] [DecidableEq Symbol] in
/-- What is asserted in front of the rest holds where the rest begins. -/
theorem asserted_of_front {index : Nat} {state : State} (here : state.pc = index)
    (holds : front (outline.drop index) state) : outline.Asserted state := by
  cases rest : outline.drop index with
  | nil =>
      rw [rest] at holds
      exact holds.elim
  | cons entry later =>
      rw [rest] at holds
      have first : (outline.drop index)[0]? = some entry := by rw [rest]; rfl
      rw [List.getElem?_drop, Nat.add_zero, ← here] at first
      exact ⟨entry.1, entry.2, first, holds⟩

/-- A jump goes where its label is. -/
theorem asserted_of_at {name : Label} {state after : State}
    (jumped : some { state with pc := position outline.lines name } = some after)
    (holds : outline.At name state) : outline.Asserted after := by
  cases jumped
  exact holds

/-- A checked outline asserts nothing that does not hold. -/
theorem Checks.step (checks : outline.Checks address outline) {before after : State}
    (asserted : outline.Asserted before)
    (stepped : Riscv.step address outline.lines before = some after) :
    outline.Asserted after := by
  rcases asserted with ⟨line, holds, there, held⟩
  have establishes := checks.establishes there
  have at_line : outline.lines[before.pc]? = some line := by
    rw [lines, List.getElem?_map, there]
    rfl
  rw [Riscv.step, at_line] at stepped
  cases line with
  | label name =>
      cases stepped
      exact asserted_of_front rfl (establishes before held)
  | insn instruction =>
      cases instruction with
      | bge rs1 rs2 target =>
          have branches := establishes before held
          change (if _ then _ else _) = some after at stepped
          split at stepped
          · rename_i taken
            rw [if_pos taken] at branches
            exact asserted_of_at stepped branches
          · rename_i notTaken
            rw [if_neg notTaken] at branches
            cases stepped
            exact asserted_of_front rfl branches
      | j target => exact asserted_of_at stepped (establishes before held)
      | call symbol => cases stepped
      | _ =>
          have behind := establishes before after held stepped
          cases stepped
          exact asserted_of_front rfl behind

/-! ## The lines that matter -/

namespace Asserted

variable {state : State} (asserted : outline.Asserted state)

include asserted

omit [DecidableEq Label] [DecidableEq Symbol] in
/-- The line control is at, among those of a kind. -/
theorem among {line : Line Label Symbol} (there : outline.lines[state.pc]? = some line)
    (kind : Line Label Symbol → Bool) (isKind : kind line = true) :
    ∃ holds, (line, holds) ∈ outline.filter (fun entry => kind entry.1) ∧ holds state := by
  rcases asserted with ⟨other, holds, at_line, held⟩
  rw [lines, List.getElem?_map, at_line] at there
  cases there
  exact ⟨holds, List.mem_filter.mpr ⟨List.mem_of_getElem? at_line, isKind⟩, held⟩

omit [DecidableEq Label] [DecidableEq Symbol] in
theorem storing {addr : BitVec 32} (stores : storeAddr? outline.lines state = some addr) :
    ∃ rs2 imm rs1 holds,
      (.insn (.sw rs2 imm rs1), holds) ∈ outline.filter (fun entry => entry.1.stores) ∧
        holds state ∧ addr = state.get rs1 + imm.signExtend 32 := by
  unfold storeAddr? current? at stores
  split at stores
  · rename_i instruction there
    cases instruction with
    | sw rs2 imm rs1 =>
        cases stores
        rcases asserted.among there Line.stores rfl with ⟨holds, member, held⟩
        exact ⟨rs2, imm, rs1, holds, member, held, rfl⟩
    | _ => cases stores
  · cases stores

omit [DecidableEq Label] [DecidableEq Symbol] in
theorem loading {addr : BitVec 32} (loads : loadAddr? outline.lines state = some addr) :
    ∃ rd imm rs1 holds,
      (.insn (.lw rd imm rs1), holds) ∈ outline.filter (fun entry => entry.1.loads) ∧
        holds state ∧ addr = state.get rs1 + imm.signExtend 32 := by
  unfold loadAddr? current? at loads
  split at loads
  · rename_i instruction there
    cases instruction with
    | lw rd imm rs1 =>
        cases loads
        rcases asserted.among there Line.loads rfl with ⟨holds, member, held⟩
        exact ⟨rd, imm, rs1, holds, member, held, rfl⟩
    | _ => cases loads
  · cases loads

/-- A run that has not left the listing stops in front of a call. -/
theorem stopping {address : Symbol → BitVec 32}
    (stopped : Riscv.step address outline.lines state = none) :
    ∃ symbol holds, outline.lines[state.pc]? = some (.insn (.call symbol)) ∧
      (.insn (.call symbol), holds) ∈ outline.filter (fun entry => entry.1.calls) ∧
        holds state := by
  rcases step_eq_none stopped with beyond | ⟨symbol, there⟩
  · rcases asserted with ⟨line, holds, at_line, _⟩
    rw [lines, List.getElem?_map, at_line] at beyond
    cases beyond
  · rcases asserted.among there Line.calls rfl with ⟨holds, member, held⟩
    exact ⟨symbol, holds, there, member, held⟩

end Asserted

end Outline

end Riscv
end McuRom
