import McuRom.Memory.Words
import Mathlib.Logic.Relation

namespace McuRom
namespace Riscv

open Memory

/-!
# Running RISC-V assembly

A listing is a list of lines, which are labels or instructions; control is at
one of its lines.  Symbols get their addresses from outside.  The machine has
the instructions that startup code is made of.  It stops in front of a call
or where it runs off the listing.  The function is entered in the state at the
call but for `ra`, which then holds the address behind the call.
-/

/-- The registers `x0` to `x31`. -/
abbrev Register := Fin 32

/-! ## The ABI names -/

def zero : Register := 0
def ra : Register := 1
def sp : Register := 2
def gp : Register := 3
def t0 : Register := 5
def t1 : Register := 6
def t2 : Register := 7
def t3 : Register := 28

/-- Jumps go to labels.  `la` and `call` take symbols. -/
inductive Instruction (Label Symbol : Type) where
  | la (rd : Register) (symbol : Symbol)
  | lui (rd : Register) (imm : BitVec 20)
  | addi (rd rs1 : Register) (imm : BitVec 12)
  | csrw (csr : BitVec 12) (rs1 : Register)
  | lw (rd : Register) (imm : BitVec 12) (rs1 : Register)
  | sw (rs2 : Register) (imm : BitVec 12) (rs1 : Register)
  | bge (rs1 rs2 : Register) (target : Label)
  | j (target : Label)
  | call (symbol : Symbol)
deriving DecidableEq, Repr

inductive Line (Label Symbol : Type) where
  | label (name : Label)
  | insn (instruction : Instruction Label Symbol)
deriving DecidableEq, Repr

/-- The relocation `%hi`: what `lui` has to load so that `addi` with `%lo`
makes the value. -/
def hi (value : BitVec 32) : BitVec 20 := ((value + 0x800) >>> 12).setWidth 20

/-- The relocation `%lo` -/
def lo (value : BitVec 32) : BitVec 12 := value.setWidth 12

structure State where
  pc : Nat
  regs : Register → BitVec 32
  csrs : BitVec 12 → BitVec 32
  memory : BitVec 32 → BitVec 8

namespace State

variable (state : State)

/-- `x0` reads as zero. -/
def get (reg : Register) : BitVec 32 := if reg = zero then 0 else state.regs reg

def next : State := { state with pc := state.pc + 1 }

def set (reg : Register) (value : BitVec 32) : State :=
  { state with regs := Function.update state.regs reg value }

/-- The state in which a function is entered that returns to `link`. -/
def enter (link : BitVec 32) : State := state.set ra link

end State

variable {Label Symbol : Type} [DecidableEq Label] [DecidableEq Symbol]

/-- The line a label stands in. -/
def position (listing : List (Line Label Symbol)) (name : Label) : Nat :=
  listing.idxOf (.label name)

/-- The state after an instruction, or none behind a call. -/
def Instruction.execute (address : Symbol → BitVec 32) (listing : List (Line Label Symbol))
    (state : State) : Instruction Label Symbol → Option State
  | la rd symbol => some (state.set rd (address symbol)).next
  | lui rd imm => some (state.set rd (imm.setWidth 32 <<< 12)).next
  | addi rd rs1 imm => some (state.set rd (state.get rs1 + imm.signExtend 32)).next
  | csrw csr rs1 => some { state.next with csrs := Function.update state.csrs csr (state.get rs1) }
  | lw rd imm rs1 =>
    some (state.set rd (loadWord state.memory (state.get rs1 + imm.signExtend 32))).next
  | sw rs2 imm rs1 =>
    some { state.next with
      memory := storeWord state.memory (state.get rs1 + imm.signExtend 32) (state.get rs2) }
  | bge rs1 rs2 target =>
    if (state.get rs2).toInt ≤ (state.get rs1).toInt then
      some { state with pc := position listing target }
    else some state.next
  | j target => some { state with pc := position listing target }
  | call _ => none

section Runs

variable (address : Symbol → BitVec 32) (listing : List (Line Label Symbol))

/-- One line. -/
def step (state : State) : Option State :=
  match listing[state.pc]? with
  | none => none
  | some (.label _) => some state.next
  | some (.insn instruction) => instruction.execute address listing state

/-- Running some lines leads from one state to another. -/
def Reaches : State → State → Prop :=
  Relation.ReflTransGen fun before after => step address listing before = some after

end Runs

variable {address : Symbol → BitVec 32} {listing : List (Line Label Symbol)}

theorem Reaches.refl (state : State) : Reaches address listing state state :=
  Relation.ReflTransGen.refl

theorem Reaches.trans {first second third : State} (earlier : Reaches address listing first second)
    (later : Reaches address listing second third) : Reaches address listing first third :=
  Relation.ReflTransGen.trans earlier later

theorem Reaches.head {first second third : State} (steps : step address listing first = some second)
    (later : Reaches address listing second third) : Reaches address listing first third :=
  Relation.ReflTransGen.head steps later

/-- A machine that has stopped has stopped in one state. -/
theorem Reaches.unique {start first second : State} (reaches : Reaches address listing start first)
    (alsoReaches : Reaches address listing start second)
    (stopped : step address listing first = none)
    (alsoStopped : step address listing second = none) : first = second := by
  have deterministic : Relator.RightUnique fun before after =>
      step address listing before = some after := by
    intro before one other isOne isOther
    exact Option.some.inj (isOne.symm.trans isOther)
  have stays {here there : State} (stuck : step address listing here = none)
      (onward : Reaches address listing here there) : here = there := by
    rcases Relation.ReflTransGen.cases_head onward with same | ⟨after, steps, _⟩
    · exact same
    · rw [stuck] at steps
      cases steps
  rcases Relation.ReflTransGen.total_of_right_unique deterministic reaches alsoReaches with
    onward | back
  · exact stays stopped onward
  · exact (stays alsoStopped back).symm

/-- A loop whose turns each establish the next state of affairs. -/
theorem Reaches.iterate {During : Nat → State → Prop} (count : Nat)
    (turn : ∀ k < count, ∀ state, During k state →
      ∃ after, Reaches address listing state after ∧ During (k + 1) after)
    {start : State} (begins : During 0 start) :
    ∃ final, Reaches address listing start final ∧ During count final := by
  induction count with
  | zero => exact ⟨start, Reaches.refl start, begins⟩
  | succ count ih =>
      rcases ih fun k bound => turn k (Nat.lt_succ_of_lt bound) with ⟨middle, reached, during⟩
      rcases turn count (Nat.lt_succ_self count) middle during with ⟨final, more, after⟩
      exact ⟨final, reached.trans more, after⟩

/-- Addresses in the lower half of the address space are compared as they
should be. -/
theorem toInt_le_iff {first second : Nat} (first_lt : first < 2 ^ 31) (second_lt : second < 2 ^ 31) :
    (BitVec.ofNat 32 first).toInt ≤ (BitVec.ofNat 32 second).toInt ↔ first ≤ second := by
  have small {value : Nat} (value_lt : value < 2 ^ 31) : (BitVec.ofNat 32 value).toInt = value := by
    have number : (BitVec.ofNat 32 value).toNat = value := by
      rw [BitVec.toNat_ofNat, Nat.mod_eq_of_lt (by omega)]
    rw [BitVec.toInt_eq_toNat_of_lt (by omega), number]
  rw [small first_lt, small second_lt]
  exact Int.ofNat_le

end Riscv
end McuRom
