import McuRom.Mmio.Frame
import McuRom.Rom.Soc

namespace McuRom

open Mmio

/-!
# Register blocks of the SoC interface

The registers of the SoC interface lie next to each other, so that the block
an indexed setter writes ends where the next one begins.  A setter that does
not check its index reaches into the blocks behind its own.
-/

/-- The indexed setters of the SoC interface. -/
inductive SocSetter where
  | setCptraWdtCfg
  | setCptraMboxValidAxiUser
  | setCptraMboxAxiUserLock
deriving DecidableEq, Repr

/-- The SoC interface in the ROM's memory map. -/
def socInterface : Soc := ⟨gMcuMemoryMap.socOffset⟩

/-- The 64 KiB block of the SoC interface. -/
def isSoc (addr : Word) : Bool := addr &&& 0xFFFF0000 == gMcuMemoryMap.socOffset

namespace SocSetter

/-- Where the block of a setter begins. -/
def base : SocSetter → Word
  | setCptraWdtCfg => Soc.cptraWdtCfgBase
  | setCptraMboxValidAxiUser => Soc.cptraMboxValidAxiUserBase
  | setCptraMboxAxiUserLock => Soc.cptraMboxAxiUserLockBase

/-- Where the next named register behind it lies. -/
def next (setter : SocSetter) : Word :=
  (Soc.registers.find? fun offset => setter.base < offset).getD 0

def perform (globals : Globals) (index : SizeT) (value : Word) :
    SocSetter → Driver (Except Halt Unit)
  | setCptraWdtCfg => do
    socInterface.setCptraWdtCfg index value
    pure (.ok ())
  | setCptraMboxValidAxiUser => socInterface.setCptraMboxValidAxiUser globals index value
  | setCptraMboxAxiUserLock => socInterface.setCptraMboxAxiUserLock globals index value

/-- The register of the block with this index. -/
def register (setter : SocSetter) (index : SizeT) : Word :=
  socInterface.reg (setter.base + index * 4)

variable {τ : Type} (others : Device Word Word τ) (globals : Globals) (setter : SocSetter)
variable (index : SizeT) (value : Word) (file : Word → Word) (rest : τ)

/-- A setter on the registers of the SoC interface, with an arbitrary device
on the rest of the bus. -/
def run : Run Word Word ((Word → Word) × τ) (Except Halt Unit) :=
  (setter.perform globals index value).run (Device.route isSoc Device.storage others) (file, rest)

/-- A setter changes a register of its own block and no other, or it changes
nothing and reports a fatal error. -/
structure Isolated : Prop where
  changes :
    (setter.base.toNat + 4 * index.toNat < setter.next.toNat ∧
      (run others globals setter index value file rest).state.1 =
        Function.update file (setter.register index) value) ∨
    ((run others globals setter index value file rest).state.1 = file ∧
      (run others globals setter index value file rest).result =
        .error (reportedHalt globals .invalidParameter))
  axiUsers : setter = setCptraWdtCfg → ∀ offset, Soc.cptraMboxValidAxiUserBase ≤ offset →
    offset < Soc.cptraFuseValidAxiUser →
    (run others globals setter index value file rest).state.1 (socInterface.reg offset) =
      file (socInterface.reg offset)

/-! ## Fatal errors stay outside -/

theorem within_print (gWriter : Option Writer) (chars : List Char) :
    (Program.writeAll (uartWrites gWriter chars)).Within fun addr => isSoc addr = false := by
  apply Program.within_writeAll
  intro entry member
  rw [addr_of_mem_uartWrites member]
  decide

theorem within_fatalError (error : McuError) :
    (fatalError globals error).Within fun addr => isSoc addr = false := by
  unfold fatalError fatalErrorRaw
  cases globals.gFatalErrorHandler with
  | none => exact ⟨by decide, trivial⟩
  | some handler =>
      unfold RomFatalErrorHandler.fatalError
      rw [print_eq, hexWordPrintTo_eq, println_eq]
      refine (within_print _ _).bind fun _ => (within_print _ _).bind fun _ =>
        (within_print _ _).bind fun _ => ?_
      exact ⟨by decide, by decide, trivial⟩

/-! ## Registers of a block -/

variable {setter index}

/-- Each of the three blocks has five registers. -/
theorem inside_iff :
    setter.base.toNat + 4 * index.toNat < setter.next.toNat ↔ index.toNat < 5 := by
  have room : setter.next.toNat = setter.base.toNat + 20 := by
    cases setter <;> decide
  omega

variable (setter) in
theorem isSoc_register (inside : index.toNat < 5) : isSoc (setter.register index) = true := by
  have cases : index = 0 ∨ index = 1 ∨ index = 2 ∨ index = 3 ∨ index = 4 := by
    bv_omega
  rcases cases with rfl | rfl | rfl | rfl | rfl <;> cases setter <;> decide

variable (setter index)

/-- An index within the block reaches its register. -/
theorem run_inside (inside : index.toNat < 5) :
    (run others globals setter index value file rest).state.1 =
      Function.update file (setter.register index) value := by
  have small : ¬ 5 ≤ index := by
    rw [BitVec.le_def]
    exact Nat.not_le.mpr inside
  have written := congrArg Prod.fst (Device.route_write_left isSoc Device.storage others
    (isSoc_register setter inside) (file, rest) value)
  cases setter with
  | setCptraWdtCfg => exact written
  | setCptraMboxValidAxiUser =>
      rw [run, perform, Soc.setCptraMboxValidAxiUser, Soc.setAxiUserBlock, if_neg small]
      exact written
  | setCptraMboxAxiUserLock =>
      rw [run, perform, Soc.setCptraMboxAxiUserLock, Soc.setAxiUserBlock, if_neg small]
      exact written

/-- The checked setters report every other index and change nothing. -/
theorem run_rejected (checked : setter ≠ setCptraWdtCfg) (outside : ¬ index.toNat < 5) :
    (run others globals setter index value file rest).state.1 = file ∧
      (run others globals setter index value file rest).result =
        .error (reportedHalt globals .invalidParameter) := by
  have large : 5 ≤ index := by
    rw [BitVec.le_def]
    exact Nat.not_lt.mp outside
  have rejects : perform globals index value setter = (do
      let halt ← fatalError globals .invalidParameter
      pure (.error halt)) := by
    cases setter with
    | setCptraWdtCfg => exact absurd rfl checked
    | setCptraMboxValidAxiUser => exact if_pos large
    | setCptraMboxAxiUserLock => exact if_pos large
  have aside := Program.run_route_right Device.storage others
    (within_fatalError globals .invalidParameter) (file, rest)
  rw [run, rejects, Program.run_bind, aside, fatalError_result]
  exact ⟨rfl, rfl⟩

variable {index} in
/-- The watchdog's own registers are none of those behind them. -/
theorem wdtRegister_ne (inside : index.toNat < 5) {offset : Word}
    (behind : Soc.cptraMboxValidAxiUserBase ≤ offset) :
    socInterface.reg offset ≠ register setCptraWdtCfg index := by
  intro same
  have offsets := (BitVec.add_right_inj _).mp same
  rw [offsets, BitVec.le_def] at behind
  have place : (base setCptraWdtCfg + index * 4).toNat = 12 + index.toNat * 4 := by
    rw [BitVec.toNat_add, BitVec.toNat_mul]
    change (12 + index.toNat * 4 % 2 ^ 32) % 2 ^ 32 = _
    omega
  rw [place] at behind
  change 32 ≤ _ at behind
  omega

/-- Every setter is isolated for every index, but for the watchdog's, which
checks none and is isolated for those of its block. -/
theorem isolated_iff :
    Isolated others globals setter index value file rest ↔
      (setter = setCptraWdtCfg → index.toNat < 5) := by
  constructor
  · intro isolated watchdog
    subst watchdog
    rcases isolated.changes with ⟨inside, _⟩ | ⟨_, reported⟩
    · exact inside_iff.mp inside
    · cases reported
  · intro bounded
    by_cases inside : index.toNat < 5
    · have changed := run_inside others globals setter index value file rest inside
      refine ⟨Or.inl ⟨inside_iff.mpr inside, changed⟩, ?_⟩
      intro watchdog offset behind _
      subst watchdog
      rw [changed, Function.update_of_ne (wdtRegister_ne inside behind)]
    · have checked : setter ≠ setCptraWdtCfg := fun watchdog => inside (bounded watchdog)
      refine ⟨Or.inr (run_rejected others globals setter index value file rest checked inside), ?_⟩
      exact fun watchdog => absurd watchdog checked

/-- The sixth watchdog register is the first of the valid AXI users, the
eleventh the first of their locks. -/
theorem setCptraWdtCfg_hits_axiUsers :
    (run (Device.storage : Device Word Word (Word → Word)) ⟨none, none⟩ setCptraWdtCfg 5 0xABCD
        (fun _ => 0) fun _ => 0).state.1 (socInterface.reg Soc.cptraMboxValidAxiUserBase) =
          0xABCD ∧
      (run (Device.storage : Device Word Word (Word → Word)) ⟨none, none⟩ setCptraWdtCfg 10 1
        (fun _ => 0) fun _ => 0).state.1 (socInterface.reg Soc.cptraMboxAxiUserLockBase) = 1 ∧
      ¬ Isolated (Device.storage : Device Word Word (Word → Word)) ⟨none, none⟩ setCptraWdtCfg 5
        0xABCD (fun _ => 0) fun _ => 0 := by
  refine ⟨by decide, by decide, fun isolated => ?_⟩
  have kept := isolated.axiUsers rfl Soc.cptraMboxValidAxiUserBase (by decide) (by decide)
  exact absurd kept (by decide)

end SocSetter

end McuRom
