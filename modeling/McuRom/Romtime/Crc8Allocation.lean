import McuRom.Romtime.Crc8

namespace McuRom

open Gf2

/-!
# Register allocation of the CRC-8 instructions

None of the outputs of the `asm` statement is an early clobber, so that the
compiler may give an output the register of an input.  `poly` is read by the
last instruction, behind the writes to `a` and `tmp`; an allocation that puts
either of them there replaces the polynomial.
-/

namespace Riscv32

/-- The registers of the operands for one value of `crc_val`: the outputs
differ from each other, and the inputs differ unless they are equal. -/
structure Allocation (crcVal : Word) where
  a : Register
  b : Register
  tmp : Register
  crc : Register
  poly : Register
  outputs : [a, b, tmp].Nodup
  inputs : crc = poly → crcVal = polynomial

namespace Allocation

variable {crcVal : Word} (allocation : Allocation crcVal) (file : RegisterFile)

/-- The template of the `asm` statement. -/
def template : List Instruction :=
  [.clmul allocation.a allocation.crc allocation.poly,
    .srli allocation.tmp allocation.a 8,
    .clmul allocation.b allocation.tmp allocation.poly]

/-- The registers when the inputs have been loaded. -/
def load : RegisterFile :=
  Function.update (Function.update file allocation.crc crcVal) allocation.poly polynomial

/-- The registers behind the `asm` statement. -/
def run : RegisterFile := allocation.template.foldl Instruction.execute (allocation.load file)

/-- `static_cast<std::uint8_t>(a ^ b)` -/
def result : Byte :=
  (allocation.run file allocation.a ^^^ allocation.run file allocation.b).setWidth 8

/-- The polynomial is still in its register when it is used again. -/
def PolySurvives : Prop := allocation.a ≠ allocation.poly ∧ allocation.tmp ≠ allocation.poly

instance : Decidable allocation.PolySurvives := inferInstanceAs (Decidable (_ ∧ _))

/-- What the last instruction multiplies with. -/
def lastFactor : Word :=
  if allocation.a = allocation.poly then clmul crcVal polynomial
  else if allocation.tmp = allocation.poly then clmul crcVal polynomial >>> 8
  else polynomial

theorem load_crc : allocation.load file allocation.crc = crcVal := by
  by_cases shared : allocation.crc = allocation.poly
  · rw [load, shared, Function.update_self, allocation.inputs shared]
  · rw [load, Function.update_of_ne shared, Function.update_self]

theorem load_poly : allocation.load file allocation.poly = polynomial :=
  Function.update_self ..

theorem run_results :
    allocation.run file allocation.a = clmul crcVal polynomial ∧
      allocation.run file allocation.b =
        clmul (clmul crcVal polynomial >>> 8) allocation.lastFactor := by
  have outputs := allocation.outputs
  simp only [List.nodup_cons, List.mem_cons, List.not_mem_nil, not_or, or_false] at outputs
  rcases outputs with ⟨⟨ab, atmp⟩, _, _⟩
  have product : allocation.run file allocation.a = clmul crcVal polynomial := by
    simp only [run, template, List.foldl_cons, List.foldl_nil, Instruction.execute,
      Function.update_of_ne ab, Function.update_of_ne atmp, Function.update_self, load_crc, load_poly]
  refine ⟨product, ?_⟩
  simp only [run, template, List.foldl_cons, List.foldl_nil, Instruction.execute,
    Function.update_self, load_crc, load_poly, lastFactor]
  congr 1
  by_cases tmpPoly : allocation.tmp = allocation.poly
  · have aPoly : ¬ allocation.a = allocation.poly := fun same => atmp (same.trans tmpPoly.symm)
    rw [if_neg aPoly, if_pos tmpPoly, ← tmpPoly, Function.update_self]
  · rw [Function.update_of_ne (Ne.symm tmpPoly), if_neg tmpPoly]
    by_cases aPoly : allocation.a = allocation.poly
    · rw [if_pos aPoly, ← aPoly, Function.update_self]
    · rw [if_neg aPoly, Function.update_of_ne (Ne.symm aPoly), load_poly]

end Allocation

end Riscv32

/-! ## One byte -/

/-- One execution of the `asm` statement: the byte it takes in, the registers
as they happen to be, and the allocation, which may differ from call to call
and may use what is known about `crc_val`. -/
structure AsmCall where
  data : Byte
  file : Riscv32.RegisterFile
  allocation : ∀ crcVal, Riscv32.Allocation crcVal

namespace AsmCall

variable (call : AsmCall) (crc : Byte)

/-- `crc_val` of the call. -/
def crcVal : Word := (crc ^^^ call.data).setWidth 32

/-- Platform-specific CRC-8 implementation, under the allocation of the call -/
def platformCrc8 : Byte := (call.allocation (call.crcVal crc)).result call.file

/-- The call leaves the polynomial in its register, or has nothing left to
fold when it uses it again. -/
def Unaffected : Prop :=
  (call.allocation (call.crcVal crc)).PolySurvives ∨ (crc ^^^ call.data).toNat < 0x40

instance : Decidable (call.Unaffected crc) := inferInstanceAs (Decidable (_ ∨ _))

/-- With the polynomial as the last factor the instructions do what the host
does. -/
theorem foldReduce_eq_host (data : Byte) :
    foldReduce 8 Riscv32.polynomial ((crc ^^^ data).setWidth 32) = Host.platformCrc8 crc data := by
  have operands : Riscv32.Operands := ⟨0, 1, 2, 3, 4, by decide⟩
  have same := congrFun (congrFun (riscv32_eq_host operands fun _ => 0) crc) data
  rw [crc8, crc8, Riscv32.platformCrc8_eq] at same
  exact same

/-- The product of a byte with the polynomial. -/
def product (value : Nat) : Word :=
  BitVec.ofNat 32 value ^^^ BitVec.ofNat 32 value <<< 1 ^^^ BitVec.ofNat 32 value <<< 2

theorem clmul_polynomial (value : Nat) :
    clmul (BitVec.ofNat 32 value) Riscv32.polynomial = product value := by
  have small : Riscv32.polynomial.toNat < 2 ^ 3 := by decide
  rw [clmul_of_lt small (by decide)]
  simp [clmulBits, List.range_succ, Riscv32.polynomial, product]

theorem product_lt : ∀ value < 2 ^ 8, (product value).toNat < 2 ^ 10 ∧
    (product value >>> 8).toNat < 2 ^ 2 := by
  decide +kernel

/-- The product in place of the polynomial folds to another byte, unless there
is nothing to fold. -/
theorem product_matters : ∀ value < 2 ^ 8,
    ((clmulBits (product value) (product value >>> 8) 2).setWidth 8 =
        ((clmulBits Riscv32.polynomial (product value >>> 8) 2).setWidth 8 : Byte) ↔
      value < 0x40) := by
  decide +kernel

/-- So does its high part. -/
theorem highPart_matters : ∀ value < 2 ^ 8,
    ((clmulBits (product value >>> 8) (product value >>> 8) 2).setWidth 8 =
        ((clmulBits Riscv32.polynomial (product value >>> 8) 2).setWidth 8 : Byte) ↔
      value < 0x40) := by
  decide +kernel

/-- The result is right if the last factor folds to the same byte as the
polynomial does. -/
theorem platformCrc8_eq_iff :
    call.platformCrc8 crc = Host.platformCrc8 crc call.data ↔
      ((clmul (clmul (call.crcVal crc) Riscv32.polynomial >>> 8)
          (call.allocation (call.crcVal crc)).lastFactor).setWidth 8 : Byte) =
        (clmul (clmul (call.crcVal crc) Riscv32.polynomial >>> 8)
          Riscv32.polynomial).setWidth 8 := by
  rcases (call.allocation (call.crcVal crc)).run_results call.file with ⟨a, b⟩
  rw [platformCrc8, Riscv32.Allocation.result, a, b, ← foldReduce_eq_host, foldReduce, ← crcVal,
    BitVec.setWidth_xor, BitVec.setWidth_xor, BitVec.xor_right_inj]

theorem lastFactor_of_survives {crcVal : Word} {allocation : Riscv32.Allocation crcVal}
    (survives : allocation.PolySurvives) : allocation.lastFactor = Riscv32.polynomial := by
  rw [Riscv32.Allocation.lastFactor, if_neg survives.1, if_neg survives.2]

/-- A small right factor and any last factor a register can hold commute. -/
theorem clmul_highPart {value : Nat} (byte : value < 2 ^ 8) {factor : Word}
    (factor_lt : factor.toNat < 2 ^ 10) :
    clmul (product value >>> 8) factor = clmulBits factor (product value >>> 8) 2 := by
  have small : (product value >>> 8).toNat < 2 ^ (1 + 1) := (product_lt value byte).2
  have large : factor.toNat < 2 ^ (9 + 1) := factor_lt
  rw [clmul_comm_of_lt small large (by decide), clmul_of_lt small (by decide)]

theorem eq_host_iff :
    call.platformCrc8 crc = Host.platformCrc8 crc call.data ↔ call.Unaffected crc := by
  have byte := (crc ^^^ call.data).isLt
  have value : BitVec.ofNat 32 (crc ^^^ call.data).toNat = call.crcVal crc :=
    BitVec.ofNat_toNat 32 _
  have product_eq := clmul_polynomial (crc ^^^ call.data).toNat
  have polynomial_lt : Riscv32.polynomial.toNat < 2 ^ 10 := by decide
  have bounds := product_lt _ byte
  rw [platformCrc8_eq_iff, Unaffected]
  rw [value] at product_eq
  by_cases survives : (call.allocation (call.crcVal crc)).PolySurvives
  · rw [lastFactor_of_survives survives]
    exact iff_of_true rfl (Or.inl survives)
  · rw [or_iff_right survives, product_eq, clmul_highPart byte polynomial_lt,
      Riscv32.Allocation.lastFactor, product_eq]
    split
    · rw [clmul_highPart byte bounds.1]
      exact product_matters _ byte
    · rename_i aElsewhere
      rw [if_pos (not_not.mp fun tmpElsewhere => survives ⟨aElsewhere, tmpElsewhere⟩),
        clmul_highPart byte (Nat.lt_trans bounds.2 (by decide))]
      exact highPart_matters _ byte

end AsmCall

/-! ## A message -/

/-- The bytes of the calls, taken in one after another on the target. -/
def asmCrc (init : Byte) (calls : List AsmCall) : Byte :=
  calls.foldl (fun crc call => call.platformCrc8 crc) init

/-- Every call is unaffected when it finds the check value of the host. -/
def AllUnaffected : Byte → List AsmCall → Prop
  | _, [] => True
  | crc, call :: rest =>
      call.Unaffected crc ∧ AllUnaffected (Host.platformCrc8 crc call.data) rest

/-- After every byte the target has the check value of the host. -/
def FollowsHost (init : Byte) (calls : List AsmCall) : Prop :=
  ∀ count, asmCrc init (calls.take count) = hostCrc init ((calls.take count).map AsmCall.data)

theorem followsHost_cons (init : Byte) (call : AsmCall) (rest : List AsmCall) :
    FollowsHost init (call :: rest) ↔
      call.platformCrc8 init = Host.platformCrc8 init call.data ∧
        FollowsHost (Host.platformCrc8 init call.data) rest := by
  constructor
  · intro follows
    have first : call.platformCrc8 init = Host.platformCrc8 init call.data := follows 1
    refine ⟨first, fun count => ?_⟩
    have later := follows (count + 1)
    rw [List.take_succ_cons, asmCrc, List.foldl_cons, first] at later
    exact later
  · rintro ⟨first, later⟩ count
    cases count with
    | zero => rfl
    | succ count =>
        rw [List.take_succ_cons, asmCrc, List.foldl_cons, first]
        exact later count

/-- The instructions follow the host through a message exactly if no call that
has something to fold has lost the polynomial. -/
theorem followsHost_iff (init : Byte) (calls : List AsmCall) :
    FollowsHost init calls ↔ AllUnaffected init calls := by
  induction calls generalizing init with
  | nil => exact iff_of_true (fun count => by rw [List.take_nil]; rfl) trivial
  | cons call rest ih =>
      rw [followsHost_cons, AsmCall.eq_host_iff, ih]
      rfl

/-- The first output in the register of the polynomial. -/
def productOverPoly (crcVal : Word) : Riscv32.Allocation crcVal where
  a := 10
  b := 11
  tmp := 12
  crc := 13
  poly := 10
  outputs := by decide
  inputs same := absurd same (by decide)

/-- For the byte 0x80 it leaves another check value than the host. -/
theorem productOverPoly_differs :
    asmCrc 0 [⟨0x80, fun _ => 0, productOverPoly⟩] ≠ hostCrc 0 [0x80] := by
  intro same
  have follows : AsmCall.platformCrc8 ⟨0x80, fun _ => 0, productOverPoly⟩ 0 =
    Host.platformCrc8 0 0x80 := same
  rw [AsmCall.eq_host_iff _ 0] at follows
  revert follows
  decide

end McuRom
