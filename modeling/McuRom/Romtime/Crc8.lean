import McuRom.Common.Types
import McuRom.Gf2.Crc

namespace McuRom

open Gf2

/-!
# CRC-8

The host shifts bit by bit; the RISC-V target multiplies without carries.
Both are steps of the check with the polynomial `X ^ 8 + X ^ 2 + X + 1`.
-/

namespace Host

/-- CRC-8 with polynomial x^8 + x^2 + x^1 + 1 -/
def polynomial : Byte := 0x07

/-- One turn of the loop over the bits. -/
def shiftBit (crc : Byte) : Byte :=
  if crc &&& 0x80 ≠ 0 then (crc <<< 1) ^^^ polynomial else crc <<< 1

/-- Platform-specific CRC-8 implementation -/
def platformCrc8 (crc data : Byte) : Byte := shiftBit^[8] (crc ^^^ data)

end Host

namespace Riscv32

/-- The registers `x1` to `x31`. -/
abbrev Register := Fin 31

abbrev RegisterFile := Register → Word

/-- The instructions of the `asm` statement.
`clmul` requires the Zbc extension. -/
inductive Instruction where
  | clmul (rd rs1 rs2 : Register)
  | srli (rd rs1 : Register) (shamt : Nat)
deriving DecidableEq, Repr

def Instruction.execute (file : RegisterFile) : Instruction → RegisterFile
  | .clmul rd rs1 rs2 => Function.update file rd (Gf2.clmul (file rs1) (file rs2))
  | .srli rd rs1 shamt => Function.update file rd (file rs1 >>> shamt)

/-- The registers of the operands. -/
structure Operands where
  a : Register
  b : Register
  tmp : Register
  crc : Register
  poly : Register
  distinct : [a, b, tmp, crc, poly].Nodup

/-- The template of the `asm` statement. -/
def Operands.template (operands : Operands) : List Instruction :=
  [.clmul operands.a operands.crc operands.poly,
    .srli operands.tmp operands.a 8,
    .clmul operands.b operands.tmp operands.poly]

/-- CRC-8 with polynomial x^8 + x^2 + x^1 + 1 -/
def polynomial : Word := 0x07

/-- The registers when the inputs have been loaded. -/
def Operands.load (operands : Operands) (file : RegisterFile) (crcVal : Word) : RegisterFile :=
  Function.update (Function.update file operands.crc crcVal) operands.poly polynomial

/-- The registers behind the `asm` statement. -/
def Operands.run (operands : Operands) (file : RegisterFile) (crcVal : Word) : RegisterFile :=
  operands.template.foldl Instruction.execute (operands.load file crcVal)

/-- Platform-specific CRC-8 implementation, with whatever the registers hold
when it is called. -/
def platformCrc8 (operands : Operands) (file : RegisterFile) (crc data : Byte) : Byte :=
  (operands.run file ((crc ^^^ data).setWidth 32) operands.a ^^^
    operands.run file ((crc ^^^ data).setWidth 32) operands.b).setWidth 8

end Riscv32

/-- CRC-8 computation -/
def crc8 (platformCrc8 : Byte → Byte → Byte) (crc data : Byte) : Byte := platformCrc8 crc data

/-! ## The bitwise loop -/

namespace Host

theorem shiftBit_eq (crc : Byte) : shiftBit crc = shiftReduce polynomial crc := by
  have highest : crc &&& 0x80 ≠ 0 ↔ crc.msb = true := by
    rw [BitVec.msb_eq_getLsbD_last]
    change crc &&& BitVec.twoPow 8 7 ≠ 0 ↔ _
    rw [BitVec.and_twoPow]
    cases crc.getLsbD 7 <;> decide
  unfold shiftBit shiftReduce
  rw [if_congr highest rfl rfl]

theorem absorbs : Absorbs polynomial (crc8 platformCrc8) := by
  intro crc data
  rw [crc8, platformCrc8, funext shiftBit_eq, residue_shiftReduce_iterate (by decide), toPoly_xor]

end Host

/-! ## The instructions -/

namespace Riscv32

variable (operands : Operands) (file : RegisterFile)

/-- The result registers hold the product and the folded part of it. -/
theorem run_results (crcVal : Word) :
    operands.run file crcVal operands.a = clmul crcVal polynomial ∧
      operands.run file crcVal operands.b = clmul (clmul crcVal polynomial >>> 8) polynomial := by
  rcases operands with ⟨a, b, tmp, crc, poly, distinct⟩
  simp only [List.nodup_cons, List.mem_cons, List.not_mem_nil, not_or, or_false] at distinct
  rcases distinct with ⟨⟨ab, atmp, _, apoly⟩, _, ⟨_, tmppoly⟩, crcpoly, _⟩
  simp only [Operands.run, Operands.template, Operands.load, List.foldl_cons, List.foldl_nil,
    Instruction.execute, Function.update_self, Function.update_of_ne ab,
    Function.update_of_ne atmp, Function.update_of_ne (Ne.symm apoly),
    Function.update_of_ne (Ne.symm tmppoly), Function.update_of_ne crcpoly, and_self]

theorem platformCrc8_eq (crc data : Byte) :
    platformCrc8 operands file crc data =
      foldReduce 8 polynomial ((crc ^^^ data).setWidth 32) := by
  rcases run_results operands file ((crc ^^^ data).setWidth 32) with ⟨product, folded⟩
  rw [platformCrc8, product, folded, foldReduce]

theorem absorbs : Absorbs Host.polynomial (crc8 (platformCrc8 operands file)) := by
  intro crc data
  have byte : (crc ^^^ data).toNat < 2 ^ 32 := Nat.lt_trans (crc ^^^ data).isLt (by decide)
  have small : ((crc ^^^ data).setWidth 32 : Word).toNat < 2 ^ 8 := by
    rw [BitVec.toNat_setWidth, Nat.mod_eq_of_lt byte]
    exact (crc ^^^ data).isLt
  have folded := residue_foldReduce Host.polynomial 2 small (by decide) (by decide) (by decide)
    (by decide)
  rw [toPoly_setWidth byte, toPoly_xor] at folded
  rw [crc8, platformCrc8_eq]
  exact folded

end Riscv32

/-! ## The remainder -/

/-- The bytes of a message, taken in one after another on the host. -/
def hostCrc (init : Byte) (message : List Byte) : Byte :=
  message.foldl (crc8 Host.platformCrc8) init

/-- The same on the target; each call finds the registers as they happen to be. -/
def riscv32Crc (operands : Riscv32.Operands) (init : Byte)
    (calls : List (Byte × Riscv32.RegisterFile)) : Byte :=
  calls.foldl (fun crc call => crc8 (Riscv32.platformCrc8 operands call.2) crc call.1) init

open Polynomial in
theorem generator_polynomial : generator Host.polynomial = X ^ 8 + X ^ 2 + X + 1 := by
  have tail : toPoly Host.polynomial = 1 + X + X ^ 2 := by
    simp [toPoly, Finset.sum_range_succ, Host.polynomial, coefficient, monomial_one_right_eq_X_pow]
  rw [generator, tail]
  ring

open Polynomial in
/-- Host and target compute the same check value of the message in the calls,
which is the remainder; behind the message it gives zero. -/
structure ComputesRemainder (operands : Riscv32.Operands) (init : Byte)
    (calls : List (Byte × Riscv32.RegisterFile)) : Prop where
  agree : riscv32Crc operands init calls = hostCrc init (calls.map Prod.fst)
  remainder : toPoly (hostCrc init (calls.map Prod.fst)) =
    (toPoly init * X ^ (8 * (calls.map Prod.fst).length) +
      messagePoly (calls.map Prod.fst) * X ^ 8) %ₘ (X ^ 8 + X ^ 2 + X + 1)
  appended : hostCrc init (calls.map Prod.fst ++ [hostCrc init (calls.map Prod.fst)]) = 0

theorem riscv32_eq_host (operands : Riscv32.Operands) (file : Riscv32.RegisterFile) :
    crc8 (Riscv32.platformCrc8 operands file) = crc8 Host.platformCrc8 :=
  (Riscv32.absorbs operands file).unique Host.absorbs

/-- CRC-8 is the polynomial remainder on both platforms. -/
theorem crc8_computesRemainder (operands : Riscv32.Operands) (init : Byte)
    (calls : List (Byte × Riscv32.RegisterFile)) : ComputesRemainder operands init calls := by
  constructor
  · unfold riscv32Crc hostCrc
    rw [List.foldl_map]
    congr 1
    funext crc call
    rw [riscv32_eq_host]
  · rw [← generator_polynomial]
    exact Host.absorbs.foldl_eq_remainder init (calls.map Prod.fst)
  · unfold hostCrc
    rw [List.foldl_append]
    exact Host.absorbs.step_self _

/-- The check value of the digits 1 to 9. -/
example : hostCrc 0 [0x31, 0x32, 0x33, 0x34, 0x35, 0x36, 0x37, 0x38, 0x39] = 0xF4 := by
  decide +kernel

end McuRom
