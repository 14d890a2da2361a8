import McuRom.Common.Types

namespace McuRom

open Mmio

/-!
# Console output

`print` and `println` go through a global writer pointer.  On the RISC-V
target the only writer is the emulator's, which sends each character to the
UART transmit register; without a writer nothing is sent.
-/

/-- The writers the platform installs with `set_printer`. -/
inductive Writer where
  | emulator
deriving DecidableEq, Repr

/-- The emulator UART's transmit register. -/
def uartTx : Word := 0x10001041

namespace Writer

/-- `write_char`, a byte-wide store to the transmit register. -/
def writeChar : Writer → Char → Driver Unit
  | .emulator, c => Program.writeReg uartTx ((BitVec.ofNat 8 c.toNat).setWidth 32)

/-- `write`, one character after another. -/
def write (writer : Writer) : List Char → Driver Unit
  | [] => pure ()
  | c :: rest => do
    writer.writeChar c
    writer.write rest

end Writer

/-- Print formatted output (simplified version) -/
def print (gWriter : Option Writer) (str : String) : Driver Unit :=
  match gWriter with
  | none => pure ()
  | some writer => writer.write str.toList

/-- Print formatted output with newline -/
def println (gWriter : Option Writer) (str : String) : Driver Unit := do
  print gWriter str
  match gWriter with
  | none => pure ()
  | some writer => writer.writeChar '\n'

/-- One hexadecimal digit, upper case. -/
def hexDigit (c : Nat) : Char :=
  if c < 10 then Char.ofNat ('0'.toNat + c) else Char.ofNat ('A'.toNat + c - 10)

/-- `HexBytes(data, len).print_to(writer)` -/
def hexBytesPrintTo (bytes : List Byte) (writer : Option Writer) : Driver Unit :=
  match writer with
  | none => pure ()
  | some writer =>
    writer.write (bytes.flatMap fun (x : Byte) =>
      [hexDigit (x >>> 4).toNat, hexDigit (x &&& 0x0F).toNat])

/-- `HexWord(value).print_to(writer)`, most significant byte first. -/
def hexWordPrintTo (value : Word) (writer : Option Writer) : Driver Unit :=
  hexBytesPrintTo (wordBytes value).reverse writer

/-! ## Output as register writes -/

/-- The register writes that send characters to a writer. -/
def uartWrites (gWriter : Option Writer) (chars : List Char) : List (Word × Word) :=
  match gWriter with
  | none => []
  | some .emulator => chars.map fun c => (uartTx, (BitVec.ofNat 8 c.toNat).setWidth 32)

theorem uartWrites_append (gWriter : Option Writer) (first second : List Char) :
    uartWrites gWriter (first ++ second) = uartWrites gWriter first ++ uartWrites gWriter second := by
  cases gWriter with
  | none => rfl
  | some writer => exact List.map_append

/-- Output touches the transmit register only. -/
theorem addr_of_mem_uartWrites {gWriter : Option Writer} {chars : List Char} {entry : Word × Word}
    (member : entry ∈ uartWrites gWriter chars) : entry.1 = uartTx := by
  cases gWriter with
  | none => cases member
  | some writer =>
      rcases List.mem_map.mp member with ⟨c, _, rfl⟩
      rfl

theorem Writer.write_eq (writer : Writer) (chars : List Char) :
    writer.write chars = Program.writeAll (uartWrites (some writer) chars) := by
  induction chars with
  | nil => rfl
  | cons c rest ih => exact congrArg (Program.write uartTx _) ih

theorem print_eq (gWriter : Option Writer) (str : String) :
    print gWriter str = Program.writeAll (uartWrites gWriter str.toList) := by
  cases gWriter with
  | none => rfl
  | some writer => exact writer.write_eq str.toList

theorem println_eq (gWriter : Option Writer) (str : String) :
    println gWriter str = Program.writeAll (uartWrites gWriter (str.toList ++ ['\n'])) := by
  unfold println
  rw [print_eq, uartWrites_append, Program.writeAll_append]
  cases gWriter with
  | none => rfl
  | some writer => rfl

/-- An empty line ends the one before it. -/
theorem println_empty (gWriter : Option Writer) :
    println gWriter "" = Program.writeAll (uartWrites gWriter ['\n']) :=
  println_eq ..

/-- The digits `HexWord` prints. -/
def hexWordDigits (value : Word) : List Char :=
  (wordBytes value).reverse.flatMap fun (x : Byte) =>
    [hexDigit (x >>> 4).toNat, hexDigit (x &&& 0x0F).toNat]

theorem hexWordPrintTo_eq (value : Word) (gWriter : Option Writer) :
    hexWordPrintTo value gWriter = Program.writeAll (uartWrites gWriter (hexWordDigits value)) := by
  cases gWriter with
  | none => rfl
  | some writer => exact writer.write_eq (hexWordDigits value)

/-! ## Devices without a console -/

/-- The device drops what is sent to the console. -/
def IgnoresConsole {σ : Type} (dev : Device Word Word σ) : Prop :=
  ∀ state value, dev.write state uartTx value = state

namespace IgnoresConsole

variable {σ : Type} {dev : Device Word Word σ} (ignores : IgnoresConsole dev) (state : σ)
  (gWriter : Option Writer)

include ignores

theorem writeAll (chars : List Char) : dev.writeAll state (uartWrites gWriter chars) = state := by
  have onlyUart : ∀ entry ∈ uartWrites gWriter chars, entry.1 = uartTx := fun _ member =>
    addr_of_mem_uartWrites member
  generalize uartWrites gWriter chars = list at onlyUart
  induction list with
  | nil => rfl
  | cons entry rest ih =>
      rw [Device.writeAll_cons, onlyUart entry List.mem_cons_self, ignores]
      exact ih fun later member => onlyUart later (List.mem_cons_of_mem _ member)

theorem run_print (str : String) :
    (print gWriter str).run dev state =
      ⟨Access.ofWrites (uartWrites gWriter str.toList), (), state⟩ := by
  rw [print_eq, Program.run_writeAll, ignores.writeAll]

theorem run_println (str : String) :
    (println gWriter str).run dev state =
      ⟨Access.ofWrites (uartWrites gWriter (str.toList ++ ['\n'])), (), state⟩ := by
  rw [println_eq, Program.run_writeAll, ignores.writeAll]

theorem run_hexWordPrintTo (value : Word) :
    (hexWordPrintTo value gWriter).run dev state =
      ⟨Access.ofWrites (uartWrites gWriter (hexWordDigits value)), (), state⟩ := by
  rw [hexWordPrintTo_eq, Program.run_writeAll, ignores.writeAll]

end IgnoresConsole

end McuRom
