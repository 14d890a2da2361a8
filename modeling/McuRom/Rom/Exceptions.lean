import McuRom.Rom.BootLog
import McuRom.Rom.StartupSafety

namespace McuRom

open Mmio Memory Riscv Text

/-!
# Exceptions

Interrupts are disabled within the ROM, so every trap is an exception.  The
assembly part of the handler switches to a stack of its own before it calls
the C++ part, which prints what is known of the exception and then reports a
fatal error.

The C++ part is entered in the state the assembly part leaves behind, with
`ra` overwritten by the jump.  What `ra` holds when the C++ part looks at it is
up to the compiled function, so it is a parameter.
-/

def mscratch : BitVec 12 := 0x340
def mepc : BitVec 12 := 0x341
def mcause : BitVec 12 := 0x342

/-! ## The assembly part -/

inductive HandlerLabel where
  | exceptionHandler
deriving DecidableEq, Repr

inductive HandlerSymbol where
  | estackStart | exceptionHandler
deriving DecidableEq, Repr

/-- `_exception_handler` -/
def exceptionListing : List (Line HandlerLabel HandlerSymbol) :=
  [.label .exceptionHandler,
    -- Save the SP to mscratch
    .insn (.csrw mscratch sp),
    -- Switch to the exception stack
    .insn (.la sp .estackStart),
    -- Call C++ exception handler
    .insn (.call .exceptionHandler)]

/-- The end of the exception stack, where the first frame goes. -/
def Layout.estackStart (layout : Layout) : Nat := layout.stackOrigin + stackSize + estackSize

/-- The addresses of its symbols, given that of the C++ function. -/
def Layout.handlerAddress (layout : Layout) (exceptionHandler : Word) : HandlerSymbol → Word
  | .estackStart => BitVec.ofNat 32 layout.estackStart
  | .exceptionHandler => exceptionHandler

/-- What the hardware does when an exception is raised. -/
def trap (state : State) (cause pc : Word) : State :=
  { state with
    pc := position exceptionListing .exceptionHandler
    csrs := Function.update (Function.update state.csrs mepc pc) mcause cause }

/-- Control is at the call of the C++ part. -/
def CallsHandler (state : State) : Prop :=
  exceptionListing[state.pc]? = some (.insn (.call .exceptionHandler))

/-! ## The C++ part -/

/-- `exception_handler` on the RISC-V target -/
def exceptionHandler (globals : Globals) (csrs : BitVec 12 → Word) (ra : Word) : Driver Halt := do
  -- Print exception info
  print globals.gWriter "EXCEPTION mcause="
  hexWordPrintTo (csrs mcause) globals.gWriter
  print globals.gWriter " mepc="
  hexWordPrintTo (csrs mepc) globals.gWriter
  print globals.gWriter " sp="
  hexWordPrintTo (csrs mscratch) globals.gWriter
  print globals.gWriter " ra="
  hexWordPrintTo ra globals.gWriter
  println globals.gWriter ""
  fatalError globals .genericException

/-- What is reported of an exception. -/
structure ExceptionReport where
  mcause : Word
  mepc : Word
  sp : Word
  ra : Word
deriving DecidableEq, Repr

def readExceptionReport : Reader ExceptionReport := do
  Reader.literal "EXCEPTION mcause=".toList
  let mcause ← readHexWord
  Reader.literal " mepc=".toList
  let mepc ← readHexWord
  Reader.literal " sp=".toList
  let sp ← readHexWord
  Reader.literal " ra=".toList
  let ra ← readHexWord
  Reader.literal ['\n']
  pure ⟨mcause, mepc, sp, ra⟩

/-- The line of a report. -/
def ExceptionReport.text (report : ExceptionReport) : List Char :=
  "EXCEPTION mcause=".toList ++ (hexWordDigits report.mcause ++ (" mepc=".toList ++
    (hexWordDigits report.mepc ++ (" sp=".toList ++ (hexWordDigits report.sp ++
      (" ra=".toList ++ (hexWordDigits report.ra ++ ['\n'])))))))

theorem reads_exceptionReport (report : ExceptionReport) :
    readExceptionReport.Reads report.text report := by
  refine Reader.Reads.bind (Reader.reads_literal _) ?_
  refine Reader.Reads.bind (reads_hexWord report.mcause) ?_
  refine Reader.Reads.bind (Reader.reads_literal _) ?_
  refine Reader.Reads.bind (reads_hexWord report.mepc) ?_
  refine Reader.Reads.bind (Reader.reads_literal _) ?_
  refine Reader.Reads.bind (reads_hexWord report.sp) ?_
  refine Reader.Reads.bind (Reader.reads_literal _) ?_
  refine Reader.Reads.bind (reads_hexWord report.ra) ?_
  exact (Reader.reads_literal _).last

section Report

variable {σ : Type} (globals : Globals) (csrs : BitVec 12 → Word) (ra : Word)
  (dev : Device Word Word σ) (state : σ)

/-- The line is printed before the fatal error is reported. -/
theorem exceptionHandler_eq :
    exceptionHandler globals csrs ra =
      (Program.writeAll (uartWrites globals.gWriter
          (ExceptionReport.text ⟨csrs mcause, csrs mepc, csrs mscratch, ra⟩)) >>= fun _ =>
        fatalError globals .genericException) := by
  unfold exceptionHandler ExceptionReport.text
  simp only [uartWrites_append, Program.writeAll_append, Program.bind_assoc, ← print_eq,
    ← hexWordPrintTo_eq]
  rw [println_empty]

theorem exceptionHandler_run :
    (exceptionHandler globals csrs ra).run dev state =
      ((fatalError globals .genericException).run dev (dev.writeAll state
        (uartWrites globals.gWriter
          (ExceptionReport.text ⟨csrs mcause, csrs mepc, csrs mscratch, ra⟩)))).after
        (Access.ofWrites (uartWrites globals.gWriter
          (ExceptionReport.text ⟨csrs mcause, csrs mepc, csrs mscratch, ra⟩))) := by
  rw [exceptionHandler_eq, Program.run_bind, Program.run_writeAll]

/-- All it does is to write the line and then what a fatal error writes. -/
theorem exceptionHandler_trace :
    ((exceptionHandler globals csrs ra).run dev state).trace =
      Access.ofWrites (uartWrites globals.gWriter
          (ExceptionReport.text ⟨csrs mcause, csrs mepc, csrs mscratch, ra⟩)) ++
        Access.ofWrites (fatalErrorWrites globals McuError.genericException.code) := by
  rw [exceptionHandler_run, Run.after_trace, fatalError_run]

/-- The register a fatal error is reported in. -/
def fatalRegister : Word :=
  match globals.gFatalErrorHandler with
  | some .romFatalErrorHandler => handlerMciFatal
  | none => romEnv.mci.reg Mci.regFwErrorFatal

theorem fatalRegister_written (code : Word) :
    .write (fatalRegister globals) code ∈ Access.ofWrites (fatalErrorWrites globals code) := by
  apply Access.mem_ofWrites.mpr
  refine ⟨fatalRegister globals, code, ?_, rfl⟩
  rcases globals with ⟨gWriter, _ | ⟨⟩⟩
  · exact List.mem_cons_self
  · exact List.mem_append_right _ List.mem_cons_self

end Report

/-! ## The whole path -/

section Text

open BootLog

theorem consoleText_append (first second : List (Access Word Word)) :
    consoleText (first ++ second) = consoleText first ++ consoleText second :=
  List.filterMap_append

/-- The console shows what is printed. -/
theorem consoleText_uartWrites {chars : List Char} (printable : Printable chars) :
    consoleText (Access.ofWrites (uartWrites (some .emulator) chars)) = chars := by
  induction chars with
  | nil => rfl
  | cons c rest ih =>
      have later : Printable rest := fun d member => printable d (List.mem_cons_of_mem c member)
      have first := sent?_char (printable c List.mem_cons_self)
      exact (List.filterMap_cons_some first).trans (congrArg (List.cons c) (ih later))

theorem printable_append {first second : List Char} (left : Printable first)
    (right : Printable second) : Printable (first ++ second) := by
  intro c member
  rcases List.mem_append.mp member with early | late
  · exact left c early
  · exact right c late

theorem ExceptionReport.printable (report : ExceptionReport) : Printable report.text := by
  refine printable_append (by decide) (printable_append (printable_hexWordDigits _) ?_)
  refine printable_append (by decide) (printable_append (printable_hexWordDigits _) ?_)
  refine printable_append (by decide) (printable_append (printable_hexWordDigits _) ?_)
  exact printable_append (by decide) (printable_append (printable_hexWordDigits _) (by decide))

end Text

/-- The C++ part is entered with the memory of the interrupted state and with its
registers but for the stack pointer, which is that of the exception stack, and
for `ra`, which the jump sets. -/
structure Layout.Switched (layout : Layout) (link : Word) (interrupted entered : State) :
    Prop where
  memory : entered.memory = interrupted.memory
  registers : ∀ reg, reg ≠ sp → reg ≠ Riscv.ra → entered.regs reg = interrupted.regs reg
  stack : (entered.regs sp).toNat = layout.estackStart
  link : entered.regs Riscv.ra = link

/-- The line of the report comes first, if there is a writer to print it, and
then the fatal error; on the console the line reads as what the exception was. -/
structure Reported (globals : Globals) (report : ExceptionReport)
    (trace : List (Access Word Word)) (halt : Halt) : Prop where
  accesses : trace = Access.ofWrites (uartWrites globals.gWriter report.text) ++
    Access.ofWrites (fatalErrorWrites globals McuError.genericException.code)
  read : globals.gWriter = some .emulator →
    ∃ more, readExceptionReport (consoleText trace) = some (report, more)
  fatal : .write (fatalRegister globals) McuError.genericException.code ∈
    Access.ofWrites (fatalErrorWrites globals McuError.genericException.code)
  halts : halt = reportedHalt globals .genericException

/-- What comes of an exception that is raised in a given state. -/
structure Layout.Handles {σ : Type} (layout : Layout) (exceptionFunction link : Word)
    (globals : Globals) (dev : Device Word Word σ) (devState : σ)
    (interrupted : State) (cause pc ra : Word) : Prop where
  enters : ∃ calling, Reaches (layout.handlerAddress exceptionFunction) exceptionListing
    (trap interrupted cause pc) calling ∧ CallsHandler calling
  switched : ∀ calling, Reaches (layout.handlerAddress exceptionFunction) exceptionListing
    (trap interrupted cause pc) calling → CallsHandler calling →
      layout.Switched link interrupted (calling.enter link)
  reported : ∀ calling, Reaches (layout.handlerAddress exceptionFunction) exceptionListing
    (trap interrupted cause pc) calling → CallsHandler calling →
      Reported globals ⟨cause, pc, interrupted.regs sp, ra⟩
        ((McuRom.exceptionHandler globals (calling.enter link).csrs ra).run dev devState).trace
        ((McuRom.exceptionHandler globals (calling.enter link).csrs ra).run dev devState).result

theorem exceptionHandler_reported {σ : Type} (globals : Globals)
    (csrs : BitVec 12 → Word) (ra : Word) (dev : Device Word Word σ) (state : σ) :
    Reported globals ⟨csrs mcause, csrs mepc, csrs mscratch, ra⟩
      ((exceptionHandler globals csrs ra).run dev state).trace
      ((exceptionHandler globals csrs ra).run dev state).result := by
  have accesses := exceptionHandler_trace globals csrs ra dev state
  refine ⟨accesses, fun installed => ?_, fatalRegister_written .., ?_⟩
  · rw [accesses, installed, consoleText_append,
      consoleText_uartWrites (ExceptionReport.printable _)]
    exact ⟨_, reads_exceptionReport _ _⟩
  · rw [exceptionHandler_run]
    exact fatalError_result ..

/-- Whatever state the machine is in and whatever has been installed, an
exception is reported with its cause, its place and the stack pointer at that
moment. -/
theorem Layout.handles {σ : Type} (layout : Layout) (exceptionFunction link : Word)
    (globals : Globals) (dev : Device Word Word σ) (devState : σ)
    (interrupted : State) (cause pc ra : Word) :
    layout.Handles exceptionFunction link globals dev devState interrupted cause pc ra := by
  have fits := layout.sram_fits
  have reached : ∃ calling, Reaches (layout.handlerAddress exceptionFunction) exceptionListing
      (trap interrupted cause pc) calling ∧ CallsHandler calling ∧
        layout.Switched link interrupted (calling.enter link) ∧
        (calling.enter link).csrs mcause = cause ∧ (calling.enter link).csrs mepc = pc ∧
        (calling.enter link).csrs mscratch = interrupted.regs sp := by
    refine ⟨_, .head rfl <| .head rfl <| .head rfl <| .refl _, rfl, ⟨rfl, ?_, ?_, rfl⟩,
      rfl, rfl, rfl⟩
    · intro reg notSp notRa
      exact (Function.update_of_ne notRa _ _).trans (Function.update_of_ne notSp _ _)
    · change (BitVec.ofNat 32 layout.estackStart).toNat = _
      unfold sramOrigin sramLength at fits
      rw [BitVec.toNat_ofNat, Nat.mod_eq_of_lt]
      unfold estackStart
      omega
  rcases reached with ⟨calling, reaches, calls, switched, isCause, isPc, isStack⟩
  have stopped {state : State} (atCall : CallsHandler state) :
      step (layout.handlerAddress exceptionFunction) exceptionListing state = none := by
    rw [step, atCall]
    rfl
  refine ⟨⟨calling, reaches, calls⟩, ?_, ?_⟩
  · intro other alsoReaches alsoCalls
    rw [← reaches.unique alsoReaches (stopped calls) (stopped alsoCalls)]
    exact switched
  · intro other alsoReaches alsoCalls
    rw [← reaches.unique alsoReaches (stopped calls) (stopped alsoCalls)]
    have reported := exceptionHandler_reported globals (calling.enter link).csrs ra dev devState
    rwa [isCause, isPc, isStack] at reported

end McuRom
