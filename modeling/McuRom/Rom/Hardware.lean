import McuRom.Romtime.FlowStatus
import McuRom.Rom.RomStart

namespace McuRom

open Mmio

/-!
# The hardware a boot runs on

The MCI is a register file: it keeps what the ROM writes.  Every other
register answers from a script, which stands for an arbitrary OTP controller,
I3C controller and mailbox.  The console and the emulator exit register ignore
what is written to them.

The lemmas give the complete execution of each primitive the boot flows are
made of.
-/

/-- The 64 KiB block of the MCI. -/
def isMci (addr : Word) : Bool := addr &&& 0xFFFF0000 == gMcuMemoryMap.mciOffset

/-- The MCI register file, and the replies of everything else. -/
abbrev HardwareState := (Word → Word) × (Word → Nat → Word)

def hardware : Device Word Word HardwareState :=
  Device.route isMci Device.storage Device.scripted

namespace Hardware

variable (state : HardwareState)

theorem read_mci {addr : Word} (inMci : isMci addr = true) :
    hardware.read state addr = (state.1 addr, state) :=
  Device.route_read_left isMci Device.storage Device.scripted inMci state

theorem write_mci {addr : Word} (inMci : isMci addr = true) (value : Word) :
    hardware.write state addr value = (Function.update state.1 addr value, state.2) :=
  Device.route_write_left isMci Device.storage Device.scripted inMci state value

theorem read_scripted {addr : Word} (outside : isMci addr = false) :
    hardware.read state addr = (state.2 addr 0, state.1, Device.advance state.2 addr 1) := by
  rw [hardware, Device.route_read_right _ _ _ outside, Device.scripted_read_state]
  rfl

theorem write_scripted {addr : Word} (outside : isMci addr = false) (value : Word) :
    hardware.write state addr value = state :=
  Device.route_write_right isMci Device.storage Device.scripted outside state value

theorem replies_scripted {addr : Word} (outside : isMci addr = false) :
    hardware.replies addr state = state.2 addr := by
  funext count
  rw [hardware, Device.route_replies_right _ _ _ outside, Device.scripted_replies]

theorem afterReads_scripted {addr : Word} (outside : isMci addr = false) (count : Nat) :
    hardware.afterReads addr state count = (state.1, Device.advance state.2 addr count) := by
  rw [hardware, Device.route_afterReads_right _ _ _ outside, Device.scripted_afterReads]

/-! ## Console output -/

theorem ignoresConsole : IgnoresConsole hardware :=
  fun state value => write_scripted state (show isMci uartTx = false by decide) value

/-- The accesses of a piece of console output. -/
def consoleTrace (gWriter : Option Writer) (chars : List Char) : List (Access Word Word) :=
  Access.ofWrites (uartWrites gWriter chars)

theorem run_print (gWriter : Option Writer) (str : String) :
    (print gWriter str).run hardware state = ⟨consoleTrace gWriter str.toList, (), state⟩ :=
  ignoresConsole.run_print state gWriter str

theorem run_println (gWriter : Option Writer) (str : String) :
    (println gWriter str).run hardware state =
      ⟨consoleTrace gWriter (str.toList ++ ['\n']), (), state⟩ :=
  ignoresConsole.run_println state gWriter str

theorem run_hexWordPrintTo (value : Word) (gWriter : Option Writer) :
    (hexWordPrintTo value gWriter).run hardware state =
      ⟨consoleTrace gWriter (hexWordDigits value), (), state⟩ :=
  ignoresConsole.run_hexWordPrintTo state gWriter value

/-! ## The flow status register -/

/-- The flow status register of the ROM's MCI. -/
def flowReg : Word := romEnv.mci.reg Mci.regFwFlowStatus

/-- Replace the flow status. -/
def setFlow (status : Word) : HardwareState := (Function.update state.1 flowReg status, state.2)

@[simp] theorem setFlow_flow (status : Word) : (setFlow state status).1 flowReg = status := by
  simp only [setFlow, Function.update_self]

@[simp] theorem setFlow_setFlow (first second : Word) :
    setFlow (setFlow state first) second = setFlow state second := by
  simp only [setFlow, Function.update_idem]

theorem setFlow_of_ne (status : Word) {addr : Word} (different : addr ≠ flowReg) :
    (setFlow state status).1 addr = state.1 addr :=
  Function.update_of_ne different _ _

/-- A read-modify-write of the flow status. -/
def flowTrace (before after : Word) : List (Access Word Word) :=
  [.read flowReg before, .write flowReg after]

theorem isMci_flowReg : isMci flowReg = true := by decide

theorem run_setFlowCheckpoint (checkpoint : HalfWord) :
    (romEnv.mci.setFlowCheckpoint checkpoint).run hardware state =
      ⟨flowTrace (state.1 flowReg) (Mci.flowWord (Mci.milestoneOf (state.1 flowReg)) checkpoint),
        (), setFlow state (Mci.flowWord (Mci.milestoneOf (state.1 flowReg)) checkpoint)⟩ := by
  have read := read_mci state isMci_flowReg
  have write := write_mci state isMci_flowReg
    (Mci.flowWord (Mci.milestoneOf (state.1 flowReg)) checkpoint)
  simp only [Mci.setFlowCheckpoint, Mci.flowMilestone, Mci.flowStatus, Mci.readReg,
    Mci.setFlowStatus, Mci.writeReg, Program.run_bind, Program.run_readReg, Program.pure_eq,
    Program.run_ret, Program.run_writeReg]
  change Run.after _ (Run.mk _ () (hardware.write (hardware.read state flowReg).2 flowReg _)) = _
  rw [read]
  exact congrArg (Run.mk _ ()) write

theorem run_setFlowMilestone (milestone : HalfWord) :
    (romEnv.mci.setFlowMilestone milestone).run hardware state =
      ⟨flowTrace (state.1 flowReg) (Mci.flowWord (milestone ||| Mci.milestoneOf (state.1 flowReg))
          (Mci.checkpointOf (state.1 flowReg))), (),
        setFlow state (Mci.flowWord (milestone ||| Mci.milestoneOf (state.1 flowReg))
          (Mci.checkpointOf (state.1 flowReg)))⟩ := by
  have read := read_mci state isMci_flowReg
  have write := write_mci state isMci_flowReg (milestone.setWidth 32 <<< 16 ||| state.1 flowReg)
  rw [← Mci.milestone_or_eq]
  simp only [Mci.setFlowMilestone, Mci.flowStatus, Mci.readReg, Mci.setFlowStatus, Mci.writeReg,
    Program.run_bind, Program.run_readReg, Program.run_writeReg]
  change Run.after _ (Run.mk _ () (hardware.write (hardware.read state flowReg).2 flowReg _)) = _
  rw [read]
  exact congrArg (Run.mk _ ()) write

/-! ## Reporting progress

The state is written as a base state with a flow status on top, so that a
report changes one half of it and nothing else. -/

/-- The state with the given flow status halves. -/
def withFlow (milestone checkpoint : HalfWord) : HardwareState :=
  setFlow state (Mci.flowWord milestone checkpoint)

@[simp] theorem withFlow_flow (milestone checkpoint : HalfWord) :
    (withFlow state milestone checkpoint).1 flowReg = Mci.flowWord milestone checkpoint :=
  setFlow_flow state _

@[simp] theorem withFlow_script (milestone checkpoint : HalfWord) :
    (withFlow state milestone checkpoint).2 = state.2 := rfl

/-- Any state is its own flow status on top of itself. -/
theorem withFlow_self :
    withFlow state (Mci.milestoneOf (state.1 flowReg)) (Mci.checkpointOf (state.1 flowReg)) =
      state := by
  rw [withFlow, Mci.flowWord_halves, setFlow, Function.update_eq_self]

/-- The register that starts Caliptra. -/
def bootGoReg : Word := romEnv.mci.reg Mci.regCptraBootGo

theorem flowTrace_ne_bootGoReg {before after : Word} {access : Access Word Word}
    (member : access ∈ flowTrace before after) : access.addr ≠ bootGoReg := by
  simp only [flowTrace, List.mem_cons, List.not_mem_nil, or_false] at member
  rcases member with rfl | rfl
  · exact show flowReg ≠ bootGoReg by decide
  · exact show flowReg ≠ bootGoReg by decide

variable {state} {allowed : Access Word Word → Prop}

theorem completes_checkpoint (quiet : ∀ access, access.addr ≠ bootGoReg → allowed access)
    (status : McuRomBootStatus) (milestone checkpoint : HalfWord) :
    (romEnv.checkpoint status).Completes hardware allowed (withFlow state milestone checkpoint) ()
      (withFlow state milestone status.code) := by
  have ran := run_setFlowCheckpoint (withFlow state milestone checkpoint) status.code
  rw [withFlow_flow, Mci.milestoneOf_flowWord, withFlow, setFlow_setFlow] at ran
  exact Program.completes_of_run ran fun access member =>
    quiet access (flowTrace_ne_bootGoReg member)

theorem completes_milestone (quiet : ∀ access, access.addr ≠ bootGoReg → allowed access)
    (flag milestone checkpoint : HalfWord) :
    (romEnv.mci.setFlowMilestone flag).Completes hardware allowed
      (withFlow state milestone checkpoint) () (withFlow state (flag ||| milestone) checkpoint) := by
  have ran := run_setFlowMilestone (withFlow state milestone checkpoint) flag
  rw [withFlow_flow, Mci.milestoneOf_flowWord, Mci.checkpointOf_flowWord, withFlow,
    setFlow_setFlow] at ran
  exact Program.completes_of_run ran fun access member =>
    quiet access (flowTrace_ne_bootGoReg member)

theorem completes_println (quiet : ∀ access, access.addr ≠ bootGoReg → allowed access)
    (gWriter : Option Writer) (str : String) :
    (println gWriter str).Completes hardware allowed state () state := by
  refine Program.completes_of_run (run_println state gWriter str) fun access member =>
    quiet access ?_
  rcases Access.mem_ofWrites.mp member with ⟨addr, value, inside, rfl⟩
  have tx : addr = uartTx := addr_of_mem_uartWrites inside
  rw [tx]
  exact show uartTx ≠ bootGoReg by decide

end Hardware

end McuRom
