import McuRom.Mmio.Lockstep
import McuRom.Rom.Confinement
import McuRom.Rom.Verification

namespace McuRom

open Mmio

/-!
# What the ROM's behaviour does not depend on

Two results of one kind.  The lifecycle state and the generic input wires are
printed and not used for anything else.  The words of the public key hashes
are compared without a branch on the outcome, so that the accesses made while
comparing them say nothing about the words.
-/

/-! ## Inputs that are only printed -/

/-- The inputs are not to influence anything but the console. -/
def printedInputs : Policy Word where
  secret addr := [romEnv.mci.reg Mci.regSecurityState, romEnv.mci.reg 0x400,
    romEnv.mci.reg 0x404].contains addr
  sink addr := addr == uartTx

namespace PrintedInputs

/-- Console output is not looked at, so any two pieces of it are alike. -/
theorem lockstep_uartWrites (gWriter : Option Writer) (first second : List Char) :
    (Program.writeAll (uartWrites gWriter first)).Lockstep printedInputs (fun _ _ => True)
      (Program.writeAll (uartWrites gWriter second)) := by
  have sinks : ∀ chars, ∀ entry ∈ uartWrites gWriter chars, printedInputs.sink entry.1 = true :=
    fun chars entry member => beq_iff_eq.mpr (addr_of_mem_uartWrites member)
  exact Program.lockstep_writeAll (sinks first) (sinks second)

theorem lockstep_print (gWriter : Option Writer) (first second : String) :
    (print gWriter first).Lockstep printedInputs (fun _ _ => True) (print gWriter second) := by
  rw [print_eq, print_eq]
  exact lockstep_uartWrites gWriter _ _

theorem lockstep_println (gWriter : Option Writer) (first second : String) :
    (println gWriter first).Lockstep printedInputs (fun _ _ => True) (println gWriter second) := by
  rw [println_eq, println_eq]
  exact lockstep_uartWrites gWriter _ _

theorem lockstep_hexWordPrintTo (gWriter : Option Writer) (first second : Word) :
    (hexWordPrintTo first gWriter).Lockstep printedInputs (fun _ _ => True)
      (hexWordPrintTo second gWriter) := by
  rw [hexWordPrintTo_eq, hexWordPrintTo_eq]
  exact lockstep_uartWrites gWriter _ _

/-- The registers of the flows are none of these inputs. -/
theorem shown_flowRegisters (addr : Word) (member : addr ∈ flowRegisters) :
    printedInputs.secret addr = false := by
  have apart : ∀ input, printedInputs.secret input = true → input ∉ flowRegisters := by
    intro input isSecret
    rcases List.mem_cons.mp (List.contains_iff_mem.mp isSecret) with rfl | later
    · decide
    rcases List.mem_cons.mp later with rfl | last
    · decide
    cases List.mem_singleton.mp last
    decide
  exact Bool.eq_false_iff.mpr fun isSecret => apart addr isSecret member

/-- What stays within the registers of a flow does the same in both runs. -/
theorem lockstep_of_within {α : Type} {program : Driver α}
    (within : program.Within fun addr => addr ∈ flowRegisters) :
    program.Lockstep printedInputs (fun one other => one = other) program :=
  (within.mono shown_flowRegisters).lockstep

theorem lockstep_romPrologue (gWriter : Option Writer) :
    (romPrologue gWriter romEnv).Lockstep printedInputs (fun one other => one = other)
      (romPrologue gWriter romEnv) := by
  have started := (@BootMonitor.keeps_milestone ⟨gWriter, none⟩ _ BootMonitor.stage_calm
    BootMilestones.romStarted (by decide)).within
  have reason : printedInputs.secret (romEnv.mci.reg Mci.regResetReason) = false := by decide
  have wires : ∀ index : SizeT, ¬ 2 ≤ index →
      printedInputs.secret (romEnv.mci.reg (0x400 + index * 4)) = true →
      (romEnv.mci.genericInputWires index).Lockstep printedInputs (fun _ _ => True)
        (romEnv.mci.genericInputWires index) := by
    intro index bounded isSecret
    unfold Mci.genericInputWires
    rw [if_neg bounded]
    exact Program.lockstep_readReg isSecret
  refine (lockstep_println gWriter _ _).bind fun _ _ _ => ?_
  refine (lockstep_of_within started).bind fun _ _ _ => ?_
  refine (lockstep_print gWriter _ _).bind fun _ _ _ => ?_
  refine .hidden (show printedInputs.secret _ = true by decide) fun _ _ => ?_
  refine (lockstep_println gWriter _ _).bind fun _ _ _ => ?_
  refine (lockstep_print gWriter _ _).bind fun _ _ _ => ?_
  refine (wires 0 (by decide) (by decide)).bind fun _ _ _ => ?_
  refine (lockstep_hexWordPrintTo gWriter _ _).bind fun _ _ _ => ?_
  refine (lockstep_println gWriter _ _).bind fun _ _ _ => ?_
  refine (lockstep_print gWriter _ _).bind fun _ _ _ => ?_
  refine (wires 1 (by decide) (by decide)).bind fun _ _ _ => ?_
  refine (lockstep_hexWordPrintTo gWriter _ _).bind fun _ _ _ => ?_
  refine (lockstep_println gWriter _ _).bind fun _ _ _ => ?_
  refine .shown reason fun _ => ?_
  refine (lockstep_print gWriter _ _).bind fun _ _ _ => ?_
  refine (lockstep_hexWordPrintTo gWriter _ _).bind fun _ _ _ => ?_
  refine (lockstep_println gWriter _ _).bind fun _ _ _ => ?_
  exact .shown reason fun _ => .ret rfl

end PrintedInputs

/-- Boots on two devices that differ in the lifecycle state and the generic
input wires only make the same accesses but for the console output, end in the
same loop, and leave the devices alike. -/
theorem romStart_independent {σ τ : Type} (globals : Globals) {left : Device Word Word σ}
    {right : Device Word Word τ} {states : σ → τ → Prop}
    (agree : left.AgreeUpTo printedInputs right states) {one : σ} {other : τ}
    (start : states one other) :
    Run.Alike printedInputs (fun first second => first = second) states
      ((romStart globals).run left one) ((romStart globals).run right other) := by
  refine Program.Lockstep.run_alike ?_ agree start
  refine (PrintedInputs.lockstep_romPrologue globals.gWriter).bind fun reason _ same => ?_
  cases same
  exact PrintedInputs.lockstep_of_within (@BootMonitor.triple_romDispatch globals reason).within

/-- The hardware of a boot, with other inputs. -/
theorem agreeUpTo_hardware : hardware.AgreeUpTo printedInputs hardware fun one other =>
    (∀ addr, printedInputs.secret addr = false → one.1 addr = other.1 addr) ∧ one.2 = other.2 where
  shown one other addr same isShown := by
    cases inMci : isMci addr with
    | true =>
        rw [Hardware.read_mci one inMci, Hardware.read_mci other inMci]
        exact same.1 addr isShown
    | false => rw [Hardware.read_scripted one inMci, Hardware.read_scripted other inMci, same.2]
  read one other addr same := by
    cases inMci : isMci addr with
    | true =>
        rw [Hardware.read_mci one inMci, Hardware.read_mci other inMci]
        exact same
    | false =>
        rw [Hardware.read_scripted one inMci, Hardware.read_scripted other inMci]
        exact ⟨same.1, congrArg (Device.advance · addr 1) same.2⟩
  write one other addr value same := by
    cases inMci : isMci addr with
    | true =>
        rw [Hardware.write_mci one inMci, Hardware.write_mci other inMci]
        refine ⟨fun reg isShown => ?_, same.2⟩
        change Function.update one.1 addr value reg = Function.update other.1 addr value reg
        by_cases equal : reg = addr
        · rw [equal, Function.update_self, Function.update_self]
        · rw [Function.update_of_ne equal, Function.update_of_ne equal]
          exact same.1 reg isShown
    | false =>
        rw [Hardware.write_scripted one inMci, Hardware.write_scripted other inMci]
        exact same
  sinkLeft one other addr value same isSink := by
    cases beq_iff_eq.mp isSink
    rw [Hardware.write_scripted one (by decide)]
    exact same
  sinkRight one other addr value same isSink := by
    cases beq_iff_eq.mp isSink
    rw [Hardware.write_scripted other (by decide)]
    exact same

/-- Two devices in different lifecycle states, with the console and the handler
that `main` installs. -/
theorem romStart_independent_locked :
    Run.Alike printedInputs (fun first second => first = second)
      (fun one other : HardwareState =>
        (∀ addr, printedInputs.secret addr = false → one.1 addr = other.1 addr) ∧ one.2 = other.2)
      ((romStart ⟨some .emulator, some .romFatalErrorHandler⟩).run hardware
        (fun _ => 0, fun _ _ => 0))
      ((romStart ⟨some .emulator, some .romFatalErrorHandler⟩).run hardware
        (Function.update (fun _ => 0) (romEnv.mci.reg Mci.regSecurityState) 3, fun _ _ => 0)) := by
  refine romStart_independent ⟨some .emulator, some .romFatalErrorHandler⟩ agreeUpTo_hardware
    ⟨fun addr isShown => ?_, rfl⟩
  have apart : addr ≠ romEnv.mci.reg Mci.regSecurityState := by
    rintro rfl
    cases isShown
  exact (Function.update_of_ne apart (3 : Word) fun _ => (0 : Word)).symm

/-! ## Comparing the hashes -/

/-- The words that are compared are not to influence anything. -/
def comparedHashes : Policy Word where
  secret addr := addr == romEnv.otp.reg Otp.regDirectAccessRdata0 ||
    ((Mci.regArray Mci.regProdDebugUnlockPkHashBase Mci.pkHashRegCount).map
      romEnv.mci.reg).contains addr
  sink _ := false

namespace ComparedHashes

/-- Two calls that both fail in the same way or both succeed. -/
def SameOutcome {α : Type} (one other : McuResult α) : Prop :=
  (∃ e, one = .error e ∧ other = .error e) ∨ ∃ first second, one = .ok first ∧ other = .ok second

theorem status_shown : comparedHashes.secret (romEnv.otp.reg Otp.regStatus) = false := by decide

/-- Waiting for the controller looks at its status only. -/
theorem lockstep_waitForIdle :
    (romEnv.otp.waitForIdle Otp.defaultTimeoutCycles).Lockstep comparedHashes
      (fun one other => one = other) (romEnv.otp.waitForIdle Otp.defaultTimeoutCycles) := by
  have polls : (pollWhile (romEnv.otp.reg Otp.regStatus) Otp.statusNotIdle
      Otp.defaultTimeoutCycles).Within fun addr => comparedHashes.secret addr = false := by
    apply Program.within_pollWhile
    exact status_shown
  refine Program.Within.lockstep (polls.bind fun idle => ?_)
  cases idle <;> trivial

/-- An early return that both calls take or neither does. -/
theorem SameOutcome.andThen {α β : Type} {first second : Driver (McuResult α)}
    {left right : α → Driver (McuResult β)}
    (calls : first.Lockstep comparedHashes SameOutcome second)
    (rest : ∀ one other, (left one).Lockstep comparedHashes SameOutcome (right other)) :
    (Driver.andThen first left).Lockstep comparedHashes SameOutcome
      (Driver.andThen second right) := by
  refine calls.bind fun one other same => ?_
  rcases same with ⟨e, rfl, rfl⟩ | ⟨value, word, rfl, rfl⟩
  · exact .ret (Or.inl ⟨e, rfl, rfl⟩)
  · exact rest value word

/-- Equal results have the same outcome. -/
theorem sameOutcome_of_eq {α : Type} {first second : Driver (McuResult α)}
    (calls : first.Lockstep comparedHashes (fun one other => one = other) second) :
    first.Lockstep comparedHashes SameOutcome second := by
  refine calls.mono ?_
  rintro result _ rfl
  cases result with
  | error e => exact Or.inl ⟨e, rfl, rfl⟩
  | ok value => exact Or.inr ⟨value, value, rfl, rfl⟩

/-- Reading a word of OTP shows where it is read and whether it could be read. -/
theorem lockstep_readWord (addr : Word) :
    (romEnv.otp.readWord addr).Lockstep comparedHashes SameOutcome (romEnv.otp.readWord addr) := by
  refine SameOutcome.andThen (sameOutcome_of_eq lockstep_waitForIdle) fun _ _ => ?_
  refine .write (.write ?_)
  refine SameOutcome.andThen (sameOutcome_of_eq lockstep_waitForIdle) fun _ _ => ?_
  refine .shown status_shown fun status => ?_
  change (if Otp.statusHasError status then _ else _ : Driver (McuResult Word)).Lockstep _ _
    (if Otp.statusHasError status then _ else _ : Driver (McuResult Word))
  split
  · exact .ret (Or.inl ⟨_, rfl, rfl⟩)
  · refine .hidden (show comparedHashes.secret (romEnv.otp.reg Otp.regDirectAccessRdata0) = true
      by decide) fun one other => .ret (Or.inr ⟨one, other, rfl, rfl⟩)

/-- Every hash register is secret. -/
theorem secret_pkHash {index : SizeT} (inside : ¬ sizeT Mci.pkHashRegCount ≤ index) :
    comparedHashes.secret (romEnv.mci.reg (Mci.regProdDebugUnlockPkHashBase + index * 4)) =
      true := by
  have bound : index.toNat < Mci.pkHashRegCount := by
    rw [BitVec.not_le, BitVec.lt_def] at inside
    exact inside
  have offset : index * 4 = BitVec.ofNat 32 (4 * index.toNat) := by
    apply BitVec.eq_of_toNat_eq
    rw [BitVec.toNat_mul, BitVec.toNat_ofNat, Nat.mul_comm]
    rfl
  refine Bool.or_eq_true_iff.mpr (Or.inr (List.contains_iff_mem.mpr ?_))
  refine List.mem_map.mpr ⟨_, List.mem_map.mpr ⟨index.toNat, ?_, rfl⟩, ?_⟩
  · exact List.mem_range.mpr bound
  · rw [offset]

theorem lockstep_readPkHash (index : SizeT) :
    (romEnv.mci.readProdDebugUnlockPkHash index).Lockstep comparedHashes (fun _ _ => True)
      (romEnv.mci.readProdDebugUnlockPkHash index) := by
  unfold Mci.readProdDebugUnlockPkHash Mci.readArray
  split
  · exact .ret trivial
  · rename_i inside
    exact .hidden (secret_pkHash inside) fun _ _ => .ret trivial

/-- Neither the words nor the mismatches found so far decide how the
comparison goes on. -/
theorem lockstep_compareHashWords (indices : List (Nat × Nat)) (first second : Bool) :
    (compareHashWords romEnv.mci romEnv.otp indices first).Lockstep comparedHashes SameOutcome
      (compareHashWords romEnv.mci romEnv.otp indices second) := by
  induction indices generalizing first second with
  | nil => exact .ret (Or.inr ⟨first, second, rfl, rfl⟩)
  | cons index rest ih =>
      refine (lockstep_readWord _).bind fun one other same => ?_
      rcases same with ⟨e, rfl, rfl⟩ | ⟨value, word, rfl, rfl⟩
      · exact .ret (Or.inl ⟨_, rfl, rfl⟩)
      · exact (lockstep_readPkHash _).bind fun _ _ _ => ih _ _

end ComparedHashes

/-- The loops that compare the hashes make the same accesses, and fail in the
same way if they do, on any two devices that differ only in the words read
from OTP and from the hash registers. -/
theorem compareHashWords_constant_time {σ τ : Type} {left : Device Word Word σ}
    {right : Device Word Word τ} {states : σ → τ → Prop}
    (agree : left.AgreeUpTo comparedHashes right states) {one : σ} {other : τ}
    (start : states one other) :
    Run.Alike comparedHashes ComparedHashes.SameOutcome states
      ((compareHashWords romEnv.mci romEnv.otp hashWordIndices false).run left one)
      ((compareHashWords romEnv.mci romEnv.otp hashWordIndices false).run right other) :=
  (ComparedHashes.lockstep_compareHashWords hashWordIndices false false).run_alike agree start

/-- Two controllers that are always idle and hold different words. -/
theorem compareHashWords_constant_time_scripted :
    Run.Alike comparedHashes ComparedHashes.SameOutcome
      (fun one other : Word → Nat → Word =>
        ∀ addr, comparedHashes.secret addr = false → one addr = other addr)
      ((compareHashWords romEnv.mci romEnv.otp hashWordIndices false).run Device.scripted
        fun _ _ => 1)
      ((compareHashWords romEnv.mci romEnv.otp hashWordIndices false).run Device.scripted
        (Function.update (fun _ _ => 1) (romEnv.otp.reg Otp.regDirectAccessRdata0) fun _ => 7)) := by
  refine compareHashWords_constant_time (Device.agreeUpTo_scripted comparedHashes)
    fun addr isShown => ?_
  have apart : addr ≠ romEnv.otp.reg Otp.regDirectAccessRdata0 := by
    rintro rfl
    cases isShown
  exact (Function.update_of_ne apart (fun _ => (7 : Word)) fun _ _ => (1 : Word)).symm

end McuRom
