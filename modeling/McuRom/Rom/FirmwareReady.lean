import McuRom.Mmio.Watching
import McuRom.Rom.Soc
import Mathlib.Logic.Function.Iterate

namespace McuRom

open Mmio

/-!
# Waiting for the firmware

`wait_for_firmware_ready` polls the firmware execution control register and,
while the firmware is not ready, the fatal error register.  Whatever the two
registers say over time, the first round with an answer decides; if both have
one in the same round, the firmware is ready.
-/

namespace Soc

def fwExecCtrlFwReady : Word := 1 <<< 2

variable (soc : Soc)

def readReg (offset : Word) : Driver Word := Program.readReg (soc.reg offset)

/-- Check if firmware is ready -/
def fwReady : Driver Bool := do
  let value ← soc.readReg ssGenericFwExecCtrl0
  pure (value &&& fwExecCtrlFwReady != 0)

/-- Check if Caliptra reported a fatal error -/
def cptraFwFatalError : Driver Bool := do
  let value ← soc.readReg cptraFwErrorFatal
  pure (value != 0)

/-- Wait for firmware to be ready, for at most `fuel` rounds. -/
def waitForFirmwareReady (globals : Globals) (_mci : Mci) :
    Nat → Driver (Option (Except Halt Unit))
  | 0 => pure none
  | fuel + 1 => do
    if ← soc.fwReady then pure (some (.ok ()))
    else if ← soc.cptraFwFatalError then do
      println globals.gWriter "[mcu-rom] Caliptra reported a fatal error"
      let halt ← fatalError globals .bootFailed
      pure (some (.error halt))
    else waitForFirmwareReady globals _mci fuel

variable (globals : Globals)

/-- What follows the loop. -/
def afterWatch : Option Bool → Driver (Option (Except Halt Unit))
  | none => pure none
  | some true => pure (some (.ok ()))
  | some false => do
    println globals.gWriter "[mcu-rom] Caliptra reported a fatal error"
    let halt ← fatalError globals .bootFailed
    pure (some (.error halt))

theorem waitForFirmwareReady_eq (mci : Mci) (fuel : Nat) :
    soc.waitForFirmwareReady globals mci fuel =
      (Program.watch soc.fwReady soc.cptraFwFatalError fuel >>= afterWatch globals) := by
  induction fuel with
  | zero => rfl
  | succ fuel ih =>
      rw [waitForFirmwareReady, Program.watch, Program.bind_assoc]
      congr 1
      funext ready
      cases ready with
      | true => rfl
      | false =>
          change (soc.cptraFwFatalError >>= _) = (soc.cptraFwFatalError >>= _) >>= _
          rw [Program.bind_assoc]
          congr 1
          funext failed
          cases failed with
          | true => rfl
          | false => exact ih

variable {σ : Type} (dev : Device Word Word σ)

/-- What one round finds in the two registers. -/
def roundVerdict (state : σ) : Option Bool :=
  if (dev.read state (soc.reg ssGenericFwExecCtrl0)).1 &&& fwExecCtrlFwReady ≠ 0 then some true
  else if (dev.read (dev.read state (soc.reg ssGenericFwExecCtrl0)).2
      (soc.reg cptraFwErrorFatal)).1 ≠ 0 then some false
  else none

/-- The device after rounds without an answer. -/
def afterRounds (count : Nat) (state : σ) : σ :=
  (fun current => (dev.read (dev.read current (soc.reg ssGenericFwExecCtrl0)).2
    (soc.reg cptraFwErrorFatal)).2)^[count] state

/-- What is written if Caliptra reports a fatal error: the message, and then
the report of a failed boot. -/
def bootFailureWrites : List (Word × Word) :=
  uartWrites globals.gWriter ("[mcu-rom] Caliptra reported a fatal error".toList ++ ['\n']) ++
    fatalErrorWrites globals McuError.bootFailed.code

/-- The wait returns, without having written anything, if the first answer is
that the firmware is ready; it ends in a reported boot failure, having written
the message and the report and nothing else, if the first answer is a fatal
error; and it goes on as long as there is no answer. -/
structure WaitsForFirmware (mci : Mci) (state : σ) (fuel : Nat) : Prop where
  returns : ((soc.waitForFirmwareReady globals mci fuel).run dev state).result = some (.ok ()) ↔
    ∃ count < fuel,
      (∀ earlier < count, soc.roundVerdict dev (soc.afterRounds dev earlier state) = none) ∧
        soc.roundVerdict dev (soc.afterRounds dev count state) = some true
  halts : ∀ halt, ((soc.waitForFirmwareReady globals mci fuel).run dev state).result =
      some (.error halt) ↔
    halt = reportedHalt globals .bootFailed ∧ ∃ count < fuel,
      (∀ earlier < count, soc.roundVerdict dev (soc.afterRounds dev earlier state) = none) ∧
        soc.roundVerdict dev (soc.afterRounds dev count state) = some false
  goesOn : ((soc.waitForFirmwareReady globals mci fuel).run dev state).result = none ↔
    ∀ count < fuel, soc.roundVerdict dev (soc.afterRounds dev count state) = none
  silent : (∀ halt, ((soc.waitForFirmwareReady globals mci fuel).run dev state).result ≠
      some (.error halt)) →
    Access.writes ((soc.waitForFirmwareReady globals mci fuel).run dev state).trace = []
  reports : ∀ halt, ((soc.waitForFirmwareReady globals mci fuel).run dev state).result =
      some (.error halt) →
    Access.writes ((soc.waitForFirmwareReady globals mci fuel).run dev state).trace =
      bootFailureWrites globals

/-! ## Rounds -/

theorem verdict_eq (state : σ) :
    Program.verdict dev soc.fwReady soc.cptraFwFatalError state = soc.roundVerdict dev state := by
  unfold Program.verdict roundVerdict
  simp only [fwReady, cptraFwFatalError, readReg, Program.run_bind, Program.run_readReg,
    Program.pure_eq, Program.run_ret, Run.after_result, Run.after_state, bne_iff_ne]

theorem rounds_eq (count : Nat) (state : σ) :
    Program.rounds dev soc.fwReady soc.cptraFwFatalError count state =
      soc.afterRounds dev count state := by
  unfold afterRounds
  induction count generalizing state with
  | zero => rfl
  | succ count ih =>
      rw [Program.rounds, ih, Function.iterate_succ_apply]
      rfl

theorem firstVerdict_eq (answer : Bool) (count : Nat) (state : σ) :
    Program.FirstVerdict dev soc.fwReady soc.cptraFwFatalError answer count state ↔
      (∀ earlier < count, soc.roundVerdict dev (soc.afterRounds dev earlier state) = none) ∧
        soc.roundVerdict dev (soc.afterRounds dev count state) = some answer := by
  unfold Program.FirstVerdict
  simp only [verdict_eq, rounds_eq]

theorem writes_poll (state : σ) :
    Access.writes (soc.fwReady.run dev state).trace = [] ∧
      Access.writes (soc.cptraFwFatalError.run dev state).trace = [] :=
  ⟨rfl, rfl⟩

/-! ## The outcome -/

/-- The loop is followed by what its answer calls for. -/
theorem afterWatch_result (answer : Option Bool) (state : σ) :
    ((afterWatch globals answer).run dev state).result =
      answer.map fun ready => if ready then .ok () else .error (reportedHalt globals .bootFailed) := by
  cases answer with
  | none => rfl
  | some ready =>
      cases ready with
      | true => rfl
      | false =>
          simp only [afterWatch, Program.run_bind, Run.after_result, fatalError_result,
            Program.pure_eq, Program.run_ret, Option.map_some, Bool.false_eq_true, if_false]

theorem afterWatch_writes (state : σ) :
    Access.writes ((afterWatch globals (some false)).run dev state).trace =
      bootFailureWrites globals := by
  rw [afterWatch, println_eq, Program.run_bind, Program.run_writeAll, Run.after_trace,
    Access.writes_append, Access.writes_ofWrites, Program.run_bind, fatalError_run]
  rw [Program.pure_eq, Program.run_ret, Run.after_mk, List.append_nil, Access.writes_ofWrites]
  rfl

theorem waitForFirmwareReady_outcome (mci : Mci) (state : σ) (fuel : Nat) :
    soc.WaitsForFirmware globals dev mci state fuel := by
  have first (answer : Bool) := @Program.watch_eq_some_iff _ _ _ dev soc.fwReady
    soc.cptraFwFatalError fuel state answer
  have never := @Program.watch_eq_none_iff _ _ _ dev soc.fwReady soc.cptraFwFatalError fuel state
  simp only [firstVerdict_eq] at first
  simp only [verdict_eq, rounds_eq] at never
  have writes := Program.writes_watch (fun state => (soc.writes_poll dev state).1)
    (fun state => (soc.writes_poll dev state).2) fuel state
  have result : ((soc.waitForFirmwareReady globals mci fuel).run dev state).result =
      ((Program.watch soc.fwReady soc.cptraFwFatalError fuel).run dev state).result.map
        fun ready => if ready then .ok () else .error (reportedHalt globals .bootFailed) := by
    rw [waitForFirmwareReady_eq, Program.run_bind, Run.after_result, afterWatch_result]
  -- what is written is written after the loop
  have written : Access.writes ((soc.waitForFirmwareReady globals mci fuel).run dev state).trace =
      Access.writes ((afterWatch globals
        ((Program.watch soc.fwReady soc.cptraFwFatalError fuel).run dev state).result).run dev
          ((Program.watch soc.fwReady soc.cptraFwFatalError fuel).run dev state).state).trace := by
    rw [waitForFirmwareReady_eq, Program.run_bind, Run.after_trace, Access.writes_append, writes,
      List.nil_append]
  refine ⟨?_, fun halt => ?_, ?_, fun noHalt => ?_, fun halt halts => ?_⟩
  · rw [result, ← first]
    cases ((Program.watch soc.fwReady soc.cptraFwFatalError fuel).run dev state).result with
    | none => exact ⟨nofun, nofun⟩
    | some ready => cases ready <;> simp
  · rw [result, ← first]
    cases ((Program.watch soc.fwReady soc.cptraFwFatalError fuel).run dev state).result with
    | none => simp
    | some ready => cases ready <;> simp [eq_comm]
  · rw [result, ← never, Option.map_eq_none_iff]
  · rw [written]
    cases answer : ((Program.watch soc.fwReady soc.cptraFwFatalError fuel).run dev state).result with
    | none => rfl
    | some ready =>
        cases ready with
        | true => rfl
        | false =>
            rw [result, answer] at noHalt
            exact absurd rfl (noHalt _)
  · rw [written]
    rw [result] at halts
    cases answer : ((Program.watch soc.fwReady soc.cptraFwFatalError fuel).run dev state).result with
    | none =>
        rw [answer] at halts
        cases halts
    | some ready =>
        cases ready with
        | true =>
            rw [answer] at halts
            cases halts
        | false => exact afterWatch_writes globals dev _

end Soc

end McuRom
