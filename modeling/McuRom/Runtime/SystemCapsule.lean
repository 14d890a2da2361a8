import McuRom.Common.Error
import McuRom.Mmio.Waiting
import McuRom.Romtime.CycleCounter

namespace McuRom

open Mmio

/-!
# The system capsule

A delay polls the cycle counter until enough cycles have passed since its
first reading.  If a carry puts that first reading ahead of the counter, the
next difference underflows and the delay ends at once.
-/

namespace SystemCapsule

/-- Get system time -/
def syscallGetTime : CsrDriver (McuResult DoubleWord) := do
  let now ← mcycle
  pure (.ok now)

/-- Delay for specified microseconds, with at most `fuel` polls. -/
def syscallDelayUs (fuel : Nat) (us : Word) : CsrDriver (Option (McuResult Unit)) := do
  -- Simple busy-wait delay
  -- In practice, would use timer or yield
  let start ← mcycle
  let cyclesToWait := us.setWidth 64 * 100 -- Assuming ~100MHz
  let ended ← Program.waitWhile mcycle (fun now => now - start < cyclesToWait) fuel
  pure (if ended then some (.ok ()) else none)

end SystemCapsule

namespace CounterHistory

open CycleCounter SystemCapsule

variable (history : CounterHistory)

/-- A delay that begins with a given call. -/
def delayRun (call fuel : Nat) (us : Word) :
    Run Csr Word (Scheduled DoubleWord DoubleWord) (Option (McuResult Unit)) :=
  (syscallDelayUs fuel us).run counting (history.before (2 * call))

/-- Results lie between the values at their accesses, so that they do not
decrease, and no delay returns before the counter has advanced enough since its
first access, and so since it was called. -/
structure NeverShort : Prop where
  between : ∀ call, history.value (2 * call) ≤ history.reading call ∧
    history.reading call ≤ history.value (2 * call + 1)
  increasing : ∀ call, history.reading call ≤ history.reading (call + 1)
  delays : ∀ call fuel us result, (history.delayRun call fuel us).result = some result →
    (history.value (2 * call)).toNat + 100 * us.toNat ≤
      (history.delayRun call fuel us).state.device.toNat

/-- The time is the result of the call that is made for it. -/
theorem getTime_result (call : Nat) :
    (syscallGetTime.run counting (history.before (2 * call))).result =
      .ok (history.reading call) := rfl

/-! ## Delays -/

theorem cyclesToWait_toNat (us : Word) : (us.setWidth 64 * 100).toNat = 100 * us.toNat := by
  have bounded := us.isLt
  rw [BitVec.toNat_mul, BitVec.toNat_setWidth]
  change us.toNat % 2 ^ 64 * 100 % 2 ^ 64 = _
  omega

/-- Between readings in order, the difference is what the counter did. -/
theorem waits_iff {start now : DoubleWord} (order : start ≤ now) (us : Word) :
    now - start < us.setWidth 64 * 100 ↔ now.toNat < start.toNat + 100 * us.toNat := by
  rw [BitVec.lt_def, cyclesToWait_toNat, BitVec.toNat_sub_of_le order]
  rw [BitVec.le_def] at order
  omega

/-- The delay polls from the call behind its first one on. -/
theorem delayRun_result (call fuel : Nat) (us : Word) :
    (history.delayRun call fuel us).result =
      if ((Program.waitWhile mcycle
          (fun now => now - history.reading call < us.setWidth 64 * 100) fuel).run counting
          (history.before (2 * (call + 1)))).result
      then some (.ok ()) else none := by
  unfold delayRun syscallDelayUs
  rw [Program.run_bind, mcycle_state, Program.run_bind]
  rfl

theorem delayRun_state (call fuel : Nat) (us : Word) :
    (history.delayRun call fuel us).state =
      ((Program.waitWhile mcycle
          (fun now => now - history.reading call < us.setWidth 64 * 100) fuel).run counting
          (history.before (2 * (call + 1)))).state := by
  unfold delayRun syscallDelayUs
  rw [Program.run_bind, mcycle_state, Program.run_bind]
  rfl

/-- The hardware as a later call finds it. -/
def AtLaterCall (call : Nat) (state : Scheduled DoubleWord DoubleWord) : Prop :=
  ∃ later, call < later ∧ state = history.before (2 * later)

variable {history} {call : Nat} {state : Scheduled DoubleWord DoubleWord}

theorem AtLaterCall.next (later : history.AtLaterCall call state) :
    history.AtLaterCall call (mcycle.run counting state).state := by
  rcases later with ⟨later, order, same⟩
  refine ⟨later + 1, Nat.lt_succ_of_lt order, ?_⟩
  rw [same, mcycle_state]

/-- The reading that ends a delay is not ahead of the counter, and the first one
was not behind it. -/
theorem AtLaterCall.enough (later : history.AtLaterCall call state)
    (noCarry : ∀ call, history.NoCarry call) {us : Word}
    (free : ¬(mcycle.run counting state).result - history.reading call < us.setWidth 64 * 100) :
    (history.value (2 * call)).toNat + 100 * us.toNat ≤
      (mcycle.run counting state).state.device.toNat := by
  rcases later with ⟨later, order, same⟩
  subst same
  rw [mcycle_state]
  change ¬history.reading later - history.reading call < us.setWidth 64 * 100 at free
  rw [waits_iff (history.reading_le (noCarry call) order)] at free
  have started := BitVec.le_def.mp (history.le_reading call)
  have ended := BitVec.le_def.mp ((history.reading_le_iff later).mpr (noCarry later))
  change _ ≤ (history.value (2 * later + 1)).toNat
  omega

theorem delay_long (noCarry : ∀ call, history.NoCarry call) {fuel : Nat} {us : Word}
    {result : McuResult Unit} (returned : (history.delayRun call fuel us).result = some result) :
    (history.value (2 * call)).toNat + 100 * us.toNat ≤
      (history.delayRun call fuel us).state.device.toNat := by
  rw [delayRun_result] at returned
  rw [delayRun_state]
  refine (Program.run_waitWhile (history.AtLaterCall call)
    (fun state => (history.value (2 * call)).toNat + 100 * us.toNat ≤ state.device.toNat)
    (fun state later => later.next) (fun state later free => ?_) fuel
    ⟨call + 1, Nat.lt_succ_self call, rfl⟩).2 ?_
  · exact later.enough noCarry (of_decide_eq_false free)
  · by_contra running
    rw [if_neg running] at returned
    cases returned

theorem polled_before (call count : Nat) :
    Program.polled mcycle counting count (history.before (2 * call)) =
      history.before (2 * (call + count)) := by
  induction count generalizing call with
  | zero => rfl
  | succ count ih => rw [Program.polled, mcycle_state, ih, Nat.add_right_comm, Nat.add_assoc]

/-- A delay returns once a later reading is far enough from the first one. -/
theorem delay_returns (noCarry : history.NoCarry call) {later : Nat} (order : call < later)
    {us : Word} (reached : (history.reading call).toNat + 100 * us.toNat ≤
      (history.reading later).toNat) :
    (history.delayRun call (later - call) us).result = some (.ok ()) := by
  rw [delayRun_result, if_pos]
  refine (Program.waitWhile_ends_iff _ _).mpr ⟨later - (call + 1), by omega, ?_⟩
  rw [polled_before, Nat.add_sub_of_le order, decide_eq_false_iff_not]
  change ¬history.reading later - history.reading call < us.setWidth 64 * 100
  rw [waits_iff (history.reading_le noCarry order)]
  exact Nat.not_lt.mpr reached

/-! ## When delays are never short -/

variable (history) in
/-- Exactly the histories without a carry between the accesses of a call. -/
theorem neverShort_iff : history.NeverShort ↔ ∀ call, history.NoCarry call := by
  constructor
  · intro never call
    exact (history.reading_le_iff call).mp (never.between call).2
  · intro noCarry
    refine ⟨fun call => ?_, fun call => ?_, fun call fuel us result => delay_long noCarry⟩
    · exact ⟨history.le_reading call, (history.reading_le_iff call).mpr (noCarry call)⟩
    · exact history.reading_le (noCarry call) (Nat.lt_succ_self call)

/-- The low half carries between the first two accesses. -/
def carrying : CounterHistory where
  value
    | 0 => 0xFFFFFFFF
    | _ + 1 => 0x100000000
  increases access := by
    cases access with
    | zero => decide
    | succ access => exact BitVec.le_refl _

/-- The first result is nearly twice the counter, and a delay of a microsecond
that begins with it returns when a single cycle has passed. -/
theorem carrying_short :
    carrying.reading 0 = 0x1FFFFFFFF ∧ carrying.value 1 = 0x100000000 ∧
      (carrying.delayRun 0 1 1).result = some (.ok ()) ∧
      (carrying.delayRun 0 1 1).state.device.toNat = (carrying.value 0).toNat + 1 ∧
      ¬carrying.NeverShort := by
  refine ⟨rfl, rfl, rfl, rfl, fun never => ?_⟩
  exact absurd (never.between 0).2 (by decide)

end CounterHistory

end McuRom
