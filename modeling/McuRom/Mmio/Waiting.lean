import McuRom.Mmio.Program

namespace McuRom
namespace Mmio

/-!
# Waiting without a limit

`waitWhile` is the loop

    while (busy(poll())) {}

cut after a number of polls.  Its result says whether the loop ended.  A fact
about every number of polls is a fact about the loop, which ends only if some
number of polls is enough.
-/

variable {A W σ α : Type}

namespace Program

/-- Poll until the value is no longer busy, at most `fuel` times. -/
def waitWhile (poll : Program A W α) (busy : α → Bool) : Nat → Program A W Bool
  | 0 => .ret false
  | fuel + 1 => do
    let value ← poll
    if busy value then waitWhile poll busy fuel else pure true

/-- The state after a number of polls. -/
def polled (poll : Program A W α) (dev : Device A W σ) : Nat → σ → σ
  | 0, state => state
  | count + 1, state => polled poll dev count (poll.run dev state).state

variable {dev : Device A W σ} {poll : Program A W α} {busy : α → Bool}

theorem run_waitWhile_busy {state : σ} (more : busy (poll.run dev state).result = true)
    (fuel : Nat) :
    (waitWhile poll busy (fuel + 1)).run dev state =
      ((waitWhile poll busy fuel).run dev (poll.run dev state).state).after
        (poll.run dev state).trace := by
  rw [waitWhile, run_bind, if_pos more]

theorem run_waitWhile_ready {state : σ} (ready : busy (poll.run dev state).result = false)
    (fuel : Nat) :
    (waitWhile poll busy (fuel + 1)).run dev state =
      ⟨(poll.run dev state).trace, true, (poll.run dev state).state⟩ := by
  rw [waitWhile, run_bind, ready, if_neg Bool.false_ne_true]
  simp only [pure_eq, run_ret, Run.after_mk, List.append_nil]

/-- What each poll preserves holds after the loop; and if the loop ended, so
does what a poll that is not busy establishes. -/
theorem run_waitWhile (inv ready : σ → Prop)
    (preserved : ∀ state, inv state → inv (poll.run dev state).state)
    (established : ∀ state, inv state → busy (poll.run dev state).result = false →
      ready (poll.run dev state).state)
    (fuel : Nat) {state : σ} (holds : inv state) :
    inv ((waitWhile poll busy fuel).run dev state).state ∧
      (((waitWhile poll busy fuel).run dev state).result = true →
        ready ((waitWhile poll busy fuel).run dev state).state) := by
  induction fuel generalizing state with
  | zero => exact ⟨holds, fun impossible => by cases impossible⟩
  | succ fuel ih =>
      cases polled : busy (poll.run dev state).result with
      | true =>
          rw [run_waitWhile_busy polled]
          exact ih (preserved state holds)
      | false =>
          rw [run_waitWhile_ready polled]
          exact ⟨preserved state holds, fun _ => established state holds polled⟩

/-- The loop ends if and only if one of the polls finds that it may. -/
theorem waitWhile_ends_iff (fuel : Nat) (state : σ) :
    ((waitWhile poll busy fuel).run dev state).result = true ↔
      ∃ count < fuel, busy (poll.run dev (polled poll dev count state)).result = false := by
  induction fuel generalizing state with
  | zero =>
      constructor
      · intro impossible
        cases impossible
      · rintro ⟨_, none, _⟩
        cases none
  | succ fuel ih =>
      cases first : busy (poll.run dev state).result with
      | true =>
          rw [run_waitWhile_busy first, Run.after_result, ih]
          constructor
          · rintro ⟨count, inside, ready⟩
            exact ⟨count + 1, Nat.succ_lt_succ inside, ready⟩
          · rintro ⟨count, inside, ready⟩
            cases count with
            | zero =>
                rw [polled, first] at ready
                cases ready
            | succ count => exact ⟨count, Nat.lt_of_succ_lt_succ inside, ready⟩
      | false =>
          rw [run_waitWhile_ready first]
          exact ⟨fun _ => ⟨0, Nat.succ_pos fuel, first⟩, fun _ => rfl⟩

end Program

end Mmio
end McuRom
