import McuRom.Mmio.Program

namespace McuRom
namespace Mmio

/-!
# Waiting with a way out

`watch` is the loop

    while (!ready()) { if (failed()) return false; }
    return true;

cut after a number of rounds.  Each round gives a verdict on the state it
finds; the loop ends with the first verdict there is, and without one it goes
on.  More rounds than that change nothing.
-/

variable {A W σ : Type}

namespace Program

/-- Poll two conditions in turn, at most `fuel` times. -/
def watch (ready failed : Program A W Bool) : Nat → Program A W (Option Bool)
  | 0 => pure none
  | fuel + 1 => do
    if ← ready then pure (some true)
    else if ← failed then pure (some false)
    else watch ready failed fuel

variable (dev : Device A W σ) (ready failed : Program A W Bool)

/-- What a round finds: the first condition, or else the second. -/
def verdict (state : σ) : Option Bool :=
  if (ready.run dev state).result then some true
  else if (failed.run dev (ready.run dev state).state).result then some false
  else none

/-- The state after a number of rounds without a verdict. -/
def rounds : Nat → σ → σ
  | 0, state => state
  | count + 1, state => rounds count (failed.run dev (ready.run dev state).state).state

/-- The first verdict comes after a number of rounds. -/
def FirstVerdict (answer : Bool) (count : Nat) (state : σ) : Prop :=
  (∀ earlier < count, verdict dev ready failed (rounds dev ready failed earlier state) = none) ∧
    verdict dev ready failed (rounds dev ready failed count state) = some answer

variable {dev ready failed}

/-- A state with a verdict ends the loop. -/
theorem run_watch_verdict {state : σ} {answer : Bool} (fuel : Nat)
    (decided : verdict dev ready failed state = some answer) :
    ((watch ready failed (fuel + 1)).run dev state).result = some answer := by
  unfold verdict at decided
  rw [watch, run_bind, Run.after_result]
  by_cases first : (ready.run dev state).result = true
  · rw [if_pos first] at decided ⊢
    exact decided
  · rw [if_neg first] at decided ⊢
    rw [run_bind, Run.after_result]
    by_cases second : (failed.run dev (ready.run dev state).state).result = true
    · rw [if_pos second] at decided ⊢
      exact decided
    · rw [if_neg second] at decided
      exact absurd decided nofun

/-- A state without one costs a round. -/
theorem run_watch_round {state : σ} (fuel : Nat)
    (undecided : verdict dev ready failed state = none) :
    ((watch ready failed (fuel + 1)).run dev state).result =
      ((watch ready failed fuel).run dev (rounds dev ready failed 1 state)).result := by
  unfold verdict at undecided
  rw [watch, run_bind, Run.after_result]
  by_cases first : (ready.run dev state).result = true
  · rw [if_pos first] at undecided
    exact absurd undecided (by decide)
  · rw [if_neg first] at undecided ⊢
    rw [run_bind, Run.after_result]
    by_cases second : (failed.run dev (ready.run dev state).state).result = true
    · rw [if_pos second] at undecided
      exact absurd undecided (by decide)
    · rw [if_neg second]
      rfl

theorem watch_eq_some_iff (fuel : Nat) (state : σ) (answer : Bool) :
    ((watch ready failed fuel).run dev state).result = some answer ↔
      ∃ count < fuel, FirstVerdict dev ready failed answer count state := by
  induction fuel generalizing state with
  | zero =>
      constructor
      · intro impossible
        cases impossible
      · rintro ⟨_, none, _⟩
        cases none
  | succ fuel ih =>
      cases found : verdict dev ready failed state with
      | none =>
          rw [run_watch_round fuel found, ih]
          constructor
          · rintro ⟨count, inside, before, decided⟩
            refine ⟨count + 1, Nat.succ_lt_succ inside, ?_, decided⟩
            intro earlier bound
            cases earlier with
            | zero => exact found
            | succ earlier => exact before earlier (Nat.lt_of_succ_lt_succ bound)
          · rintro ⟨count, inside, before, decided⟩
            cases count with
            | zero => exact absurd (found.symm.trans decided) nofun
            | succ count =>
                exact ⟨count, Nat.lt_of_succ_lt_succ inside,
                  fun earlier bound => before (earlier + 1) (Nat.succ_lt_succ bound), decided⟩
      | some first =>
          rw [run_watch_verdict fuel found]
          constructor
          · intro same
            exact ⟨0, Nat.succ_pos fuel, fun _ none => absurd none (Nat.not_lt_zero _),
              found.trans same⟩
          · rintro ⟨count, -, before, decided⟩
            cases count with
            | zero => exact found.symm.trans decided
            | succ count => exact absurd (found.symm.trans (before 0 (Nat.succ_pos count))) nofun

/-- The loop is still going exactly if no round has given a verdict. -/
theorem watch_eq_none_iff (fuel : Nat) (state : σ) :
    ((watch ready failed fuel).run dev state).result = none ↔
      ∀ count < fuel, verdict dev ready failed (rounds dev ready failed count state) = none := by
  induction fuel generalizing state with
  | zero => exact ⟨fun _ _ none => absurd none (Nat.not_lt_zero _), fun _ => rfl⟩
  | succ fuel ih =>
      cases found : verdict dev ready failed state with
      | none =>
          rw [run_watch_round fuel found, ih]
          constructor
          · intro later count bound
            cases count with
            | zero => exact found
            | succ count => exact later count (Nat.lt_of_succ_lt_succ bound)
          · exact fun all count bound => all (count + 1) (Nat.succ_lt_succ bound)
      | some first =>
          rw [run_watch_verdict fuel found]
          constructor
          · intro impossible
            cases impossible
          · intro all
            exact absurd (found.symm.trans (all 0 (Nat.succ_pos fuel))) nofun

/-- Polls that write nothing make a loop that writes nothing. -/
theorem writes_watch (silentReady : ∀ state : σ, Access.writes (ready.run dev state).trace = [])
    (silentFailed : ∀ state : σ, Access.writes (failed.run dev state).trace = []) (fuel : Nat)
    (state : σ) : Access.writes ((watch ready failed fuel).run dev state).trace = [] := by
  induction fuel generalizing state with
  | zero => rfl
  | succ fuel ih =>
      rw [watch, run_bind, Run.after_trace, Access.writes_append, silentReady, List.nil_append]
      split
      · rfl
      · rw [run_bind, Run.after_trace, Access.writes_append, silentFailed, List.nil_append]
        split
        · rfl
        · exact ih _

end Program

end Mmio
end McuRom
