import McuRom.Mmio.MonitoredRuns
import McuRom.Mmio.Scheduled

namespace McuRom
namespace Mmio

/-!
# Clearing what has been seen

A register whose bits are cleared by writing ones to them loses nothing if
every write to it comes directly behind a read of it and names only bits that
this read showed.  It is not enough that a bit has been read at some time: it
may be raised again after it was cleared, and another write would clear it
unread.  The rules say this of a program on any device; with a schedule in
which other agents raise bits, whatever ends up cleared was shown by the read
before the write that named it.
-/

variable {A σ α β : Type} {w : Nat}

/-- Every write to the register comes directly behind a read of it and names
only bits that this read showed. -/
def ClearsShown (register : A) (trace : List (Access A (BitVec w))) : Prop :=
  ∀ earlier value later, trace = earlier ++ .write register value :: later →
    ∃ before shown, earlier = before ++ [.read register shown] ∧ value &&& ~~~shown = 0#w

/-- A bit is shown by a read and named by the write directly behind it. -/
def Acknowledged (register : A) (bit : Nat) (trace : List (Access A (BitVec w))) : Prop :=
  ∃ before shown value later,
    trace = before ++ .read register shown :: .write register value :: later ∧
      shown.getLsbD bit = true ∧ value.getLsbD bit = true

variable {register : A} {first second trace : List (Access A (BitVec w))}

/-- A trace that never writes the register clears nothing. -/
theorem clearsShown_of_apart (apart : ∀ value, .write register value ∉ trace) :
    ClearsShown register trace := by
  intro earlier value later split
  refine absurd ?_ (apart value)
  rw [split]
  exact List.mem_append_right _ List.mem_cons_self

/-- The read before a write of the second part is in the second part. -/
theorem ClearsShown.append (firstShown : ClearsShown register first)
    (secondShown : ClearsShown register second) : ClearsShown register (first ++ second) := by
  intro earlier value later split
  rcases List.append_eq_append_iff.mp split with ⟨middle, rfl, inSecond⟩ | ⟨middle, rfl, inFirst⟩
  · rcases secondShown middle value later inSecond with ⟨before, shown, rfl, named⟩
    exact ⟨first ++ before, shown, (List.append_assoc ..).symm, named⟩
  · cases middle with
    | nil =>
        rcases secondShown [] value later inFirst.symm with ⟨before, shown, nothing, _⟩
        exact absurd nothing.symm (List.append_ne_nil_of_right_ne_nil before (List.cons_ne_nil _ _))
    | cons access middle =>
        rcases List.cons.inj inFirst with ⟨rfl, _⟩
        exact firstShown earlier value middle rfl

/-- What is written back was shown. -/
theorem clearsShown_writeBack (register : A) (shown : BitVec w) :
    ClearsShown register [.read register shown, .write register shown] := by
  intro earlier value later split
  cases earlier with
  | nil => cases split
  | cons head earlier =>
      rcases List.cons.inj split with ⟨rfl, rest⟩
      cases earlier with
      | nil =>
          cases rest
          exact ⟨[], shown, rfl, BitVec.and_not_self shown⟩
      | cons head earlier =>
          exact absurd (List.cons.inj rest).2.symm
            (List.append_ne_nil_of_right_ne_nil earlier (List.cons_ne_nil _ _))

/-- A bit that some write names was shown by the read before it. -/
theorem ClearsShown.acknowledged (shownBefore : ClearsShown register trace) {value : BitVec w}
    (written : .write register value ∈ trace) {bit : Nat} (named : value.getLsbD bit = true) :
    Acknowledged register bit trace := by
  rcases List.append_of_mem written with ⟨earlier, later, rfl⟩
  rcases shownBefore earlier value later rfl with ⟨before, shown, rfl, inside⟩
  refine ⟨before, shown, value, later, List.append_assoc .., ?_, named⟩
  have hidden : (value &&& ~~~shown).getLsbD bit = false := by rw [inside, BitVec.getLsbD_zero]
  rw [BitVec.getLsbD_and, BitVec.getLsbD_not, named, decide_eq_true (BitVec.lt_of_getLsbD named),
    Bool.true_and, Bool.true_and, Bool.not_eq_false'] at hidden
  exact hidden

namespace Program

variable (register) (dev : Device A (BitVec w) σ)

/-- Every run of a program clears only what it was just shown. -/
def Acknowledges (program : Program A (BitVec w) α) : Prop :=
  ∀ state, ClearsShown register (program.run dev state).trace

variable {register dev}

theorem acknowledges_pure (value : α) :
    (pure value : Program A (BitVec w) α).Acknowledges register dev :=
  fun _ => clearsShown_of_apart fun _ => List.not_mem_nil

theorem Acknowledges.bind {program : Program A (BitVec w) α} {rest : α → Program A (BitVec w) β}
    (first : program.Acknowledges register dev)
    (second : ∀ value, (rest value).Acknowledges register dev) :
    (program >>= rest).Acknowledges register dev := by
  intro state
  rw [run_bind, Run.after_trace]
  exact (first state).append (second _ _)

/-- A program that leaves the register alone clears nothing. -/
theorem acknowledges_of_within {program : Program A (BitVec w) α}
    (within : program.Within fun addr => addr ≠ register) :
    program.Acknowledges register dev := by
  intro state
  apply clearsShown_of_apart
  intro value written
  exact within.trace dev state _ written rfl

/-- Writing back what was read clears what was shown. -/
theorem acknowledges_writeBack :
    (readReg register >>= fun value => writeReg register value :
      Program A (BitVec w) Unit).Acknowledges register dev :=
  fun state => clearsShown_writeBack register (dev.read state register).1

/-- Whatever a run has cleared, it has written to the register. -/
theorem run_cleared [DecidableEq A] {inner : Device A (BitVec w) σ}
    (program : Program A (BitVec w) α) (state : Scheduled (BitVec w) (Notifications w σ)) (bit : Nat)
    (cleared : (program.run (Device.scheduled Notifications.raise
      (Device.writeOneToClear register inner)) state).state.device.cleared.getLsbD bit = true) :
    state.device.cleared.getLsbD bit = true ∨
      ∃ value, .write register value ∈ (program.run (Device.scheduled Notifications.raise
          (Device.writeOneToClear register inner)) state).trace ∧
        value.getLsbD bit = true := by
  induction program generalizing state with
  | ret value => exact Or.inl cleared
  | read addr next ih =>
      rcases ih _ _ cleared with before | ⟨value, written, named⟩
      · left
        by_cases same : addr = register
        · simp only [Device.scheduled, same, Device.writeOneToClear_read] at before
          exact before
        · simp only [Device.scheduled, Device.writeOneToClear_read_of_ne same] at before
          exact before
      · exact Or.inr ⟨value, List.mem_cons_of_mem _ written, named⟩
  | write addr value next ih =>
      rcases ih _ cleared with before | ⟨value, written, named⟩
      · by_cases same : addr = register
        · subst same
          simp only [Device.scheduled, Device.writeOneToClear_write] at before
          change (state.device.cleared ||| _ &&& value).getLsbD bit = true at before
          rw [BitVec.getLsbD_or, BitVec.getLsbD_and, Bool.or_eq_true, Bool.and_eq_true] at before
          rcases before with start | ⟨_, named⟩
          · exact Or.inl start
          · exact Or.inr ⟨value, List.mem_cons_self, named⟩
        · left
          simp only [Device.scheduled, Device.writeOneToClear_write_of_ne same] at before
          exact before
      · exact Or.inr ⟨value, List.mem_cons_of_mem _ written, named⟩

/-- Whatever a run has cleared was shown by the read before the write that
cleared it. -/
theorem Acknowledges.run_cleared [DecidableEq A] {inner : Device A (BitVec w) σ}
    {program : Program A (BitVec w) α}
    (acknowledges : program.Acknowledges register
      (Device.scheduled Notifications.raise (Device.writeOneToClear register inner)))
    (state : Scheduled (BitVec w) (Notifications w σ)) (bit : Nat)
    (cleared : (program.run (Device.scheduled Notifications.raise
      (Device.writeOneToClear register inner)) state).state.device.cleared.getLsbD bit = true) :
    state.device.cleared.getLsbD bit = true ∨
      Acknowledged register bit (program.run (Device.scheduled Notifications.raise
        (Device.writeOneToClear register inner)) state).trace := by
  refine (Program.run_cleared program state bit cleared).imp_right ?_
  rintro ⟨value, written, named⟩
  exact (acknowledges state).acknowledged written named

end Program

end Mmio
end McuRom
