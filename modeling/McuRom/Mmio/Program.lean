import Mathlib.Logic.Function.Basic

namespace McuRom
namespace Mmio

/-!
# Programs over memory-mapped registers

A driver for memory-mapped hardware touches its device in exactly two ways:
it reads a register and continues with the value it got, or it writes one.
A `Program` records those accesses and nothing else, so the same definition
can be executed against a device, compared access by access with another
program, and interleaved with other programs at single register accesses.

The device is a separate parameter.  A read may change the device's state,
because real registers do: a FIFO pops, a lock is taken.  `Program.run`
returns the accesses in order, the result and the final device state.

Nothing here fixes an address width, a register map or a device.
-/

/-- A program whose only effects are register accesses.  The continuation of
a read is applied to the value the device supplies at that moment. -/
inductive Program (A W α : Type) where
  | ret (value : α)
  | read (addr : A) (next : W → Program A W α)
  | write (addr : A) (value : W) (next : Program A W α)

/-- One register access as the bus sees it, with the value transferred. -/
inductive Access (A W : Type) where
  | read (addr : A) (value : W)
  | write (addr : A) (value : W)
deriving DecidableEq, Repr

/-- Hardware as a state machine: both kinds of access may change its state. -/
structure Device (A W σ : Type) where
  read : σ → A → W × σ
  write : σ → A → W → σ

/-- A complete execution: the accesses in order, the value the program
returned, and the state it left the device in. -/
structure Run (A W σ α : Type) where
  trace : List (Access A W)
  result : α
  state : σ

variable {A W σ α β γ : Type}

namespace Access

/-- The register an access touches. -/
def addr : Access A W → A
  | .read addr _ => addr
  | .write addr _ => addr

/-- The address and value of a write; reads contribute nothing. -/
def written? : Access A W → Option (A × W)
  | .read _ _ => none
  | .write addr value => some (addr, value)

/-- The register writes of a trace, in order. -/
def writes (trace : List (Access A W)) : List (A × W) :=
  trace.filterMap written?

@[simp] theorem writes_nil : writes ([] : List (Access A W)) = [] := rfl

@[simp] theorem writes_read (addr : A) (value : W) (trace : List (Access A W)) :
    writes (.read addr value :: trace) = writes trace := rfl

@[simp] theorem writes_write (addr : A) (value : W) (trace : List (Access A W)) :
    writes (.write addr value :: trace) = (addr, value) :: writes trace := rfl

@[simp] theorem writes_append (first second : List (Access A W)) :
    writes (first ++ second) = writes first ++ writes second :=
  List.filterMap_append ..

/-- A list of writes seen as a trace. -/
def ofWrites (list : List (A × W)) : List (Access A W) :=
  list.map fun entry => .write entry.1 entry.2

theorem ofWrites_append (first second : List (A × W)) :
    ofWrites (first ++ second) = ofWrites first ++ ofWrites second :=
  List.map_append

@[simp] theorem writes_ofWrites (list : List (A × W)) : writes (ofWrites list) = list := by
  induction list with
  | nil => rfl
  | cons entry rest ih =>
      change (entry.1, entry.2) :: writes (ofWrites rest) = entry :: rest
      rw [ih]

theorem mem_ofWrites {list : List (A × W)} {access : Access A W} :
    access ∈ ofWrites list ↔ ∃ addr value, (addr, value) ∈ list ∧ access = .write addr value := by
  constructor
  · intro member
    rcases List.mem_map.mp member with ⟨entry, inside, equal⟩
    exact ⟨entry.1, entry.2, inside, equal.symm⟩
  · rintro ⟨addr, value, inside, equal⟩
    exact List.mem_map.mpr ⟨(addr, value), inside, equal.symm⟩

end Access

namespace Run

/-- Put earlier accesses in front of a run. -/
def after (earlier : List (Access A W)) (run : Run A W σ α) : Run A W σ α :=
  { run with trace := earlier ++ run.trace }

@[simp] theorem after_trace (earlier : List (Access A W)) (run : Run A W σ α) :
    (run.after earlier).trace = earlier ++ run.trace := rfl

@[simp] theorem after_result (earlier : List (Access A W)) (run : Run A W σ α) :
    (run.after earlier).result = run.result := rfl

@[simp] theorem after_state (earlier : List (Access A W)) (run : Run A W σ α) :
    (run.after earlier).state = run.state := rfl

@[simp] theorem after_nil (run : Run A W σ α) : run.after [] = run := rfl

@[simp] theorem after_after (first second : List (Access A W)) (run : Run A W σ α) :
    (run.after second).after first = run.after (first ++ second) := by
  simp only [after, List.append_assoc]

@[simp] theorem after_mk (earlier trace : List (Access A W)) (result : α) (state : σ) :
    (Run.mk trace result state).after earlier = ⟨earlier ++ trace, result, state⟩ := rfl

end Run

namespace Program

/-- Sequencing: graft the continuation at every leaf. -/
def bind : Program A W α → (α → Program A W β) → Program A W β
  | .ret value, rest => rest value
  | .read addr next, rest => .read addr fun value => (next value).bind rest
  | .write addr value next, rest => .write addr value (next.bind rest)

instance : Monad (Program A W) where
  pure := .ret
  bind := bind

@[simp] theorem pure_eq (value : α) : (pure value : Program A W α) = .ret value := rfl

@[simp] theorem ret_bind (value : α) (rest : α → Program A W β) :
    (Program.ret value >>= rest) = rest value := rfl

@[simp] theorem read_bind (addr : A) (next : W → Program A W α) (rest : α → Program A W β) :
    (Program.read addr next >>= rest) = .read addr fun value => next value >>= rest := rfl

@[simp] theorem write_bind (addr : A) (value : W) (next : Program A W α)
    (rest : α → Program A W β) :
    (Program.write addr value next >>= rest) = .write addr value (next >>= rest) := rfl

theorem bind_ret (program : Program A W α) : (program >>= Program.ret) = program := by
  induction program with
  | ret value => rfl
  | read addr next ih => simp only [read_bind, ih]
  | write addr value next ih => simp only [write_bind, ih]

theorem bind_assoc (program : Program A W α) (first : α → Program A W β)
    (second : β → Program A W γ) :
    (program >>= first >>= second) = (program >>= fun value => first value >>= second) := by
  induction program with
  | ret value => rfl
  | read addr next ih => simp only [read_bind, ih]
  | write addr value next ih => simp only [write_bind, ih]

instance : LawfulMonad (Program A W) := LawfulMonad.mk' _
  (fun program => bind_ret program) (fun _ _ => rfl)
  (fun program first second => bind_assoc program first second)

/-- Read one register. -/
def readReg (addr : A) : Program A W W := .read addr .ret

/-- Write one register. -/
def writeReg (addr : A) (value : W) : Program A W Unit := .write addr value (.ret ())

/-- Write a list of registers in order. -/
def writeAll : List (A × W) → Program A W Unit
  | [] => .ret ()
  | (addr, value) :: rest => .write addr value (writeAll rest)

theorem writeAll_append (first second : List (A × W)) :
    writeAll (first ++ second) = (writeAll first >>= fun _ => writeAll second) := by
  induction first with
  | nil => rfl
  | cons entry rest ih => simp only [List.cons_append, writeAll, ih, write_bind]

/-- Execute a program against a device. -/
def run (dev : Device A W σ) : Program A W α → σ → Run A W σ α
  | .ret value, state => ⟨[], value, state⟩
  | .read addr next, state =>
      ((next (dev.read state addr).1).run dev (dev.read state addr).2).after
        [.read addr (dev.read state addr).1]
  | .write addr value next, state =>
      (next.run dev (dev.write state addr value)).after [.write addr value]

variable (dev : Device A W σ)

@[simp] theorem run_ret (value : α) (state : σ) :
    (Program.ret value).run dev state = ⟨[], value, state⟩ := rfl

@[simp] theorem run_read (addr : A) (next : W → Program A W α) (state : σ) :
    (Program.read addr next).run dev state =
      ((next (dev.read state addr).1).run dev (dev.read state addr).2).after
        [.read addr (dev.read state addr).1] := rfl

@[simp] theorem run_write (addr : A) (value : W) (next : Program A W α) (state : σ) :
    (Program.write addr value next).run dev state =
      (next.run dev (dev.write state addr value)).after [.write addr value] := rfl

/-- A sequenced program runs its second part from the state and result of
the first.  This is the only law later symbolic executions need. -/
@[simp] theorem run_bind (program : Program A W α) (rest : α → Program A W β) (state : σ) :
    (program >>= rest).run dev state =
      ((rest (program.run dev state).result).run dev (program.run dev state).state).after
        (program.run dev state).trace := by
  induction program generalizing state with
  | ret value => rfl
  | read addr next ih => simp only [read_bind, run_read, ih, Run.after_after, Run.after_trace,
      Run.after_result, Run.after_state]
  | write addr value next ih => simp only [write_bind, run_write, ih, Run.after_after,
      Run.after_trace, Run.after_result, Run.after_state]

@[simp] theorem run_readReg (addr : A) (state : σ) :
    (readReg addr : Program A W W).run dev state =
      ⟨[.read addr (dev.read state addr).1], (dev.read state addr).1, (dev.read state addr).2⟩ :=
  rfl

@[simp] theorem run_writeReg (addr : A) (value : W) (state : σ) :
    (writeReg addr value).run dev state =
      ⟨[.write addr value], (), dev.write state addr value⟩ := rfl

end Program

namespace Device

/-- The state after a list of writes with nothing in between. -/
def writeAll (dev : Device A W σ) (state : σ) (list : List (A × W)) : σ :=
  list.foldl (fun current entry => dev.write current entry.1 entry.2) state

@[simp] theorem writeAll_nil (dev : Device A W σ) (state : σ) : dev.writeAll state [] = state :=
  rfl

@[simp] theorem writeAll_cons (dev : Device A W σ) (state : σ) (addr : A) (value : W)
    (rest : List (A × W)) :
    dev.writeAll state ((addr, value) :: rest) =
      dev.writeAll (dev.write state addr value) rest := rfl

theorem writeAll_append (dev : Device A W σ) (state : σ) (first second : List (A × W)) :
    dev.writeAll state (first ++ second) = dev.writeAll (dev.writeAll state first) second :=
  List.foldl_append ..

end Device

theorem Program.run_writeAll (dev : Device A W σ) (list : List (A × W)) (state : σ) :
    (Program.writeAll list).run dev state =
      ⟨Access.ofWrites list, (), dev.writeAll state list⟩ := by
  induction list generalizing state with
  | nil => rfl
  | cons entry rest ih =>
      simp only [Program.writeAll, Program.run_write, ih]
      rfl

/-! ## Executions as a relation

Where only the result, the final state and a property of the accesses matter,
`Completes` composes without naming traces. -/

namespace Program

/-- The program, run from `state`, returns `result` in `final` and makes only
accesses that are `allowed`. -/
structure Completes (dev : Device A W σ) (allowed : Access A W → Prop) (program : Program A W α)
    (state : σ) (result : α) (final : σ) : Prop where
  returns : (program.run dev state).result = result
  ends : (program.run dev state).state = final
  accesses : ∀ access ∈ (program.run dev state).trace, allowed access

variable {dev : Device A W σ} {allowed : Access A W → Prop}

theorem completes_ret (value : α) (state : σ) :
    (Program.ret value).Completes dev allowed state value state :=
  ⟨rfl, rfl, fun _ impossible => by cases impossible⟩

theorem Completes.bind {program : Program A W α} {rest : α → Program A W β} {state middle final : σ}
    {value : α} {result : β} (first : program.Completes dev allowed state value middle)
    (second : (rest value).Completes dev allowed middle result final) :
    (program >>= rest).Completes dev allowed state result final := by
  have whole := run_bind dev program rest state
  rw [first.returns, first.ends] at whole
  constructor
  · rw [whole]
    exact second.returns
  · rw [whole]
    exact second.ends
  · rw [whole]
    intro access member
    rcases List.mem_append.mp member with earlier | later
    · exact first.accesses access earlier
    · exact second.accesses access later

theorem completes_of_run {program : Program A W α} {state final : σ} {result : α}
    {trace : List (Access A W)} (ran : program.run dev state = ⟨trace, result, final⟩)
    (inside : ∀ access ∈ trace, allowed access) :
    program.Completes dev allowed state result final := by
  refine ⟨?_, ?_, ?_⟩
  · rw [ran]
  · rw [ran]
  · rw [ran]
    exact inside

end Program

end Mmio
end McuRom
