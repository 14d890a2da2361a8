import McuRom.Mmio.Program
import Mathlib.Logic.Relation

namespace McuRom
namespace Mmio

/-!
# Clients that share a device

A system has one device and any number of clients.  A client is idle or in the
middle of a call; an idle client may enter any call at any time, and a running
client moves by one register access per step.  Which client moves next is not
determined, so the reachable systems are those of every interleaving.

The log records who made which access, and in which call.
-/

/-- An access together with the client and the call that made it. -/
structure Entry (C K A W : Type) where
  client : C
  call : K
  access : Access A W

/-- The device, what each client still has to do, and the history. -/
structure System (C K A W σ R : Type) where
  device : σ
  running : C → Option (K × Program A W R)
  log : List (Entry C K A W)

namespace System

variable {C K A W σ R : Type} [DecidableEq C]

/-- No client is in a call and nothing has happened. -/
def Initial (system : System C K A W σ R) : Prop :=
  (∀ client, system.running client = none) ∧ system.log = []

/-- A client goes on with a program. -/
def goOn (system : System C K A W σ R) (client : C) (call : K) (program : Program A W R) :
    C → Option (K × Program A W R) :=
  Function.update system.running client (some (call, program))

/-- One step of one client. -/
inductive Step (dev : Device A W σ) (body : K → Program A W R) :
    System C K A W σ R → System C K A W σ R → Prop
  | enter (system : System C K A W σ R) (client : C) (call : K)
      (idle : system.running client = none) :
      Step dev body system { system with running := system.goOn client call (body call) }
  | leave (system : System C K A W σ R) (client : C) (call : K) (value : R)
      (finished : system.running client = some (call, .ret value)) :
      Step dev body system { system with running := Function.update system.running client none }
  | read (system : System C K A W σ R) (client : C) (call : K) (addr : A)
      (next : W → Program A W R) (current : system.running client = some (call, .read addr next)) :
      Step dev body system
        { device := (dev.read system.device addr).2
          running := system.goOn client call (next (dev.read system.device addr).1)
          log := system.log ++ [⟨client, call, .read addr (dev.read system.device addr).1⟩] }
  | write (system : System C K A W σ R) (client : C) (call : K) (addr : A) (value : W)
      (next : Program A W R) (current : system.running client = some (call, .write addr value next)) :
      Step dev body system
        { device := dev.write system.device addr value
          running := system.goOn client call next
          log := system.log ++ [⟨client, call, .write addr value⟩] }

/-- Systems reachable from one where nothing has happened. -/
def Reachable (dev : Device A W σ) (body : K → Program A W R) (system : System C K A W σ R) :
    Prop :=
  ∃ start : System C K A W σ R, start.Initial ∧ Relation.ReflTransGen (Step dev body) start system

/-- What holds initially and is kept by every step holds in every reachable
system. -/
theorem Reachable.invariant {dev : Device A W σ} {body : K → Program A W R}
    {holds : System C K A W σ R → Prop} (initially : ∀ start, start.Initial → holds start)
    (kept : ∀ before after, Step dev body before after → holds before → holds after)
    {system : System C K A W σ R} (reachable : system.Reachable dev body) : holds system := by
  rcases reachable with ⟨start, initial, steps⟩
  induction steps with
  | refl => exact initially start initial
  | tail _ step ih => exact kept _ _ step ih

/-- A step extends the history by at most one access. -/
theorem Step.log {dev : Device A W σ} {body : K → Program A W R}
    {before after : System C K A W σ R} (step : Step dev body before after) :
    after.log = before.log ∨ ∃ entry, after.log = before.log ++ [entry] := by
  cases step with
  | enter client call idle => exact Or.inl rfl
  | leave client call value finished => exact Or.inl rfl
  | read client call addr next current => exact Or.inr ⟨_, rfl⟩
  | write client call addr value next current => exact Or.inr ⟨_, rfl⟩

/-- Every part of a history was the whole history at an earlier time. -/
theorem Reachable.of_prefix {dev : Device A W σ} {body : K → Program A W R}
    {system : System C K A W σ R} (reachable : system.Reachable dev body)
    {prior : List (Entry C K A W)} (inside : prior <+: system.log) :
    ∃ earlier : System C K A W σ R, earlier.Reachable dev body ∧ earlier.log = prior := by
  rcases reachable with ⟨start, initial, steps⟩
  induction steps with
  | refl =>
      rw [initial.2, List.prefix_nil] at inside
      exact ⟨start, ⟨start, initial, .refl⟩, initial.2.trans inside.symm⟩
  | @tail before after steps step ih =>
      rcases step.log with same | ⟨entry, longer⟩
      · exact ih (same ▸ inside)
      · rw [longer] at inside
        rcases List.prefix_concat_iff.mp inside with whole | shorter
        · exact ⟨after, ⟨start, initial, steps.tail step⟩, longer.trans whole.symm⟩
        · exact ih shorter

theorem goOn_self (system : System C K A W σ R) (client : C) (call : K)
    (program : Program A W R) : system.goOn client call program client = some (call, program) :=
  Function.update_self _ _ _

theorem goOn_of_ne (system : System C K A W σ R) {client other : C} (different : other ≠ client)
    (call : K) (program : Program A W R) :
    system.goOn client call program other = system.running other :=
  Function.update_of_ne different _ _

/-! ## A client left alone -/

/-- A running client that nobody interrupts makes the accesses of a run of its
program, and ends with its result. -/
theorem run_alone (dev : Device A W σ) (body : K → Program A W R) (client : C) (call : K)
    (program : Program A W R) (device : σ) (running : C → Option (K × Program A W R))
    (log : List (Entry C K A W)) :
    Relation.ReflTransGen (Step dev body)
      ⟨device, Function.update running client (some (call, program)), log⟩
      ⟨(program.run dev device).state,
        Function.update running client (some (call, .ret (program.run dev device).result)),
        log ++ (program.run dev device).trace.map (⟨client, call, ·⟩)⟩ := by
  induction program generalizing device log with
  | ret value =>
      simp only [Program.run_ret, List.map_nil, List.append_nil]
      exact .refl
  | read addr next ih =>
      have step : Step dev body _ _ := Step.read
        ⟨device, Function.update running client (some (call, .read addr next)), log⟩ client call
        addr next (Function.update_self _ _ _)
      simp only [goOn, Function.update_idem] at step
      have rest := ih (dev.read device addr).1 (dev.read device addr).2
        (log ++ [⟨client, call, .read addr (dev.read device addr).1⟩])
      rw [List.append_assoc] at rest
      exact .head step rest
  | write addr value next ih =>
      have step : Step dev body _ _ := Step.write
        ⟨device, Function.update running client (some (call, .write addr value next)), log⟩ client
        call addr value next (Function.update_self _ _ _)
      simp only [goOn, Function.update_idem] at step
      have rest := ih (dev.write device addr value) (log ++ [⟨client, call, .write addr value⟩])
      rw [List.append_assoc] at rest
      exact .head step rest

/-- A call that begins with a read and then waits for another client's call. -/
theorem Reachable.interrupted (dev : Device A W σ) (body : K → Program A W R) (device : σ)
    {client other : C} (different : other ≠ client) (call otherCall : K) {addr : A}
    {next : W → Program A W R} (begins : body call = .read addr next) :
    ∃ system : System C K A W σ R, system.Reachable dev body ∧
      system.log = ⟨client, call, .read addr (dev.read device addr).1⟩ ::
        (((body otherCall).run dev (dev.read device addr).2).trace.map (⟨other, otherCall, ·⟩) ++
          ((next (dev.read device addr).1).run dev
            ((body otherCall).run dev (dev.read device addr).2).state).trace.map
              (⟨client, call, ·⟩)) := by
  let start : System C K A W σ R := ⟨device, fun _ => none, []⟩
  let value := (dev.read device addr).1
  let later := (dev.read device addr).2
  let waiting : C → Option (K × Program A W R) :=
    Function.update start.running client (some (call, next value))
  let between := (body otherCall).run dev later
  let done : C → Option (K × Program A W R) :=
    Function.update start.running other (some (otherCall, .ret between.result))
  let log : List (Entry C K A W) := [⟨client, call, .read addr value⟩]
  have entered : Step dev body start
      ⟨device, Function.update start.running client (some (call, .read addr next)), []⟩ :=
    begins ▸ Step.enter start client call rfl
  have read : Step dev body
      ⟨device, Function.update start.running client (some (call, .read addr next)), []⟩
      ⟨later, waiting, log⟩ := by
    have step : Step dev body _ _ := Step.read
      ⟨device, Function.update start.running client (some (call, .read addr next)), []⟩ client
      call addr next (Function.update_self _ _ _)
    simp only [goOn, Function.update_idem] at step
    exact step
  have idle : waiting other = none := Function.update_of_ne different _ _
  have otherEntered : Step dev body ⟨later, waiting, log⟩
      ⟨later, Function.update waiting other (some (otherCall, body otherCall)), log⟩ :=
    Step.enter ⟨later, waiting, log⟩ other otherCall idle
  have otherRan := run_alone dev body other otherCall (body otherCall) later waiting log
  have rest := run_alone dev body client call (next value) between.state done
    (log ++ between.trace.map (⟨other, otherCall, ·⟩))
  have order : Function.update waiting other (some (otherCall, .ret between.result)) =
      Function.update done client (some (call, next value)) :=
    Function.update_comm different.symm _ _ _
  rw [order] at otherRan
  refine ⟨_, ⟨start, ⟨fun _ => rfl, rfl⟩, .head entered (.head read (.head otherEntered
    (otherRan.trans rest)))⟩, ?_⟩
  exact List.append_assoc ..

end System

end Mmio
end McuRom
