import McuRom.Mmio.Program

namespace McuRom
namespace Mmio

/-!
# Drivers as objects

An object answers calls and changes its state, all at once.  A driver
implements an object on a device if, seen through a view of the device's
state, every call returns what the object replies and leaves what the object
turns into; the accesses in between are nobody's business.

`Acts` says the same of a single program, and composes like programs do, so
that a driver function is compared with its operation access by access.
-/

variable {A W σ τ α β C R : Type}

/-- An object: what it replies to a call, and what it is afterwards. -/
structure Object (C R τ : Type) where
  reply : τ → C → R
  update : τ → C → τ

namespace Object

variable (object : Object C R τ)

/-- The object after a sequence of calls. -/
def after (state : τ) (calls : List C) : τ := calls.foldl object.update state

/-- The replies to a sequence of calls. -/
def replies : τ → List C → List R
  | _, [] => []
  | state, call :: rest => object.reply state call :: replies (object.update state call) rest

/-- What every call preserves, a sequence of calls preserves. -/
theorem after_invariant {inv : τ → Prop} {calls : List C}
    (preserved : ∀ call ∈ calls, ∀ state, inv state → inv (object.update state call))
    {state : τ} (holds : inv state) : inv (object.after state calls) := by
  induction calls generalizing state with
  | nil => exact holds
  | cons call rest ih =>
      apply ih (fun later member => preserved later (List.mem_cons_of_mem call member))
      exact preserved call List.mem_cons_self state holds

end Object

namespace Program

/-- Seen through a view, a program returns and leaves what two functions of
the state say. -/
structure Acts (dev : Device A W σ) (view : σ → τ) (program : Program A W α)
    (result : τ → α) (update : τ → τ) : Prop where
  returns : ∀ state, (program.run dev state).result = result (view state)
  leaves : ∀ state, view (program.run dev state).state = update (view state)

variable {dev : Device A W σ} {view : σ → τ} {program : Program A W α} {addr : A}

theorem acts_pure (value : α) :
    Acts dev view (pure value) (fun _ => value) id :=
  ⟨fun _ => rfl, fun _ => rfl⟩

theorem Acts.bind {result : τ → α} {update : τ → τ} {rest : α → Program A W β}
    {result' : α → τ → β} {update' : α → τ → τ} (acts : Acts dev view program result update)
    (continues : ∀ value, Acts dev view (rest value) (result' value) (update' value)) :
    Acts dev view (program >>= rest) (fun state => result' (result state) (update state))
      (fun state => update' (result state) (update state)) := by
  constructor
  · intro state
    rw [run_bind, Run.after_result, (continues _).returns, acts.returns, acts.leaves]
  · intro state
    rw [run_bind, Run.after_state, (continues _).leaves, acts.returns, acts.leaves]

/-- A read that returns a function of the view and does not change it. -/
theorem acts_readReg {content : τ → W} (shown : ∀ state, (dev.read state addr).1 = content (view state))
    (unchanged : ∀ state, view (dev.read state addr).2 = view state) :
    Acts dev view (readReg addr) content id :=
  ⟨shown, unchanged⟩

theorem acts_writeReg {value : W} {update : τ → τ}
    (stored : ∀ state, view (dev.write state addr value) = update (view state)) :
    Acts dev view (writeReg addr value) (fun _ => ()) update :=
  ⟨fun _ => rfl, stored⟩

/-- The two functions may be written in another way. -/
theorem Acts.congr {result result' : τ → α} {update update' : τ → τ}
    (acts : Acts dev view program result update) (sameResult : ∀ state, result state = result' state)
    (sameUpdate : ∀ state, update state = update' state) :
    Acts dev view program result' update' :=
  ⟨fun state => (acts.returns state).trans (sameResult _),
    fun state => (acts.leaves state).trans (sameUpdate _)⟩

/-- A branch on a value that has been read. -/
theorem Acts.ite {condition : Prop} [Decidable condition] {other : Program A W α}
    {result result' : τ → α} {update update' : τ → τ}
    (acts : condition → Acts dev view program result update)
    (otherwise : ¬ condition → Acts dev view other result' update') :
    Acts dev view (if condition then program else other)
      (fun state => if condition then result state else result' state)
      (fun state => if condition then update state else update' state) := by
  by_cases holds : condition
  · simp only [if_pos holds]
    exact acts holds
  · simp only [if_neg holds]
    exact otherwise holds

theorem Acts.map {result : τ → α} {update : τ → τ} (acts : Acts dev view program result update)
    (f : α → β) : Acts dev view (f <$> program) (fun state => f (result state)) update :=
  acts.bind fun value => acts_pure (f value)

/-- The calls of a sequence, one after another, with what they return. -/
def session (perform : C → Program A W R) : List C → Program A W (List R)
  | [] => pure []
  | call :: rest => do
    let reply ← perform call
    let replies ← session perform rest
    pure (reply :: replies)

/-- Every call acts like the object. -/
def Implements (dev : Device A W σ) (view : σ → τ) (perform : C → Program A W R)
    (object : Object C R τ) : Prop :=
  ∀ call, Acts dev view (perform call) (fun state => object.reply state call)
    (fun state => object.update state call)

/-- A driver that implements an object call by call implements it in every
sequence of calls. -/
theorem Implements.session {perform : C → Program A W R} {object : Object C R τ}
    (implements : Implements dev view perform object) (calls : List C) :
    Acts dev view (Program.session perform calls) (fun state => object.replies state calls)
      (fun state => object.after state calls) := by
  induction calls with
  | nil => exact acts_pure []
  | cons call rest ih =>
      exact (implements call).bind fun reply => ih.map fun replies => reply :: replies

end Program

end Mmio
end McuRom
