import McuRom.Mmio.Frame

namespace McuRom
namespace Mmio

/-!
# Programs in lockstep

Some registers hold data that an observer of the bus must not learn, and some
are sinks: what is written to them does not count as behaviour.  Two programs
are in lockstep if they make the same accesses, whatever they read from the
registers that are not secret, whatever each of them reads from the secret
ones, and apart from what they write to sinks.

Run on two devices that differ in their secrets only, programs in lockstep
show the observer the same accesses.  What a program in lockstep with itself
does therefore depends on no secret.
-/

variable {A W σ τ α β γ δ : Type}

/-- The registers an observer must not learn from, and those whose writes it
does not look at. -/
structure Policy (A : Type) where
  secret : A → Bool
  sink : A → Bool

/-- What an observer sees of an access: not the value read from a secret. -/
inductive Observed (A W : Type) where
  | read (addr : A) (value : W)
  | hidden (addr : A)
  | write (addr : A) (value : W)
deriving DecidableEq, Repr

/-- The observation of one access. -/
def Access.seenAs (policy : Policy A) : Access A W → Option (Observed A W)
  | .read addr value => some (if policy.secret addr then .hidden addr else .read addr value)
  | .write addr value => if policy.sink addr then none else some (.write addr value)

/-- The observation of a trace. -/
def Policy.observe (policy : Policy A) (trace : List (Access A W)) : List (Observed A W) :=
  trace.filterMap (Access.seenAs policy)

namespace Program

/-- The same accesses, and related results. -/
inductive Lockstep (policy : Policy A) (related : α → β → Prop) :
    Program A W α → Program A W β → Prop
  | ret {left : α} {right : β} (results : related left right) :
      Lockstep policy related (.ret left) (.ret right)
  | shown {addr : A} {left : W → Program A W α} {right : W → Program A W β}
      (isShown : policy.secret addr = false)
      (next : ∀ value, Lockstep policy related (left value) (right value)) :
      Lockstep policy related (.read addr left) (.read addr right)
  | hidden {addr : A} {left : W → Program A W α} {right : W → Program A W β}
      (isSecret : policy.secret addr = true)
      (next : ∀ first second, Lockstep policy related (left first) (right second)) :
      Lockstep policy related (.read addr left) (.read addr right)
  | write {addr : A} {value : W} {left : Program A W α} {right : Program A W β}
      (next : Lockstep policy related left right) :
      Lockstep policy related (.write addr value left) (.write addr value right)
  | sinkLeft {addr : A} {value : W} {left : Program A W α} {right : Program A W β}
      (isSink : policy.sink addr = true) (next : Lockstep policy related left right) :
      Lockstep policy related (.write addr value left) right
  | sinkRight {addr : A} {value : W} {left : Program A W α} {right : Program A W β}
      (isSink : policy.sink addr = true) (next : Lockstep policy related left right) :
      Lockstep policy related left (.write addr value right)

variable {policy : Policy A} {related : α → β → Prop}

theorem Lockstep.bind {final : γ → δ → Prop} {left : Program A W α} {right : Program A W β}
    {first : α → Program A W γ} {second : β → Program A W δ}
    (both : left.Lockstep policy related right)
    (next : ∀ one other, related one other → (first one).Lockstep policy final (second other)) :
    (left >>= first).Lockstep policy final (right >>= second) := by
  induction both with
  | ret results => exact next _ _ results
  | shown isShown _ ih => exact .shown isShown ih
  | hidden isSecret _ ih => exact .hidden isSecret ih
  | write _ ih => exact .write ih
  | sinkLeft isSink _ ih => exact .sinkLeft isSink ih
  | sinkRight isSink _ ih => exact .sinkRight isSink ih

/-- Weaken what is said about the results. -/
theorem Lockstep.mono {weaker : α → β → Prop} {left : Program A W α} {right : Program A W β}
    (both : left.Lockstep policy related right)
    (weaken : ∀ one other, related one other → weaker one other) :
    left.Lockstep policy weaker right := by
  induction both with
  | ret results => exact .ret (weaken _ _ results)
  | shown isShown _ ih => exact .shown isShown ih
  | hidden isSecret _ ih => exact .hidden isSecret ih
  | write _ ih => exact .write ih
  | sinkLeft isSink _ ih => exact .sinkLeft isSink ih
  | sinkRight isSink _ ih => exact .sinkRight isSink ih

/-- A program that stays away from the secrets is in lockstep with itself. -/
theorem Within.lockstep {program : Program A W α}
    (within : program.Within fun addr => policy.secret addr = false) :
    program.Lockstep policy (fun one other => one = other) program := by
  induction program with
  | ret value => exact .ret rfl
  | read addr next ih => exact .shown within.1 fun value => ih value (within.2 value)
  | write addr value next ih => exact .write (ih within.2)

/-- Reading a secret. -/
theorem lockstep_readReg {addr : A} (isSecret : policy.secret addr = true) :
    (readReg addr : Program A W W).Lockstep policy (fun _ _ => True) (readReg addr) :=
  .hidden isSecret fun _ _ => .ret trivial

/-- Anything may be written to sinks. -/
theorem lockstep_writeAll {first second : List (A × W)}
    (left : ∀ entry ∈ first, policy.sink entry.1 = true)
    (right : ∀ entry ∈ second, policy.sink entry.1 = true) :
    (writeAll first).Lockstep policy (fun _ _ => True) (writeAll second) := by
  induction first with
  | cons entry rest ih =>
      exact .sinkLeft (left entry List.mem_cons_self)
        (ih fun later member => left later (List.mem_cons_of_mem _ member))
  | nil =>
      induction second with
      | nil => exact .ret trivial
      | cons entry rest ih =>
          exact .sinkRight (right entry List.mem_cons_self)
            (ih fun later member => right later (List.mem_cons_of_mem _ member))

end Program

/-- Two devices that nobody can tell apart without reading a secret: in
related states they answer the same to every other read, and the same access,
or a write to a sink on either side, leads to related states. -/
structure Device.AgreeUpTo (policy : Policy A) (left : Device A W σ) (right : Device A W τ)
    (related : σ → τ → Prop) : Prop where
  shown : ∀ one other addr, related one other → policy.secret addr = false →
    (left.read one addr).1 = (right.read other addr).1
  read : ∀ one other addr, related one other →
    related (left.read one addr).2 (right.read other addr).2
  write : ∀ one other addr value, related one other →
    related (left.write one addr value) (right.write other addr value)
  sinkLeft : ∀ one other addr value, related one other → policy.sink addr = true →
    related (left.write one addr value) other
  sinkRight : ∀ one other addr value, related one other → policy.sink addr = true →
    related one (right.write other addr value)

/-- What comes of two runs: the same observation, related results and related
states. -/
def Run.Alike (policy : Policy A) (results : α → β → Prop) (states : σ → τ → Prop)
    (left : Run A W σ α) (right : Run A W τ β) : Prop :=
  policy.observe left.trace = policy.observe right.trace ∧ results left.result right.result ∧
    states left.state right.state

namespace Run.Alike

variable {policy : Policy A} {results : α → β → Prop} {states : σ → τ → Prop}
  {left : Run A W σ α} {right : Run A W τ β}

/-- Accesses that are observed to be the same, in front of such runs. -/
theorem after (alike : Run.Alike policy results states left right) {first second : Access A W}
    (same : first.seenAs policy = second.seenAs policy) :
    Run.Alike policy results states (left.after [first]) (right.after [second]) := by
  refine ⟨?_, alike.2⟩
  rw [after_trace, after_trace, Policy.observe, Policy.observe, List.filterMap_append,
    List.filterMap_append]
  exact congrArg₂ (· ++ ·) (by simp only [List.filterMap_cons, same]) alike.1

theorem afterLeft (alike : Run.Alike policy results states left right) {access : Access A W}
    (unseen : access.seenAs policy = none) :
    Run.Alike policy results states (left.after [access]) right :=
  ⟨(List.filterMap_cons_none unseen).trans alike.1, alike.2⟩

theorem afterRight (alike : Run.Alike policy results states left right) {access : Access A W}
    (unseen : access.seenAs policy = none) :
    Run.Alike policy results states left (right.after [access]) :=
  ⟨alike.1.trans (List.filterMap_cons_none unseen).symm, alike.2⟩

end Run.Alike

/-- On such devices programs in lockstep are observed to do the same. -/
theorem Program.Lockstep.run_alike {policy : Policy A} {results : α → β → Prop}
    {first : Program A W α} {second : Program A W β}
    (both : first.Lockstep policy results second) {left : Device A W σ} {right : Device A W τ}
    {states : σ → τ → Prop} (agree : left.AgreeUpTo policy right states) {one : σ} {other : τ}
    (start : states one other) :
    Run.Alike policy results states (first.run left one) (second.run right other) := by
  induction both generalizing one other with
  | ret holds => exact ⟨rfl, holds, start⟩
  | @shown addr _ _ isShown next ih =>
      have same := agree.shown one other addr start isShown
      rw [run_read, run_read, ← same]
      exact (ih _ (agree.read one other addr start)).after rfl
  | @hidden addr _ _ isSecret next ih =>
      rw [run_read, run_read]
      refine (ih _ _ (agree.read one other addr start)).after ?_
      simp only [Access.seenAs, isSecret, if_true]
  | @write addr value _ _ next ih =>
      rw [run_write, run_write]
      exact (ih (agree.write one other addr value start)).after rfl
  | @sinkLeft addr value _ _ isSink next ih =>
      rw [run_write]
      exact (ih (agree.sinkLeft one other addr value start isSink)).afterLeft (if_pos isSink)
  | @sinkRight addr value _ _ isSink next ih =>
      rw [run_write]
      exact (ih (agree.sinkRight one other addr value start isSink)).afterRight (if_pos isSink)

/-- Scripts that differ in the secret registers only. -/
theorem Device.agreeUpTo_scripted [DecidableEq A] (policy : Policy A) :
    (Device.scripted : Device A W (A → Nat → W)).AgreeUpTo policy Device.scripted
      fun one other => ∀ addr, policy.secret addr = false → one addr = other addr where
  shown one other addr same isShown := congrFun (same addr isShown) 0
  read one other addr same reg isShown := by
    rw [scripted_read_state, scripted_read_state]
    by_cases equal : reg = addr
    · subst equal
      funext index
      rw [advance_self, advance_self, same reg isShown]
    · rw [advance_of_ne _ equal, advance_of_ne _ equal]
      exact same reg isShown
  write _ _ _ _ same := same
  sinkLeft _ _ _ _ same _ := same
  sinkRight _ _ _ _ same _ := same

end Mmio
end McuRom
