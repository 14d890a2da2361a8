import McuRom.Mmio.Monitor
import McuRom.Mmio.Frame

namespace McuRom
namespace Mmio

/-!
# Runs under a monitor

`Program.Obeys` speaks about a program alone.  Here it is connected to
executions: where the monitor admits every value a read can return, an obedient
program drives it along its whole trace, on every device.

A monitor remembers a little of what has happened.  A rule about writes may
look at everything that has happened.  If the monitor's state is always a
summary of the history, and the summary is enough to know that a permitted
write keeps the rule, then every trace the monitor follows keeps the rule.
-/

variable {A W Q σ α β : Type}

namespace Monitor

/-- The monitor's answer to one access. -/
def step (m : Monitor A W Q) (q : Q) : Access A W → Option Q
  | .read addr value => m.onRead q addr value
  | .write addr value => m.onWrite q addr value

/-- The state after a trace, if every access was admitted and permitted. -/
def follow (m : Monitor A W Q) : Q → List (Access A W) → Option Q
  | q, [] => some q
  | q, access :: rest => (m.step q access).bind fun after => m.follow after rest

/-- The monitor rules out no value that a read could return. -/
def ReliesOnNothing (m : Monitor A W Q) : Prop :=
  ∀ q addr value, ∃ after, m.onRead q addr value = some after

variable {m : Monitor A W Q}

/-- What is kept by every step the monitor takes, seen with the history so
far, is kept along the whole trace. -/
theorem follow_induction (holds : List (Access A W) → Q → Prop) {q final : Q}
    (history : List (Access A W)) {trace : List (Access A W)} (start : holds history q)
    (kept : ∀ earlier before access after, holds earlier before →
      m.step before access = some after → holds (earlier ++ [access]) after)
    (followed : m.follow q trace = some final) : holds (history ++ trace) final := by
  induction trace generalizing q history with
  | nil =>
      rw [follow, Option.some.injEq] at followed
      rwa [List.append_nil, ← followed]
  | cons access rest ih =>
      rcases Option.bind_eq_some_iff.mp followed with ⟨next, stepped, onwards⟩
      have whole := ih (history ++ [access]) (kept history q access next start stepped) onwards
      rwa [List.append_assoc] at whole

/-- The monitor that refuses nothing and notes every access. -/
def recording (note : Q → Access A W → Q) : Monitor A W Q where
  onRead q addr value := some (note q (.read addr value))
  onWrite q addr value := some (note q (.write addr value))

variable (note : Q → Access A W → Q)

theorem recording_reliesOnNothing : (recording note).ReliesOnNothing :=
  fun q addr value => ⟨note q (.read addr value), rfl⟩

theorem follow_recording (q : Q) (trace : List (Access A W)) :
    (recording note).follow q trace = some (trace.foldl note q) := by
  induction trace generalizing q with
  | nil => rfl
  | cons access rest ih =>
      rw [follow, List.foldl_cons, ← ih]
      cases access <;> rfl

end Monitor

/-! ## Rules about writes -/

/-- Every write of the trace is one the rule allows after what came before. -/
def KeepsRule (rule : List (Access A W) → A → W → Prop) (trace : List (Access A W)) : Prop :=
  ∀ before addr value after, trace = before ++ .write addr value :: after → rule before addr value

theorem KeepsRule.snoc {rule : List (Access A W) → A → W → Prop} {trace : List (Access A W)}
    {access : Access A W} (kept : KeepsRule rule trace)
    (last : ∀ addr value, access = .write addr value → rule trace addr value) :
    KeepsRule rule (trace ++ [access]) := by
  intro before addr value after split
  rcases List.eq_nil_or_concat after with rfl | ⟨shorter, final, rfl⟩
  · have ends := List.append_inj' split rfl
    rw [← ends.1]
    exact last addr value (List.singleton_inj.mp ends.2)
  · apply kept before addr value shorter
    rw [List.concat_eq_append, ← List.cons_append, ← List.append_assoc] at split
    exact (List.append_inj' split rfl).1

/-- A monitor whose state summarises the history, and which permits no write
that the rule forbids after such a history, enforces the rule. -/
theorem Monitor.keepsRule_of_follow {m : Monitor A W Q}
    {rule : List (Access A W) → A → W → Prop} (summary : List (Access A W) → Q → Prop)
    (summarised : ∀ earlier q access after, summary earlier q → m.step q access = some after →
      summary (earlier ++ [access]) after)
    (sound : ∀ earlier q addr value after, summary earlier q →
      m.onWrite q addr value = some after → rule earlier addr value)
    {q final : Q} {trace : List (Access A W)} (start : summary [] q)
    (followed : m.follow q trace = some final) :
    KeepsRule rule trace ∧ summary trace final := by
  have empty : KeepsRule rule [] := by
    intro before addr value after split
    exact absurd split.symm (List.append_ne_nil_of_right_ne_nil _ (List.cons_ne_nil _ _))
  refine follow_induction (fun earlier q => KeepsRule rule earlier ∧ summary earlier q) []
    ⟨empty, start⟩ ?_ followed
  intro earlier before access after known stepped
  refine ⟨known.1.snoc ?_, summarised earlier before access after known.2 stepped⟩
  rintro addr value rfl
  exact sound earlier before addr value after known.2 stepped

/-! ## Obedience on a device -/

namespace Program

variable {m : Monitor A W Q}

/-- On every device, an obedient program is followed to its end, and its
result satisfies the postcondition there. -/
theorem Obeys.follows {post : α → Q → Prop} {program : Program A W α} {q : Q}
    (obeys : program.Obeys m post q) (admits : m.ReliesOnNothing) (dev : Device A W σ) (state : σ) :
    ∃ final, m.follow q (program.run dev state).trace = some final ∧
      post (program.run dev state).result final := by
  induction program generalizing q state with
  | ret value => exact ⟨q, rfl, obeys⟩
  | read addr next ih =>
      rcases admits q addr (dev.read state addr).1 with ⟨after, admitted⟩
      rcases ih _ (obeys _ after admitted) (dev.read state addr).2 with ⟨final, followed, holds⟩
      refine ⟨final, ?_, holds⟩
      rw [run_read, Run.after_trace, List.singleton_append, Monitor.follow, Monitor.step, admitted]
      exact followed
  | write addr value next ih =>
      rcases obeys with ⟨after, permitted, rest⟩
      rcases ih rest (dev.write state addr value) with ⟨final, followed, holds⟩
      refine ⟨final, ?_, holds⟩
      rw [run_write, Run.after_trace, List.singleton_append, Monitor.follow, Monitor.step, permitted]
      exact followed

/-- What is proved of the notes a program makes holds of those made of its
trace. -/
theorem Obeys.recorded {note : Q → Access A W → Q} {post : α → Q → Prop}
    {program : Program A W α} {q : Q} (obeys : program.Obeys (.recording note) post q)
    (dev : Device A W σ) (state : σ) :
    post (program.run dev state).result ((program.run dev state).trace.foldl note q) := by
  rcases obeys.follows (Monitor.recording_reliesOnNothing note) dev state with
    ⟨final, followed, holds⟩
  rw [Monitor.follow_recording, Option.some.injEq] at followed
  rwa [followed]

/-- Polling under an invariant of the monitor's state: a busy reply keeps it,
and both ways of leaving the loop establish the postcondition. -/
theorem obeys_pollWhile_of {n : Nat} {post : Bool → Q → Prop} {addr : A} {busy : W → Bool}
    (steady : Q → Prop)
    (waits : ∀ q value after, steady q → m.onRead q addr value = some after → busy value = true →
      steady after ∧ post false after)
    (leaves : ∀ q value after, steady q → m.onRead q addr value = some after →
      busy value = false → post true after)
    (timeout : BitVec n) {q : Q} (start : steady q) :
    (pollWhile addr busy timeout).Obeys m post q := by
  induction timeout using pollWhile.induct generalizing q with
  | case1 timeout ih =>
      rw [pollWhile, obeys_read]
      intro value after admitted
      by_cases polled : busy value = true
      · rw [if_pos polled]
        have kept := waits q value after start admitted polled
        by_cases last : timeout - 1 = 0
        · rw [if_pos last]
          exact kept.2
        · rw [if_neg last]
          exact ih last kept.1
      · rw [if_neg polled]
        exact leaves q value after start admitted (Bool.not_eq_true _ ▸ polled)

/-- Writes the monitor permits in every state it can be in. -/
theorem obeys_writeAll {list : List (A × W)} {steady : Q → Prop}
    (permits : ∀ entry ∈ list, ∀ q, steady q →
      ∃ after, m.onWrite q entry.1 entry.2 = some after ∧ steady after)
    {q : Q} (start : steady q) : (writeAll list).Obeys m (fun _ after => steady after) q := by
  induction list generalizing q with
  | nil => exact start
  | cons entry rest ih =>
      rcases permits entry List.mem_cons_self q start with ⟨after, permitted, kept⟩
      exact ⟨after, permitted, ih (fun later member => permits later (List.mem_cons_of_mem _ member))
        kept⟩

end Program

/-! ## Addresses of a run -/

theorem Program.Within.mono {inside larger : A → Prop} {program : Program A W α}
    (within : program.Within inside) (grows : ∀ addr, inside addr → larger addr) :
    program.Within larger := by
  induction program with
  | ret value => trivial
  | read addr next ih => exact ⟨grows addr within.1, fun value => ih value (within.2 value)⟩
  | write addr value next ih => exact ⟨grows addr within.1, ih within.2⟩

/-- A program within a set of registers touches no others when it is run. -/
theorem Program.Within.trace {inside : A → Prop} {program : Program A W α}
    (within : program.Within inside) (dev : Device A W σ) (state : σ) :
    ∀ access ∈ (program.run dev state).trace, inside access.addr := by
  induction program generalizing state with
  | ret value => exact fun access impossible => absurd impossible List.not_mem_nil
  | read addr next ih =>
      intro access member
      rcases List.mem_cons.mp member with rfl | later
      · exact within.1
      · exact ih _ (within.2 _) _ access later
  | write addr value next ih =>
      intro access member
      rcases List.mem_cons.mp member with rfl | later
      · exact within.1
      · exact ih within.2 _ access later

end Mmio
end McuRom
