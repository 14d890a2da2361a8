import Mathlib.Data.List.Basic

namespace McuRom
namespace Mmio
namespace Handshake

/-!
# Command handshakes

A controller that works on one command at a time is driven by a handshake: a
command may be issued only after the controller has shown that it is ready,
and it has been carried out only when the controller, ready again, shows no
error.  Which events of a history issue a command, show readiness and show
success is left open.
-/

variable {E : Type} (issue ready clear : E → Prop)

/-! ## Readiness since the last command -/

/-- No event of the list issues a command. -/
def Quiet (events : List E) : Prop := ∀ event ∈ events, ¬ issue event

/-- The history shows readiness after its last command. -/
def ReadySince (history : List E) : Prop :=
  ∃ before event after, history = before ++ event :: after ∧ ready event ∧ Quiet issue after

/-- Every command among the events, which follow `history`, finds the
controller ready. -/
def Guarded : List E → List E → Prop
  | _, [] => True
  | history, event :: rest =>
      (issue event → ReadySince issue ready history) ∧ Guarded (history ++ [event]) rest

variable {issue ready clear}

theorem quiet_nil : Quiet issue ([] : List E) := fun _ impossible => by cases impossible

theorem Quiet.append {first second : List E} (left : Quiet issue first)
    (right : Quiet issue second) : Quiet issue (first ++ second) := by
  intro event member
  rcases List.mem_append.mp member with earlier | later
  · exact left event earlier
  · exact right event later

/-- Nothing is ready before anything has happened. -/
theorem not_readySince_nil : ¬ ReadySince issue ready ([] : List E) := by
  rintro ⟨before, event, after, equal, _, _⟩
  have positive := congrArg List.length equal
  simp at positive

theorem ReadySince.append_quiet {history events : List E} (since : ReadySince issue ready history)
    (quiet : Quiet issue events) : ReadySince issue ready (history ++ events) := by
  rcases since with ⟨before, event, after, rfl, shown, silent⟩
  refine ⟨before, event, after ++ events, ?_, shown, silent.append quiet⟩
  simp only [List.append_assoc, List.cons_append]

theorem ReadySince.after {events : List E} (since : ReadySince issue ready events)
    (history : List E) : ReadySince issue ready (history ++ events) := by
  rcases since with ⟨before, event, after, rfl, shown, silent⟩
  refine ⟨history ++ before, event, after, ?_, shown, silent⟩
  simp only [List.append_assoc]

theorem readySince_append_one {event : E} (shown : ready event) (history : List E) :
    ReadySince issue ready (history ++ [event]) :=
  ⟨history, event, [], rfl, shown, quiet_nil⟩

theorem guarded_append (history first second : List E) :
    Guarded issue ready history (first ++ second) ↔
      Guarded issue ready history first ∧ Guarded issue ready (history ++ first) second := by
  induction first generalizing history with
  | nil => simp only [List.nil_append, Guarded, true_and, List.append_nil]
  | cons event rest ih =>
      simp only [List.cons_append, Guarded, ih, List.append_assoc, List.nil_append, and_assoc]

theorem guarded_quiet {events : List E} (quiet : Quiet issue events) (history : List E) :
    Guarded issue ready history events := by
  induction events generalizing history with
  | nil => trivial
  | cons event rest ih =>
      constructor
      · intro issued
        exact absurd issued (quiet event List.mem_cons_self)
      · exact ih (fun later member => quiet later (List.mem_cons_of_mem _ member)) _

/-- One command with nothing but quiet events around it. -/
theorem guarded_single {history before after : List E} {event : E} (left : Quiet issue before)
    (issued : issue event) (right : Quiet issue after) :
    Guarded issue ready history (before ++ event :: after) ↔
      ReadySince issue ready (history ++ before) := by
  rw [guarded_append]
  constructor
  · intro guarded
    exact guarded.2.1 issued
  · intro since
    exact ⟨guarded_quiet left history, fun _ => since, guarded_quiet right _⟩

/-- Events that guard their own commands may follow anything. -/
theorem Guarded.after {history events : List E} (guarded : Guarded issue ready history events)
    (earlier : List E) : Guarded issue ready (earlier ++ history) events := by
  induction events generalizing history with
  | nil => trivial
  | cons event rest ih =>
      constructor
      · intro issued
        exact (guarded.1 issued).after earlier
      · rw [List.append_assoc]
        exact ih guarded.2

/-! ## Confirmed commands -/

variable (issue ready clear) in
/-- What follows a command shows readiness and, at that event or a later one,
success, both before the next command. -/
def Confirmed (events : List E) : Prop :=
  ∃ busy event rest, events = busy ++ event :: rest ∧ Quiet issue busy ∧ ready event ∧
    ∃ seen last after, event :: rest = seen ++ last :: after ∧ Quiet issue seen ∧ clear last

variable (issue ready clear) in
/-- Every command among the events is confirmed by those behind it. -/
def AllConfirmed : List E → Prop
  | [] => True
  | event :: rest => (issue event → Confirmed issue ready clear rest) ∧ AllConfirmed rest

theorem Confirmed.append {events : List E} (confirmed : Confirmed issue ready clear events)
    (more : List E) : Confirmed issue ready clear (events ++ more) := by
  rcases confirmed with ⟨busy, event, rest, rfl, quiet, shown, seen, last, after, split, silent, good⟩
  refine ⟨busy, event, rest ++ more, ?_, quiet, shown, seen, last, after ++ more, ?_, silent, good⟩
  · simp only [List.append_assoc, List.cons_append]
  · rw [← List.cons_append, split, List.append_assoc, List.cons_append]

theorem AllConfirmed.append {first second : List E}
    (left : AllConfirmed issue ready clear first) (right : AllConfirmed issue ready clear second) :
    AllConfirmed issue ready clear (first ++ second) := by
  induction first with
  | nil => exact right
  | cons event rest ih => exact ⟨fun issued => (left.1 issued).append second, ih left.2⟩

theorem allConfirmed_quiet {events : List E} (quiet : Quiet issue events) :
    AllConfirmed issue ready clear events := by
  induction events with
  | nil => trivial
  | cons event rest ih =>
      constructor
      · intro issued
        exact absurd issued (quiet event List.mem_cons_self)
      · exact ih fun later member => quiet later (List.mem_cons_of_mem _ member)

/-- One command with nothing but quiet events around it. -/
theorem allConfirmed_single {before after : List E} {event : E} (left : Quiet issue before)
    (issued : issue event) (right : Quiet issue after) :
    AllConfirmed issue ready clear (before ++ event :: after) ↔
      Confirmed issue ready clear after := by
  induction before with
  | nil =>
      constructor
      · intro confirmed
        exact confirmed.1 issued
      · intro confirmed
        exact ⟨fun _ => confirmed, allConfirmed_quiet right⟩
  | cons earlier rest ih =>
      have later := ih fun event member => left event (List.mem_cons_of_mem _ member)
      constructor
      · intro confirmed
        exact later.mp confirmed.2
      · intro confirmed
        exact ⟨fun wrong => absurd wrong (left earlier List.mem_cons_self), later.mpr confirmed⟩

/-- Where the last event is the only one that shows readiness, it has to show
success as well. -/
theorem confirmed_append_one {busy : List E} {event : E} (quiet : Quiet issue busy)
    (hidden : ∀ earlier ∈ busy, ¬ ready earlier) (shown : ready event) :
    Confirmed issue ready clear (busy ++ [event]) ↔ clear event := by
  constructor
  · rintro ⟨before, first, rest, equal, _, readied, seen, last, after, split, _, good⟩
    have alone : rest = [] := by
      rcases List.append_eq_append_iff.mp equal with ⟨middle, left, right⟩ | ⟨middle, left, right⟩
      · cases middle with
        | nil =>
            rw [List.nil_append] at right
            exact (List.cons.inj right).2.symm
        | cons other others =>
            have length := congrArg List.length right
            simp at length
      · cases middle with
        | nil =>
            rw [List.nil_append] at right
            exact (List.cons.inj right).2
        | cons other others =>
            rw [List.cons_append] at right
            have same : first = other := (List.cons.inj right).1
            refine absurd readied (hidden first ?_)
            rw [left, same]
            exact List.mem_append_right _ List.mem_cons_self
    subst rest
    have lengths : before.length = busy.length := by
      have total := congrArg List.length equal
      simpa using total.symm
    have final := (List.append_inj equal lengths.symm).2
    cases seen with
    | nil =>
        rw [List.nil_append] at split
        have same : event = last := (List.cons.inj final).1.trans (List.cons.inj split).1
        rw [same]
        exact good
    | cons other others =>
        have length := congrArg List.length split
        simp at length
  · intro good
    exact ⟨busy, event, [], rfl, quiet, shown, [], event, [], rfl, quiet_nil, good⟩

end Handshake
end Mmio
end McuRom
