import McuRom.Mmio.Program
import Mathlib.Data.Set.Insert
import Mathlib.Logic.Function.Basic

namespace McuRom
namespace Mmio

/-!
# Histories of a store with uncertain writes

A driver in front of a store writes and reads it one operation at a time.  An
operation that succeeds leaves no doubt about its key.  A write that times out
does: it may have taken, it may still take, or it may never take.

A history lists what the client was told.  It is legal if every read returns a
value its key may hold by then.  `Records` says that a program keeps a store
within its history, and composes like a Hoare triple, with histories for
assertions.
-/

variable {K V A W σ α β C R : Type}

/-- What a client knows of one operation on a key: a read that delivered, a
write that was accepted, a write that was not heard of again. -/
inductive StoreEvent (K V : Type) where
  | read (key : K) (value : V)
  | wrote (key : K) (value : V)
  | attempted (key : K) (value : V)
deriving DecidableEq, Repr

namespace StoreEvent

/-- The event gives the key a value, or may. -/
def Gives (key : K) (value : V) : StoreEvent K V → Prop
  | read _ _ => False
  | wrote target given | attempted target given => target = key ∧ given = value

/-- The event leaves no doubt that the key holds the value. -/
def Shows (key : K) (value : V) : StoreEvent K V → Prop
  | read target shown | wrote target shown => target = key ∧ shown = value
  | attempted _ _ => False

/-- A read returns a value that its key may hold. -/
def Allowed (before : K → Set V) : StoreEvent K V → Prop
  | read key value => value ∈ before key
  | wrote _ _ | attempted _ _ => True

variable {before larger : K → Set V} {key : K} {value : V}

theorem Allowed.mono {event : StoreEvent K V} (allowed : event.Allowed before)
    (within : ∀ key, before key ⊆ larger key) : event.Allowed larger := by
  cases event with
  | read key value => exact within key allowed
  | wrote key value | attempted key value => trivial

variable [DecidableEq K]

/-- What the keys may hold after the event. -/
def possible (before : K → Set V) : StoreEvent K V → K → Set V
  | read key value | wrote key value => Function.update before key {value}
  | attempted key value => Function.update before key (insert value (before key))

theorem possible_mono (within : ∀ key, before key ⊆ larger key) (event : StoreEvent K V) :
    ∀ key, event.possible before key ⊆ event.possible larger key := by
  intro key
  cases event with
  | read target value | wrote target value =>
      simp only [possible, Function.update_apply]
      split
      · exact subset_rfl
      · exact within key
  | attempted target value =>
      simp only [possible, Function.update_apply]
      split
      · exact Set.insert_subset_insert (within target)
      · exact within key

theorem possible_shows {event : StoreEvent K V} (shows : event.Shows key value) :
    event.possible before key = {value} := by
  cases event with
  | read target shown | wrote target shown =>
      rcases shows with ⟨rfl, rfl⟩
      exact Function.update_self _ _ _
  | attempted target given => exact shows.elim

/-- A write that was tried takes nothing away. -/
theorem subset_possible_attempted (before : K → Set V) (key : K) (value : V) (target : K) :
    before target ⊆ (attempted key value).possible before target := by
  simp only [possible, Function.update_apply]
  split
  case isTrue same => exact same ▸ Set.subset_insert value _
  case isFalse => exact subset_rfl

theorem possible_wrote_subset (before : K → Set V) (key : K) (value : V) (target : K) :
    (wrote key value).possible before target ⊆ (attempted key value).possible before target := by
  simp only [possible, Function.update_apply]
  split
  · exact Set.singleton_subset_iff.mpr (Set.mem_insert value _)
  · exact subset_rfl

/-- A key that an allowed event gives nothing keeps what it may hold, or less. -/
theorem possible_subset {event : StoreEvent K V} (allowed : event.Allowed before)
    (member : value ∈ event.possible before key) :
    value ∈ before key ∨ event.Gives key value := by
  cases event with
  | read target shown =>
      simp only [possible, Function.update_apply] at member
      split at member
      case isTrue same =>
        rw [Set.mem_singleton_iff.mp member, same]
        exact Or.inl allowed
      case isFalse => exact Or.inl member
  | wrote target given =>
      simp only [possible, Function.update_apply] at member
      split at member
      case isTrue same => exact Or.inr ⟨same.symm, (Set.mem_singleton_iff.mp member).symm⟩
      case isFalse => exact Or.inl member
  | attempted target given =>
      simp only [possible, Function.update_apply] at member
      split at member
      case isTrue same =>
        rcases member with rfl | held
        · exact Or.inr ⟨same.symm, rfl⟩
        · exact Or.inl (same ▸ held)
      case isFalse => exact Or.inl member

end StoreEvent

/-! ## Histories -/

section Histories

variable [DecidableEq K]

/-- What the keys may hold after a history. -/
def possibleAfter (initial : K → Set V) (history : List (StoreEvent K V)) : K → Set V :=
  history.foldl StoreEvent.possible initial

/-- Every read of the history is allowed by what comes before it. -/
def Legal : (K → Set V) → List (StoreEvent K V) → Prop
  | _, [] => True
  | before, event :: rest => event.Allowed before ∧ Legal (event.possible before) rest

variable {initial larger : K → Set V} {first second history : List (StoreEvent K V)} {key : K}
  {value : V}

theorem possibleAfter_append (initial : K → Set V) (first second : List (StoreEvent K V)) :
    possibleAfter initial (first ++ second) = possibleAfter (possibleAfter initial first) second :=
  List.foldl_append

theorem legal_append :
    Legal initial (first ++ second) ↔
      Legal initial first ∧ Legal (possibleAfter initial first) second := by
  induction first generalizing initial with
  | nil => simp [Legal, possibleAfter]
  | cons event rest ih =>
      simp only [List.cons_append, Legal, ih, and_assoc]
      rfl

theorem possibleAfter_mono (within : ∀ key, initial key ⊆ larger key)
    (history : List (StoreEvent K V)) :
    ∀ key, possibleAfter initial history key ⊆ possibleAfter larger history key := by
  induction history generalizing initial larger with
  | nil => exact within
  | cons event rest ih => exact ih (StoreEvent.possible_mono within event)

theorem Legal.mono (legal : Legal initial history) (within : ∀ key, initial key ⊆ larger key) :
    Legal larger history := by
  induction history generalizing initial larger with
  | nil => trivial
  | cons event rest ih =>
      exact ⟨legal.1.mono within, ih legal.2 (StoreEvent.possible_mono within event)⟩

/-- Nothing is held that was not there and was not given. -/
theorem Legal.possibleAfter_subset (legal : Legal initial history)
    (member : value ∈ possibleAfter initial history key) :
    value ∈ initial key ∨ ∃ event ∈ history, event.Gives key value := by
  induction history generalizing initial with
  | nil => exact Or.inl member
  | cons event rest ih =>
      rcases ih legal.2 member with held | ⟨given, inside, gives⟩
      · rcases StoreEvent.possible_subset legal.1 held with kept | gives
        · exact Or.inl kept
        · exact Or.inr ⟨event, List.mem_cons_self, gives⟩
      · exact Or.inr ⟨given, List.mem_cons_of_mem event inside, gives⟩

/-- A read returns what was there, or what an earlier event gave. -/
theorem Legal.read_given {before after : List (StoreEvent K V)}
    (legal : Legal initial (before ++ .read key value :: after)) :
    value ∈ initial key ∨ ∃ event ∈ before, event.Gives key value :=
  (legal_append.mp legal).1.possibleAfter_subset (legal_append.mp legal).2.1

/-- A read returns what the last event that left no doubt has shown, unless
its key was given something since. -/
theorem Legal.read_shown {before between after : List (StoreEvent K V)} {event : StoreEvent K V}
    {shown : V}
    (legal : Legal initial (before ++ event :: between ++ .read key value :: after))
    (shows : event.Shows key shown)
    (quiet : ∀ other ∈ between, ∀ given, ¬ other.Gives key given) : value = shown := by
  rw [List.append_assoc, List.cons_append] at legal
  have behind := (legal_append.mp legal).2.2
  rcases behind.read_given with held | ⟨other, inside, gives⟩
  · rw [StoreEvent.possible_shows shows] at held
    exact held
  · exact absurd gives (quiet other inside value)

/-- The second history knows no more than the first. -/
def Weakens (first second : List (StoreEvent K V)) : Prop :=
  ∀ initial : K → Set V, Legal initial first →
    Legal initial second ∧
      ∀ key, possibleAfter initial first key ⊆ possibleAfter initial second key

theorem Weakens.refl (history : List (StoreEvent K V)) : Weakens history history :=
  fun _ legal => ⟨legal, fun _ => subset_rfl⟩

theorem Weakens.append {first' second' : List (StoreEvent K V)} (left : Weakens first second)
    (right : Weakens first' second') : Weakens (first ++ first') (second ++ second') := by
  intro initial legal
  rcases legal_append.mp legal with ⟨before, behind⟩
  rcases left initial before with ⟨leftLegal, leftWithin⟩
  rcases right _ behind with ⟨rightLegal, rightWithin⟩
  refine ⟨legal_append.mpr ⟨leftLegal, rightLegal.mono leftWithin⟩, fun key => ?_⟩
  rw [possibleAfter_append, possibleAfter_append]
  exact (rightWithin key).trans (possibleAfter_mono leftWithin _ key)

/-- To know that a write was accepted is more than to know that it was tried. -/
theorem weakens_wrote (key : K) (value : V) :
    Weakens [.wrote key value] [.attempted key value] := fun initial _ =>
  ⟨⟨trivial, trivial⟩, StoreEvent.possible_wrote_subset initial key value⟩

/-- A write that may have been tried. -/
theorem weakens_nil (key : K) (value : V) : Weakens [] [.attempted key value] := fun initial _ =>
  ⟨⟨trivial, trivial⟩, StoreEvent.subset_possible_attempted initial key value⟩

/-- A read may be forgotten. -/
theorem weakens_read (key : K) (value : V) : Weakens [.read key value] [] := by
  refine fun initial legal => ⟨trivial, fun target held member => ?_⟩
  exact (StoreEvent.possible_subset legal.1 member).resolve_right id

theorem weakens_map_attempted (place : β → K) (data : β → V) (list : List β) :
    Weakens [] (list.map fun entry => StoreEvent.attempted (place entry) (data entry)) := by
  induction list with
  | nil => exact Weakens.refl []
  | cons entry rest ih => exact (weakens_nil (place entry) (data entry)).append ih

end Histories

/-! ## Programs -/

section Programs

variable [DecidableEq K] {dev : Device A W σ} {holds : σ → K → Set V}

/-- The store holds, and will come to hold, nothing else. -/
def Within (holds : σ → K → Set V) (state : σ) (possible : K → Set V) : Prop :=
  ∀ key, holds state key ⊆ possible key

/-- From a store within the first history, the program leads to one within the
history that goes with its result. -/
def Records (dev : Device A W σ) (holds : σ → K → Set V) (before : List (StoreEvent K V))
    (program : Program A W α) (after : α → List (StoreEvent K V)) : Prop :=
  ∀ (initial : K → Set V) (state : σ), Legal initial before →
    Within holds state (possibleAfter initial before) →
      Legal initial (after (program.run dev state).result) ∧
        Within holds (program.run dev state).state
          (possibleAfter initial (after (program.run dev state).result))

variable {before : List (StoreEvent K V)}

theorem records_pure {value : α} {after : α → List (StoreEvent K V)}
    (weakens : Weakens before (after value)) :
    Records dev holds before (pure value) after := by
  intro initial state legal within
  rcases weakens initial legal with ⟨stillLegal, larger⟩
  exact ⟨stillLegal, fun key => (within key).trans (larger key)⟩

theorem Records.bind {program : Program A W α} {rest : α → Program A W β}
    {between : α → List (StoreEvent K V)} {after : β → List (StoreEvent K V)}
    (first : Records dev holds before program between)
    (second : ∀ value, Records dev holds (between value) (rest value) after) :
    Records dev holds before (program >>= rest) after := by
  intro initial state legal within
  rcases first initial state legal within with ⟨halfway, covered⟩
  rw [Program.run_bind, Run.after_result, Run.after_state]
  exact second _ initial _ halfway covered

theorem Records.weaken {program : Program A W α} {between after : α → List (StoreEvent K V)}
    (records : Records dev holds before program between)
    (weakens : ∀ value, Weakens (between value) (after value)) :
    Records dev holds before program after := by
  intro initial state legal within
  rcases records initial state legal within with ⟨halfway, covered⟩
  rcases weakens _ initial halfway with ⟨stillLegal, larger⟩
  exact ⟨stillLegal, fun key => (covered key).trans (larger key)⟩

/-- A program that records its own events does so behind any history. -/
theorem Records.behind {program : Program A W α} {events : α → List (StoreEvent K V)}
    (records : Records dev holds [] program events) (before : List (StoreEvent K V)) :
    Records dev holds before program fun value => before ++ events value := by
  intro initial state legal within
  rcases records (possibleAfter initial before) state trivial within with ⟨more, covered⟩
  refine ⟨legal_append.mpr ⟨legal, more⟩, ?_⟩
  rw [possibleAfter_append]
  exact covered

theorem Records.map {program : Program A W α} {events : α → List (StoreEvent K V)} {f : α → β}
    {after : β → List (StoreEvent K V)} (records : Records dev holds [] program events)
    (same : ∀ value, events value = after (f value)) :
    Records dev holds [] (f <$> program) after :=
  records.bind fun value => records_pure (same value ▸ Weakens.refl _)

end Programs

end Mmio
end McuRom
