import Mathlib.Data.List.Nodup
import Mathlib.Logic.Function.Basic

namespace McuRom

/-!
# Objects that own resources

Every object of a kind is created with a resource of its own, or takes over
what another object owns.  Moving leaves the source without a resource, and
what the target of an assignment owned before is given up, as is what an
object owns when it is destroyed.

Resources are numbered in the order in which they are acquired.  The main
result is that a history of objects that are all destroyed gives up every
resource exactly once.
-/

/-- What happens to the objects of a program. -/
inductive ObjectEvent (Id : Type) where
  | acquire (id : Id)
  | moveConstruct (target source : Id)
  | moveAssign (target source : Id)
  | use (id : Id)
  | destroy (id : Id)
deriving DecidableEq, Repr

/-- Which objects are alive, which resource each of them owns, and how many
resources there have been. -/
structure Owners (Id : Type) where
  alive : Id → Bool
  owner : Id → Option Nat
  acquired : Nat

namespace Owners

variable {Id : Type} [DecidableEq Id]

/-! ## Histories -/

/-- Nothing has happened. -/
def start : Owners Id := ⟨fun _ => false, fun _ => none, 0⟩

/-- Objects are created once before they are used and destroyed once after. -/
def Permits (owners : Owners Id) : ObjectEvent Id → Prop
  | .acquire id => owners.alive id = false
  | .moveConstruct target source => owners.alive target = false ∧ owners.alive source = true
  | .moveAssign target source => owners.alive target = true ∧ owners.alive source = true
  | .use id => owners.alive id = true
  | .destroy id => owners.alive id = true

instance (owners : Owners Id) (event : ObjectEvent Id) : Decidable (owners.Permits event) :=
  match event with
  | .acquire _ => inferInstanceAs (Decidable (_ = _))
  | .moveConstruct _ _ => inferInstanceAs (Decidable (_ ∧ _))
  | .moveAssign _ _ => inferInstanceAs (Decidable (_ ∧ _))
  | .use _ => inferInstanceAs (Decidable (_ = _))
  | .destroy _ => inferInstanceAs (Decidable (_ = _))

omit [DecidableEq Id] in
/-- A new object is not the one it takes over from. -/
theorem Permits.ne {owners : Owners Id} {target source : Id}
    (permitted : owners.Permits (.moveConstruct target source)) : target ≠ source := by
  rintro rfl
  have alive := permitted.2
  rw [permitted.1] at alive
  cases alive

/-- The target takes over what the source owns. -/
def transfer (owner : Id → Option Nat) (target source : Id) : Id → Option Nat :=
  Function.update (Function.update owner target (owner source)) source none

/-- The effect of an event. -/
def apply (owners : Owners Id) : ObjectEvent Id → Owners Id
  | .acquire id =>
    ⟨Function.update owners.alive id true,
      Function.update owners.owner id (some owners.acquired), owners.acquired + 1⟩
  | .moveConstruct target source =>
    ⟨Function.update owners.alive target true, transfer owners.owner target source,
      owners.acquired⟩
  | .moveAssign target source =>
    if target = source then owners
    else ⟨owners.alive, transfer owners.owner target source, owners.acquired⟩
  | .use _ => owners
  | .destroy id =>
    ⟨Function.update owners.alive id false, Function.update owners.owner id none,
      owners.acquired⟩

/-- The resource that is given up at an event. -/
def ending (owners : Owners Id) : ObjectEvent Id → Option Nat
  | .moveAssign target source => if target = source then none else owners.owner target
  | .destroy id => owners.owner id
  | _ => none

def applyAll (owners : Owners Id) (events : List (ObjectEvent Id)) : Owners Id :=
  events.foldl apply owners

/-- The resources that are given up along a history, in order. -/
def endings (owners : Owners Id) : List (ObjectEvent Id) → List Nat
  | [] => []
  | event :: rest => (owners.ending event).toList ++ (owners.apply event).endings rest

/-- Every event is permitted when its turn comes. -/
def PermitsAll (owners : Owners Id) : List (ObjectEvent Id) → Prop
  | [] => True
  | event :: rest => owners.Permits event ∧ (owners.apply event).PermitsAll rest

instance (owners : Owners Id) (events : List (ObjectEvent Id)) :
    Decidable (owners.PermitsAll events) :=
  match events with
  | [] => inferInstanceAs (Decidable True)
  | event :: rest =>
    have : Decidable ((owners.apply event).PermitsAll rest) := instDecidablePermitsAll _ rest
    inferInstanceAs (Decidable (_ ∧ _))

theorem permitsAll_append (owners : Owners Id) (first second : List (ObjectEvent Id)) :
    owners.PermitsAll (first ++ second) ↔
      owners.PermitsAll first ∧ (owners.applyAll first).PermitsAll second := by
  induction first generalizing owners with
  | nil => exact (iff_of_eq (true_and _)).symm
  | cons event rest ih => exact (and_congr_right fun _ => ih _).trans and_assoc.symm

/-! ## Who owns what after an event -/

theorem update_some_eq_some {β : Type} {held : Id → Option β} {id other : Id} {fresh value : β} :
    Function.update held id (some fresh) other = some value ↔
      (other = id ∧ fresh = value) ∨ (other ≠ id ∧ held other = some value) := by
  by_cases same : other = id
  · simp [same]
  · simp [same]

theorem update_none_eq_some {β : Type} {held : Id → Option β} {id other : Id} {value : β} :
    Function.update held id none other = some value ↔ other ≠ id ∧ held other = some value := by
  by_cases same : other = id
  · simp [same]
  · simp [same]

theorem transfer_eq_some {owner : Id → Option Nat} {target source other : Id} {resource : Nat}
    (different : target ≠ source) :
    transfer owner target source other = some resource ↔
      (other = target ∧ owner source = some resource) ∨
        (other ≠ target ∧ other ≠ source ∧ owner other = some resource) := by
  rw [transfer, update_none_eq_some]
  by_cases same : other = target
  · simp [same, different]
  · simp [same]

/-- Moving over an object gives up what it owns first. -/
theorem transfer_update_none (owner : Id → Option Nat) {target source : Id}
    (different : target ≠ source) :
    transfer (Function.update owner target none) target source = transfer owner target source := by
  rw [transfer, transfer, Function.update_idem, Function.update_of_ne different.symm]

/-! ## Accounts -/

/-- Every resource acquired so far is either given up or owned by exactly one
object, and it is given up at most once. -/
structure Accounted (acquired : Nat) (ended : List Nat) (owner : Id → Option Nat) : Prop where
  unique : ∀ {first second resource}, owner first = some resource →
    owner second = some resource → first = second
  kept : ∀ {id resource}, owner id = some resource → resource ∉ ended
  nodup : ended.Nodup
  complete : ∀ {resource},
    resource < acquired ↔ resource ∈ ended ∨ ∃ id, owner id = some resource

namespace Accounted

variable {acquired : Nat} {ended : List Nat} {owner : Id → Option Nat}

omit [DecidableEq Id] in
theorem start : Accounted 0 [] (Owners.start : Owners Id).owner where
  unique := nofun
  kept := nofun
  nodup := List.nodup_nil
  complete := by simp [Owners.start]

/-- An object without a resource acquires the next one. -/
theorem acquire (accounts : Accounted acquired ended owner) {id : Id} (free : owner id = none) :
    Accounted (acquired + 1) ended (Function.update owner id (some acquired)) where
  unique := by
    intro first second resource left right
    rcases update_some_eq_some.mp left with ⟨rfl, rfl⟩ | ⟨_, left⟩
    · rcases update_some_eq_some.mp right with ⟨rfl, _⟩ | ⟨_, right⟩
      · rfl
      · exact absurd (accounts.complete.mpr (Or.inr ⟨_, right⟩)) (Nat.lt_irrefl _)
    · rcases update_some_eq_some.mp right with ⟨_, rfl⟩ | ⟨_, right⟩
      · exact absurd (accounts.complete.mpr (Or.inr ⟨_, left⟩)) (Nat.lt_irrefl _)
      · exact accounts.unique left right
  kept := by
    intro other resource owned
    rcases update_some_eq_some.mp owned with ⟨_, rfl⟩ | ⟨_, owned⟩
    · exact fun member => Nat.lt_irrefl _ (accounts.complete.mpr (Or.inl member))
    · exact accounts.kept owned
  nodup := accounts.nodup
  complete := by
    intro resource
    rw [Nat.lt_succ_iff_lt_or_eq, accounts.complete]
    constructor
    · rintro ((gone | ⟨other, owned⟩) | rfl)
      · exact Or.inl gone
      · refine Or.inr ⟨other, update_some_eq_some.mpr (Or.inr ⟨?_, owned⟩)⟩
        rintro rfl
        rw [free] at owned
        cases owned
      · exact Or.inr ⟨id, update_some_eq_some.mpr (Or.inl ⟨rfl, rfl⟩)⟩
    · rintro (gone | ⟨other, owned⟩)
      · exact Or.inl (Or.inl gone)
      · rcases update_some_eq_some.mp owned with ⟨_, rfl⟩ | ⟨_, owned⟩
        · exact Or.inr rfl
        · exact Or.inl (Or.inr ⟨other, owned⟩)

/-- An object gives up what it owns, if anything. -/
theorem giveUp (accounts : Accounted acquired ended owner) (id : Id) :
    Accounted acquired (ended ++ (owner id).toList) (Function.update owner id none) where
  unique := by
    intro first second resource left right
    exact accounts.unique (update_none_eq_some.mp left).2 (update_none_eq_some.mp right).2
  kept := by
    intro other resource owned member
    rcases update_none_eq_some.mp owned with ⟨different, owned⟩
    rcases List.mem_append.mp member with gone | given
    · exact accounts.kept owned gone
    · exact different (accounts.unique owned (Option.mem_toList.mp given))
  nodup := by
    refine List.Nodup.append accounts.nodup ?_ ?_
    · cases owner id with
      | none => exact List.nodup_nil
      | some resource => exact List.nodup_singleton resource
    · intro resource gone given
      exact accounts.kept (Option.mem_toList.mp given) gone
  complete := by
    intro resource
    rw [accounts.complete, List.mem_append, Option.mem_toList]
    constructor
    · rintro (gone | ⟨other, owned⟩)
      · exact Or.inl (Or.inl gone)
      · by_cases same : other = id
        · exact Or.inl (Or.inr (same ▸ owned))
        · exact Or.inr ⟨other, update_none_eq_some.mpr ⟨same, owned⟩⟩
    · rintro ((gone | owned) | ⟨other, owned⟩)
      · exact Or.inl gone
      · exact Or.inr ⟨id, owned⟩
      · exact Or.inr ⟨other, (update_none_eq_some.mp owned).2⟩

/-- A resource moves to an object that owns none. -/
theorem transfer (accounts : Accounted acquired ended owner) {target source : Id}
    (different : target ≠ source) (free : owner target = none) :
    Accounted acquired ended (Owners.transfer owner target source) where
  unique := by
    intro first second resource left right
    rcases (transfer_eq_some different).mp left with ⟨isTarget, ownedLeft⟩ | ⟨_, moved, ownedLeft⟩
    · rcases (transfer_eq_some different).mp right with ⟨alsoTarget, _⟩ | ⟨_, moved, ownedRight⟩
      · exact isTarget.trans alsoTarget.symm
      · exact absurd (accounts.unique ownedRight ownedLeft) moved
    · rcases (transfer_eq_some different).mp right with ⟨_, ownedRight⟩ | ⟨_, _, ownedRight⟩
      · exact absurd (accounts.unique ownedLeft ownedRight) moved
      · exact accounts.unique ownedLeft ownedRight
  kept := by
    intro other resource owned
    rcases (transfer_eq_some different).mp owned with ⟨_, owned⟩ | ⟨_, _, owned⟩
    · exact accounts.kept owned
    · exact accounts.kept owned
  nodup := accounts.nodup
  complete := by
    intro resource
    rw [accounts.complete]
    apply or_congr_right
    constructor
    · rintro ⟨other, owned⟩
      by_cases same : other = source
      · exact ⟨target, (transfer_eq_some different).mpr (Or.inl ⟨rfl, same ▸ owned⟩)⟩
      · refine ⟨other, (transfer_eq_some different).mpr (Or.inr ⟨?_, same, owned⟩)⟩
        rintro rfl
        rw [free] at owned
        cases owned
    · rintro ⟨other, owned⟩
      rcases (transfer_eq_some different).mp owned with ⟨_, owned⟩ | ⟨_, _, owned⟩
      · exact ⟨source, owned⟩
      · exact ⟨other, owned⟩

end Accounted

/-! ## Histories keep the accounts -/

/-- The accounts are kept, and only objects that exist own something. -/
structure Consistent (owners : Owners Id) (ended : List Nat) : Prop where
  accounts : Accounted owners.acquired ended owners.owner
  existing : ∀ {id resource}, owners.owner id = some resource → owners.alive id = true

omit [DecidableEq Id] in
theorem consistent_start : (start : Owners Id).Consistent [] := ⟨Accounted.start, nofun⟩

omit [DecidableEq Id] in
theorem Consistent.absent {owners : Owners Id} {ended : List Nat}
    (consistent : owners.Consistent ended) {id : Id} (dead : owners.alive id = false) :
    owners.owner id = none := by
  cases owned : owners.owner id with
  | none => rfl
  | some resource =>
      have alive := consistent.existing owned
      rw [dead] at alive
      cases alive

theorem Consistent.apply {owners : Owners Id} {ended : List Nat}
    (consistent : owners.Consistent ended) {event : ObjectEvent Id}
    (permitted : owners.Permits event) :
    (owners.apply event).Consistent (ended ++ (owners.ending event).toList) := by
  have absent := fun id (dead : owners.alive id = false) => consistent.absent dead
  rcases consistent with ⟨accounts, existing⟩
  have stays : ∀ {id other : Id}, owners.alive other = true →
      Function.update owners.alive id true other = true := by
    intro id other alive
    by_cases same : other = id
    · rw [same, Function.update_self]
    · rw [Function.update_of_ne same, alive]
  cases event with
  | acquire id =>
      have nothing : ended ++ (owners.ending (.acquire id)).toList = ended := List.append_nil ended
      rw [nothing]
      refine ⟨accounts.acquire (absent id permitted), ?_⟩
      intro other resource owned
      rcases update_some_eq_some.mp owned with ⟨rfl, _⟩ | ⟨_, owned⟩
      · exact Function.update_self ..
      · exact stays (existing owned)
  | moveConstruct target source =>
      have different := permitted.ne
      have nothing : ended ++ (owners.ending (.moveConstruct target source)).toList = ended :=
        List.append_nil ended
      rw [nothing]
      refine ⟨accounts.transfer different (absent target permitted.1), ?_⟩
      intro other resource owned
      rcases (transfer_eq_some different).mp owned with ⟨rfl, _⟩ | ⟨_, _, owned⟩
      · exact Function.update_self ..
      · exact stays (existing owned)
  | moveAssign target source =>
      by_cases same : target = source
      · rw [Owners.apply, ending, if_pos same, if_pos same, Option.toList_none, List.append_nil]
        exact ⟨accounts, existing⟩
      · rw [Owners.apply, ending, if_neg same, if_neg same]
        have given := accounts.giveUp target
        have moved := given.transfer same (Function.update_self ..)
        rw [transfer_update_none owners.owner same] at moved
        refine ⟨moved, ?_⟩
        intro other resource owned
        rcases (transfer_eq_some same).mp owned with ⟨rfl, _⟩ | ⟨_, _, owned⟩
        · exact permitted.1
        · exact existing owned
  | use id =>
      have nothing : ended ++ (owners.ending (.use id)).toList = ended := List.append_nil ended
      rw [nothing]
      exact ⟨accounts, existing⟩
  | destroy id =>
      refine ⟨accounts.giveUp id, ?_⟩
      intro other resource owned
      rcases update_none_eq_some.mp owned with ⟨different, owned⟩
      exact (Function.update_of_ne different _ _).trans (existing owned)

/-- The accounts are kept along a whole history. -/
theorem Consistent.applyAll {owners : Owners Id} {ended : List Nat} {events : List (ObjectEvent Id)}
    (consistent : owners.Consistent ended) (permitted : owners.PermitsAll events) :
    (owners.applyAll events).Consistent (ended ++ owners.endings events) := by
  induction events generalizing owners ended with
  | nil => exact (List.append_nil ended).symm ▸ consistent
  | cons event rest ih =>
      have next := ih (consistent.apply permitted.1) permitted.2
      rw [List.append_assoc] at next
      exact next

/-- When every object is destroyed, every resource was given up once. -/
theorem endings_perm {events : List (ObjectEvent Id)} (permitted : start.PermitsAll events)
    (destroyed : ∀ id, (start.applyAll events).alive id = false) :
    (start.endings events).Perm (List.range (start.applyAll events).acquired) := by
  have final := consistent_start.applyAll permitted
  rw [List.nil_append] at final
  apply (List.perm_ext_iff_of_nodup final.accounts.nodup List.nodup_range).mpr
  intro resource
  rw [List.mem_range, final.accounts.complete]
  refine ⟨Or.inl, ?_⟩
  rintro (gone | ⟨id, owned⟩)
  · exact gone
  · rw [final.absent (destroyed id)] at owned
    cases owned

/-! ## Moved-from objects -/

/-- What an object owns is moved to another object. -/
def Vacates (id : Id) : ObjectEvent Id → Prop
  | .moveConstruct _ source => source = id
  | .moveAssign target source => source = id ∧ target ≠ source
  | _ => False

/-- An object is created or assigned from another object. -/
def Fills (id : Id) : ObjectEvent Id → Prop
  | .acquire target => target = id
  | .moveConstruct target _ => target = id
  | .moveAssign target source => target = id ∧ target ≠ source
  | _ => False

/-- The last event that vacates or fills the object vacates it. -/
def MovedFrom (id : Id) (history : List (ObjectEvent Id)) : Prop :=
  ∃ earlier event later, history = earlier ++ event :: later ∧ Vacates id event ∧
    ∀ event ∈ later, ¬ Fills id event

theorem owner_vacates (owners : Owners Id) {id : Id} {event : ObjectEvent Id}
    (vacates : Vacates id event) : (owners.apply event).owner id = none := by
  cases event with
  | moveConstruct target source =>
      cases vacates
      exact Function.update_self ..
  | moveAssign target source =>
      rcases vacates with ⟨rfl, different⟩
      rw [Owners.apply, if_neg different]
      exact Function.update_self ..
  | acquire | use | destroy => cases vacates

theorem owner_not_fills {owners : Owners Id} {id : Id} {event : ObjectEvent Id}
    (free : owners.owner id = none) (not : ¬ Fills id event) :
    (owners.apply event).owner id = none := by
  cases event with
  | acquire target => exact (Function.update_of_ne (fun same => not same.symm) _ _).trans free
  | moveConstruct target source =>
      by_cases vacated : source = id
      · exact owner_vacates owners vacated
      · exact (Function.update_of_ne (Ne.symm vacated) _ _).trans
          ((Function.update_of_ne (fun same => not same.symm) _ _).trans free)
  | moveAssign target source =>
      by_cases same : target = source
      · rw [apply, if_pos same, free]
      · by_cases vacated : source = id
        · exact owner_vacates owners ⟨vacated, same⟩
        · rw [apply, if_neg same]
          exact (Function.update_of_ne (Ne.symm vacated) _ _).trans
            ((Function.update_of_ne (fun filled => not ⟨filled.symm, same⟩) _ _).trans free)
  | use target => exact free
  | destroy target =>
      by_cases gone : id = target
      · exact gone ▸ Function.update_self ..
      · exact (Function.update_of_ne gone _ _).trans free

/-- A moved-from object owns nothing. -/
theorem owner_of_movedFrom (owners : Owners Id) {id : Id} {history : List (ObjectEvent Id)}
    (moved : MovedFrom id history) : (owners.applyAll history).owner id = none := by
  rcases moved with ⟨earlier, event, later, rfl, vacates, untouched⟩
  rw [applyAll, List.foldl_append, List.foldl_cons]
  have vacated := owner_vacates (List.foldl apply owners earlier) vacates
  generalize (List.foldl apply owners earlier).apply event = middle at vacated ⊢
  induction later generalizing middle with
  | nil => exact vacated
  | cons next rest ih =>
      have free := owner_not_fills vacated (untouched next List.mem_cons_self)
      exact ih (fun event member => untouched event (List.mem_cons_of_mem _ member)) _ free

end Owners

end McuRom
