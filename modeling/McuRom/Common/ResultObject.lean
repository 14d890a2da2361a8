import McuRom.Common.Error

namespace McuRom

/-!
# Result objects

`McuResult<T>` keeps a flag for its value and an error code apart.  `is_ok`
looks at both of them, `is_err` at the code only, so that an object without a
value is told apart from one with a value only if its code is an error.

An object that represents a result has a value and no error code, or an error
code and no value.  It is shown which operations keep all objects so.
-/

variable {T : Type}

/-- The bytes of `storage_`: none of a `T` yet, a `T`, or what is left of one
that has been moved out. -/
inductive ResultStorage (T : Type) where
  | empty
  | holds (value : T)
  | movedFrom
deriving DecidableEq, Repr

/-- An object of class `McuResult<T>`. -/
structure ResultObject (T : Type) where
  storage : ResultStorage T
  hasValue : Bool
  error : McuError
deriving DecidableEq, Repr

namespace ResultObject

/-- `McuResult()` -/
def construct : ResultObject T := ⟨.empty, false, .success⟩

/-- `McuResult::Ok` -/
def ok (value : T) : ResultObject T := ⟨.holds value, true, .success⟩

/-- `McuResult::Err` -/
def err (error : McuError) : ResultObject T := { construct with error := error }

def isOk (this : ResultObject T) : Bool := this.error == .success && this.hasValue

def isErr (this : ResultObject T) : Bool := this.error != .success

/-- The object after its value has been moved out. -/
def moveOut (this : ResultObject T) : ResultObject T :=
  { this with storage := .movedFrom, hasValue := false }

/-- Move constructor: the new object, and what is left of the other. -/
def moveConstruct (other : ResultObject T) : ResultObject T × ResultObject T :=
  if other.hasValue then (⟨other.storage, true, other.error⟩, other.moveOut)
  else (⟨.empty, false, other.error⟩, other)

/-- The destructor, as far as it is part of an assignment. -/
def destroyed (this : ResultObject T) : ResultStorage T :=
  if this.hasValue then .empty else this.storage

/-- Move assignment from another object. -/
def moveAssign (this other : ResultObject T) : ResultObject T × ResultObject T :=
  if other.hasValue then (⟨other.storage, true, other.error⟩, other.moveOut)
  else (⟨this.destroyed, false, other.error⟩, other)

/-- `unwrap`, with the storage its result is made of.  It loops forever on an
object without a value. -/
def unwrap (this : ResultObject T) : Option (ResultStorage T × ResultObject T) :=
  if this.isErr || !this.hasValue then none else some (this.storage, this.moveOut)

/-- `unwrap_or` -/
def unwrapOr (this : ResultObject T) (defaultValue : T) : ResultStorage T × ResultObject T :=
  if this.isOk && this.hasValue then (this.storage, this.moveOut)
  else (.holds defaultValue, this)

/-- `value() &&`: a reference to the storage, which the object gives up. -/
def value (this : ResultObject T) : ResultStorage T × ResultObject T :=
  (this.storage, { this with hasValue := false })

/-- Exactly one of the predicates holds, and an object that is not an error
has a value to read. -/
structure Consistent (this : ResultObject T) : Prop where
  exactlyOne : this.isErr = !this.isOk
  readable : this.isErr = false → ∃ value, this.storage = .holds value

/-- The result an object stands for. -/
inductive Represents : ResultObject T → McuResult T → Prop where
  | ok (value : T) : Represents ⟨.holds value, true, .success⟩ (.ok value)
  | error (storage : ResultStorage T) {error : McuError} (failed : error ≠ .success) :
      Represents ⟨storage, false, error⟩ (.error error)

theorem Represents.consistent {this : ResultObject T} {result : McuResult T}
    (represents : this.Represents result) : this.Consistent := by
  cases represents with
  | ok value => exact ⟨rfl, fun _ => ⟨value, rfl⟩⟩
  | error storage failed =>
      have isErr : (⟨storage, false, _⟩ : ResultObject T).isErr = true := bne_iff_ne.mpr failed
      constructor
      · rw [isErr, isOk, Bool.and_false, Bool.not_false]
      · intro noError
        rw [isErr] at noError
        cases noError

/-- Without a value and without an error code an object is neither. -/
theorem not_consistent (storage : ResultStorage T) :
    ¬ Consistent ⟨storage, false, .success⟩ := fun consistent => by
  cases consistent.exactlyOne

/-- A caller that tests `is_err` and then reads the value finds the result. -/
theorem Represents.read {this : ResultObject T} {result : McuResult T}
    (represents : this.Represents result) :
    (this.isErr = true ∧ result = .error this.error) ∨
      (this.isErr = false ∧ ∃ value, this.value.1 = .holds value ∧ result = .ok value) := by
  cases represents with
  | ok value => exact Or.inr ⟨rfl, value, rfl, rfl⟩
  | error storage failed => exact Or.inl ⟨bne_iff_ne.mpr failed, rfl⟩

end ResultObject

/-! ## Programs over result objects -/

/-- The operations.  Objects are numbered in the order of their construction. -/
inductive ResultOp (T : Type) where
  | construct
  | ok (value : T)
  | err (error : McuError)
  | moveConstruct (source : Nat)
  | moveAssign (target source : Nat)
  | unwrap (object : Nat)
  | unwrapOr (object : Nat) (defaultValue : T)
  | value (object : Nat)
deriving DecidableEq, Repr

namespace ResultOp

/-- The objects after an operation.  There is no state after one that loops,
and no operation on an object that does not exist. -/
def step (objects : List (ResultObject T)) : ResultOp T → Option (List (ResultObject T))
  | construct => some (objects ++ [.construct])
  | ok content => some (objects ++ [.ok content])
  | err error => some (objects ++ [.err error])
  | moveConstruct source =>
    objects[source]?.map fun other =>
      objects.set source other.moveConstruct.2 ++ [other.moveConstruct.1]
  | moveAssign target source =>
    objects[target]?.bind fun this => objects[source]?.map fun other =>
      if target = source then objects
      else (objects.set target (this.moveAssign other).1).set source (this.moveAssign other).2
  | unwrap object =>
    objects[object]?.bind fun this => this.unwrap.map fun taken => objects.set object taken.2
  | unwrapOr object defaultValue =>
    objects[object]?.map fun this => objects.set object (this.unwrapOr defaultValue).2
  | value object => objects[object]?.map fun this => objects.set object this.value.2

/-- Every state a program reaches. -/
def states (objects : List (ResultObject T)) : List (ResultOp T) → List (List (ResultObject T))
  | [] => [objects]
  | op :: rest =>
    objects :: match op.step objects with
      | some next => states next rest
      | none => []

/-- An object that exists has no value. -/
def Valueless (objects : List (ResultObject T)) (object : Nat) : Prop :=
  ∀ this ∈ objects[object]?, this.hasValue = false

/-- The operation neither makes an object that is nothing nor takes the value
out of one that has a value. -/
def Keeps (objects : List (ResultObject T)) : ResultOp T → Prop
  | construct => False
  | ok _ => True
  | err error => error ≠ .success
  | moveConstruct source => Valueless objects source
  | moveAssign target source =>
    target ≠ source → target < objects.length → Valueless objects source
  | unwrap object | unwrapOr object _ | value object => Valueless objects object

/-- All operations of a program do so, in the states they are called in. -/
def KeepsAll (objects : List (ResultObject T)) : List (ResultOp T) → Prop
  | [] => True
  | op :: rest =>
    op.Keeps objects ∧ match op.step objects with
      | some next => KeepsAll next rest
      | none => True

/-! ## What an operation does to the objects -/

/-- All objects stand for results. -/
def AllRepresent (objects : List (ResultObject T)) : Prop :=
  ∀ this ∈ objects, ∃ result, this.Represents result

variable {objects : List (ResultObject T)}

theorem AllRepresent.get (represent : AllRepresent objects) {object : Nat}
    {this : ResultObject T} (found : objects[object]? = some this) :
    ∃ result, this.Represents result :=
  represent this (List.mem_of_getElem? found)

theorem AllRepresent.append (represent : AllRepresent objects) {added : ResultObject T}
    {result : McuResult T} (represents : added.Represents result) :
    AllRepresent (objects ++ [added]) := by
  intro this member
  rcases List.mem_append.mp member with earlier | last
  · exact represent this earlier
  · rw [List.mem_singleton.mp last]
    exact ⟨result, represents⟩

theorem AllRepresent.set (represent : AllRepresent objects) (object : Nat)
    {changed : ResultObject T} {result : McuResult T} (represents : changed.Represents result) :
    AllRepresent (objects.set object changed) := by
  intro this member
  rcases List.mem_or_eq_of_mem_set member with other | same
  · exact represent this other
  · rw [same]
    exact ⟨result, represents⟩

/-- Some object in a state is not consistent. -/
def Broken (objects : List (ResultObject T)) : Prop := ∃ this ∈ objects, ¬ this.Consistent

theorem broken_set {object : Nat} {this : ResultObject T} (found : objects[object]? = some this)
    (storage : ResultStorage T) : Broken (objects.set object ⟨storage, false, .success⟩) := by
  rcases List.getElem?_eq_some_iff.mp found with ⟨inside, _⟩
  exact ⟨_, List.mem_set inside _, ResultObject.not_consistent storage⟩

/-- Objects without a value stand for errors. -/
theorem AllRepresent.valueless (represent : AllRepresent objects) {object : Nat}
    (valueless : Valueless objects object) {this : ResultObject T}
    (found : objects[object]? = some this) :
    ∃ storage error, this = ⟨storage, false, error⟩ ∧ error ≠ .success := by
  rcases represent.get found with ⟨result, represents⟩
  cases represents with
  | ok content => cases valueless _ found
  | error storage failed => exact ⟨storage, _, rfl, failed⟩

/-- The other objects hold their value. -/
theorem AllRepresent.holding (represent : AllRepresent objects) {object : Nat}
    (holding : ¬ Valueless objects object) :
    ∃ content, objects[object]? = some ⟨.holds content, true, .success⟩ := by
  rw [Valueless, not_forall] at holding
  rcases holding with ⟨this, holding⟩
  rcases Classical.not_imp.mp holding with ⟨found, full⟩
  rcases represent.get found with ⟨result, represents⟩
  cases represents with
  | ok content => exact ⟨content, found⟩
  | error storage failed => exact absurd rfl full

/-- Objects keep standing for results as long as none is made that is nothing
and no value is taken out. -/
theorem step_represent (represent : AllRepresent objects) {op : ResultOp T}
    (keeps : op.Keeps objects) {next : List (ResultObject T)} (steps : op.step objects = some next) :
    AllRepresent next := by
  cases op with
  | construct => exact keeps.elim
  | ok content =>
      cases steps
      exact represent.append (.ok content)
  | err error =>
      cases steps
      exact represent.append (.error .empty keeps)
  | moveConstruct source =>
      rcases Option.map_eq_some_iff.mp steps with ⟨other, found, rfl⟩
      rcases represent.valueless keeps found with ⟨storage, error, rfl, failed⟩
      exact (represent.set source (.error storage failed)).append (.error .empty failed)
  | moveAssign target source =>
      rcases Option.bind_eq_some_iff.mp steps with ⟨this, foundTarget, rest⟩
      rcases Option.map_eq_some_iff.mp rest with ⟨other, found, rfl⟩
      by_cases self : target = source
      · rw [if_pos self]
        exact represent
      · rw [if_neg self]
        have inside := (List.getElem?_eq_some_iff.mp foundTarget).1
        rcases represent.valueless (keeps self inside) found with ⟨storage, error, rfl, failed⟩
        exact (represent.set target (.error this.destroyed failed)).set source
          (.error storage failed)
  | unwrap object =>
      rcases Option.bind_eq_some_iff.mp steps with ⟨this, found, rest⟩
      rcases Option.map_eq_some_iff.mp rest with ⟨taken, unwrapped, rfl⟩
      rcases represent.valueless keeps found with ⟨storage, error, rfl, failed⟩
      rw [ResultObject.unwrap, Bool.not_false, Bool.or_true] at unwrapped
      cases unwrapped
  | unwrapOr object defaultValue =>
      rcases Option.map_eq_some_iff.mp steps with ⟨this, found, rfl⟩
      rcases represent.valueless keeps found with ⟨storage, error, rfl, failed⟩
      rw [ResultObject.unwrapOr, Bool.and_false]
      exact represent.set object (.error storage failed)
  | value object =>
      rcases Option.map_eq_some_iff.mp steps with ⟨this, found, rfl⟩
      rcases represent.valueless keeps found with ⟨storage, error, rfl, failed⟩
      exact represent.set object (.error storage failed)

/-- Any other operation breaks an object. -/
theorem step_broken (represent : AllRepresent objects) {op : ResultOp T}
    (breaks : ¬ op.Keeps objects) : ∃ next, op.step objects = some next ∧ Broken next := by
  cases op with
  | construct =>
      exact ⟨_, rfl, _, List.mem_append_right _ (List.mem_singleton_self _),
        ResultObject.not_consistent .empty⟩
  | ok content => exact absurd trivial breaks
  | err error =>
      rw [Keeps, not_not] at breaks
      subst breaks
      exact ⟨_, rfl, _, List.mem_append_right _ (List.mem_singleton_self _),
        ResultObject.not_consistent .empty⟩
  | moveConstruct source =>
      rcases represent.holding breaks with ⟨content, found⟩
      rcases broken_set found .movedFrom with ⟨left, member, broken⟩
      refine ⟨_, by rw [step, found]; rfl, left, List.mem_append_left _ member, broken⟩
  | moveAssign target source =>
      rcases Classical.not_imp.mp breaks with ⟨other, breaks⟩
      rcases Classical.not_imp.mp breaks with ⟨inside, breaks⟩
      rcases represent.holding breaks with ⟨content, found⟩
      have foundTarget := List.getElem?_eq_getElem inside
      refine ⟨_, by rw [step, found, foundTarget]; exact congrArg some (if_neg other), ?_⟩
      apply broken_set
      rw [List.getElem?_set_ne other]
      exact found
  | unwrap object =>
      rcases represent.holding breaks with ⟨content, found⟩
      exact ⟨_, by rw [step, found]; rfl, broken_set found .movedFrom⟩
  | unwrapOr object defaultValue =>
      rcases represent.holding breaks with ⟨content, found⟩
      exact ⟨_, by rw [step, found]; rfl, broken_set found .movedFrom⟩
  | value object =>
      rcases represent.holding breaks with ⟨content, found⟩
      exact ⟨_, by rw [step, found]; rfl, broken_set found (.holds content)⟩

/-- Over whole programs: every object in every reached state is a value or an
error exactly if all operations keep them so. -/
theorem states_consistent_iff (represent : AllRepresent objects) (ops : List (ResultOp T)) :
    (∀ reached ∈ states objects ops, ∀ this ∈ reached, this.Consistent) ↔
      KeepsAll objects ops := by
  induction ops generalizing objects with
  | nil =>
      refine iff_of_true (fun reached member this inside => ?_) trivial
      rw [List.mem_singleton.mp member] at inside
      rcases represent this inside with ⟨result, represents⟩
      exact represents.consistent
  | cons op rest ih =>
      have now : ∀ this ∈ objects, this.Consistent := by
        intro this inside
        rcases represent this inside with ⟨result, represents⟩
        exact represents.consistent
      rw [states, List.forall_mem_cons, and_iff_right now, KeepsAll]
      by_cases keeps : op.Keeps objects
      · rw [and_iff_right keeps]
        cases steps : op.step objects with
        | none => exact iff_of_true (fun _ impossible => by cases impossible) trivial
        | some next => exact ih (step_represent represent keeps steps)
      · rcases step_broken represent keeps with ⟨next, steps, this, inside, broken⟩
        refine iff_of_false (fun consistent => broken ?_) fun both => keeps both.1
        rw [steps] at consistent
        refine consistent next ?_ this inside
        cases rest <;> exact List.mem_cons_self

end ResultOp

/-- Starting without objects, a program keeps all its result objects values or
errors exactly if it never makes one that is nothing and never takes a value
out of one. -/
theorem resultObjects_consistent_iff (ops : List (ResultOp T)) :
    (∀ reached ∈ ResultOp.states [] ops, ∀ this ∈ reached, this.Consistent) ↔
      ResultOp.KeepsAll [] ops :=
  ResultOp.states_consistent_iff (fun _ impossible => by cases impossible) ops

/-- A result object that has just been constructed is neither a value nor an
error, and holds nothing to read; so is one whose value has been moved. -/
theorem constructed_neither :
    (ResultObject.construct : ResultObject Word).isOk = false ∧
      (ResultObject.construct : ResultObject Word).isErr = false ∧
      (ResultObject.construct : ResultObject Word).value.1 = .empty ∧
      ¬ ∀ reached ∈ ResultOp.states [] [ResultOp.ok (7 : Word), .moveConstruct 0],
        ∀ this ∈ reached, this.Consistent := by
  refine ⟨rfl, rfl, rfl, fun consistent => ?_⟩
  have moved := consistent _ (List.mem_cons_of_mem _ (List.mem_cons_of_mem _ List.mem_cons_self)) _
    List.mem_cons_self
  cases moved.exactlyOne

end McuRom
