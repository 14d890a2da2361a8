import McuRom.Common.Ownership
import McuRom.Mailbox.Iteration

namespace McuRom

open Mmio

/-!
# Who releases a response

Response objects are created, moved, iterated and destroyed.  The objects of a
program are kept in a store, in which an object that does not exist has no
response.  The result is that the flag `released_` implements ownership: every
response that is constructed is released once, where its ownership ends.
-/

/-- What a program does with its response objects. -/
inductive ResponseOp (Id : Type) where
  | construct (id : Id) (mboxBase : Word) (dlenBytes : SizeT) (expectedChecksum : Word)
  | moveConstruct (target source : Id)
  | moveAssign (target source : Id)
  | next (id : Id)
  | reset (id : Id)
  | destroy (id : Id)
deriving DecidableEq, Repr

/-- The response objects that exist. -/
abbrev ResponseStore (Id : Type) := Id → Option CaliptraMailboxResponse

namespace ResponseOp

variable {Id : Type} [DecidableEq Id]

/-! ## Execution -/

/-- Execute one operation.  An operation on an object that does not exist is
undefined, and stands for nothing here. -/
def exec (store : ResponseStore Id) : ResponseOp Id → Driver (ResponseStore Id)
  | .construct id mboxBase dlenBytes expectedChecksum =>
    pure (Function.update store id (some (.construct mboxBase dlenBytes expectedChecksum)))
  | .moveConstruct target source =>
    match store source with
    | none => pure store
    | some other =>
      let (moved, left) := other.moveConstruct
      pure (Function.update (Function.update store target (some moved)) source (some left))
  | .moveAssign target source =>
    if target = source then pure store
    else
      match store target, store source with
      | some overwritten, some other => do
        let (moved, left) ← overwritten.moveAssign other
        pure (Function.update (Function.update store target (some moved)) source (some left))
      | _, _ => pure store
  | .next id =>
    match store id with
    | none => pure store
    | some response => do
      let (_, response) ← response.next
      pure (Function.update store id (some response))
  | .reset id =>
    match store id with
    | none => pure store
    | some response => pure (Function.update store id (some response.reset))
  | .destroy id =>
    match store id with
    | none => pure store
    | some response => do
      response.destroy
      pure (Function.update store id none)

/-- Execute a sequence of operations. -/
def execAll (store : ResponseStore Id) : List (ResponseOp Id) → Driver (ResponseStore Id)
  | [] => pure store
  | op :: rest => do
    let store ← exec store op
    execAll store rest

/-! ## Ownership -/

/-- What an operation means for the ownership of responses. -/
def event : ResponseOp Id → ObjectEvent Id
  | .construct id _ _ _ => .acquire id
  | .moveConstruct target source => .moveConstruct target source
  | .moveAssign target source => .moveAssign target source
  | .next id => .use id
  | .reset id => .use id
  | .destroy id => .destroy id

/-- The owners after a sequence of operations. -/
def ownersAfter (ops : List (ResponseOp Id)) : Owners Id := Owners.start.applyAll (ops.map event)

/-- The mailbox base of a response that is being constructed. -/
def constructed? : ResponseOp Id → Option Word
  | .construct _ mboxBase _ _ => some mboxBase
  | _ => none

/-- The mailbox bases of the responses that are constructed, in order. -/
def mailboxes (ops : List (ResponseOp Id)) : List Word := ops.filterMap constructed?

/-- The mailbox of the response that an operation of a sequence ends the
ownership of. -/
def endingMailbox (ops before : List (ResponseOp Id)) (op : ResponseOp Id) : Option Word :=
  ((ownersAfter before).ending op.event).bind fun number => (mailboxes ops)[number]?

/-- The release write for a mailbox. -/
def releaseWrite (mboxBase : Word) : Word × Word :=
  (mboxBase + CaliptraMailboxResponse.mboxExecute, 0)

/-- Every object is created before it is used, and destroyed once. -/
def Lifetimes (ops : List (ResponseOp Id)) : Prop :=
  Owners.start.PermitsAll (ops.map event) ∧ ∀ id, (ownersAfter ops).alive id = false

/-- An operation that destroys an object or assigns to it. -/
def Ends (id : Id) : ResponseOp Id → Prop
  | .moveAssign target _ => target = id
  | .destroy target => target = id
  | _ => False

variable {σ : Type} (dev : Device Word Word σ) (state : σ)

/-- The register writes of a sequence of operations. -/
def writesOf (ops : List (ResponseOp Id)) : List (Word × Word) :=
  Access.writes ((execAll (fun _ => none) ops).run dev state).trace

/-- Each response is released once, to the mailbox it was constructed with, at
the operation that ends its ownership, and there are no other writes. -/
structure ReleasedOnce (ops : List (ResponseOp Id)) : Prop where
  atEnd : ∀ before op after, ops = before ++ op :: after →
    writesOf dev state (before ++ [op]) =
      writesOf dev state before ++ ((endingMailbox ops before op).map releaseWrite).toList
  once : (Owners.start.endings (ops.map event)).Perm (List.range (mailboxes ops).length)
  movedFrom : ∀ before op after id, ops = before ++ op :: after →
    Owners.MovedFrom id (before.map event) → op.Ends id →
    writesOf dev state (before ++ [op]) = writesOf dev state before

/-! ## The flag is ownership -/

/-- An object owns a response of its mailbox, or has nothing to release. -/
def Backs (bases : List Word) (owned : Option Nat) (response : CaliptraMailboxResponse) : Prop :=
  match owned with
  | none => response.released = true
  | some number => response.released = false ∧ bases[number]? = some response.mboxBase

/-- The store holds the objects that exist, and their flags say who owns. -/
structure Agrees (store : ResponseStore Id) (owners : Owners Id) (bases : List Word) : Prop where
  existing : ∀ id, owners.alive id = (store id).isSome
  counted : owners.acquired = bases.length
  backs : ∀ {id response}, store id = some response → Backs bases (owners.owner id) response

omit [DecidableEq Id] in
theorem mailboxes_cons (op : ResponseOp Id) (rest : List (ResponseOp Id)) :
    mailboxes (op :: rest) = op.constructed?.toList ++ mailboxes rest := by
  cases op <;> rfl

/-- The release writes that end the ownership of a response. -/
def releases (bases : List Word) (ended : Option Nat) : List (Word × Word) :=
  ((ended.bind fun number => bases[number]?).map releaseWrite).toList

/-- An object writes exactly if it owns a response. -/
theorem Backs.writes_release {bases : List Word} {owned : Option Nat}
    {response : CaliptraMailboxResponse} (backs : Backs bases owned response) :
    Access.writes (response.release.run dev state).trace = releases bases owned := by
  cases owned with
  | none =>
      have released : response.released = true := backs
      rw [CaliptraMailboxResponse.release, if_pos released]
      rfl
  | some number =>
      rw [CaliptraMailboxResponse.release, backs.1, releases, Option.bind_some, backs.2]
      rfl

theorem Backs.mono {bases : List Word} {owned : Option Nat} {response : CaliptraMailboxResponse}
    (backs : Backs bases owned response) (later : List Word) :
    Backs (bases ++ later) owned response := by
  cases owned with
  | none => exact backs
  | some number =>
      have bound := List.getElem?_eq_some_iff.mp backs.2
      exact ⟨backs.1, (List.getElem?_append_left bound.1).trans backs.2⟩

theorem Backs.congr {bases : List Word} {owned : Option Nat}
    {first second : CaliptraMailboxResponse} (backs : Backs bases owned first)
    (base : second.mboxBase = first.mboxBase) (released : second.released = first.released) :
    Backs bases owned second := by
  cases owned with
  | none => exact released.trans backs
  | some number => exact ⟨released.trans backs.1, base ▸ backs.2⟩

theorem run_moveAssign (target other : CaliptraMailboxResponse) :
    (target.moveAssign other).run dev state =
      ⟨(target.release.run dev state).trace, (other, { other with released := true }),
        (target.release.run dev state).state⟩ := by
  rw [CaliptraMailboxResponse.moveAssign, Program.run_bind, Program.pure_eq, Program.run_ret,
    Run.after_mk, List.append_nil]

/-- `next` writes nothing, and keeps the mailbox and the flag. -/
theorem run_next (response : CaliptraMailboxResponse) :
    Access.writes (response.next.run dev state).trace = [] ∧
      (response.next.run dev state).result.2.mboxBase = response.mboxBase ∧
      (response.next.run dev state).result.2.released = response.released := by
  by_cases done : response.wordCount ≤ response.idx
  · rw [CaliptraMailboxResponse.next_done done]
    exact ⟨rfl, rfl, rfl⟩
  · by_cases start : response.idx = 0
    · rw [CaliptraMailboxResponse.next_header start done]
      exact ⟨rfl, rfl, rfl⟩
    · rw [CaliptraMailboxResponse.next_word start done]
      exact ⟨rfl, rfl, rfl⟩

namespace Agrees

variable {store : ResponseStore Id} {owners : Owners Id} {bases : List Word}

omit [DecidableEq Id] in
theorem present (agrees : Agrees store owners bases) {id : Id} (alive : owners.alive id = true) :
    ∃ response, store id = some response := by
  rw [agrees.existing] at alive
  exact Option.isSome_iff_exists.mp alive

omit [DecidableEq Id] in
theorem alive (agrees : Agrees store owners bases) {id : Id} {response : CaliptraMailboxResponse}
    (held : store id = some response) : owners.alive id = true := by
  rw [agrees.existing, held]
  rfl

theorem existing_update (agrees : Agrees store owners bases) (id : Id)
    (held : Option CaliptraMailboxResponse) (other : Id) :
    Function.update owners.alive id held.isSome other =
      (Function.update store id held other).isSome := by
  rw [Function.apply_update fun _ => Option.isSome, ← funext agrees.existing]

/-- A new object owns a new response. -/
theorem construct (agrees : Agrees store owners bases) (id : Id) (mboxBase : Word)
    (dlenBytes : SizeT) (expectedChecksum : Word) :
    Agrees (Function.update store id (some (.construct mboxBase dlenBytes expectedChecksum)))
      (owners.apply (.acquire id)) (bases ++ [mboxBase]) where
  existing := agrees.existing_update id (some _)
  counted := by
    rw [List.length_append, ← agrees.counted]
    rfl
  backs := by
    intro other response stored
    rcases Owners.update_some_eq_some.mp stored with ⟨rfl, rfl⟩ | ⟨different, stored⟩
    · change Backs _ (Function.update owners.owner other _ other) _
      rw [Function.update_self, agrees.counted]
      exact ⟨rfl, List.getElem?_concat_length⟩
    · change Backs _ (Function.update owners.owner id _ other) _
      rw [Function.update_of_ne different]
      exact (agrees.backs stored).mono [mboxBase]

/-- An object takes over what another one owns. -/
theorem transfer (agrees : Agrees store owners bases) {target source : Id}
    {other : CaliptraMailboxResponse} (different : target ≠ source)
    (held : store source = some other) :
    Agrees (Function.update (Function.update store target (some other)) source
        (some { other with released := true }))
      ⟨Function.update owners.alive target true, Owners.transfer owners.owner target source,
        owners.acquired⟩ bases where
  existing := by
    intro id
    have kept := (Function.update_of_ne different.symm true owners.alive).trans (agrees.alive held)
    rw [Function.apply_update fun _ => Option.isSome,
      ← funext (agrees.existing_update target (some other))]
    exact congrFun (Function.update_eq_self_iff.mpr kept.symm).symm id
  counted := agrees.counted
  backs := by
    intro id response stored
    rcases Owners.update_some_eq_some.mp stored with ⟨rfl, rfl⟩ | ⟨apart, stored⟩
    · change Backs _ (Owners.transfer owners.owner target id id) _
      rw [Owners.transfer, Function.update_self]
      rfl
    · change Backs _ (Owners.transfer owners.owner target source id) _
      rw [Owners.transfer, Function.update_of_ne apart]
      rcases Owners.update_some_eq_some.mp stored with ⟨rfl, rfl⟩ | ⟨others, stored⟩
      · rw [Function.update_self]
        exact agrees.backs held
      · rw [Function.update_of_ne others]
        exact agrees.backs stored

/-- An object is iterated. -/
theorem replace (agrees : Agrees store owners bases) {id : Id}
    {response later : CaliptraMailboxResponse} (held : store id = some response)
    (base : later.mboxBase = response.mboxBase) (released : later.released = response.released) :
    Agrees (Function.update store id (some later)) owners bases where
  existing := by
    intro other
    rw [← agrees.existing_update id (some later) other]
    exact congrFun (Function.update_eq_self_iff.mpr (agrees.alive held).symm).symm other
  counted := agrees.counted
  backs := by
    intro other current stored
    rcases Owners.update_some_eq_some.mp stored with ⟨rfl, rfl⟩ | ⟨_, stored⟩
    · exact (agrees.backs held).congr base released
    · exact agrees.backs stored

/-- An object is destroyed. -/
theorem destroy (agrees : Agrees store owners bases) (id : Id) :
    Agrees (Function.update store id none) (owners.apply (.destroy id)) bases where
  existing := agrees.existing_update id none
  counted := agrees.counted
  backs := by
    intro other current stored
    rcases Owners.update_none_eq_some.mp stored with ⟨different, stored⟩
    change Backs _ (Function.update owners.owner id none other) _
    rw [Function.update_of_ne different]
    exact agrees.backs stored

/-- A response that is given up was constructed before, so later constructions
do not matter. -/
theorem releases_ending (agrees : Agrees store owners bases) {op : ResponseOp Id}
    (permitted : owners.Permits op.event) (later : List Word) :
    releases bases (owners.ending op.event) = releases (bases ++ later) (owners.ending op.event) := by
  have backed : ∀ {id}, owners.alive id = true →
      releases bases (owners.owner id) = releases (bases ++ later) (owners.owner id) := by
    intro id alive
    rcases agrees.present alive with ⟨response, held⟩
    have backs := agrees.backs held
    cases owned : owners.owner id with
    | none => rfl
    | some number =>
        rw [owned] at backs
        rw [releases, releases, Option.bind_some, Option.bind_some, backs.2,
          (backs.mono later).2]
  cases op with
  | moveAssign target source =>
      rw [event, Owners.ending]
      split
      · rfl
      · exact backed permitted.1
  | destroy id => exact backed permitted
  | construct | moveConstruct | next | reset => rfl

/-- An operation writes the release of the response whose ownership it ends,
and the flags keep saying who owns. -/
theorem exec (agrees : Agrees store owners bases) {op : ResponseOp Id}
    (permitted : owners.Permits op.event) :
    Access.writes ((op.exec store).run dev state).trace =
        releases bases (owners.ending op.event) ∧
      Agrees ((op.exec store).run dev state).result (owners.apply op.event)
        (bases ++ op.constructed?.toList) := by
  cases op with
  | construct id mboxBase dlenBytes expectedChecksum =>
      exact ⟨rfl, agrees.construct id mboxBase dlenBytes expectedChecksum⟩
  | moveConstruct target source =>
      rcases agrees.present permitted.2 with ⟨other, held⟩
      have same : bases ++ (moveConstruct target source).constructed?.toList = bases :=
        List.append_nil bases
      rw [same, ResponseOp.exec, held]
      exact ⟨rfl, agrees.transfer (Owners.Permits.ne permitted) held⟩
  | moveAssign target source =>
      rcases agrees.present permitted.1 with ⟨overwritten, owned⟩
      rcases agrees.present permitted.2 with ⟨other, held⟩
      have same : bases ++ (moveAssign target source).constructed?.toList = bases :=
        List.append_nil bases
      rw [same, event, Owners.apply, Owners.ending, ResponseOp.exec]
      by_cases self : target = source
      · rw [if_pos self, if_pos self, if_pos self]
        exact ⟨rfl, agrees⟩
      · rw [if_neg self, if_neg self, if_neg self, owned, held]
        have alive : Function.update owners.alive target true = owners.alive :=
          Function.update_eq_self_iff.mpr (agrees.alive owned).symm
        have moved := agrees.transfer self held
        have written := (agrees.backs owned).writes_release dev state
        rw [alive] at moved
        dsimp only
        rw [Program.run_bind, run_moveAssign, Run.after_trace, Access.writes_append, written]
        exact ⟨List.append_nil _, moved⟩
  | next id =>
      rcases agrees.present permitted with ⟨response, held⟩
      rcases run_next dev state response with ⟨silent, base, released⟩
      have same : bases ++ (next id).constructed?.toList = bases := List.append_nil bases
      rw [same, ResponseOp.exec, held]
      dsimp only
      rw [Program.run_bind, Run.after_trace, Access.writes_append, silent]
      exact ⟨rfl, agrees.replace held base released⟩
  | reset id =>
      rcases agrees.present permitted with ⟨response, held⟩
      have same : bases ++ (reset id).constructed?.toList = bases := List.append_nil bases
      rw [same, ResponseOp.exec, held]
      exact ⟨rfl, agrees.replace held rfl rfl⟩
  | destroy id =>
      rcases agrees.present permitted with ⟨response, held⟩
      have written := (agrees.backs held).writes_release dev state
      have same : bases ++ (ResponseOp.destroy id).constructed?.toList = bases := List.append_nil bases
      rw [same, ResponseOp.exec, held]
      dsimp only
      rw [CaliptraMailboxResponse.destroy, Program.run_bind, Run.after_trace, Access.writes_append,
        written]
      exact ⟨List.append_nil _, agrees.destroy id⟩

/-- The flags say who owns after a whole sequence. -/
theorem execAll (agrees : Agrees store owners bases) {ops : List (ResponseOp Id)}
    (permitted : owners.PermitsAll (ops.map event)) :
    Agrees ((ResponseOp.execAll store ops).run dev state).result
      (owners.applyAll (ops.map event)) (bases ++ mailboxes ops) := by
  induction ops generalizing store owners bases state with
  | nil => exact (List.append_nil bases).symm ▸ agrees
  | cons op rest ih =>
      have next := (agrees.exec dev state permitted.1).2
      have later := ih ((op.exec store).run dev state).state next permitted.2
      rw [List.append_assoc, ← mailboxes_cons] at later
      rw [ResponseOp.execAll, Program.run_bind, Run.after_result]
      exact later

end Agrees

/-! ## Released once -/

omit [DecidableEq Id] in
theorem agrees_start : Agrees (fun _ : Id => none) Owners.start [] where
  existing _ := rfl
  counted := rfl
  backs := nofun

theorem run_execAll_append (store : ResponseStore Id) (before : List (ResponseOp Id))
    (op : ResponseOp Id) :
    ∃ final, Access.writes ((execAll store (before ++ [op])).run dev state).trace =
      Access.writes ((execAll store before).run dev state).trace ++
        Access.writes ((op.exec ((execAll store before).run dev state).result).run dev final).trace := by
  induction before generalizing store state with
  | nil =>
      refine ⟨state, ?_⟩
      change Access.writes ((op.exec store >>= fun store => execAll store []).run dev state).trace = _
      rw [Program.run_bind, Run.after_trace, Access.writes_append]
      exact List.append_nil _
  | cons first rest ih =>
      rcases ih ((first.exec store).run dev state).state ((first.exec store).run dev state).result
        with ⟨final, later⟩
      refine ⟨final, ?_⟩
      rw [List.cons_append, execAll, execAll, Program.run_bind, Program.run_bind, Run.after_trace,
        Run.after_trace, Run.after_result, Access.writes_append, Access.writes_append, later,
        List.append_assoc]

variable {ops : List (ResponseOp Id)}

/-- Response objects release every response once. -/
theorem releasedOnce (lifetimes : Lifetimes ops) : ReleasedOnce dev state ops := by
  rcases lifetimes with ⟨permitted, destroyed⟩
  have atEnd : ∀ before op after, ops = before ++ op :: after →
      writesOf dev state (before ++ [op]) =
        writesOf dev state before ++ ((endingMailbox ops before op).map releaseWrite).toList := by
    rintro before op after rfl
    rw [List.map_append, Owners.permitsAll_append] at permitted
    have agrees := agrees_start.execAll dev state permitted.1
    rcases run_execAll_append dev state (fun _ => none) before op with ⟨final, written⟩
    have same := agrees.releases_ending permitted.2.1 (mailboxes (op :: after))
    have whole : mailboxes (before ++ op :: after) = mailboxes before ++ mailboxes (op :: after) :=
      List.filterMap_append ..
    rw [writesOf, written, (agrees.exec dev final permitted.2.1).1, same, List.nil_append,
      endingMailbox, whole]
    rfl
  refine ⟨atEnd, ?_, ?_⟩
  · have counted := (agrees_start.execAll dev state permitted).counted
    have exactly := Owners.endings_perm permitted destroyed
    rw [counted] at exactly
    exact exactly
  · intro before op after id split moved ends
    have free := Owners.owner_of_movedFrom Owners.start moved
    have silent : (ownersAfter before).ending op.event = none := by
      cases op with
      | moveAssign target source =>
          cases ends
          rw [event, Owners.ending]
          split
          · rfl
          · exact free
      | destroy target =>
          cases ends
          exact free
      | construct | moveConstruct | next | reset => cases ends
    rw [atEnd before op after split, endingMailbox, silent]
    exact List.append_nil _

/-- Two responses of one mailbox: the first is moved, iterated and assigned to
itself before the second overwrites it, and the second is moved on. -/
theorem releasedOnce_chain :
    ReleasedOnce Device.storage (fun _ => 0)
      [.construct (0 : Fin 3) 0x30020000 8 0, .moveConstruct 1 0, .next 1, .moveAssign 1 1,
        .construct 2 0x30020000 4 0, .moveAssign 1 2, .reset 1, .moveAssign 0 2, .destroy 2,
        .moveAssign 0 1, .destroy 1, .destroy 0] :=
  releasedOnce Device.storage (fun _ => 0) ⟨by decide, by decide⟩

end ResponseOp

end McuRom
