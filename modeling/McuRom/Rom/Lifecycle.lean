import McuRom.Common.Error
import McuRom.Mmio.Bits
import McuRom.Mmio.Device
import McuRom.Mmio.Objects
import McuRom.Mmio.RegisterArrays

namespace McuRom

open Mmio

/-!
# The lifecycle controller driver

The detailed state of the controller is encoded in five bits, of which
thirteen values have a meaning.  Everything else the driver says about the
lifecycle is said about this state.  A transition is requested by a command
and a token of four words.
-/

/-- Lifecycle controller states (high-level) -/
inductive LifecycleControllerState where
  | rawState
  | testUnlocked
  | testLocked
  | dev
  | prod
  | prodEnd
  | rma
  | scrap
  | invalid
deriving DecidableEq, Repr

/-- Lifecycle states (detailed hardware states) -/
inductive LifecycleState where
  | raw
  | testUnlocked0
  | testLocked0
  | testUnlocked1
  | testLocked1
  | testUnlocked2
  | testLocked2
  | testUnlocked3
  | dev
  | prod
  | prodEnd
  | rma
  | scrap
  | invalid
deriving DecidableEq, Repr

namespace LifecycleState

/-- The value of the enumerator. -/
def code : LifecycleState → Word
  | raw => 0
  | testUnlocked0 => 1
  | testLocked0 => 2
  | testUnlocked1 => 3
  | testLocked1 => 4
  | testUnlocked2 => 5
  | testLocked2 => 6
  | testUnlocked3 => 7
  | dev => 8
  | prod => 9
  | prodEnd => 10
  | rma => 11
  | scrap => 12
  | invalid => 0xFF

/-- The switch over the state bits. -/
def decode (stateVal : Word) : LifecycleState :=
  match stateVal.toNat with
  | 0 => raw
  | 1 => testUnlocked0
  | 2 => testLocked0
  | 3 => testUnlocked1
  | 4 => testLocked1
  | 5 => testUnlocked2
  | 6 => testLocked2
  | 7 => testUnlocked3
  | 8 => dev
  | 9 => prod
  | 10 => prodEnd
  | 11 => rma
  | 12 => scrap
  | _ => invalid

/-- The switch over the detailed state. -/
def controllerState : LifecycleState → LifecycleControllerState
  | raw => .rawState
  | testUnlocked0 | testUnlocked1 | testUnlocked2 | testUnlocked3 => .testUnlocked
  | testLocked0 | testLocked1 | testLocked2 => .testLocked
  | dev => .dev
  | prod => .prod
  | prodEnd => .prodEnd
  | rma => .rma
  | scrap => .scrap
  | invalid => .invalid

end LifecycleState

/-- Lifecycle controller driver -/
structure Lifecycle where
  baseAddr : Word
deriving DecidableEq, Repr

namespace Lifecycle

def regState : Word := 0x00
def regStatus : Word := 0x04
def regTransitionCmd : Word := 0x08
def regTransitionTokenBase : Word := 0x10
def tokenCount : Nat := 4

variable (lifecycle : Lifecycle)

def reg (offset : Word) : Word := lifecycle.baseAddr + offset

def readReg (offset : Word) : Driver Word := Program.readReg (lifecycle.reg offset)

def writeReg (offset value : Word) : Driver Unit := Program.writeReg (lifecycle.reg offset) value

/-- Get current lifecycle state (detailed) -/
def state : Driver LifecycleState := do
  let value ← lifecycle.readReg regState
  pure (.decode (value &&& 0x1F))

/-- Get current lifecycle controller state (high-level) -/
def currentState : Driver LifecycleControllerState := do
  let s ← lifecycle.state
  pure s.controllerState

/-- Check if lifecycle controller is initialized -/
def isInitialized : Driver Bool := do
  let status ← lifecycle.readReg regStatus
  pure (status &&& 0x01 != 0)

/-- Get raw status register value -/
def status : Driver Word := lifecycle.readReg regStatus

/-- Check if in manufacturing state -/
def isManufacturing : Driver Bool := do
  let s ← lifecycle.state
  pure (s == .raw || s == .testUnlocked0 || s == .testUnlocked1 || s == .testUnlocked2 ||
    s == .testUnlocked3 || s == .testLocked0 || s == .testLocked1 || s == .testLocked2)

/-- Check if in production state -/
def isProduction : Driver Bool := do
  let s ← lifecycle.state
  pure (s == .prod || s == .prodEnd)

/-- Check if in RMA state -/
def isRma : Driver Bool := do
  let s ← lifecycle.state
  pure (s == .rma)

/-- Check if in development state -/
def isDev : Driver Bool := do
  let s ← lifecycle.state
  pure (s == .dev)

/-- Check if debug is locked -/
def isDebugLocked : Driver Bool := do
  let s ← lifecycle.state
  pure (s == .prod || s == .prodEnd || s == .testLocked0 || s == .testLocked1 || s == .testLocked2)

/-- Request lifecycle transition -/
def requestTransition (targetState : LifecycleState) : Driver (McuResult Unit) := do
  -- Write transition command
  lifecycle.writeReg regTransitionCmd targetState.code
  pure (.ok ())

/-- Get transition token count -/
def transitionTokenCount : SizeT := sizeT tokenCount

/-- Write transition token -/
def writeTransitionToken (index : SizeT) (value : Word) : Driver (McuResult Unit) :=
  if sizeT tokenCount ≤ index then pure (.error .invalidParameter)
  else do
    lifecycle.writeReg (regTransitionTokenBase + index * 4) value
    pure (.ok ())

/-! ## Calls -/

/-- The calls of the driver. -/
inductive Call where
  | state
  | currentState
  | isInitialized
  | status
  | isManufacturing
  | isProduction
  | isRma
  | isDev
  | isDebugLocked
  | requestTransition (targetState : LifecycleState)
  | transitionTokenCount
  | writeTransitionToken (index : SizeT) (value : Word)

/-- What a call returns. -/
inductive Reply where
  | state (value : LifecycleState)
  | controllerState (value : LifecycleControllerState)
  | bool (value : Bool)
  | word (value : Word)
  | size (value : SizeT)
  | result (value : McuResult Unit)

/-- A call, as the driver performs it. -/
def perform : Call → Driver Reply
  | .state => Reply.state <$> lifecycle.state
  | .currentState => Reply.controllerState <$> lifecycle.currentState
  | .isInitialized => Reply.bool <$> lifecycle.isInitialized
  | .status => Reply.word <$> lifecycle.status
  | .isManufacturing => Reply.bool <$> lifecycle.isManufacturing
  | .isProduction => Reply.bool <$> lifecycle.isProduction
  | .isRma => Reply.bool <$> lifecycle.isRma
  | .isDev => Reply.bool <$> lifecycle.isDev
  | .isDebugLocked => Reply.bool <$> lifecycle.isDebugLocked
  | .requestTransition target => Reply.result <$> lifecycle.requestTransition target
  | .transitionTokenCount => pure (.size transitionTokenCount)
  | .writeTransitionToken index value =>
      Reply.result <$> lifecycle.writeTransitionToken index value

/-! ## Phases -/

/-- What a lifecycle state is for.  `locked` says whether debugging is. -/
inductive Phase where
  | manufacturing (locked : Bool)
  | development
  | production
  | rma
  | dead
deriving DecidableEq, Repr

/-- The phase of a controller state. -/
def phase : LifecycleControllerState → Phase
  | .rawState | .testUnlocked => .manufacturing false
  | .testLocked => .manufacturing true
  | .dev => .development
  | .prod | .prodEnd => .production
  | .rma => .rma
  | .scrap | .invalid => .dead

/-- The controller as its callers see it: a state, and a transition that is
being prepared. -/
structure Record where
  current : LifecycleState
  status : Word
  requested : Word
  tokens : Fin tokenCount → Word

namespace Record

def phase (record : Record) : Phase := Lifecycle.phase record.current.controllerState

def reply (record : Record) : Call → Reply
  | .state => .state record.current
  | .currentState => .controllerState record.current.controllerState
  | .isInitialized => .bool (record.status.getLsbD 0)
  | .status => .word record.status
  | .isManufacturing =>
      .bool (record.phase == .manufacturing false || record.phase == .manufacturing true)
  | .isProduction => .bool (record.phase == .production)
  | .isRma => .bool (record.phase == .rma)
  | .isDev => .bool (record.phase == .development)
  | .isDebugLocked => .bool (record.phase == .production || record.phase == .manufacturing true)
  | .requestTransition _ => .result (.ok ())
  | .transitionTokenCount => .size (sizeT tokenCount)
  | .writeTransitionToken index _ =>
      .result (if index.toNat < tokenCount then .ok () else .error .invalidParameter)

def update (record : Record) : Call → Record
  | .requestTransition target => { record with requested := target.code }
  | .writeTransitionToken index value =>
      { record with tokens := setEntry record.tokens index value }
  | _ => record

/-- The record as an object. -/
def object : Object Call Reply Record := ⟨reply, update⟩

/-- The record that registers represent, by their offsets. -/
def ofCells (cells : Word → Word) : Record where
  current := .decode (cells regState &&& 0x1F)
  status := cells regStatus
  requested := cells regTransitionCmd
  tokens := entries cells regTransitionTokenBase tokenCount

end Record

/-! ## The registers -/

variable {lifecycle}

theorem reg_ne {first second : Word} (different : first ≠ second) :
    lifecycle.reg first ≠ lifecycle.reg second :=
  offset_ne lifecycle.baseAddr different

variable (lifecycle) in
/-- The record that the registers represent. -/
def record (file : Word → Word) : Record :=
  Record.ofCells fun offset => file (lifecycle.reg offset)

/-- A function of the driver returns and leaves what two functions of the
record say. -/
abbrev ActsOn (lifecycle : Lifecycle) {α : Type} (program : Driver α) (result : Record → α)
    (update : Record → Record) : Prop :=
  Program.Acts Device.storage lifecycle.record program result update

theorem acts_readPart {α : Type} {offset : Word} (part : Word → α) {content : Record → α}
    (shown : ∀ cells, part (cells offset) = content (Record.ofCells cells)) :
    lifecycle.ActsOn (lifecycle.readReg offset >>= fun value => pure (part value)) content id :=
  ⟨fun file => shown fun offset => file (lifecycle.reg offset), fun _ => rfl⟩

theorem acts_writeReg {offset value : Word} {update : Record → Record}
    (stored : ∀ cells, Record.ofCells (Function.update cells offset value) =
      update (Record.ofCells cells)) :
    lifecycle.ActsOn (lifecycle.writeReg offset value) (fun _ => ()) update := by
  refine Program.acts_writeReg fun file => ?_
  have cells : (fun other => Function.update file (lifecycle.reg offset) value
      (lifecycle.reg other)) =
        Function.update (fun other => file (lifecycle.reg other)) offset value := by
    funext other
    by_cases same : other = offset
    · rw [same, Function.update_self, Function.update_self]
    · rw [Function.update_of_ne same, Function.update_of_ne (reg_ne same)]
  exact (congrArg Record.ofCells cells).trans (stored _)

theorem ofCells_requested (cells : Word → Word) (value : Word) :
    Record.ofCells (Function.update cells regTransitionCmd value) =
      { Record.ofCells cells with requested := value } := by
  unfold Record.ofCells
  simp (disch := decide) only [Function.update_self, Function.update_of_ne, entries_of_outside]

theorem ofCells_tokens (cells : Word → Word) {index : SizeT} (inside : index.toNat < tokenCount)
    (value : Word) :
    Record.ofCells (Function.update cells (regTransitionTokenBase + index * 4) value) =
      (Record.ofCells cells).update (.writeTransitionToken index value) := by
  have other {offset : Word} (before : offset.toNat < 0x10) :
      Function.update cells (regTransitionTokenBase + index * 4) value offset = cells offset := by
    apply Function.update_of_ne
    rintro rfl
    rw [← slot_index, slot_toNat (by decide) inside] at before
    exact absurd before (Nat.not_lt.mpr (Nat.le_add_right _ _))
  unfold Record.ofCells
  simp (disch := first | decide | exact inside) only [other, entries_of_inside]
  rfl

theorem acts_state : lifecycle.ActsOn lifecycle.state (fun record => record.current) id :=
  acts_readPart _ fun _ => rfl

/-- A predicate on the state is the same predicate on the record. -/
theorem acts_of_state {α : Type} (part : LifecycleState → α) {content : Record → α}
    (same : ∀ record : Record, part record.current = content record) :
    lifecycle.ActsOn (lifecycle.state >>= fun s => pure (part s)) content id :=
  (acts_state.bind fun s => Program.acts_pure (part s)).congr same fun _ => rfl

theorem acts_writeTransitionToken (index : SizeT) (value : Word) :
    lifecycle.ActsOn (lifecycle.writeTransitionToken index value)
      (fun _ => if index.toNat < tokenCount then .ok () else .error .invalidParameter)
      fun record => record.update (.writeTransitionToken index value) := by
  unfold writeTransitionToken
  by_cases inside : index.toNat < tokenCount
  · have below : ¬ sizeT tokenCount ≤ index := Nat.not_le.mpr inside
    simp only [if_neg below, if_pos inside]
    exact (acts_writeReg fun cells => ofCells_tokens cells inside value).bind fun _ =>
      Program.acts_pure _
  · have beyond : sizeT tokenCount ≤ index := Nat.not_lt.mp inside
    simp only [if_pos beyond, if_neg inside]
    exact (Program.acts_pure _).congr (fun _ => rfl) fun record =>
      congrArg (fun tokens => { record with tokens := tokens })
        (setEntry_of_outside record.tokens inside value).symm

/-- Every call acts on the record. -/
theorem implements :
    Program.Implements Device.storage lifecycle.record lifecycle.perform Record.object := by
  intro call
  cases call with
  | state => exact acts_state.map Reply.state
  | currentState => exact (acts_of_state _ fun _ => rfl).map Reply.controllerState
  | isInitialized =>
      exact (acts_readPart _ fun cells => and_one_ne_zero (cells regStatus)).map Reply.bool
  | status => exact (acts_readPart id fun _ => rfl).map Reply.word
  | isManufacturing =>
      refine (acts_of_state _ fun record => ?_).map Reply.bool
      unfold Record.phase
      cases record.current <;> rfl
  | isProduction =>
      refine (acts_of_state _ fun record => ?_).map Reply.bool
      unfold Record.phase
      cases record.current <;> rfl
  | isRma =>
      refine (acts_of_state _ fun record => ?_).map Reply.bool
      unfold Record.phase
      cases record.current <;> rfl
  | isDev =>
      refine (acts_of_state _ fun record => ?_).map Reply.bool
      unfold Record.phase
      cases record.current <;> rfl
  | isDebugLocked =>
      refine (acts_of_state _ fun record => ?_).map Reply.bool
      unfold Record.phase
      cases record.current <;> rfl
  | requestTransition target =>
      exact ((acts_writeReg fun cells => ofCells_requested cells target.code).bind fun _ =>
        Program.acts_pure _).map Reply.result
  | transitionTokenCount => exact Program.acts_pure (Reply.size transitionTokenCount)
  | writeTransitionToken index value =>
      exact (acts_writeTransitionToken index value).map Reply.result

/-! ## Sessions -/

/-- The registers after a session. -/
def after (lifecycle : Lifecycle) (file : Word → Word) (calls : List Call) : Word → Word :=
  ((Program.session lifecycle.perform calls).run Device.storage file).state

/-- On registers that keep what is written to them, a session returns what the
record replies and prepares the transition that its calls describe, in the
registers for that and in no others.  When the controller has got into the
state that was requested last, whatever else it has changed meanwhile, `state`
returns it. -/
structure SessionOnRecord (lifecycle : Lifecycle) (file : Word → Word) (calls : List Call) :
    Prop where
  replies : ((Program.session lifecycle.perform calls).run Device.storage file).result =
    Record.object.replies (lifecycle.record file) calls
  record : lifecycle.record (lifecycle.after file calls) =
    Record.object.after (lifecycle.record file) calls
  untouched : ∀ addr, addr ≠ lifecycle.reg regTransitionCmd →
    (∀ index : SizeT, index.toNat < tokenCount →
      addr ≠ lifecycle.reg (regTransitionTokenBase + index * 4)) →
    lifecycle.after file calls addr = file addr
  arrives : ∀ earlier target later, calls = earlier ++ Call.requestTransition target :: later →
    (∀ other, Call.requestTransition other ∉ later) → ∀ moved : Word → Word,
      moved (lifecycle.reg regState) &&& 0x1F =
          lifecycle.after file calls (lifecycle.reg regTransitionCmd) &&& 0x1F →
        (lifecycle.state.run Device.storage moved).result = target

/-- Every state is recognised by its code, also the invalid one. -/
theorem decode_code (state : LifecycleState) : .decode (state.code &&& 0x1F) = state := by
  cases state <;> rfl

variable (lifecycle)

/-- A call writes the command and the token registers only. -/
theorem perform_untouched (call : Call) (file : Word → Word) {addr : Word}
    (notCommand : addr ≠ lifecycle.reg regTransitionCmd)
    (notToken : ∀ index : SizeT, index.toNat < tokenCount →
      addr ≠ lifecycle.reg (regTransitionTokenBase + index * 4)) :
    ((lifecycle.perform call).run Device.storage file).state addr = file addr := by
  cases call with
  | requestTransition target => exact Function.update_of_ne notCommand _ file
  | writeTransitionToken index value =>
      have same : (lifecycle.perform (.writeTransitionToken index value)).run Device.storage file =
          (Reply.result <$> lifecycle.writeTransitionToken index value).run Device.storage file :=
        rfl
      rw [same]
      unfold writeTransitionToken
      by_cases inside : index.toNat < tokenCount
      · have below : ¬ sizeT tokenCount ≤ index := Nat.not_le.mpr inside
        rw [if_neg below]
        exact Function.update_of_ne (notToken index inside) _ file
      · have beyond : sizeT tokenCount ≤ index := Nat.not_lt.mp inside
        rw [if_pos beyond]
        rfl
  | _ => rfl

/-- Every session is one with the record. -/
theorem lifecycle_session_on_record (file : Word → Word) (calls : List Call) :
    lifecycle.SessionOnRecord file calls := by
  have acts := (@implements lifecycle).session calls
  refine ⟨acts.returns file, acts.leaves file, ?_, ?_⟩
  · intro addr notCommand notToken
    unfold after
    clear acts
    induction calls generalizing file with
    | nil => rfl
    | cons call rest ih =>
        rw [Program.session, Program.run_bind, Run.after_state, Program.run_bind, Run.after_state]
        exact (ih _).trans (perform_untouched lifecycle call file notCommand notToken)
  · intro earlier target later split others moved arrived
    have requested : (Record.object.after (lifecycle.record file) calls).requested = target.code := by
      rw [split, Object.after, List.foldl_append, List.foldl_cons]
      apply @Object.after_invariant _ _ _ Record.object fun record => record.requested = target.code
      · intro call member record held
        cases call with
        | requestTransition other => exact absurd member (others other)
        | _ => exact held
      · rfl
    have command : lifecycle.after file calls (lifecycle.reg regTransitionCmd) = target.code := by
      rw [← requested, ← acts.leaves file]
      rfl
    change LifecycleState.decode (moved (lifecycle.reg regState) &&& 0x1F) = target
    rw [arrived, command]
    exact decode_code target

end Lifecycle

end McuRom
