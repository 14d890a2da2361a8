import McuRom.Mmio.Device
import McuRom.Romtime.FlowStatus

namespace McuRom

open Mmio

/-!
# The flow status over a history of updates

Checkpoint and milestones share a register, and both setters read it before
they write it.  Over any history of updates it nevertheless behaves like two
separate cells: the last checkpoint replaces the earlier ones, milestones
accumulate, and neither kind of update sees the other.
-/

namespace Mci

/-- A call that updates the flow status. -/
inductive FlowUpdate where
  | setFlowCheckpoint (checkpoint : HalfWord)
  | setFlowMilestone (milestone : HalfWord)
deriving DecidableEq, Repr

/-! ## Two cells -/

/-- The two halves of the flow status as cells of their own. -/
structure FlowCells where
  milestone : HalfWord
  checkpoint : HalfWord
deriving DecidableEq, Repr

namespace FlowCells

def ofStatus (status : Word) : FlowCells := ⟨milestoneOf status, checkpointOf status⟩

def status (cells : FlowCells) : Word := flowWord cells.milestone cells.checkpoint

@[simp] theorem ofStatus_status (cells : FlowCells) : ofStatus cells.status = cells := by
  rw [ofStatus, status, milestoneOf_flowWord, checkpointOf_flowWord]

@[simp] theorem status_ofStatus (status : Word) : (ofStatus status).status = status :=
  flowWord_halves status

/-- A checkpoint is replaced, a milestone is added. -/
def update (cells : FlowCells) : FlowUpdate → FlowCells
  | .setFlowCheckpoint checkpoint => { cells with checkpoint := checkpoint }
  | .setFlowMilestone milestone => { cells with milestone := cells.milestone ||| milestone }

end FlowCells

namespace FlowUpdate

def checkpoint? : FlowUpdate → Option HalfWord
  | .setFlowCheckpoint checkpoint => some checkpoint
  | .setFlowMilestone _ => none

def milestone? : FlowUpdate → Option HalfWord
  | .setFlowCheckpoint _ => none
  | .setFlowMilestone milestone => some milestone

/-- The checkpoints of a history, in order. -/
def checkpoints (updates : List FlowUpdate) : List HalfWord := updates.filterMap checkpoint?

/-- The milestones of a history, in order. -/
def milestones (updates : List FlowUpdate) : List HalfWord := updates.filterMap milestone?

/-- Each cell depends on the updates of its own kind only. -/
theorem foldl_update (updates : List FlowUpdate) (cells : FlowCells) :
    updates.foldl FlowCells.update cells =
      ⟨(milestones updates).foldl (· ||| ·) cells.milestone,
        (checkpoints updates).getLastD cells.checkpoint⟩ := by
  induction updates generalizing cells with
  | nil => rfl
  | cons update rest ih =>
      rw [List.foldl_cons, ih]
      cases update with
      | setFlowCheckpoint checkpoint =>
          simp only [checkpoints, List.filterMap_cons, checkpoint?, List.getLastD_cons]
          rfl
      | setFlowMilestone milestone => rfl

/-! ## The register -/

variable (mci : Mci)

def perform : FlowUpdate → Driver Unit
  | .setFlowCheckpoint checkpoint => mci.setFlowCheckpoint checkpoint
  | .setFlowMilestone milestone => mci.setFlowMilestone milestone

/-- A history of updates, one after the other. -/
def performAll : List FlowUpdate → Driver Unit
  | [] => pure ()
  | update :: rest => do
    update.perform mci
    performAll rest

/-- One update of the register is one update of its cells. -/
theorem run_perform (update : FlowUpdate) (file : Word → Word) :
    ((update.perform mci).run Device.storage file).state =
      Function.update file (mci.reg regFwFlowStatus)
        ((FlowCells.ofStatus (file (mci.reg regFwFlowStatus))).update update).status := by
  cases update with
  | setFlowCheckpoint checkpoint => rfl
  | setFlowMilestone milestone =>
      have word := milestone_or_eq milestone (file (mci.reg regFwFlowStatus))
      rw [BitVec.or_comm milestone] at word
      exact congrArg (Function.update file _) word

/-- The registers after a history. -/
def afterUpdates (updates : List FlowUpdate) (file : Word → Word) : Word → Word :=
  ((performAll mci updates).run Device.storage file).state

/-- A history moves the cells of the register and no other register. -/
theorem afterUpdates_eq (updates : List FlowUpdate) (file : Word → Word) :
    afterUpdates mci updates file =
      Function.update file (mci.reg regFwFlowStatus)
        (updates.foldl FlowCells.update
          (FlowCells.ofStatus (file (mci.reg regFwFlowStatus)))).status := by
  induction updates generalizing file with
  | nil =>
      rw [List.foldl_nil, FlowCells.status_ofStatus, Function.update_eq_self]
      rfl
  | cons update rest ih =>
      have step := run_perform mci update file
      unfold afterUpdates at ih ⊢
      rw [performAll, Program.run_bind, Run.after_state, ih, step, Function.update_idem,
        Function.update_self, FlowCells.ofStatus_status, List.foldl_cons]

/-- What the getters return after a history. -/
def cellsAfter (updates : List FlowUpdate) (file : Word → Word) : FlowCells :=
  ⟨(mci.flowMilestone.run Device.storage (afterUpdates mci updates file)).result,
    (mci.flowCheckpoint.run Device.storage (afterUpdates mci updates file)).result⟩

theorem cellsAfter_eq (updates : List FlowUpdate) (file : Word → Word) :
    cellsAfter mci updates file =
      updates.foldl FlowCells.update (FlowCells.ofStatus (file (mci.reg regFwFlowStatus))) := by
  have cells : cellsAfter mci updates file =
      FlowCells.ofStatus (afterUpdates mci updates file (mci.reg regFwFlowStatus)) := rfl
  rw [cells, afterUpdates_eq, Function.update_self, FlowCells.ofStatus_status]

/-- The last checkpoint and all milestones are kept; milestones are never
lost, and what the two kinds of update leave does not depend on how they are
ordered relative to each other. -/
structure Independent (file : Word → Word) (updates : List FlowUpdate) : Prop where
  checkpoint : (cellsAfter mci updates file).checkpoint =
    (checkpoints updates).getLastD (checkpointOf (file (mci.reg regFwFlowStatus)))
  milestone : (cellsAfter mci updates file).milestone =
    (milestones updates).foldl (· ||| ·) (milestoneOf (file (mci.reg regFwFlowStatus)))
  grows : ∀ later bit, (cellsAfter mci updates file).milestone.getLsbD bit = true →
    (cellsAfter mci (updates ++ later) file).milestone.getLsbD bit = true
  untouched : ∀ checkpoint, (cellsAfter mci (updates ++ [.setFlowCheckpoint checkpoint])
    file).milestone = (cellsAfter mci updates file).milestone
  reordered : ∀ other, checkpoints other = checkpoints updates →
    milestones other = milestones updates →
    afterUpdates mci other file = afterUpdates mci updates file

theorem getLsbD_foldl_or (values : List HalfWord) (start : HalfWord) {bit : Nat}
    (set : start.getLsbD bit = true) : (values.foldl (· ||| ·) start).getLsbD bit = true := by
  induction values generalizing start with
  | nil => exact set
  | cons value rest ih =>
      apply ih
      rw [BitVec.getLsbD_or, set, Bool.true_or]

theorem flow_cells_independent (file : Word → Word) (updates : List FlowUpdate) :
    Independent mci file updates := by
  have cells := cellsAfter_eq mci updates file
  constructor
  · rw [cells, foldl_update]
    rfl
  · rw [cells, foldl_update]
    rfl
  · intro later bit set
    rw [cellsAfter_eq, List.foldl_append, ← cells, foldl_update]
    exact getLsbD_foldl_or _ _ set
  · intro checkpoint
    rw [cellsAfter_eq, List.foldl_append, ← cells]
    rfl
  · intro other sameCheckpoints sameMilestones
    rw [afterUpdates_eq, afterUpdates_eq, foldl_update, foldl_update, sameCheckpoints,
      sameMilestones]

end FlowUpdate

end Mci

end McuRom
