import Mathlib.Logic.Function.Basic

namespace McuRom
namespace Mmio

/-!
# A FIFO between two parties

A channel is a FIFO of limited size together with everything that has entered
and left it.  Its one law is part of the type: what has left, followed by what
is queued, is what was queued at first, followed by what has entered.

One party may only act when it can; the other acts blindly, and the channel
records if it puts into a full FIFO or takes from an empty one.
-/

/-- A FIFO of limited size. -/
structure Fifo (α : Type) (capacity : Nat) where
  entries : List α
  bounded : entries.length ≤ capacity

/-- A FIFO with its history since it held `initial`. -/
structure Channel (α : Type) (capacity : Nat) (initial : Fifo α capacity) where
  fifo : Fifo α capacity
  entered : List α
  left : List α
  /-- something was put while the FIFO was full, or taken while it was empty -/
  misused : Bool
  ordered : left ++ fifo.entries = initial.entries ++ entered

namespace Channel

variable {α : Type} {capacity : Nat} {initial : Fifo α capacity}

def start (initial : Fifo α capacity) : Channel α capacity initial where
  fifo := initial
  entered := []
  left := []
  misused := false
  ordered := (List.append_nil _).symm

variable (channel : Channel α capacity initial)

def level : Nat := channel.fifo.entries.length

theorem level_le : channel.level ≤ capacity := channel.fifo.bounded

/-- Put an entry; it is lost if the FIFO is full. -/
def put (entry : α) : Channel α capacity initial :=
  if room : channel.level < capacity then
    { channel with
      fifo := ⟨channel.fifo.entries ++ [entry], by
        rw [List.length_append]
        exact room⟩
      entered := channel.entered ++ [entry]
      ordered := by rw [← List.append_assoc, channel.ordered, List.append_assoc] }
  else { channel with misused := true }

/-- Take the oldest entry. -/
def take : Option α × Channel α capacity initial :=
  match held : channel.fifo.entries with
  | [] => (none, { channel with misused := true })
  | entry :: rest =>
    (some entry,
      { channel with
        fifo := ⟨rest, by
          have bounded := channel.fifo.bounded
          rw [held] at bounded
          exact Nat.le_of_succ_le bounded⟩
        left := channel.left ++ [entry]
        ordered := by
          rw [List.append_assoc, List.singleton_append, ← held]
          exact channel.ordered })

/-- Put an entry if there is room. -/
def offer (entry : α) : Channel α capacity initial :=
  if channel.level < capacity then channel.put entry else channel

/-- Take an entry if there is one. -/
def collect : Channel α capacity initial :=
  if 0 < channel.level then channel.take.2 else channel

/-! ## What the operations change -/

variable {channel} in
theorem put_room (room : channel.level < capacity) (entry : α) :
    (channel.put entry).entered = channel.entered ++ [entry] ∧
      (channel.put entry).left = channel.left ∧
      (channel.put entry).misused = channel.misused ∧
      (channel.put entry).level = channel.level + 1 := by
  rw [put, dif_pos room]
  exact ⟨rfl, rfl, rfl, List.length_append⟩

variable {channel} in
theorem take_some (filled : 0 < channel.level) :
    ∃ entry, channel.take.1 = some entry ∧ channel.take.2.left = channel.left ++ [entry] ∧
      channel.take.2.entered = channel.entered ∧ channel.take.2.misused = channel.misused ∧
      channel.take.2.level + 1 = channel.level := by
  unfold level at filled ⊢
  unfold take
  split
  · rename_i held
    rw [held] at filled
    cases filled
  · rename_i entry rest held
    exact ⟨entry, rfl, rfl, rfl, rfl, (congrArg List.length held).symm⟩

/-- The other party may fill the FIFO, but not misuse it or take from it. -/
theorem offer_keeps (entry : α) :
    (channel.offer entry).left = channel.left ∧
      (channel.offer entry).misused = channel.misused ∧
      channel.level ≤ (channel.offer entry).level := by
  unfold offer
  split
  · rename_i room
    have stored := put_room room entry
    exact ⟨stored.2.1, stored.2.2.1, by omega⟩
  · exact ⟨rfl, rfl, Nat.le_refl _⟩

/-- The other party may drain the FIFO, but not misuse it or put into it. -/
theorem collect_keeps :
    channel.collect.entered = channel.entered ∧ channel.collect.misused = channel.misused ∧
      channel.collect.level ≤ channel.level := by
  unfold collect
  split
  · rename_i filled
    rcases take_some filled with ⟨_, _, _, entered, misused, fewer⟩
    exact ⟨entered, misused, by omega⟩
  · exact ⟨rfl, rfl, Nat.le_refl _⟩

/-- Behind an offer there is an entry. -/
theorem offer_pos (positive : 0 < capacity) (entry : α) : 0 < (channel.offer entry).level := by
  unfold offer
  split
  · rename_i room
    rw [(put_room room entry).2.2.2]
    exact Nat.succ_pos _
  · rename_i full
    exact Nat.lt_of_lt_of_le positive (Nat.not_lt.mp full)

/-- Behind a collection there is room. -/
theorem collect_lt (positive : 0 < capacity) : channel.collect.level < capacity := by
  have bounded := channel.level_le
  unfold collect
  split
  · rename_i filled
    rcases take_some filled with ⟨_, _, _, _, _, fewer⟩
    omega
  · omega

end Channel

end Mmio
end McuRom
