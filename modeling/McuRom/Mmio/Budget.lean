import McuRom.Mmio.Polling
import Mathlib.Algebra.BigOperators.Group.List.Basic
import Mathlib.Algebra.Ring.Nat

namespace McuRom
namespace Mmio

/-!
# Budgets for register accesses

Each register has a price, which an access pays.  What a program can afford is
a fact about the program alone: it has enough for every access it could make,
whatever values it reads.  With a price of one for a single register and none
for the others, a budget bounds the accesses of that register; with a latency
for every register it bounds the time the program takes.
-/

variable {A W σ α β : Type}

/-- The price of a whole trace. -/
def Access.cost (price : A → Nat) (trace : List (Access A W)) : Nat :=
  (trace.map fun access => price access.addr).sum

namespace Program

/-- The budget pays for every access, whatever values are read. -/
def Affords (price : A → Nat) : Program A W α → Nat → Prop
  | .ret _, _ => True
  | .read addr next, budget =>
      price addr ≤ budget ∧ ∀ value, (next value).Affords price (budget - price addr)
  | .write addr _ next, budget => price addr ≤ budget ∧ next.Affords price (budget - price addr)

variable {price : A → Nat}

/-- On every device, the accesses cost no more than the budget. -/
theorem Affords.cost_le {program : Program A W α} {budget : Nat}
    (affords : program.Affords price budget) (dev : Device A W σ) (state : σ) :
    Access.cost price (program.run dev state).trace ≤ budget := by
  induction program generalizing budget state with
  | ret value => exact Nat.zero_le _
  | read addr next ih =>
      have rest := ih (dev.read state addr).1 (affords.2 _) (dev.read state addr).2
      have enough := affords.1
      simp only [run_read, Run.after_trace, Access.cost, List.singleton_append, List.map_cons,
        List.sum_cons, Access.addr] at rest ⊢
      omega
  | write addr value next ih =>
      have rest := ih affords.2 (dev.write state addr value)
      have enough := affords.1
      simp only [run_write, Run.after_trace, Access.cost, List.singleton_append, List.map_cons,
        List.sum_cons, Access.addr] at rest ⊢
      omega

theorem Affords.mono {program : Program A W α} {budget larger : Nat}
    (affords : program.Affords price budget) (enough : budget ≤ larger) :
    program.Affords price larger := by
  induction program generalizing budget larger with
  | ret value => trivial
  | read addr next ih =>
      refine ⟨Nat.le_trans affords.1 enough, fun value => ?_⟩
      exact ih value (affords.2 value) (Nat.sub_le_sub_right enough _)
  | write addr value next ih =>
      exact ⟨Nat.le_trans affords.1 enough, ih affords.2 (Nat.sub_le_sub_right enough _)⟩

/-- What is left over from the first part is at least what is put aside. -/
theorem Affords.bind {program : Program A W α} {rest : α → Program A W β} {first second : Nat}
    (affords : program.Affords price first)
    (onwards : ∀ value, (rest value).Affords price second) :
    (program >>= rest).Affords price (first + second) := by
  induction program generalizing first with
  | ret value => exact (onwards value).mono (Nat.le_add_left second first)
  | read addr next ih =>
      refine ⟨Nat.le_add_right_of_le affords.1, fun value => ?_⟩
      rw [Nat.sub_add_comm affords.1]
      exact ih value (affords.2 value)
  | write addr value next ih =>
      refine ⟨Nat.le_add_right_of_le affords.1, ?_⟩
      rw [Nat.sub_add_comm affords.1]
      exact ih affords.2

theorem affords_ret (value : α) : (.ret value : Program A W α).Affords price 0 :=
  trivial

theorem affords_readReg (addr : A) :
    (readReg addr : Program A W W).Affords price (price addr) :=
  ⟨Nat.le_refl _, fun _ => trivial⟩

theorem affords_writeReg (addr : A) (value : W) :
    (writeReg addr value).Affords price (price addr) :=
  ⟨Nat.le_refl _, trivial⟩

/-- Writes of one register. -/
theorem affords_writeAll {addr : A} {list : List (A × W)} (same : ∀ entry ∈ list, entry.1 = addr) :
    (writeAll list).Affords price (list.length * price addr) := by
  induction list with
  | nil => trivial
  | cons entry rest ih =>
      have later := ih fun other member => same other (List.mem_cons_of_mem _ member)
      rw [List.length_cons, Nat.add_one_mul, ← same entry List.mem_cons_self]
      refine ⟨Nat.le_add_left _ _, ?_⟩
      rwa [Nat.add_sub_cancel, same entry List.mem_cons_self]

/-- A bounded wait costs as many reads as its countdown allows. -/
theorem affords_pollWhile {n : Nat} (addr : A) (busy : W → Bool) (timeout : BitVec n) :
    (pollWhile addr busy timeout).Affords price (pollBudget timeout * price addr) := by
  induction timeout using pollWhile.induct with
  | case1 timeout ih =>
      have one : pollBudget timeout * price addr = (timeout - 1).toNat * price addr + price addr :=
        Nat.add_one_mul ..
      rw [pollWhile, one]
      refine ⟨Nat.le_add_left _ _, fun value => ?_⟩
      rw [Nat.add_sub_cancel]
      dsimp only
      by_cases polled : busy value = true
      · rw [if_pos polled]
        by_cases last : timeout - 1 = 0
        · rw [if_pos last]
          trivial
        · rw [if_neg last]
          have later := ih last
          rwa [pollBudget_eq last] at later
      · rw [if_neg polled]
        trivial

end Program

end Mmio
end McuRom
