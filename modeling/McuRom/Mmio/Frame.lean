import McuRom.Mmio.Polling

namespace McuRom
namespace Mmio

/-!
# Programs within a part of the bus

A program that touches only addresses of one of two routed devices runs as it
does on that device alone, and leaves the other one as it was.
-/

variable {A W σ τ α β : Type} {inside : A → Prop}

namespace Program

/-- Whatever values are read, the program touches only such addresses. -/
def Within (inside : A → Prop) : Program A W α → Prop
  | .ret _ => True
  | .read addr next => inside addr ∧ ∀ value, (next value).Within inside
  | .write addr _ next => inside addr ∧ next.Within inside

theorem Within.bind {program : Program A W α} {rest : α → Program A W β}
    (first : program.Within inside) (second : ∀ value, (rest value).Within inside) :
    (program >>= rest).Within inside := by
  induction program with
  | ret value => exact second value
  | read addr next ih => exact ⟨first.1, fun value => ih value (first.2 value)⟩
  | write addr value next ih => exact ⟨first.1, ih first.2⟩

theorem within_writeAll {list : List (A × W)} (owned : ∀ entry ∈ list, inside entry.1) :
    (writeAll list).Within inside := by
  induction list with
  | nil => trivial
  | cons entry rest ih =>
      exact ⟨owned entry List.mem_cons_self,
        ih fun later member => owned later (List.mem_cons_of_mem _ member)⟩

theorem within_pollWhile {n : Nat} {addr : A} (owned : inside addr) (busy : W → Bool)
    (timeout : BitVec n) : (pollWhile addr busy timeout).Within inside := by
  induction timeout using pollWhile.induct with
  | case1 timeout ih =>
      rw [pollWhile]
      refine ⟨owned, fun value => ?_⟩
      dsimp only
      by_cases polled : busy value = true
      · rw [if_pos polled]
        by_cases last : timeout - 1 = 0
        · rw [if_pos last]
          trivial
        · rw [if_neg last]
          exact ih last
      · rw [if_neg polled]
        trivial

/-- The other device neither notices nor matters. -/
theorem run_route_right {first : A → Bool} (left : Device A W σ) (right : Device A W τ)
    {program : Program A W α} (within : program.Within fun addr => first addr = false)
    (state : σ × τ) :
    program.run (Device.route first left right) state =
      ⟨(program.run right state.2).trace, (program.run right state.2).result,
        (state.1, (program.run right state.2).state)⟩ := by
  induction program generalizing state with
  | ret value => rfl
  | read addr next ih =>
      rw [run_read, Device.route_read_right first left right within.1, ih _ (within.2 _)]
      rfl
  | write addr value next ih =>
      rw [run_write, Device.route_write_right first left right within.1, ih within.2]
      rfl

end Program

end Mmio
end McuRom
