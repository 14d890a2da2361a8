import McuRom.Mmio.Polling

namespace McuRom
namespace Mmio

/-!
# Protocol monitors

A `Monitor` watches one program's accesses and keeps a protocol state.  On a
read it may rule a value out: that is what the program *relies* on.  On a
write it may reject the value: that is what the program *guarantees*.

`Program.Obeys` is the weakest condition under which a program respects a
monitor against every device that supplies only values the monitor admits.
No device state appears in it, so an obedience proof about one program can be
used while other programs run in between, as long as the values they make it
see are admitted.
-/

variable {A W Q α β : Type}

/-- A protocol automaton.  `none` on a read means the environment never
supplies that value here; `none` on a write means the program must not. -/
structure Monitor (A W Q : Type) where
  onRead : Q → A → W → Option Q
  onWrite : Q → A → W → Option Q

namespace Program

/-- From monitor state `q`, every write is permitted whatever admitted values
are read, and every result satisfies `post` in the monitor state it ends in. -/
def Obeys (m : Monitor A W Q) (post : α → Q → Prop) : Program A W α → Q → Prop
  | .ret value, q => post value q
  | .read addr next, q =>
      ∀ value after, m.onRead q addr value = some after → (next value).Obeys m post after
  | .write addr value next, q =>
      ∃ after, m.onWrite q addr value = some after ∧ next.Obeys m post after

variable {m : Monitor A W Q}

theorem obeys_read (post : α → Q → Prop) (addr : A) (next : W → Program A W α) (q : Q) :
    (Program.read addr next).Obeys m post q ↔
      ∀ value after, m.onRead q addr value = some after → (next value).Obeys m post after :=
  Iff.rfl

/-- Weaken the postcondition. -/
theorem Obeys.mono {first second : α → Q → Prop} {program : Program A W α} {q : Q}
    (obeys : program.Obeys m first q) (weaker : ∀ value q, first value q → second value q) :
    program.Obeys m second q := by
  induction program generalizing q with
  | ret value => exact weaker value q obeys
  | read addr next ih =>
      intro value after admitted
      exact ih value (obeys value after admitted)
  | write addr value next ih =>
      rcases obeys with ⟨after, permitted, rest⟩
      exact ⟨after, permitted, ih rest⟩

/-- Sequencing: the first part establishes what the second part needs. -/
theorem obeys_bind (post : β → Q → Prop) (program : Program A W α)
    (rest : α → Program A W β) (q : Q) :
    (program >>= rest).Obeys m post q ↔
      program.Obeys m (fun value after => (rest value).Obeys m post after) q := by
  induction program generalizing q with
  | ret value => exact Iff.rfl
  | read addr next ih =>
      constructor
      · intro obeys value after admitted
        exact (ih value after).mp (obeys value after admitted)
      · intro obeys value after admitted
        exact (ih value after).mpr (obeys value after admitted)
  | write addr value next ih =>
      constructor
      · rintro ⟨after, permitted, obeys⟩
        exact ⟨after, permitted, (ih after).mp obeys⟩
      · rintro ⟨after, permitted, obeys⟩
        exact ⟨after, permitted, (ih after).mpr obeys⟩

theorem Obeys.bind {middle : α → Q → Prop} {post : β → Q → Prop} {program : Program A W α}
    {rest : α → Program A W β} {q : Q} (first : program.Obeys m middle q)
    (second : ∀ value after, middle value after → (rest value).Obeys m post after) :
    (program >>= rest).Obeys m post q :=
  (obeys_bind post program rest q).mpr (first.mono second)

/-- Polling a register the monitor does not react to keeps its state. -/
theorem obeys_pollWhile {n : Nat} {post : Bool → Q → Prop} {addr : A} {busy : W → Bool} {q : Q}
    (stays : ∀ value, m.onRead q addr value = some q) (timeout : BitVec n)
    (holds : ∀ ready, post ready q) :
    (pollWhile addr busy timeout).Obeys m post q := by
  induction timeout using pollWhile.induct with
  | case1 timeout ih =>
      rw [pollWhile, obeys_read]
      intro value after admitted
      cases (stays value).symm.trans admitted
      by_cases polled : busy value = true
      · rw [if_pos polled]
        by_cases last : timeout - 1 = 0
        · rw [if_pos last]
          exact holds false
        · rw [if_neg last]
          exact ih last
      · rw [if_neg polled]
        exact holds true

end Program

end Mmio
end McuRom
