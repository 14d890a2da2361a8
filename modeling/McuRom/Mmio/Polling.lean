import McuRom.Mmio.Device

namespace McuRom
namespace Mmio

/-!
# Bounded polling

`pollWhile` is the loop

    while (busy(*addr)) { if (--timeout == 0) return false; }
    return true;

over a fixed-width counter.  The decrement comes before the test, so a
counter that starts at zero wraps and the loop is allowed `2 ^ n` polls; the
number of polls is therefore `(timeout - 1) + 1` with the subtraction taken
modulo the width.  The results below describe a complete execution in terms of
the replies of the polled register, for an arbitrary device.
-/

variable {A W σ α : Type} {n : Nat}

/-- A counter that is not zero is not at the wrap. -/
theorem toNat_pred {count : BitVec n} (nonzero : ¬ count = 0) :
    (count - 1).toNat + 1 = count.toNat := by
  have positive : count.toNat ≠ 0 := fun zero => nonzero (BitVec.eq_of_toNat_eq (by simpa using zero))
  have bounded := count.isLt
  have width : n ≠ 0 := fun zero => by
    subst zero
    omega
  have one : (1 : BitVec n).toNat = 1 := by
    simpa using Nat.mod_eq_of_lt (Nat.one_lt_two_pow width)
  rw [BitVec.toNat_sub_of_le (by rw [BitVec.le_def, one]; omega), one]
  omega

theorem toNat_pred_lt {count : BitVec n} (nonzero : ¬ count = 0) :
    (count - 1).toNat < count.toNat := by
  have := toNat_pred nonzero
  omega

/-- Poll a register until it is no longer busy or the countdown ends.  The
result says whether a reply that is not busy was seen. -/
def pollWhile (addr : A) (busy : W → Bool) (timeout : BitVec n) : Program A W Bool :=
  .read addr fun value =>
    if busy value then
      if timeout - 1 = 0 then .ret false else pollWhile addr busy (timeout - 1)
    else .ret true
termination_by (timeout - 1).toNat
decreasing_by
  rename_i more
  exact toNat_pred_lt more

/-- The largest number of polls a countdown allows. -/
def pollBudget (timeout : BitVec n) : Nat := (timeout - 1).toNat + 1

/-- Every one of the first `count` replies is busy. -/
def BusyFor (busy : W → Bool) (stream : Nat → W) (count : Nat) : Prop :=
  ∀ index < count, busy (stream index) = true

/-- The reply at `index` is the first that is not busy. -/
def ReadyAt (busy : W → Bool) (stream : Nat → W) (index : Nat) : Prop :=
  BusyFor busy stream index ∧ busy (stream index) = false

/-- The accesses of `count` polls. -/
def pollTrace (addr : A) (stream : Nat → W) (count : Nat) : List (Access A W) :=
  (List.range count).map fun index => .read addr (stream index)

theorem busyFor_or_readyAt (busy : W → Bool) (stream : Nat → W) (count : Nat) :
    BusyFor busy stream count ∨ ∃ index < count, ReadyAt busy stream index := by
  induction count with
  | zero => exact Or.inl fun index impossible => absurd impossible (Nat.not_lt_zero index)
  | succ count ih =>
      rcases ih with allBusy | ⟨index, bound, ready⟩
      · cases last : busy (stream count) with
        | false => exact Or.inr ⟨count, Nat.lt_succ_self count, allBusy, last⟩
        | true =>
            refine Or.inl fun index bound => ?_
            rcases Nat.lt_succ_iff_lt_or_eq.mp bound with earlier | equal
            · exact allBusy index earlier
            · exact equal ▸ last
      · exact Or.inr ⟨index, Nat.lt_succ_of_lt bound, ready⟩

/-- The two outcomes exclude each other. -/
theorem ReadyAt.not_busyFor {busy : W → Bool} {stream : Nat → W} {index count : Nat}
    (ready : ReadyAt busy stream index) (bound : index < count) :
    ¬ BusyFor busy stream count := by
  intro allBusy
  have contradiction := allBusy index bound
  rw [ready.2] at contradiction
  cases contradiction

theorem ReadyAt.unique {busy : W → Bool} {stream : Nat → W} {first second : Nat}
    (left : ReadyAt busy stream first) (right : ReadyAt busy stream second) :
    first = second := by
  rcases Nat.lt_trichotomy first second with before | equal | behind
  · exact absurd right.1 (left.not_busyFor before)
  · exact equal
  · exact absurd left.1 (right.not_busyFor behind)

theorem pollTrace_succ (addr : A) (stream : Nat → W) (count : Nat) :
    pollTrace addr stream (count + 1) =
      .read addr (stream 0) :: pollTrace addr (fun index => stream (index + 1)) count := by
  simp [pollTrace, List.range_succ_eq_map, List.map_map, Function.comp_def]

/-- The last poll of a trace. -/
theorem pollTrace_append_one (addr : A) (stream : Nat → W) (count : Nat) :
    pollTrace addr stream (count + 1) = pollTrace addr stream count ++ [.read addr (stream count)] := by
  simp [pollTrace, List.range_succ]

theorem mem_pollTrace {addr : A} {stream : Nat → W} {count : Nat} {access : Access A W} :
    access ∈ pollTrace addr stream count ↔
      ∃ index < count, access = .read addr (stream index) := by
  simp [pollTrace, eq_comm]

/-- A busy reply that does not end the countdown leaves one poll fewer. -/
theorem pollBudget_pred {timeout : BitVec n} (more : ¬ timeout - 1 = 0) :
    pollBudget timeout = pollBudget (timeout - 1) + 1 := by
  unfold pollBudget
  rw [toNat_pred more]

/-- A countdown that ends at once allows a single poll. -/
theorem pollBudget_last {timeout : BitVec n} (last : timeout - 1 = 0) :
    pollBudget timeout = 1 := by
  rw [pollBudget, last]
  rfl

variable (dev : Device A W σ) (addr : A) (busy : W → Bool)

/-- If every reply the countdown allows is busy, the loop reads exactly that
many and reports the timeout. -/
theorem run_pollWhile_timeout (timeout : BitVec n) (state : σ)
    (allBusy : BusyFor busy (dev.replies addr state) (pollBudget timeout)) :
    (pollWhile addr busy timeout).run dev state =
      ⟨pollTrace addr (dev.replies addr state) (pollBudget timeout), false,
        dev.afterReads addr state (pollBudget timeout)⟩ := by
  induction timeout using pollWhile.induct generalizing state with
  | case1 timeout ih =>
      have first : busy (dev.read state addr).1 = true :=
        allBusy 0 (Nat.succ_pos _)
      rw [pollWhile, Program.run_read, if_pos first]
      by_cases last : timeout - 1 = 0
      · rw [if_pos last, pollBudget_last last]
        rfl
      · rw [pollBudget_pred last] at allBusy ⊢
        have rest : BusyFor busy (dev.replies addr (dev.read state addr).2)
            (pollBudget (timeout - 1)) :=
          fun index bound => allBusy (index + 1) (Nat.succ_lt_succ bound)
        rw [if_neg last, ih last _ rest, pollTrace_succ]
        rfl

/-- If a reply within the budget is not busy, the loop stops at the first
such reply and reads nothing further. -/
theorem run_pollWhile_ready (timeout : BitVec n) (state : σ) (index : Nat)
    (bound : index < pollBudget timeout)
    (ready : ReadyAt busy (dev.replies addr state) index) :
    (pollWhile addr busy timeout).run dev state =
      ⟨pollTrace addr (dev.replies addr state) (index + 1), true,
        dev.afterReads addr state (index + 1)⟩ := by
  induction timeout using pollWhile.induct generalizing state index with
  | case1 timeout ih =>
      rw [pollWhile, Program.run_read]
      cases index with
      | zero =>
          have first : busy (dev.read state addr).1 = false := ready.2
          rw [first, if_neg Bool.false_ne_true]
          rfl
      | succ index =>
          have first : busy (dev.read state addr).1 = true := ready.1 0 (Nat.succ_pos index)
          have more : ¬ timeout - 1 = 0 := by
            intro last
            rw [pollBudget_last last] at bound
            omega
          rw [pollBudget_pred more] at bound
          have later : ReadyAt busy (dev.replies addr (dev.read state addr).2) index :=
            ⟨fun earlier below => ready.1 (earlier + 1) (Nat.succ_lt_succ below), ready.2⟩
          rw [if_pos first, if_neg more, ih more _ index (Nat.lt_of_succ_lt_succ bound) later,
            pollTrace_succ addr _ (index + 1)]
          rfl

/-- The two ways a loop ends. -/
theorem run_pollWhile_cases (timeout : BitVec n) (state : σ) :
    (BusyFor busy (dev.replies addr state) (pollBudget timeout) ∧
      (pollWhile addr busy timeout).run dev state =
        ⟨pollTrace addr (dev.replies addr state) (pollBudget timeout), false,
          dev.afterReads addr state (pollBudget timeout)⟩) ∨
    ∃ index < pollBudget timeout, ReadyAt busy (dev.replies addr state) index ∧
      (pollWhile addr busy timeout).run dev state =
        ⟨pollTrace addr (dev.replies addr state) (index + 1), true,
          dev.afterReads addr state (index + 1)⟩ := by
  rcases busyFor_or_readyAt busy (dev.replies addr state) (pollBudget timeout) with
    allBusy | ⟨index, bound, ready⟩
  · exact Or.inl ⟨allBusy, run_pollWhile_timeout dev addr busy timeout state allBusy⟩
  · exact Or.inr ⟨index, bound, ready, run_pollWhile_ready dev addr busy timeout state index bound
      ready⟩

/-! ## Budgets -/

theorem pollTrace_length (stream : Nat → W) (count : Nat) :
    (pollTrace addr stream count).length = count := by
  rw [pollTrace, List.length_map, List.length_range]

/-- A countdown from zero wraps; every other one allows as many polls as it
counts. -/
theorem pollBudget_eq {timeout : BitVec n} (nonzero : timeout ≠ 0) :
    pollBudget timeout = timeout.toNat :=
  toNat_pred nonzero

theorem one_lt_pollBudget_zero (wide : 0 < n) : 1 < pollBudget (0 : BitVec n) := by
  have positive := Nat.two_pow_pos n
  have whole : pollBudget (0 : BitVec n) = 2 ^ n := by
    change (0#n - 1#n).toNat + 1 = 2 ^ n
    rw [BitVec.zero_sub, BitVec.neg_one_eq_allOnes, BitVec.toNat_allOnes]
    omega
  rw [whole]
  exact Nat.one_lt_two_pow (Nat.ne_of_gt wide)

/-- An execution polls one register, at most `budget` times, and reports
whether it saw a reply that is not busy. -/
structure WithinBudget (budget : Nat) (run : Run A W σ Bool) : Prop where
  polls : ∀ access ∈ run.trace, ∃ value, access = .read addr value
  reads : run.trace.length ≤ budget
  found : run.result = true ↔ ∃ value, Access.read addr value ∈ run.trace ∧ busy value = false

section Seen

variable {addr busy}

theorem ReadyAt.seen {stream : Nat → W} {index : Nat} (ready : ReadyAt busy stream index) :
    ∃ value, .read addr value ∈ pollTrace addr stream (index + 1) ∧ busy value = false :=
  ⟨stream index, mem_pollTrace.mpr ⟨index, Nat.lt_succ_self index, rfl⟩, ready.2⟩

theorem BusyFor.unseen {stream : Nat → W} {count : Nat} (allBusy : BusyFor busy stream count) :
    ¬ ∃ value, .read addr value ∈ pollTrace addr stream count ∧ busy value = false := by
  rintro ⟨value, member, free⟩
  rcases mem_pollTrace.mp member with ⟨index, bound, same⟩
  cases same
  rw [allBusy index bound] at free
  cases free

end Seen

/-- Whatever the countdown starts at, the loop keeps to its own budget. -/
theorem pollWhile_withinBudget (timeout : BitVec n) (state : σ) :
    WithinBudget addr busy (pollBudget timeout) ((pollWhile addr busy timeout).run dev state) := by
  have polls : ∀ count, ∀ access ∈ pollTrace addr (dev.replies addr state) count,
      ∃ value, access = .read addr value := by
    intro count access member
    rcases mem_pollTrace.mp member with ⟨index, _, same⟩
    exact ⟨_, same⟩
  rcases run_pollWhile_cases dev addr busy timeout state with
    ⟨allBusy, ran⟩ | ⟨index, bound, ready, ran⟩
  · rw [ran]
    refine ⟨polls _, Nat.le_of_eq (pollTrace_length addr _ _), ?_⟩
    exact iff_of_false Bool.false_ne_true allBusy.unseen
  · rw [ran]
    refine ⟨polls _, ?_, iff_of_true rfl ready.seen⟩
    rw [pollTrace_length]
    exact bound

/-- A countdown from zero polls again after a busy reply. -/
theorem pollWhile_zero_withinBudget_iff (wide : 0 < n) (state : σ) :
    WithinBudget addr busy 1 ((pollWhile addr busy (0 : BitVec n)).run dev state) ↔
      busy (dev.read state addr).1 = false := by
  have several := one_lt_pollBudget_zero wide
  have within := pollWhile_withinBudget dev addr busy (0 : BitVec n) state
  rcases run_pollWhile_cases dev addr busy 0 state with
    ⟨allBusy, ran⟩ | ⟨index, bound, ready, ran⟩
  · refine iff_of_false (fun one => ?_) (fun free => ?_)
    · have reads := one.reads
      rw [ran, pollTrace_length] at reads
      exact Nat.not_lt.mpr reads several
    · have first := allBusy 0 (Nat.lt_trans Nat.zero_lt_one several)
      exact absurd (free.symm.trans first) Bool.false_ne_true
  · constructor
    · intro one
      have reads := one.reads
      rw [ran, pollTrace_length] at reads
      have first := Nat.le_zero.mp (Nat.le_of_succ_le_succ reads)
      subst first
      exact ready.2
    · intro free
      have none : BusyFor busy (dev.replies addr state) 0 :=
        fun index impossible => absurd impossible (Nat.not_lt_zero index)
      have first : index = 0 := ready.unique ⟨none, free⟩
      subst first
      refine ⟨within.polls, Nat.le_of_eq ?_, within.found⟩
      rw [ran, pollTrace_length]

variable {dev addr busy} in
/-- The budget is the number the countdown starts at, and one poll if that is
zero, unless the wrap is reached. -/
theorem pollWhile_withinBudget_iff (wide : 0 < n) (timeout : BitVec n) (state : σ) :
    WithinBudget addr busy (max 1 timeout.toNat) ((pollWhile addr busy timeout).run dev state) ↔
      timeout ≠ 0 ∨ busy (dev.read state addr).1 = false := by
  by_cases zero : timeout = 0
  · subst zero
    have one : max 1 (BitVec.toNat (0 : BitVec n)) = 1 := by
      change max 1 (0 % 2 ^ n) = 1
      rw [Nat.zero_mod, Nat.max_zero]
    rw [one, or_iff_right fun different => different rfl]
    exact pollWhile_zero_withinBudget_iff dev addr busy wide state
  · have within := pollWhile_withinBudget dev addr busy timeout state
    rw [pollBudget_eq zero] at within
    have reads := Nat.le_trans within.reads (Nat.le_max_right 1 timeout.toNat)
    exact iff_of_true ⟨within.polls, reads, within.found⟩ (Or.inl zero)

end Mmio
end McuRom
