import McuRom.Mmio.Program

namespace McuRom
namespace Mmio

/-!
# What registers and arrays hold

A register that keeps what is written to it holds, after a trace, the last
value the trace wrote, whatever the rest of the device does.

An array into which a block of words is stored one by one holds each word at
its place, as long as no two places are the same.
-/

namespace Access

variable {A W : Type} {addr : A}

/-- The trace does not write the register. -/
def Untouched (addr : A) (trace : List (Access A W)) : Prop :=
  ∀ value, Access.write addr value ∉ trace

theorem Untouched.append {first second : List (Access A W)} (left : Untouched addr first)
    (right : Untouched addr second) : Untouched addr (first ++ second) := by
  intro value member
  rcases List.mem_append.mp member with earlier | later
  · exact left value earlier
  · exact right value later

theorem untouched_reads {trace : List (Access A W)}
    (reads : ∀ access ∈ trace, ∃ other value, access = .read other value) :
    Untouched addr trace := by
  intro value member
  rcases reads _ member with ⟨other, reply, equal⟩
  cases equal

theorem untouched_ofWrites {list : List (A × W)} (avoids : ∀ entry ∈ list, entry.1 ≠ addr) :
    Untouched addr (ofWrites list) := by
  intro value member
  rcases mem_ofWrites.mp member with ⟨other, written, inside, equal⟩
  cases equal
  exact avoids _ inside rfl

variable [DecidableEq A]

/-- The value a register holds after a trace. -/
def lastWrite (addr : A) : W → List (Access A W) → W
  | held, [] => held
  | held, .read _ _ :: rest => lastWrite addr held rest
  | held, .write other value :: rest => lastWrite addr (if other = addr then value else held) rest

theorem lastWrite_append (addr : A) (held : W) (first second : List (Access A W)) :
    lastWrite addr held (first ++ second) = lastWrite addr (lastWrite addr held first) second := by
  induction first generalizing held with
  | nil => rfl
  | cons access rest ih => cases access <;> exact ih _

theorem lastWrite_untouched {trace : List (Access A W)} (untouched : Untouched addr trace)
    (held : W) : lastWrite addr held trace = held := by
  induction trace generalizing held with
  | nil => rfl
  | cons access rest ih =>
      have later : Untouched addr rest := fun value member =>
        untouched value (List.mem_cons_of_mem _ member)
      cases access with
      | read other value => exact ih later held
      | write other value =>
          have different : other ≠ addr := by
            rintro rfl
            exact untouched value List.mem_cons_self
          rw [lastWrite, if_neg different]
          exact ih later held

/-- The last write of a trace, with nothing behind it that touches the register. -/
theorem lastWrite_write {before after : List (Access A W)} (value : W)
    (untouched : Untouched addr after) (held : W) :
    lastWrite addr held (before ++ .write addr value :: after) = value := by
  rw [lastWrite_append, lastWrite, if_pos rfl, lastWrite_untouched untouched]

end Access

/-! ## Blocks of words -/

section Block

variable {A W : Type} [DecidableEq A] (place : Nat → A)

/-- Store words at consecutive places, from the place with index `i` on. -/
def storeBlock : Nat → List W → (A → W) → A → W
  | _, [], array => array
  | i, word :: rest, array => storeBlock (i + 1) rest (Function.update array (place i) word)

variable {place} {bound : Nat}

/-- Storing a block changes its own places only. -/
theorem storeBlock_of_ne (i : Nat) (block : List W) (array : A → W) {target : A}
    (outside : ∀ index < block.length, target ≠ place (i + index)) :
    storeBlock place i block array target = array target := by
  induction block generalizing i array with
  | nil => rfl
  | cons word rest ih =>
      have first : target ≠ place i := outside 0 (Nat.succ_pos _)
      rw [storeBlock, ih, Function.update_of_ne first]
      intro index inside
      have later := outside (index + 1) (Nat.succ_lt_succ inside)
      rwa [show i + 1 + index = i + (index + 1) by omega]

/-- Every word of the block stands at its place. -/
theorem storeBlock_place
    (apart : ∀ first < bound, ∀ second < bound, place first = place second → first = second)
    (i : Nat) (block : List W) (array : A → W) (fits : i + block.length ≤ bound)
    {index : Nat} (inside : index < block.length) :
    storeBlock place i block array (place (i + index)) = block[index] := by
  induction block generalizing i array index with
  | nil => cases inside
  | cons word rest ih =>
      simp only [List.length_cons] at fits inside
      cases index with
      | zero =>
          rw [storeBlock, storeBlock_of_ne]
          · exact Function.update_self _ _ _
          · intro later below same
            have equal := apart (i + 0) (by omega) (i + 1 + later) (by omega) same
            omega
      | succ index =>
          have below : index < rest.length := by omega
          have tail := ih (i + 1) (Function.update array (place i) word) (by omega) below
          rw [storeBlock, show i + (index + 1) = i + 1 + index by omega, tail]
          rfl

end Block

end Mmio
end McuRom
