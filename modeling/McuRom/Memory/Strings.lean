import McuRom.Memory.Words

namespace McuRom
namespace Memory

/-!
# Ranges as lists

The contents of a range form a list, which is what comparing, filling and
printing a range are about.  Here the pointers may wrap around: the cell after
the last address is the first one.

A string is a range that ends in front of the first cell with a given value,
the terminator.
-/

variable {w : Nat} {β : Type}

/-- The contents of a number of cells, the first one first. -/
def cells (memory : BitVec w → β) (start : BitVec w) : Nat → List β
  | 0 => []
  | count + 1 => memory start :: cells memory (start + 1) count

/-- Fill `count` cells, the first one first. -/
def fillUp (memory : BitVec w → β) (dest : BitVec w) (value : β) : Nat → BitVec w → β
  | 0 => memory
  | count + 1 => fillUp (Function.update memory dest value) (dest + 1) value count

/-- A range holds a list, and the cell behind it is the first terminator. -/
structure HoldsString (terminator : β) (memory : BitVec w → β) (start : BitVec w)
    (content : List β) : Prop where
  held : cells memory start content.length = content
  terminated : memory (start + BitVec.ofNat w content.length) = terminator
  proper : terminator ∉ content

variable {memory before after : BitVec w → β} {start dest src : BitVec w} {count : Nat}

/-! ## Cells -/

theorem length_cells (memory : BitVec w → β) (start : BitVec w) (count : Nat) :
    (cells memory start count).length = count := by
  induction count generalizing start with
  | zero => rfl
  | succ count ih => rw [cells, List.length_cons, ih]

/-- The address of the next cell's successor, counted from the cell. -/
theorem add_one_add (start : BitVec w) (offset : Nat) :
    start + 1 + BitVec.ofNat w offset = start + BitVec.ofNat w (offset + 1) := by
  rw [BitVec.add_assoc, BitVec.add_comm 1, ofNat_succ]

theorem cells_eq_map (memory : BitVec w → β) (start : BitVec w) (count : Nat) :
    cells memory start count =
      (List.range count).map fun i => memory (start + BitVec.ofNat w i) := by
  induction count generalizing start with
  | zero => rfl
  | succ count ih =>
      have first : start + BitVec.ofNat w 0 = start := BitVec.add_zero start
      rw [cells, ih, List.range_succ_eq_map, List.map_cons, List.map_map, first]
      congr 1
      apply List.map_congr_left
      intro i _
      rw [Function.comp_apply, add_one_add]

/-- Two ranges, maybe of different memories, have the same contents if their
cells agree one by one. -/
theorem cells_congr {other : BitVec w → β} {elsewhere : BitVec w}
    (agree : ∀ i < count, memory (start + BitVec.ofNat w i) =
      other (elsewhere + BitVec.ofNat w i)) :
    cells memory start count = cells other elsewhere count := by
  rw [cells_eq_map, cells_eq_map]
  apply List.map_congr_left
  intro i bound
  exact agree i (List.mem_range.mp bound)

/-! ## Copies and fills -/

/-- A copy moves the contents of a range. -/
theorem Copied.cells_dest (copied : Copied before after dest.toNat src.toNat count) :
    cells after dest count = cells before src count := by
  apply cells_congr
  intro i bound
  rw [add_ofNat, add_ofNat]
  exact copied.copied i bound

/-- A range that does not meet the target keeps its contents. -/
theorem cells_unchanged
    (unchanged : ∀ addr : BitVec w, ¬ (dest.toNat ≤ addr.toNat ∧
      addr.toNat < dest.toNat + count) → after addr = before addr)
    (fits : start.toNat + count ≤ 2 ^ w) (apart : Apart dest.toNat start.toNat count) :
    cells after start count = cells before start count := by
  apply cells_congr
  intro i bound
  rw [add_ofNat]
  apply unchanged_at unchanged (by omega)
  unfold Apart at apart
  omega

theorem fillUp_filled (memory : BitVec w → β) (value : β) {dest : Nat}
    (fits : dest + count ≤ 2 ^ w) :
    Filled memory (fillUp memory (BitVec.ofNat w dest) value count) dest count value := by
  induction count generalizing memory dest with
  | zero => exact ⟨fun _ impossible => absurd impossible (Nat.not_lt_zero _), fun _ _ => rfl⟩
  | succ count ih =>
      rw [fillUp, ofNat_succ]
      have later := ih (Function.update memory (BitVec.ofNat w dest) value)
        (by omega : dest + 1 + count ≤ 2 ^ w)
      constructor
      · intro i bound
        cases i with
        | zero =>
            have kept := unchanged_at later.unchanged (by omega : dest < 2 ^ w) (by omega)
            rw [Nat.add_zero dest, kept, Function.update_self]
        | succ i =>
            have filled := later.filled i (Nat.lt_of_succ_lt_succ bound)
            rwa [Nat.add_assoc, Nat.add_comm 1 i] at filled
      · intro addr outside
        have elsewhere : addr ≠ BitVec.ofNat w dest := by
          rintro rfl
          rw [BitVec.toNat_ofNat, Nat.mod_eq_of_lt (by omega)] at outside
          omega
        rw [later.unchanged addr (by omega), Function.update_of_ne elsewhere]

theorem Filled.cells_dest {value : β} (filled : Filled before after dest.toNat count value) :
    cells after dest count = List.replicate count value := by
  apply List.eq_replicate_iff.mpr
  refine ⟨length_cells after dest count, fun cell member => ?_⟩
  rw [cells_eq_map] at member
  obtain ⟨i, bound, rfl⟩ := List.mem_map.mp member
  rw [add_ofNat]
  exact filled.filled i (List.mem_range.mp bound)

/-! ## Strings -/

variable {terminator : β} {content : List β}

/-- The empty string. -/
theorem HoldsString.nil (terminated : memory start = terminator) :
    HoldsString terminator memory start [] :=
  ⟨rfl, by rwa [List.length_nil, BitVec.add_zero], List.not_mem_nil⟩

/-- A string without its first cell is a string. -/
theorem holdsString_cons {cell : β} :
    HoldsString terminator memory start (cell :: content) ↔
      memory start = cell ∧ cell ≠ terminator ∧
        HoldsString terminator memory (start + 1) content := by
  constructor
  · rintro ⟨held, terminated, proper⟩
    rw [List.length_cons, cells, List.cons_eq_cons] at held
    rw [List.length_cons, ← add_one_add] at terminated
    rw [List.mem_cons, not_or] at proper
    exact ⟨held.1, Ne.symm proper.1, held.2, terminated, proper.2⟩
  · rintro ⟨first, different, held, terminated, proper⟩
    refine ⟨?_, ?_, ?_⟩
    · rw [List.length_cons, cells, first, held]
    · rwa [List.length_cons, ← add_one_add]
    · rw [List.mem_cons, not_or]
      exact ⟨Ne.symm different, proper⟩

/-- The cell at an offset within a range. -/
theorem mem_cells (memory : BitVec w → β) (start : BitVec w) {offset : Nat}
    (within : offset < count) : memory (start + BitVec.ofNat w offset) ∈ cells memory start count := by
  rw [cells_eq_map]
  exact List.mem_map_of_mem (List.mem_range.mpr within)

/-- A string does not go round the whole memory: it would meet its own
terminator. -/
theorem HoldsString.length_lt (holds : HoldsString terminator memory start content) :
    content.length < 2 ^ w := by
  apply Nat.lt_of_not_le
  intro long
  have within : content.length % 2 ^ w < content.length :=
    Nat.lt_of_lt_of_le (Nat.mod_lt _ (Nat.two_pow_pos w)) long
  have again := mem_cells memory start within
  have sameCell : BitVec.ofNat w (content.length % 2 ^ w) = BitVec.ofNat w content.length := by
    apply BitVec.eq_of_toNat_eq
    rw [BitVec.toNat_ofNat, BitVec.toNat_ofNat, Nat.mod_mod]
  rw [sameCell, holds.terminated, holds.held] at again
  exact holds.proper again

/-- Every address holds a string as soon as the memory has a terminator. -/
theorem exists_holdsString (start : BitVec w) (found : ∃ addr, memory addr = terminator) :
    ∃ content, HoldsString terminator memory start content := by
  obtain ⟨addr, terminated⟩ := found
  have steps (count : Nat) : ∀ first : BitVec w,
      memory (first + BitVec.ofNat w count) = terminator →
        ∃ content, HoldsString terminator memory first content := by
    induction count with
    | zero =>
        intro first here
        rw [BitVec.add_zero] at here
        exact ⟨[], HoldsString.nil here⟩
    | succ count ih =>
        intro first later
        by_cases here : memory first = terminator
        · exact ⟨[], HoldsString.nil here⟩
        · rw [← add_one_add] at later
          obtain ⟨content, rest⟩ := ih (first + 1) later
          exact ⟨memory first :: content, holdsString_cons.mpr ⟨rfl, here, rest⟩⟩
  apply steps (addr - start).toNat start
  rwa [ofNat_toNat_self, BitVec.add_comm, BitVec.sub_add_cancel]

/-! ## Comparisons -/

/-- A number tells the order of two lists by its sign. -/
structure Orders [LT β] (result : Int) (first second : List β) : Prop where
  less : result < 0 ↔ first < second
  equal : result = 0 ↔ first = second
  greater : 0 < result ↔ second < first

theorem Orders.nil [LT β] : Orders 0 ([] : List β) [] := by
  constructor
  · exact ⟨fun impossible => absurd impossible (by decide), fun impossible => nomatch impossible⟩
  · exact ⟨fun _ => rfl, fun _ => rfl⟩
  · exact ⟨fun impossible => absurd impossible (by decide), fun impossible => nomatch impossible⟩

variable [LT β] {result : Int} {entry other : β} {first second : List β}

/-- Equal first entries leave the order to the rest. -/
theorem Orders.cons (orders : Orders result first second) (irreflexive : ¬ entry < entry) :
    Orders result (entry :: first) (entry :: second) := by
  have rest {left right : List β} : entry :: left < entry :: right ↔ left < right := by
    rw [List.cons_lt_cons_iff]
    constructor
    · rintro (impossible | ⟨-, smaller⟩)
      · exact absurd impossible irreflexive
      · exact smaller
    · exact fun smaller => Or.inr ⟨rfl, smaller⟩
  refine ⟨?_, ?_, ?_⟩
  · rw [rest, orders.less]
  · rw [List.cons_inj_right, orders.equal]
  · rw [rest, orders.greater]

/-- A smaller first entry decides the order. -/
theorem Orders.less_head (smaller : entry < other) (notGreater : ¬ other < entry)
    (different : entry ≠ other) : Orders (-1) (entry :: first) (other :: second) := by
  refine ⟨?_, ?_, ?_⟩
  · rw [List.cons_lt_cons_iff]
    exact ⟨fun _ => Or.inl smaller, fun _ => by decide⟩
  · rw [List.cons_eq_cons]
    exact ⟨fun impossible => absurd impossible (by decide), fun same => absurd same.1 different⟩
  · rw [List.cons_lt_cons_iff]
    constructor
    · exact fun impossible => absurd impossible (by decide)
    · rintro (greater | ⟨same, -⟩)
      · exact absurd greater notGreater
      · exact absurd same.symm different

/-- So does a greater one. -/
theorem Orders.greater_head (greater : other < entry) (notSmaller : ¬ entry < other)
    (different : entry ≠ other) : Orders 1 (entry :: first) (other :: second) := by
  have mirrored : Orders (-1) (other :: second) (entry :: first) :=
    less_head greater notSmaller different.symm
  refine ⟨?_, ?_, ?_⟩
  · rw [← mirrored.greater]
    decide
  · rw [@eq_comm _ (entry :: first)]
    exact ⟨fun impossible => absurd impossible (by decide),
      fun same => absurd (mirrored.equal.mpr same) (by decide)⟩
  · rw [← mirrored.less]
    decide

end Memory
end McuRom
