import McuRom.Memory.Strings
import McuRom.Rom.LibcStubs
import McuRom.Romtime.Print

namespace McuRom

open Mmio Memory

/-!
# memset, memcmp and strlen

The remaining functions of the ROM's libc go through a range like the copy
functions.  `memcmp` returns the sign of the first difference, so it orders
ranges as lists of unsigned bytes, whether or not they overlap or wrap around.

`strlen` has no bound.  It ends if there is a NUL byte anywhere in memory and
takes the number of bytes after which it is cut; 2^32 of them are all there
are.  It is what `print` uses to find the end of its text, and with it `print`
can be stated as the source has it, from a pointer.
-/

/-- Minimal memset implementation -/
def memset (memory : Word → Byte) (dest : Word) (ch : Word) (count : SizeT) :
    Word × (Word → Byte) :=
  let c : Byte := ch.setWidth 8
  (dest, fillUp memory dest c count.toNat)

/-- The loop of `memcmp`, with the number of bytes to come. -/
def memcmpLoop (memory : Word → Byte) : Nat → Word → Word → Int
  | 0, _, _ => 0
  | count + 1, l, r =>
    if memory l ≠ memory r then
      if memory l < memory r then -1 else 1
    else memcmpLoop memory count (l + 1) (r + 1)

/-- Minimal memcmp implementation -/
def memcmp (memory : Word → Byte) (lhs rhs : Word) (count : SizeT) : Int :=
  memcmpLoop memory count.toNat lhs rhs

/-- The loop of `strlen`. -/
def strlenLoop (memory : Word → Byte) : Nat → Word → SizeT → Option SizeT
  | 0, _, _ => none
  | fuel + 1, str, len =>
    if memory str ≠ 0 then strlenLoop memory fuel (str + 1) (len + 1) else some len

/-- Minimal strlen implementation -/
def strlen (fuel : Nat) (memory : Word → Byte) (str : Word) : Option SizeT :=
  strlenLoop memory fuel str 0

/-! ## Comparing, copying and filling -/

theorem memcmpLoop_orders (memory : Word → Byte) (count : Nat) (lhs rhs : Word) :
    Orders (memcmpLoop memory count lhs rhs) (cells memory lhs count) (cells memory rhs count) := by
  induction count generalizing lhs rhs with
  | zero => exact Orders.nil
  | succ count ih =>
      rw [memcmpLoop, cells, cells]
      by_cases same : memory lhs = memory rhs
      · rw [if_neg (not_not_intro same), same]
        exact (ih (lhs + 1) (rhs + 1)).cons (BitVec.lt_irrefl _)
      · rw [if_pos same]
        by_cases smaller : memory lhs < memory rhs
        · rw [if_pos smaller]
          exact Orders.less_head smaller (BitVec.lt_asymm smaller) same
        · rw [if_neg smaller]
          have greater := BitVec.lt_of_le_ne (BitVec.not_lt.mp smaller) (Ne.symm same)
          exact Orders.greater_head greater smaller same

/-- The result depends on the contents of the two ranges only. -/
theorem memcmpLoop_congr {first second : Word → Byte} {lhs rhs lhs' rhs' : Word} {count : Nat}
    (sameLhs : cells first lhs count = cells second lhs' count)
    (sameRhs : cells first rhs count = cells second rhs' count) :
    memcmpLoop first count lhs rhs = memcmpLoop second count lhs' rhs' := by
  induction count generalizing lhs rhs lhs' rhs' with
  | zero => rfl
  | succ count ih =>
      rw [cells, cells, List.cons_eq_cons] at sameLhs sameRhs
      rw [memcmpLoop, memcmpLoop, sameLhs.1, sameRhs.1, ih sameLhs.2 sameRhs.2]

/-- What the functions of the libc over ranges do for each other.  `memcmp`
orders ranges; a moved range compares as it did at its old place with every
range that was not written, hence a copy compares equal to its source; and a
range that was set holds nothing but the byte. -/
structure CopyArguments.RangeFunctions (arguments : CopyArguments) (memory : Word → Byte) :
    Prop where
  ordered : ∀ (lhs rhs : Word) (count : SizeT), Orders (memcmp memory lhs rhs count)
    (cells memory lhs count.toNat) (cells memory rhs count.toNat)
  moved : ∀ other : Word, other.toNat + arguments.count.toNat ≤ 2 ^ 32 →
    Apart arguments.dest.toNat other.toNat arguments.count.toNat →
      memcmp (memmove memory arguments.dest arguments.src arguments.count).2
          arguments.dest other arguments.count =
        memcmp memory arguments.src other arguments.count
  copied : Apart arguments.dest.toNat arguments.src.toNat arguments.count.toNat →
    memcmp (memcpy memory arguments.dest arguments.src arguments.count).2
      arguments.dest arguments.src arguments.count = 0
  set : ∀ ch : Word,
    Filled memory (memset memory arguments.dest ch arguments.count).2
      arguments.dest.toNat arguments.count.toNat (ch.setWidth 8)
  compared : ∀ ch other : Word,
    memcmp (memset memory arguments.dest ch arguments.count).2
        arguments.dest other arguments.count = 0 →
      cells (memset memory arguments.dest ch arguments.count).2 other arguments.count.toNat =
        List.replicate arguments.count.toNat (ch.setWidth 8)

namespace CopyArguments

variable (arguments : CopyArguments) (memory : Word → Byte)

theorem memset_filled (ch : Word) :
    Filled memory (memset memory arguments.dest ch arguments.count).2
      arguments.dest.toNat arguments.count.toNat (ch.setWidth 8) := by
  have filled := fillUp_filled memory (ch.setWidth 8 : Byte) arguments.dest_fits
  rw [ofNat_toNat_self] at filled
  exact filled

theorem rangeFunctions : arguments.RangeFunctions memory := by
  refine ⟨fun lhs rhs count => memcmpLoop_orders memory count.toNat lhs rhs, ?_, ?_,
    memset_filled arguments memory, ?_⟩
  · intro other fits apart
    have copied := memmove_copied arguments memory
    exact memcmpLoop_congr copied.cells_dest (cells_unchanged copied.unchanged fits apart)
  · intro apart
    have copied := memcpy_copied arguments memory apart
    have source := cells_unchanged copied.unchanged arguments.src_fits apart
    have orders := memcmpLoop_orders (memcpy memory arguments.dest arguments.src arguments.count).2
      arguments.count.toNat arguments.dest arguments.src
    exact orders.equal.mpr (copied.cells_dest.trans source.symm)
  · intro ch other same
    have orders := memcmpLoop_orders (memset memory arguments.dest ch arguments.count).2
      arguments.count.toNat arguments.dest other
    rw [← orders.equal.mp same]
    exact (memset_filled arguments memory ch).cells_dest

/-- The bytes that were moved up by two compare as less than those behind
them, as they did before. -/
theorem rangeFunctions_overlapping :
    memcmp (memmove lowBytes overlapping.dest overlapping.src overlapping.count).2
      overlapping.dest 0x40000008 overlapping.count = -1 :=
  ((rangeFunctions overlapping lowBytes).moved 0x40000008 (by decide) (by decide)).trans
    (by decide)

end CopyArguments

/-! ## strlen -/

variable {memory : Word → Byte} {str : Word} {content : List Byte}

theorem strlenLoop_eq (holds : HoldsString 0 memory str content) {fuel : Nat}
    (enough : content.length < fuel) (len : SizeT) :
    strlenLoop memory fuel str len = some (len + BitVec.ofNat 32 content.length) := by
  induction content generalizing str fuel len with
  | nil =>
      obtain ⟨fuel, rfl⟩ := Nat.exists_eq_succ_of_ne_zero (Nat.ne_of_gt enough)
      have terminated := holds.terminated
      rw [List.length_nil, BitVec.add_zero] at terminated
      rw [strlenLoop, if_neg (not_not_intro terminated), List.length_nil, BitVec.add_zero]
  | cons byte content ih =>
      obtain ⟨fuel, rfl⟩ := Nat.exists_eq_succ_of_ne_zero (Nat.ne_of_gt (Nat.zero_lt_of_lt enough))
      obtain ⟨here, different, rest⟩ := holdsString_cons.mp holds
      have notNul : memory str ≠ 0 := by rwa [here]
      rw [strlenLoop, if_pos notNul, ih rest (Nat.lt_of_succ_lt_succ enough), add_one_add,
        List.length_cons]

/-- Without a NUL byte the loop never ends. -/
theorem strlenLoop_none (nowhere : ∀ addr, memory addr ≠ 0) (fuel : Nat) (str : Word)
    (len : SizeT) : strlenLoop memory fuel str len = none := by
  induction fuel generalizing str len with
  | zero => rfl
  | succ fuel ih => rw [strlenLoop, if_pos (nowhere str), ih]

theorem strlen_eq (holds : HoldsString 0 memory str content) {fuel : Nat}
    (enough : 2 ^ 32 ≤ fuel) : strlen fuel memory str = some (BitVec.ofNat 32 content.length) := by
  have fromZero : (0 : SizeT) + BitVec.ofNat 32 content.length = BitVec.ofNat 32 content.length :=
    BitVec.zero_add _
  rw [strlen, strlenLoop_eq holds (Nat.lt_of_lt_of_le holds.length_lt enough), fromZero]

theorem strlen_isSome {fuel : Nat} (enough : 2 ^ 32 ≤ fuel) :
    (strlen fuel memory str).isSome = true ↔ ∃ addr, memory addr = 0 := by
  constructor
  · intro returned
    by_contra nowhere
    rw [strlen, strlenLoop_none (fun addr nul => nowhere ⟨addr, nul⟩)] at returned
    exact Bool.false_ne_true returned
  · intro found
    obtain ⟨content, holds⟩ := exists_holdsString str found
    rw [strlen_eq holds enough]
    rfl

/-! ## Printing from memory -/

/-- The writer's `write`, which goes through the memory from `str` on. -/
def Writer.writeFrom (writer : Writer) (memory : Word → Byte) (str : Word) :
    Nat → SizeT → Driver Unit
  | 0, _ => pure ()
  | count + 1, i => do
    writer.writeChar (Char.ofNat (memory (str + i)).toNat)
    Writer.writeFrom writer memory str count (i + 1)

namespace CString

/-- `print`, from a pointer.  `none` is a call that has not returned. -/
def print (fuel : Nat) (gWriter : Option Writer) (memory : Word → Byte) (str : Word) :
    Option (Driver Unit) :=
  match gWriter with
  | none => some (pure ())
  | some writer =>
    if str ≠ 0 then
      (strlen fuel memory str).map fun len => writer.writeFrom memory str len.toNat 0
    else some (pure ())

/-- `println`, from a pointer. -/
def println (fuel : Nat) (gWriter : Option Writer) (memory : Word → Byte) (str : Word) :
    Option (Driver Unit) :=
  (print fuel gWriter memory str).map fun printed => do
    printed
    match gWriter with
    | none => pure ()
    | some writer => writer.writeChar '\n'

end CString

/-- The text as bytes. -/
def textBytes (text : String) : List Byte := text.toList.map fun c => BitVec.ofNat 8 c.toNat

/-- Printing from a pointer is printing the text that it points to.  A null
pointer prints nothing, and a call with another pointer returns if and only
if there is a NUL byte in memory. -/
structure CString.Prints (gWriter : Option Writer) (memory : Word → Byte) (str : Word) : Prop where
  text : ∀ (fuel : Nat) (text : String), 2 ^ 32 ≤ fuel → str ≠ 0 →
    HoldsString 0 memory str (textBytes text) →
      CString.print fuel gWriter memory str = some (McuRom.print gWriter text) ∧
        CString.println fuel gWriter memory str = some (McuRom.println gWriter text)
  null : str = 0 → ∀ fuel, CString.print fuel gWriter memory str = some (pure ()) ∧
    CString.println fuel gWriter memory str = some (McuRom.println gWriter "")
  returns : ∀ fuel, 2 ^ 32 ≤ fuel → gWriter ≠ none → str ≠ 0 →
    ((CString.println fuel gWriter memory str).isSome = true ↔ ∃ addr, memory addr = 0)

namespace CString

theorem ofNat_toNat_charOfNat (byte : Byte) :
    BitVec.ofNat 8 (Char.ofNat byte.toNat).toNat = byte := by
  have valid : byte.toNat.isValidChar := Or.inl (Nat.lt_trans byte.isLt (by decide))
  rw [Char.ofNat, dif_pos valid]
  exact ofNat_toNat_self byte

/-- A character and the byte it is stored as are sent alike. -/
theorem writeChar_eq (writer : Writer) (c : Char) :
    writer.writeChar (Char.ofNat (BitVec.ofNat 8 c.toNat).toNat) = writer.writeChar c := by
  cases writer
  rw [Writer.writeChar, Writer.writeChar, ofNat_toNat_charOfNat]

theorem writeFrom_eq (writer : Writer) (chars : List Char) (i : SizeT)
    (held : cells memory (str + i) chars.length = chars.map fun c => BitVec.ofNat 8 c.toNat) :
    writer.writeFrom memory str chars.length i = writer.write chars := by
  induction chars generalizing i with
  | nil => rfl
  | cons c chars ih =>
      rw [List.length_cons, cells, List.map_cons, List.cons_eq_cons, BitVec.add_assoc] at held
      rw [List.length_cons, Writer.writeFrom, Writer.write, held.1, writeChar_eq,
        ih (i + 1) held.2]

theorem print_eq {fuel : Nat} (enough : 2 ^ 32 ≤ fuel) (notNull : str ≠ 0)
    {text : String} (holds : HoldsString 0 memory str (textBytes text))
    (gWriter : Option Writer) :
    print fuel gWriter memory str = some (McuRom.print gWriter text) := by
  cases gWriter with
  | none => rfl
  | some writer =>
      have length : (textBytes text).length = text.toList.length := List.length_map _
      have short := holds.length_lt
      have held := holds.held
      rw [length] at short held
      have start : str + 0 = str := BitVec.add_zero str
      have written := writeFrom_eq writer text.toList (0 : SizeT) (by rw [start]; exact held)
      rw [print, if_pos notNull, strlen_eq holds enough, Option.map_some, length,
        BitVec.toNat_ofNat, Nat.mod_eq_of_lt short, written, McuRom.print]

theorem prints (gWriter : Option Writer) (memory : Word → Byte) (str : Word) :
    Prints gWriter memory str := by
  constructor
  · intro fuel text enough notNull holds
    have printed := print_eq enough notNull holds gWriter
    refine ⟨printed, ?_⟩
    unfold println McuRom.println
    rw [printed]
    rfl
  · intro null fuel
    have printed : print fuel gWriter memory str = some (pure ()) := by
      cases gWriter with
      | none => rfl
      | some writer => rw [print, if_neg (not_not_intro null)]
    refine ⟨printed, ?_⟩
    unfold println
    rw [printed]
    cases gWriter <;> rfl
  · intro fuel enough writing notNull
    cases gWriter with
    | none => exact absurd rfl writing
    | some writer =>
        unfold println
        rw [Option.isSome_map, print, if_pos notNull, Option.isSome_map,
          strlen_isSome enough]

end CString

end McuRom
