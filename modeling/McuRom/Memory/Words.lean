import McuRom.Memory.Copy

namespace McuRom
namespace Memory

/-!
# Words in a memory of bytes

A word occupies four bytes, the low one first.  Going through a range word by
word fills or copies the range rounded up to whole words.
-/

variable {w : Nat}

/-- The word at an address. -/
def loadWord (memory : BitVec w → BitVec 8) (addr : BitVec w) : BitVec 32 :=
  memory (addr + 3) ++ memory (addr + 2) ++ memory (addr + 1) ++ memory addr

/-- Store a word at an address. -/
def storeWord (memory : BitVec w → BitVec 8) (addr : BitVec w) (word : BitVec 32) :
    BitVec w → BitVec 8 :=
  fun byte =>
    if (byte - addr).toNat < 4 then (word >>> (8 * (byte - addr).toNat)).setWidth 8
    else memory byte

/-- The cells of a range hold a value, and no other cell has changed. -/
structure Filled {β : Type} (before after : BitVec w → β) (start count : Nat) (value : β) :
    Prop where
  filled : ∀ i < count, after (BitVec.ofNat w (start + i)) = value
  unchanged : ∀ addr : BitVec w, ¬ (start ≤ addr.toNat ∧ addr.toNat < start + count) →
    after addr = before addr

/-! ## Bytes of a word -/

variable {memory : BitVec w → BitVec 8} {start : Nat}

theorem getLsbD_loadWord (addr : BitVec w) {i j : Nat} (byte : i < 4) (bit : j < 8) :
    (loadWord memory addr).getLsbD (8 * i + j) = (memory (addr + BitVec.ofNat w i)).getLsbD j := by
  rw [loadWord, BitVec.getLsbD_append, BitVec.getLsbD_append, BitVec.getLsbD_append]
  match i, byte with
  | 0, _ =>
    rw [if_pos (by omega), Nat.mul_zero, Nat.zero_add, BitVec.add_zero]
  | 1, _ =>
    rw [if_neg (by omega), if_pos (by omega), Nat.mul_one, Nat.add_sub_cancel_left]
    rfl
  | 2, _ =>
    rw [if_neg (by omega), if_neg (by omega), if_pos (by omega),
      show 8 * 2 + j - 8 - 8 = j by omega]
    rfl
  | 3, _ =>
    rw [if_neg (by omega), if_neg (by omega), if_neg (by omega),
      show 8 * 3 + j - 8 - 8 - 8 = j by omega]
    rfl

theorem loadWord_byte (addr : BitVec w) {i : Nat} (bound : i < 4) :
    (loadWord memory addr >>> (8 * i)).setWidth 8 = memory (addr + BitVec.ofNat w i) := by
  ext j bit
  rw [BitVec.getElem_setWidth, BitVec.getLsbD_ushiftRight, getLsbD_loadWord addr bound bit,
    BitVec.getLsbD_eq_getElem]

theorem storeWord_inside (word : BitVec 32) (fits : start + 4 ≤ 2 ^ w) {i : Nat} (bound : i < 4) :
    storeWord memory (BitVec.ofNat w start) word (BitVec.ofNat w (start + i)) =
      (word >>> (8 * i)).setWidth 8 := by
  have offset : (BitVec.ofNat w (start + i) - BitVec.ofNat w start).toNat = i := by
    rw [BitVec.ofNat_add, BitVec.add_comm, BitVec.add_sub_cancel, BitVec.toNat_ofNat,
      Nat.mod_eq_of_lt (by omega)]
  rw [storeWord, offset, if_pos bound]

theorem storeWord_outside (word : BitVec 32) (fits : start + 4 ≤ 2 ^ w) {addr : BitVec w}
    (outside : ¬ (start ≤ addr.toNat ∧ addr.toNat < start + 4)) :
    storeWord memory (BitVec.ofNat w start) word addr = memory addr := by
  have elsewhere : ¬ (addr - BitVec.ofNat w start).toNat < 4 := by
    rw [BitVec.toNat_sub, BitVec.toNat_ofNat, Nat.mod_eq_of_lt (by omega : start < 2 ^ w)]
    have bound := addr.isLt
    by_cases above : start ≤ addr.toNat
    · rw [show 2 ^ w - start + addr.toNat = 2 ^ w + (addr.toNat - start) by omega,
        Nat.add_mod_left, Nat.mod_eq_of_lt (by omega)]
      omega
    · rw [Nat.mod_eq_of_lt (by omega)]
      omega
  rw [storeWord, if_neg elsewhere]

/-! ## Word by word -/

/-- A word that is loaded and stored is copied. -/
theorem storeWord_loadWord_copied {src : Nat} (fits : start + 4 ≤ 2 ^ w) :
    Copied memory (storeWord memory (BitVec.ofNat w start) (loadWord memory (BitVec.ofNat w src)))
      start src 4 := by
  constructor
  · intro i bound
    rw [storeWord_inside _ fits bound, loadWord_byte _ bound, ← BitVec.ofNat_add]
  · intro addr outside
    exact storeWord_outside _ fits outside

theorem storeWord_zero_filled (fits : start + 4 ≤ 2 ^ w) :
    Filled memory (storeWord memory (BitVec.ofNat w start) 0) start 4 0 := by
  constructor
  · intro i bound
    rw [storeWord_inside _ fits bound]
    simp
  · intro addr outside
    exact storeWord_outside _ fits outside

section Filled

variable {β : Type} {before middle after : BitVec w → β} {count more : Nat} {value : β}

theorem Filled.none (memory : BitVec w → β) (start : Nat) (value : β) :
    Filled memory memory start 0 value :=
  ⟨fun _ impossible => absurd impossible (Nat.not_lt_zero _), fun _ _ => rfl⟩

theorem Filled.append (first : Filled before middle start count value)
    (second : Filled middle after (start + count) more value)
    (fits : start + (count + more) ≤ 2 ^ w) :
    Filled before after start (count + more) value := by
  constructor
  · intro i bound
    by_cases early : i < count
    · have kept := second.unchanged (BitVec.ofNat w (start + i)) (by
        rw [BitVec.toNat_ofNat, Nat.mod_eq_of_lt (by omega)]
        omega)
      rw [kept, first.filled i early]
    · have later := second.filled (i - count) (by omega)
      rw [Nat.add_assoc, Nat.add_sub_cancel' (Nat.not_lt.mp early)] at later
      exact later
  · intro addr outside
    rw [second.unchanged addr (by omega), first.unchanged addr (by omega)]

end Filled

end Memory
end McuRom
