import McuRom.Romtime.Print
import McuRom.Text.Reader

namespace McuRom

open Text

/-!
# Hexadecimal output read back

What `HexWord` prints is eight upper-case digits, and they determine the word.
-/

/-- The value of an upper-case hexadecimal digit. -/
def hexDigitValue (c : Char) : Option Nat :=
  if '0' ≤ c ∧ c ≤ '9' then some (c.toNat - '0'.toNat)
  else if 'A' ≤ c ∧ c ≤ 'F' then some (c.toNat - 'A'.toNat + 10)
  else none

def readHexDigit : Reader Byte
  | [] => none
  | c :: rest => (hexDigitValue c).map fun digit => (BitVec.ofNat 8 digit, rest)

def readHexByte : Reader Byte := do
  let high ← readHexDigit
  let low ← readHexDigit
  pure (high <<< 4 ||| low)

/-- Most significant byte first. -/
def readHexWord : Reader Word := do
  let byte3 ← readHexByte
  let byte2 ← readHexByte
  let byte1 ← readHexByte
  let byte0 ← readHexByte
  pure (byte3 ++ byte2 ++ byte1 ++ byte0)

theorem hexDigitValue_hexDigit :
    ∀ digit < 16, hexDigitValue (hexDigit digit) = some digit := by decide

theorem reads_hexDigit {digit : Byte} (small : digit.toNat < 16) :
    readHexDigit.Reads [hexDigit digit.toNat] digit := by
  intro rest
  have value := hexDigitValue_hexDigit digit.toNat small
  rw [List.singleton_append, readHexDigit, value, Option.map_some, BitVec.ofNat_toNat,
    BitVec.setWidth_eq]

/-- The two nibbles of a byte, put together. -/
theorem nibbles (x : Byte) : (x >>> 4) <<< 4 ||| (x &&& 0x0F) = x := by
  revert x
  decide

theorem nibble_high (x : Byte) : (x >>> 4).toNat < 16 := by
  rw [BitVec.toNat_ushiftRight, Nat.shiftRight_eq_div_pow]
  exact Nat.div_lt_of_lt_mul x.isLt

theorem nibble_low (x : Byte) : (x &&& 0x0F).toNat < 16 := by
  rw [BitVec.toNat_and]
  exact Nat.lt_of_le_of_lt Nat.and_le_right (by decide)

theorem reads_hexByte (x : Byte) :
    readHexByte.Reads [hexDigit (x >>> 4).toNat, hexDigit (x &&& 0x0F).toNat] x := by
  have both : readHexByte.Reads ([hexDigit (x >>> 4).toNat] ++ [hexDigit (x &&& 0x0F).toNat])
      ((x >>> 4) <<< 4 ||| (x &&& 0x0F)) := by
    refine Reader.Reads.bind (reads_hexDigit (nibble_high x)) ?_
    exact (reads_hexDigit (nibble_low x)).last
  rwa [nibbles] at both

/-- The bytes of a word, put together. -/
theorem wordBytes_append (value : Word) :
    ((value >>> 24).setWidth 8 ++ (value >>> 16).setWidth 8 ++ (value >>> 8).setWidth 8 ++
      (value >>> 0).setWidth 8 : Word) = value := by
  ext i bound
  simp only [BitVec.getElem_append, BitVec.getElem_setWidth, BitVec.getLsbD_ushiftRight]
  split
  · rw [Nat.zero_add, BitVec.getLsbD_eq_getElem]
  split
  · rw [Nat.add_sub_cancel' (by omega), BitVec.getLsbD_eq_getElem]
  split
  · rw [show 16 + (i - 8 - 8) = i by omega, BitVec.getLsbD_eq_getElem]
  · rw [show 24 + (i - 8 - 8 - 8) = i by omega, BitVec.getLsbD_eq_getElem]

/-- The digits of a word are read back as the word. -/
theorem reads_hexWord (value : Word) : readHexWord.Reads (hexWordDigits value) value := by
  have bytes : readHexWord.Reads (hexWordDigits value) ((value >>> 24).setWidth 8 ++
      (value >>> 16).setWidth 8 ++ (value >>> 8).setWidth 8 ++ (value >>> 0).setWidth 8) := by
    refine Reader.Reads.bind (reads_hexByte _) ?_
    refine Reader.Reads.bind (reads_hexByte _) ?_
    refine Reader.Reads.bind (reads_hexByte _) ?_
    exact (reads_hexByte _).last
  rwa [wordBytes_append] at bytes

end McuRom
