import ChipEight.Fault
import ChipEight.Instruction.Basic

/-!
# Decoding

The family of a word selects the instruction; families 0, 5, 8, 9, E and F are divided further, by
the whole word, by the last digit or by the last byte.

* `Word.decode` — the instruction that a word stands for, if any.
* `Instruction.ofInt` — the instruction that a number stands for, or the fault that it is.
* `Word.decode_word` — every instruction is found again from its word.
* `Word.word_of_decode` — and only from that word, so that decoding loses nothing.
-/

namespace ChipEight

namespace Word

/-- **The instruction that a word stands for.** -/
def decode (word : Word) : Option Instruction :=
  match word.family with
  | 0x0 =>
    match word.toNat with
    | 0x00E0 => some .clear
    | 0x00EE => some .ret
    | _ => none
  | 0x1 => some (.jump word.address)
  | 0x2 => some (.call word.address)
  | 0x3 => some (.skipIfByte word.x word.byte)
  | 0x4 => some (.skipUnlessByte word.x word.byte)
  | 0x5 =>
    match word.nibble with
    | 0x0 => some (.skipIfSame word.x word.y)
    | _ => none
  | 0x6 => some (.set word.x word.byte)
  | 0x7 => some (.addByte word.x word.byte)
  | 0x8 =>
    match word.nibble with
    | 0x0 => some (.copy word.x word.y)
    | 0x1 => some (.or word.x word.y)
    | 0x2 => some (.and word.x word.y)
    | 0x3 => some (.xor word.x word.y)
    | 0x4 => some (.add word.x word.y)
    | 0x5 => some (.sub word.x word.y)
    | 0x6 => some (.shiftRight word.x word.y)
    | 0x7 => some (.subFrom word.x word.y)
    | 0xE => some (.shiftLeft word.x word.y)
    | _ => none
  | 0x9 =>
    match word.nibble with
    | 0x0 => some (.skipUnlessSame word.x word.y)
    | _ => none
  | 0xA => some (.setIndex word.address)
  | 0xB => some (.jumpOffset word.address)
  | 0xC => some (.random word.x word.byte)
  | 0xD => some (.draw word.x word.y word.nibble)
  | 0xE =>
    match word.byte.toNat with
    | 0x9E => some (.skipIfKey word.x)
    | 0xA1 => some (.skipUnlessKey word.x)
    | _ => none
  | 0xF =>
    match word.byte.toNat with
    | 0x07 => some (.readDelay word.x)
    | 0x0A => some (.awaitKey word.x)
    | 0x15 => some (.setDelay word.x)
    | 0x18 => some (.setSound word.x)
    | 0x1E => some (.addIndex word.x)
    | 0x29 => some (.glyph word.x)
    | 0x33 => some (.decimal word.x)
    | 0x55 => some (.store word.x)
    | 0x65 => some (.load word.x)
    | _ => none
  | _ => none

end Word

/-- **The instruction that a number stands for,** as a word of 16 bits.  A word that stands for none
is a fault. -/
def Instruction.ofInt (number : Int) : Except Fault Instruction :=
  let word := Word.ofInt number
  match word.decode with
  | some instruction => .ok instruction
  | none => .error { kind := .unknownWord word.toNat }

namespace Word

/-! ## The fields of a packed word -/

section Fields

variable {family : Nat} (h : family < 16) (x y digit : Fin 16) (byte : UInt8) (target : Address)

include h

theorem toNat_pack :
    (Instruction.pack family x y digit).toNat = family * 4096 + x * 256 + y * 16 + digit := by
  simp only [Instruction.pack, UInt16.toNat_ofNat']
  omega

theorem toNat_packByte :
    (Instruction.packByte family x byte).toNat = family * 4096 + x * 256 + byte.toNat := by
  have := byte.toNat_lt
  simp only [Instruction.packByte, UInt16.toNat_ofNat']
  omega

theorem toNat_packAddress :
    (Instruction.packAddress family target).toNat = family * 4096 + target := by
  simp only [Instruction.packAddress, UInt16.toNat_ofNat']
  omega

theorem family_pack : Word.family (Instruction.pack family x y digit) = family := by
  rw [Word.family, toNat_pack h]
  omega

theorem x_pack : Word.x (Instruction.pack family x y digit) = x := by
  ext
  simp only [Word.x, toNat_pack h]
  omega

theorem y_pack : Word.y (Instruction.pack family x y digit) = y := by
  ext
  simp only [Word.y, toNat_pack h]
  omega

theorem nibble_pack : Word.nibble (Instruction.pack family x y digit) = digit := by
  ext
  simp only [Word.nibble, toNat_pack h]
  omega

theorem family_packByte : Word.family (Instruction.packByte family x byte) = family := by
  have := byte.toNat_lt
  rw [Word.family, toNat_packByte h]
  omega

theorem x_packByte : Word.x (Instruction.packByte family x byte) = x := by
  have := byte.toNat_lt
  ext
  simp only [Word.x, toNat_packByte h]
  omega

theorem byte_packByte : Word.byte (Instruction.packByte family x byte) = byte := by
  have := byte.toNat_lt
  rw [← UInt8.toNat_inj]
  simp only [Word.byte, toNat_packByte h, UInt8.toNat_ofNat']
  omega

theorem family_packAddress : Word.family (Instruction.packAddress family target) = family := by
  rw [Word.family, toNat_packAddress h]
  omega

theorem address_packAddress : Word.address (Instruction.packAddress family target) = target := by
  ext
  simp only [Word.address, toNat_packAddress h]
  omega

end Fields

/-! ## Words and instructions correspond -/

/-- **Every instruction is found again from its word.** -/
theorem decode_word (instruction : Instruction) :
    decode instruction.word = some instruction := by
  cases instruction
  case clear => decide
  case ret => decide
  all_goals
    simp [Instruction.word, decode, family_pack, x_pack, y_pack, nibble_pack, family_packByte,
      x_packByte, byte_packByte, family_packAddress, address_packAddress]

/-- **An instruction is found only in its own word.** -/
theorem word_of_decode {word : Word} {instruction : Instruction}
    (h : word.decode = some instruction) : instruction.word = word := by
  have hword := word.toNat_lt
  rw [← UInt16.toNat_inj]
  unfold decode at h
  repeat' split at h
  all_goals cases h
  all_goals
    simp only [family, Word.byte, nibble, UInt8.toNat_ofNat', Fin.ext_iff] at *
    simp [Instruction.word, toNat_pack, toNat_packByte, toNat_packAddress, Word.x, Word.y,
      address]
  all_goals omega

end Word

end ChipEight
