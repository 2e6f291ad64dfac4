import ChipEight.Instruction.Decode
import ChipEight.Text.Numeral

/-!
# Mnemonics

Instructions in the notation of an assembler: registers in one digit, bytes in two and addresses in
three, in base sixteen.

* `Instruction.mnemonic` — the notation of an instruction.
* `Word.mnemonic` — the notation of a word, which need not stand for an instruction.
-/

namespace ChipEight

open Numeral

namespace Instruction

/-- A register: the letter V and one digit. -/
def registerName (x : Register) : String :=
  "V" ++ hex x

/-- A name followed by a register and a byte. -/
def withByte (name : String) (x : Register) (byte : UInt8) : String :=
  name ++ " " ++ registerName x ++ ", " ++ hexPadded 2 byte.toNat

/-- A name followed by two registers. -/
def withPair (name : String) (x y : Register) : String :=
  name ++ " " ++ registerName x ++ ", " ++ registerName y

/-- **The notation of an instruction.** -/
def mnemonic : Instruction → String
  | .clear => "CLS"
  | .ret => "RET"
  | .jump target => "JP " ++ hexPadded 3 target
  | .call target => "CALL " ++ hexPadded 3 target
  | .skipIfByte x byte => withByte "SE" x byte
  | .skipUnlessByte x byte => withByte "SNE" x byte
  | .skipIfSame x y => withPair "SE" x y
  | .set x byte => withByte "LD" x byte
  | .addByte x byte => withByte "ADD" x byte
  | .copy x y => withPair "LD" x y
  | .or x y => withPair "OR" x y
  | .and x y => withPair "AND" x y
  | .xor x y => withPair "XOR" x y
  | .add x y => withPair "ADD" x y
  | .sub x y => withPair "SUB" x y
  | .shiftRight x y => withPair "SHR" x y
  | .subFrom x y => withPair "SUBN" x y
  | .shiftLeft x y => withPair "SHL" x y
  | .skipUnlessSame x y => withPair "SNE" x y
  | .setIndex target => "LD I, " ++ hexPadded 3 target
  | .jumpOffset base => "JP V0, " ++ hexPadded 3 base
  | .random x mask => withByte "RND" x mask
  | .draw x y height => withPair "DRW" x y ++ ", " ++ hex height
  | .skipIfKey x => "SKP " ++ registerName x
  | .skipUnlessKey x => "SKNP " ++ registerName x
  | .readDelay x => "LD " ++ registerName x ++ ", DT"
  | .awaitKey x => "LD " ++ registerName x ++ ", K"
  | .setDelay x => "LD DT, " ++ registerName x
  | .setSound x => "LD ST, " ++ registerName x
  | .addIndex x => "ADD I, " ++ registerName x
  | .glyph x => "LD F, " ++ registerName x
  | .decimal x => "LD B, " ++ registerName x
  | .store x => "LD [I], " ++ registerName x
  | .load x => "LD " ++ registerName x ++ ", [I]"

end Instruction

/-- **The notation of a word.**  A word that stands for no instruction is shown in four digits
behind three question marks. -/
def Word.mnemonic (word : Word) : String :=
  match word.decode with
  | some instruction => instruction.mnemonic
  | none => "??? " ++ hexPadded 4 word.toNat

end ChipEight
