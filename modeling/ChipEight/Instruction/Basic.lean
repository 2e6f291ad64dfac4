/-!
# Instructions

The machine's instructions, as data, and the fields of a 16-bit instruction word.

* `Word.family`, `Word.x`, `Word.y`, `Word.nibble`, `Word.byte`, `Word.address` — the fields from
  which every instruction takes its operands.
* `Instruction` — one constructor for each instruction, with its operands.
* `Instruction.word` — the word that stands for an instruction in memory.
-/

namespace ChipEight

/-- An instruction word. -/
abbrev Word := UInt16

/-- The number of a register, V0 to VF. -/
abbrev Register := Fin 16

/-- An address that an instruction can name. -/
abbrev Address := Fin 4096

/-- The register V0, from which a jump can take its offset. -/
abbrev Register.zero : Register := ⟨0, by decide⟩

/-- The register VF, which receives carries, borrows, shifted bits and collisions. -/
abbrev Register.flag : Register := ⟨15, by decide⟩

namespace Word

/-- The word that agrees with an integer modulo 2^16. -/
def ofInt (n : Int) : Word :=
  UInt16.ofNat (n % 65536).toNat

/-- The word made of a high and a low byte. -/
def ofBytes (high low : UInt8) : Word :=
  UInt16.ofNat (high.toNat * 256 + low.toNat)

/-- The highest digit, which selects the family of the instruction. -/
def family (word : Word) : Nat :=
  word.toNat / 4096

/-- The second digit: the register that most instructions work on. -/
def x (word : Word) : Register :=
  ⟨word.toNat / 256 % 16, Nat.mod_lt _ (by decide)⟩

/-- The third digit: the other register. -/
def y (word : Word) : Register :=
  ⟨word.toNat / 16 % 16, Nat.mod_lt _ (by decide)⟩

/-- The last digit. -/
def nibble (word : Word) : Fin 16 :=
  ⟨word.toNat % 16, Nat.mod_lt _ (by decide)⟩

/-- The last two digits. -/
def byte (word : Word) : UInt8 :=
  UInt8.ofNat (word.toNat % 256)

/-- The last three digits. -/
def address (word : Word) : Address :=
  ⟨word.toNat % 4096, Nat.mod_lt _ (by decide)⟩

end Word

/-- The instructions of the machine. -/
inductive Instruction where
  /-- `00E0`: every pixel goes off. -/
  | clear
  /-- `00EE`: back behind the last call. -/
  | ret
  /-- `1NNN`: go to NNN. -/
  | jump (target : Address)
  /-- `2NNN`: go to NNN and remember this place. -/
  | call (target : Address)
  /-- `3XKK`: skip if Vx is KK. -/
  | skipIfByte (x : Register) (byte : UInt8)
  /-- `4XKK`: skip unless Vx is KK. -/
  | skipUnlessByte (x : Register) (byte : UInt8)
  /-- `5XY0`: skip if Vx is Vy. -/
  | skipIfSame (x y : Register)
  /-- `6XKK`: Vx becomes KK. -/
  | set (x : Register) (byte : UInt8)
  /-- `7XKK`: KK is added to Vx; no carry is kept. -/
  | addByte (x : Register) (byte : UInt8)
  /-- `8XY0`: Vx becomes Vy. -/
  | copy (x y : Register)
  /-- `8XY1`: Vx becomes Vx or Vy, bit by bit. -/
  | or (x y : Register)
  /-- `8XY2`: Vx becomes Vx and Vy, bit by bit. -/
  | and (x y : Register)
  /-- `8XY3`: Vx becomes Vx exclusive-or Vy, bit by bit. -/
  | xor (x y : Register)
  /-- `8XY4`: Vy is added to Vx; VF is the carry. -/
  | add (x y : Register)
  /-- `8XY5`: Vy is taken from Vx; VF tells that nothing was borrowed. -/
  | sub (x y : Register)
  /-- `8XY6`: shift right by one; VF is the bit that fell out. -/
  | shiftRight (x y : Register)
  /-- `8XY7`: Vx becomes Vy less Vx; VF tells that nothing was borrowed. -/
  | subFrom (x y : Register)
  /-- `8XYE`: shift left by one; VF is the bit that fell out. -/
  | shiftLeft (x y : Register)
  /-- `9XY0`: skip unless Vx is Vy. -/
  | skipUnlessSame (x y : Register)
  /-- `ANNN`: I becomes NNN. -/
  | setIndex (target : Address)
  /-- `BNNN`: go to NNN plus V0. -/
  | jumpOffset (base : Address)
  /-- `CXKK`: Vx becomes a random byte and KK, bit by bit. -/
  | random (x : Register) (mask : UInt8)
  /-- `DXYN`: draw the N bytes at I as a sprite at column Vx and row Vy. -/
  | draw (x y : Register) (height : Fin 16)
  /-- `EX9E`: skip if the key in Vx is held. -/
  | skipIfKey (x : Register)
  /-- `EXA1`: skip unless the key in Vx is held. -/
  | skipUnlessKey (x : Register)
  /-- `FX07`: Vx becomes the delay timer. -/
  | readDelay (x : Register)
  /-- `FX0A`: wait until a key is typed and put its digit into Vx. -/
  | awaitKey (x : Register)
  /-- `FX15`: the delay timer becomes Vx. -/
  | setDelay (x : Register)
  /-- `FX18`: the sound timer becomes Vx. -/
  | setSound (x : Register)
  /-- `FX1E`: Vx is added to I. -/
  | addIndex (x : Register)
  /-- `FX29`: I becomes the address of the glyph for Vx. -/
  | glyph (x : Register)
  /-- `FX33`: the three decimal digits of Vx go to I, I+1 and I+2. -/
  | decimal (x : Register)
  /-- `FX55`: V0 to Vx go to memory from I on. -/
  | store (x : Register)
  /-- `FX65`: V0 to Vx come from memory from I on. -/
  | load (x : Register)
  deriving DecidableEq

namespace Instruction

/-- A word of four fields: family, register, register, digit. -/
def pack (family : Nat) (x y digit : Fin 16) : Word :=
  UInt16.ofNat (family * 4096 + x * 256 + y * 16 + digit)

/-- A word of three fields: family, register, byte. -/
def packByte (family : Nat) (x : Register) (byte : UInt8) : Word :=
  UInt16.ofNat (family * 4096 + x * 256 + byte.toNat)

/-- A word of two fields: family, address. -/
def packAddress (family : Nat) (target : Address) : Word :=
  UInt16.ofNat (family * 4096 + target)

/-- **The word that stands for an instruction.** -/
def word : Instruction → Word
  | .clear => 0x00E0
  | .ret => 0x00EE
  | .jump target => packAddress 0x1 target
  | .call target => packAddress 0x2 target
  | .skipIfByte x byte => packByte 0x3 x byte
  | .skipUnlessByte x byte => packByte 0x4 x byte
  | .skipIfSame x y => pack 0x5 x y 0x0
  | .set x byte => packByte 0x6 x byte
  | .addByte x byte => packByte 0x7 x byte
  | .copy x y => pack 0x8 x y 0x0
  | .or x y => pack 0x8 x y 0x1
  | .and x y => pack 0x8 x y 0x2
  | .xor x y => pack 0x8 x y 0x3
  | .add x y => pack 0x8 x y 0x4
  | .sub x y => pack 0x8 x y 0x5
  | .shiftRight x y => pack 0x8 x y 0x6
  | .subFrom x y => pack 0x8 x y 0x7
  | .shiftLeft x y => pack 0x8 x y 0xE
  | .skipUnlessSame x y => pack 0x9 x y 0x0
  | .setIndex target => packAddress 0xA target
  | .jumpOffset base => packAddress 0xB base
  | .random x mask => packByte 0xC x mask
  | .draw x y height => pack 0xD x y height
  | .skipIfKey x => packByte 0xE x 0x9E
  | .skipUnlessKey x => packByte 0xE x 0xA1
  | .readDelay x => packByte 0xF x 0x07
  | .awaitKey x => packByte 0xF x 0x0A
  | .setDelay x => packByte 0xF x 0x15
  | .setSound x => packByte 0xF x 0x18
  | .addIndex x => packByte 0xF x 0x1E
  | .glyph x => packByte 0xF x 0x29
  | .decimal x => packByte 0xF x 0x33
  | .store x => packByte 0xF x 0x55
  | .load x => packByte 0xF x 0x65

end Instruction

end ChipEight
