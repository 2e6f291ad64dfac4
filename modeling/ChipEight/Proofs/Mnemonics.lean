import ChipEight.Instruction.Mnemonic
import ChipEight.Proofs.Numerals

/-!
# Mnemonics can be read back

The notation of a word shows every digit that the word could have had otherwise, and the notations
of different instructions never coincide, though many of them begin alike.  This is proved by reading:
a text is taken apart at its blanks, the pieces are taken for a name and operands, and these for an
instruction.

* `Operand`, `Operand.text`, `Operand.read?_text` — what stands behind the name of an instruction.
* `Instruction.parts`, `Instruction.ofParts?_parts` — instructions as names with operands.
* `Instruction.all_isNotation` — the characters in which instructions are written.
* `Word.ofMnemonic?`, **`Word.ofMnemonic?_eq_some_iff`** — a text read as the notation of a word.
* `Word.IsListed`, **`Word.isSome_decode_iff`** — the table of the words that stand for instructions.
* **`Word.mnemonic_loses_nothing`** — notations and instructions of all numbers.
-/

namespace ChipEight

open Numeral

/-! ## Operands -/

/-- What stands behind the name of an instruction. -/
inductive Operand where
  | register (x : Register)
  | address (target : Address)
  | byte (value : UInt8)
  /-- One digit.  The letters `B` and `F` of two instructions count as digits, too. -/
  | digit (value : Fin 16)
  | index
  /-- Memory from the index on. -/
  | indexed
  | delay
  | sound
  | key
  deriving DecidableEq

namespace Operand

/-- An operand as it is written. -/
def text : Operand → String
  | .register x => Instruction.registerName x
  | .address target => hexPadded 3 target
  | .byte value => hexPadded 2 value.toNat
  | .digit value => hex value
  | .index => "I"
  | .indexed => "[I]"
  | .delay => "DT"
  | .sound => "ST"
  | .key => "K"

/-- The digit that a character is. -/
def ofChar (c : Char) : Operand :=
  .digit ⟨hexValue c % 16, by omega⟩

/-- An operand that is a number, told by how many digits it has. -/
def ofDigits? (text : List Char) : Option Operand :=
  match text.length with
  | 1 => some (.digit ⟨readHex text % 16, by omega⟩)
  | 2 => some (.byte (UInt8.ofNat (readHex text)))
  | 3 => some (.address ⟨readHex text % 4096, by omega⟩)
  | _ => none

/-- An operand that is named. -/
def ofName? : List Char → Option Operand
  | ['V', x] => some (.register ⟨hexValue x % 16, by omega⟩)
  | ['I'] => some .index
  | ['[', 'I', ']'] => some .indexed
  | ['D', 'T'] => some .delay
  | ['S', 'T'] => some .sound
  | ['K'] => some .key
  | _ => none

/-- **The operand that is written so.** -/
def read? (text : List Char) : Option Operand :=
  if text.all hexAlphabet.contains then ofDigits? text else ofName? text

/-- A numeral is read by its digits. -/
lemma read?_hexPadded (width n : Nat) :
    read? (hexPadded width n).toList = ofDigits? (hexPadded width n).toList :=
  if_pos (List.all_eq_true.mpr fun _ hc => List.contains_iff_mem.mpr (mem_hexPadded hc))

/-- **An operand is read as what was written.** -/
theorem read?_text (operand : Operand) : read? operand.text.toList = some operand := by
  cases operand with
  | register x =>
      have all : ∀ x : Register, read? (text (.register x)).toList = some (.register x) := by
        decide
      exact all x
  | address target =>
      have hlength : (hexPadded 3 target).toList.length = 3 :=
        length_hexPadded (by decide) target.isLt
      rw [text, read?_hexPadded, ofDigits?, hlength]
      simp only [toList_hexPadded, readHex_padLeft_hexDigits, Nat.mod_eq_of_lt target.isLt]
  | byte value =>
      have hlength : (hexPadded 2 value.toNat).toList.length = 2 :=
        length_hexPadded (by decide) value.toNat_lt
      rw [text, read?_hexPadded, ofDigits?, hlength]
      simp only [toList_hexPadded, readHex_padLeft_hexDigits, UInt8.ofNat_toNat]
  | digit value =>
      have all : ∀ value : Fin 16, read? (text (.digit value)).toList = some (.digit value) := by
        decide
      exact all value
  | index | indexed | delay | sound | key => rfl

/-- No operand has a blank or a comma in it. -/
lemma lacks_text (operand : Operand) : Lacks ' ' operand.text ∧ Lacks ',' operand.text := by
  have hhex {width n : Nat} : Lacks ' ' (hexPadded width n) ∧ Lacks ',' (hexPadded width n) :=
    ⟨lacks_hexPadded (by decide), lacks_hexPadded (by decide)⟩
  cases operand with
  | register x =>
      have all : ∀ x : Register,
          Lacks ' ' (text (.register x)) ∧ Lacks ',' (text (.register x)) := by decide
      exact all x
  | digit value =>
      have all : ∀ value : Fin 16,
          Lacks ' ' (text (.digit value)) ∧ Lacks ',' (text (.digit value)) := by decide
      exact all value
  | address target => exact hhex
  | byte value => exact hhex
  | index | indexed | delay | sound | key => decide

end Operand

/-! ## Instructions as names with operands -/

namespace Instruction

/-- The name of an instruction and its operands. -/
def parts : Instruction → String × List Operand
  | .clear => ("CLS", [])
  | .ret => ("RET", [])
  | .jump target => ("JP", [.address target])
  | .call target => ("CALL", [.address target])
  | .skipIfByte x byte => ("SE", [.register x, .byte byte])
  | .skipUnlessByte x byte => ("SNE", [.register x, .byte byte])
  | .skipIfSame x y => ("SE", [.register x, .register y])
  | .set x byte => ("LD", [.register x, .byte byte])
  | .addByte x byte => ("ADD", [.register x, .byte byte])
  | .copy x y => ("LD", [.register x, .register y])
  | .or x y => ("OR", [.register x, .register y])
  | .and x y => ("AND", [.register x, .register y])
  | .xor x y => ("XOR", [.register x, .register y])
  | .add x y => ("ADD", [.register x, .register y])
  | .sub x y => ("SUB", [.register x, .register y])
  | .shiftRight x y => ("SHR", [.register x, .register y])
  | .subFrom x y => ("SUBN", [.register x, .register y])
  | .shiftLeft x y => ("SHL", [.register x, .register y])
  | .skipUnlessSame x y => ("SNE", [.register x, .register y])
  | .setIndex target => ("LD", [.index, .address target])
  | .jumpOffset base => ("JP", [.register Register.zero, .address base])
  | .random x mask => ("RND", [.register x, .byte mask])
  | .draw x y height => ("DRW", [.register x, .register y, .digit height])
  | .skipIfKey x => ("SKP", [.register x])
  | .skipUnlessKey x => ("SKNP", [.register x])
  | .readDelay x => ("LD", [.register x, .delay])
  | .awaitKey x => ("LD", [.register x, .key])
  | .setDelay x => ("LD", [.delay, .register x])
  | .setSound x => ("LD", [.sound, .register x])
  | .addIndex x => ("ADD", [.index, .register x])
  | .glyph x => ("LD", [.ofChar 'F', .register x])
  | .decimal x => ("LD", [.ofChar 'B', .register x])
  | .store x => ("LD", [.indexed, .register x])
  | .load x => ("LD", [.register x, .indexed])

/-- **The instruction with a name and operands.** -/
def ofParts? : String → List Operand → Option Instruction
  | "CLS", [] => some .clear
  | "RET", [] => some .ret
  | "JP", [.address target] => some (.jump target)
  | "CALL", [.address target] => some (.call target)
  | "SE", [.register x, .byte byte] => some (.skipIfByte x byte)
  | "SNE", [.register x, .byte byte] => some (.skipUnlessByte x byte)
  | "SE", [.register x, .register y] => some (.skipIfSame x y)
  | "LD", [.register x, .byte byte] => some (.set x byte)
  | "ADD", [.register x, .byte byte] => some (.addByte x byte)
  | "LD", [.register x, .register y] => some (.copy x y)
  | "OR", [.register x, .register y] => some (.or x y)
  | "AND", [.register x, .register y] => some (.and x y)
  | "XOR", [.register x, .register y] => some (.xor x y)
  | "ADD", [.register x, .register y] => some (.add x y)
  | "SUB", [.register x, .register y] => some (.sub x y)
  | "SHR", [.register x, .register y] => some (.shiftRight x y)
  | "SUBN", [.register x, .register y] => some (.subFrom x y)
  | "SHL", [.register x, .register y] => some (.shiftLeft x y)
  | "SNE", [.register x, .register y] => some (.skipUnlessSame x y)
  | "LD", [.index, .address target] => some (.setIndex target)
  | "JP", [.register _, .address base] => some (.jumpOffset base)
  | "RND", [.register x, .byte mask] => some (.random x mask)
  | "DRW", [.register x, .register y, .digit height] => some (.draw x y height)
  | "SKP", [.register x] => some (.skipIfKey x)
  | "SKNP", [.register x] => some (.skipUnlessKey x)
  | "LD", [.register x, .delay] => some (.readDelay x)
  | "LD", [.register x, .key] => some (.awaitKey x)
  | "LD", [.delay, .register x] => some (.setDelay x)
  | "LD", [.sound, .register x] => some (.setSound x)
  | "ADD", [.index, .register x] => some (.addIndex x)
  | "LD", [.digit 0xF, .register x] => some (.glyph x)
  | "LD", [.digit 0xB, .register x] => some (.decimal x)
  | "LD", [.indexed, .register x] => some (.store x)
  | "LD", [.register x, .indexed] => some (.load x)
  | _, _ => none

/-- **Every instruction is found by its name and operands.** -/
theorem ofParts?_parts (instruction : Instruction) :
    ofParts? instruction.parts.1 instruction.parts.2 = some instruction := by
  cases instruction <;> rfl

/-- A name with operands behind it, the first one behind a blank and the others behind commas. -/
def written (name : String) : List Operand → String
  | [] => name
  | first :: rest =>
    rest.foldl (fun text operand => text ++ ", " ++ operand.text) (name ++ " " ++ first.text)

/-- The notation of an instruction is its name with its operands. -/
lemma mnemonic_eq_written (instruction : Instruction) :
    instruction.mnemonic = written instruction.parts.1 instruction.parts.2 := by
  rw [← String.toList_inj]
  cases instruction
  case jumpOffset | glyph | decimal =>
    simp only [mnemonic, parts, written, List.foldl, Operand.text, String.toList_append]
    rfl
  all_goals
    simp [mnemonic, parts, written, Operand.text, withByte, withPair, String.toList_append]

/-- The pieces of a text between its blanks, without commas. -/
def pieces (text : String) : List (List Char) :=
  (text.toList.filter (· ≠ ',')).splitOn ' '

/-- A text without commas keeps all its characters. -/
lemma filter_eq_self_of_notMem {text : List Char} (hcomma : ',' ∉ text) :
    text.filter (· ≠ ',') = text :=
  List.filter_eq_self.mpr fun _ hc => decide_eq_true fun h => hcomma (h ▸ hc)

/-- An operand behind a text is one more piece, with or without a comma before it. -/
lemma pieces_append (text : String) (operand : Operand) :
    pieces (text ++ " " ++ operand.text) = pieces text ++ [operand.text.toList] ∧
      pieces (text ++ ", " ++ operand.text) = pieces text ++ [operand.text.toList] := by
  obtain ⟨hblank, hcomma⟩ := operand.lacks_text
  have hkept := filter_eq_self_of_notMem hcomma
  have hpieces : ((text.toList.filter (· ≠ ',')) ++ ' ' :: operand.text.toList).splitOn ' ' =
      pieces text ++ [operand.text.toList] := by
    rw [List.splitOn_append_cons_self, List.splitOn_eq_singleton hblank]
    rfl
  constructor
  · rw [← hpieces, pieces, String.toList_append, String.toList_append, List.filter_append,
      List.filter_append, hkept]
    simp
  · rw [← hpieces, pieces, String.toList_append, String.toList_append, List.filter_append,
      List.filter_append, hkept]
    simp

/-- **The pieces of a name with operands are the name and the operands.** -/
lemma pieces_written (name : String) (operands : List Operand) :
    pieces (written name operands) =
      pieces name ++ operands.map fun operand => operand.text.toList := by
  cases operands with
  | nil => exact (List.append_nil _).symm
  | cons first rest =>
      have hfirst := (pieces_append name first).1
      rw [written, List.map_cons, ← List.singleton_append, ← List.append_assoc, ← hfirst]
      generalize name ++ " " ++ first.text = text
      induction rest generalizing text with
      | nil => exact (List.append_nil _).symm
      | cons operand rest ih =>
          rw [List.foldl_cons, ih, (pieces_append text operand).2, List.map_cons, List.append_assoc,
            List.singleton_append]

/-- The instruction that pieces stand for. -/
def ofPieces? : List (List Char) → Option Instruction
  | [] => none
  | name :: operands => (operands.mapM Operand.read?).bind (ofParts? (String.ofList name))

/-- The name of an instruction is one piece. -/
lemma pieces_name (instruction : Instruction) :
    pieces instruction.parts.1 = [instruction.parts.1.toList] := by
  have hplain : ' ' ∉ instruction.parts.1.toList ∧ ',' ∉ instruction.parts.1.toList := by
    cases instruction
    all_goals
      simp only [parts]
      decide
  rw [pieces, filter_eq_self_of_notMem hplain.2, List.splitOn_eq_singleton hplain.1]

/-- **An instruction is found in the pieces of its notation.** -/
theorem ofPieces?_pieces_mnemonic (instruction : Instruction) :
    ofPieces? (pieces instruction.mnemonic) = some instruction := by
  have hread : (instruction.parts.2.map fun operand => operand.text.toList).mapM Operand.read? =
      some instruction.parts.2 := by
    induction instruction.parts.2 with
    | nil => rfl
    | cons operand rest ih =>
        rw [List.map_cons, List.mapM_cons, operand.read?_text, ih]
        rfl
  rw [mnemonic_eq_written, pieces_written, pieces_name, List.singleton_append, ofPieces?, hread,
    Option.bind_some, String.ofList_toList, ofParts?_parts]

end Instruction

/-! ## The characters of a notation -/

section Characters

variable {c : Char}

/-- The characters in which instructions are written: letters, digits, blanks, commas, brackets. -/
def isNotation (c : Char) : Bool :=
  c.isAlphanum || [' ', ',', '[', ']'].contains c

lemma isNotation_of_mem (h : c ∈ hexAlphabet) : isNotation c = true := by
  have hall : hexAlphabet.all isNotation = true := by decide
  exact List.all_eq_true.mp hall c h

lemma Operand.all_isNotation (operand : Operand) :
    operand.text.toList.all isNotation = true := by
  cases operand with
  | register x =>
      rw [text, Instruction.registerName, String.toList_append, List.all_append, toList_hex,
        Bool.and_eq_true]
      exact ⟨by decide, List.all_eq_true.mpr fun c hc => isNotation_of_mem (mem_hexDigits hc)⟩
  | address target => exact List.all_eq_true.mpr fun c hc => isNotation_of_mem (mem_hexPadded hc)
  | byte value => exact List.all_eq_true.mpr fun c hc => isNotation_of_mem (mem_hexPadded hc)
  | digit value =>
      rw [text, toList_hex]
      exact List.all_eq_true.mpr fun c hc => isNotation_of_mem (mem_hexDigits hc)
  | index | indexed | delay | sound | key => decide

/-- **Instructions are written in these characters.** -/
lemma Instruction.all_isNotation (instruction : Instruction) :
    instruction.mnemonic.toList.all isNotation = true := by
  have hname : instruction.parts.1.toList.all isNotation = true := by
    cases instruction
    all_goals
      simp only [parts]
      decide
  have hbetween : " ".toList.all isNotation = true ∧ ", ".toList.all isNotation = true := by decide
  rw [mnemonic_eq_written]
  cases instruction.parts.2 with
  | nil => exact hname
  | cons first rest =>
      have hfirst : (instruction.parts.1 ++ " " ++ first.text).toList.all isNotation = true := by
        simp only [String.toList_append, List.all_append, hname, hbetween, first.all_isNotation,
          Bool.and_self]
      rw [written]
      generalize instruction.parts.1 ++ " " ++ first.text = text at hfirst
      induction rest generalizing text with
      | nil => exact hfirst
      | cons operand rest ih =>
          refine ih _ ?_
          simp only [String.toList_append, List.all_append, hfirst, hbetween,
            operand.all_isNotation, Bool.and_self]

lemma lacks_mnemonic (hc : isNotation c = false) (instruction : Instruction) :
    Lacks c instruction.mnemonic := by
  intro h
  have hnotation := List.all_eq_true.mp instruction.all_isNotation c h
  rw [hc] at hnotation
  cases hnotation

/-- A word has no mark in its notation but the question marks of one that is unknown. -/
lemma lacks_wordMnemonic (hc : isNotation c = false) (hmark : c ≠ '?') (word : Word) :
    Lacks c word.mnemonic := by
  rw [Word.mnemonic]
  cases word.decode with
  | some instruction => exact lacks_mnemonic hc instruction
  | none =>
      have hblank : c ≠ ' ' := by rintro rfl; cases hc
      refine lacks_append.mpr ⟨?_, lacks_hexPadded fun h => ?_⟩
      · simp [Lacks, hmark, hblank]
      · rw [isNotation_of_mem h] at hc
        cases hc

end Characters

/-! ## Words -/

namespace Word

/-- The word that is shown in digits, since it stands for no instruction. -/
def ofDigits? : List (List Char) → Option Word
  | [['?', '?', '?'], digits] => some (UInt16.ofNat (readHex digits))
  | _ => none

/-- The word whose notation has these pieces, and whether it stands for an instruction. -/
def ofPieces? (pieces : List (List Char)) : Option (Word × Bool) :=
  ((Instruction.ofPieces? pieces).map fun instruction => (instruction.word, true)).or
    ((ofDigits? pieces).map fun word => (word, false))

/-- **The word that has a text as its notation,** and whether it stands for an instruction. -/
def ofMnemonic? (text : String) : Option (Word × Bool) :=
  (ofPieces? (Instruction.pieces text)).filter fun found => found.1.mnemonic = text

/-- A word that stands for no instruction is shown in two pieces. -/
lemma pieces_unknown (word : Word) :
    Instruction.pieces ("??? " ++ hexPadded 4 word.toNat) =
      [['?', '?', '?'], (hexPadded 4 word.toNat).toList] := by
  have hcomma : Lacks ',' ("??? " ++ hexPadded 4 word.toNat) :=
    lacks_append.mpr ⟨by decide, lacks_hexPadded (by decide)⟩
  have hblank : Lacks ' ' (hexPadded 4 word.toNat) := lacks_hexPadded (by decide)
  have hsplit : ("??? " ++ hexPadded 4 word.toNat).toList =
      ['?', '?', '?'] ++ ' ' :: (hexPadded 4 word.toNat).toList := by
    rw [String.toList_append]
    rfl
  rw [Instruction.pieces, Instruction.filter_eq_self_of_notMem hcomma, hsplit,
    List.splitOn_append_cons_self, List.splitOn_eq_singleton hblank,
    List.splitOn_eq_singleton (by decide)]
  rfl

/-- The four digits of a word are no operand. -/
lemma read?_hexPadded_word (word : Word) :
    Operand.read? (hexPadded 4 word.toNat).toList = none := by
  have hlength : (hexPadded 4 word.toNat).toList.length = 4 :=
    length_hexPadded (by decide) word.toNat_lt
  rw [Operand.read?_hexPadded, Operand.ofDigits?, hlength]
  rfl

/-- **A word is found in the pieces of its notation.** -/
theorem ofPieces?_pieces_mnemonic (word : Word) :
    ofPieces? (Instruction.pieces word.mnemonic) = some (word, word.decode.isSome) := by
  rw [mnemonic]
  cases hdecode : word.decode with
  | some instruction =>
      simp only [ofPieces?, Instruction.ofPieces?_pieces_mnemonic, word_of_decode hdecode,
        Option.map_some, Option.some_or, Option.isSome_some]
  | none =>
      have hnone : Instruction.ofPieces? [['?', '?', '?'], (hexPadded 4 word.toNat).toList] =
          none := by
        simp [Instruction.ofPieces?, read?_hexPadded_word]
      have hdigits : ofDigits? [['?', '?', '?'], (hexPadded 4 word.toNat).toList] = some word := by
        rw [ofDigits?, toList_hexPadded, readHex_padLeft_hexDigits, UInt16.ofNat_toNat]
      simp only [ofPieces?, pieces_unknown, hnone, hdigits, Option.map_none, Option.map_some,
        Option.none_or, Option.isSome_none]

/-- **A text is read as a word just if it is the notation of that word.** -/
theorem ofMnemonic?_eq_some_iff {text : String} {word : Word} {legal : Bool} :
    ofMnemonic? text = some (word, legal) ↔ word.mnemonic = text ∧ legal = word.decode.isSome := by
  rw [ofMnemonic?, Option.filter_eq_some_iff, decide_eq_true_eq]
  constructor
  · rintro ⟨hfound, rfl⟩
    rw [ofPieces?_pieces_mnemonic, Option.some.injEq, Prod.mk.injEq] at hfound
    exact ⟨rfl, hfound.2.symm⟩
  · rintro ⟨rfl, rfl⟩
    exact ⟨ofPieces?_pieces_mnemonic word, rfl⟩

/-- **Different words have different notations.** -/
theorem mnemonic_inj {word other : Word} : word.mnemonic = other.mnemonic ↔ word = other := by
  refine ⟨fun h => ?_, fun h => by rw [h]⟩
  have hword := ofMnemonic?_eq_some_iff.mpr ⟨h, rfl⟩
  rw [ofMnemonic?_eq_some_iff.mpr ⟨rfl, rfl⟩, Option.some.injEq, Prod.mk.injEq] at hword
  exact hword.1.symm

/-! ## The table of words -/

/-- The families all of whose words stand for one instruction each. -/
def wholeFamilies : List Nat :=
  [0x1, 0x2, 0x3, 0x4, 0x6, 0x7, 0xA, 0xB, 0xC, 0xD]

/-- The families that are divided further: by which bits of a word, and the values of these bits
with which it stands for an instruction. -/
def dividedFamilies : List (Nat × Nat × List Nat) :=
  [(0x0, 0xFFFF, [0x00E0, 0x00EE]),
   (0x5, 0x000F, [0x0]),
   (0x8, 0x000F, [0x0, 0x1, 0x2, 0x3, 0x4, 0x5, 0x6, 0x7, 0xE]),
   (0x9, 0x000F, [0x0]),
   (0xE, 0x00FF, [0x9E, 0xA1]),
   (0xF, 0x00FF, [0x07, 0x0A, 0x15, 0x18, 0x1E, 0x29, 0x33, 0x55, 0x65])]

/-- **A word that the table has.** -/
def IsListed (word : Word) : Prop :=
  word.family ∈ wholeFamilies ∨
    ∃ row ∈ dividedFamilies, word.family = row.1 ∧ word.toNat &&& row.2.1 ∈ row.2.2

/-- **The words that stand for instructions are those that the table has.** -/
theorem isSome_decode_iff (word : Word) : word.decode.isSome ↔ word.IsListed := by
  have hword := word.toNat_lt
  -- the bits that divide a family are the whole word, its last digit or its last byte
  have hwhole : word.toNat &&& 0xFFFF = word.toNat := by
    rw [show 0xFFFF = 2 ^ 16 - 1 from rfl, Nat.and_two_pow_sub_one_eq_mod]
    omega
  have hnibble : word.toNat &&& 0xF = word.nibble.val := by
    rw [show 0xF = 2 ^ 4 - 1 from rfl, Nat.and_two_pow_sub_one_eq_mod]
    rfl
  have hbyte : word.toNat &&& 0xFF = word.byte.toNat := by
    rw [show 0xFF = 2 ^ 8 - 1 from rfl, Nat.and_two_pow_sub_one_eq_mod, byte, UInt8.toNat_ofNat']
    omega
  simp only [IsListed, wholeFamilies, dividedFamilies, List.mem_cons, List.not_mem_nil, or_false,
    exists_eq_or_imp, exists_eq_left, hwhole, hnibble, hbyte]
  unfold decode
  repeat' split
  all_goals simp_all only [Fin.ext_iff, Option.isSome_some, Option.isSome_none]
  all_goals grind

/-! ## Numbers -/

lemma toNat_ofInt (number : Int) : ((ofInt number).toNat : Int) = number % 65536 := by
  rw [ofInt, UInt16.toNat_ofNat']
  omega

/-- Numbers that agree modulo 2^16 are the same word. -/
lemma ofInt_inj {number other : Int} :
    ofInt number = ofInt other ↔ number % 65536 = other % 65536 := by
  rw [← UInt16.toNat_inj, ← toNat_ofInt, ← toNat_ofInt, Int.natCast_inj]

/-- **The notation of a number loses nothing but what lies beyond 16 bits.**  Two numbers have the
same notation just if they agree modulo 2^16; from a notation the word can be read again, and
whether it stands for an instruction.  It does so just if the table has it; the instruction is then the one
with that word, and otherwise the fault tells the word. -/
theorem mnemonic_loses_nothing :
    (∀ number other : Int, (ofInt number).mnemonic = (ofInt other).mnemonic ↔
        number % 65536 = other % 65536) ∧
      (∀ (text : String) (word : Word) (legal : Bool), ofMnemonic? text = some (word, legal) ↔
        word.mnemonic = text ∧ (legal = true ↔ word.IsListed)) ∧
      ∀ number : Int, ((ofInt number).toNat : Int) = number % 65536 ∧
        ((ofInt number).IsListed → ∃ instruction,
          Instruction.ofInt number = .ok instruction ∧ instruction.word = ofInt number) ∧
        (¬ (ofInt number).IsListed →
          Instruction.ofInt number = .error { kind := .unknownWord (number % 65536) }) := by
  refine ⟨fun number other => mnemonic_inj.trans ofInt_inj, fun text word legal => ?_,
    fun number => ⟨toNat_ofInt number, fun listed => ?_, fun foreign => ?_⟩⟩
  · rw [ofMnemonic?_eq_some_iff, ← isSome_decode_iff, Bool.eq_iff_iff]
  · obtain ⟨instruction, hdecode⟩ :=
      Option.isSome_iff_exists.mp ((isSome_decode_iff (ofInt number)).mpr listed)
    refine ⟨instruction, ?_, word_of_decode hdecode⟩
    simp only [Instruction.ofInt, hdecode]
  · rw [← isSome_decode_iff, Option.not_isSome_iff_eq_none] at foreign
    simp only [Instruction.ofInt, foreign, toNat_ofInt]

end Word

end ChipEight
