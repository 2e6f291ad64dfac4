import ChipEight.Proofs.Footprint

/-!
# Registers to memory and back

`FX55` copies registers to memory and `FX65` copies them back, both from I on and from V0 up to Vx.
Each undoes the other, up to the last byte of memory and not one byte further.  `FX33` writes the
decimal digits of a register to memory, under a bound of its own.

* `Cells.read_write`, `Cells.write_read` — what was written is read back, and writing back what was
  read changes nothing.
* `Console.Stored`, `Console.Loaded`, `Console.Spelled` — what the three instructions do.
* `Console.registers_afterLoad_afterStore`, `Console.memory_afterStore_afterLoad` — each copy undoes
  the other.
* **`Console.Exchange`, `Console.exchange_of_reachable`** — all of that, with what is refused.
-/

namespace ChipEight

/-! ## Runs of bytes -/

namespace Cells

variable {n : Nat}

/-- **What was written is read back.** -/
theorem read_write (cells : Cells n) (start : Nat) (bytes : List UInt8)
    (h : start + bytes.length ≤ n) :
    (cells.write start bytes).read start bytes.length = bytes := by
  apply List.ext_getElem?
  intro i
  rw [getElem?_read]
  split
  · rename_i hi
    rw [Vector.getElem?_eq_getElem (by omega), getElem_write, if_pos (by omega),
      Nat.add_sub_cancel_left, List.getElem?_eq_getElem hi, Option.getD_some]
  · rename_i hi
    rw [List.getElem?_eq_none (by omega)]

/-- **Writing back what was read changes nothing.** -/
theorem write_read (cells : Cells n) (start count : Nat) :
    cells.write start (cells.read start count) = cells := by
  ext i hi
  rw [getElem_write]
  split
  · rename_i hle
    rw [getElem?_read, Nat.add_sub_cancel' hle]
    split
    · rw [Vector.getElem?_eq_getElem hi, Option.getD_some]
    · rw [Option.getD_none]
  · rfl

/-- A run of one store that is written to another is there, byte by byte. -/
lemma getElem_write_read {m : Nat} (cells : Cells n) (source : Cells m) (start first count i : Nat)
    (hi : i < count) (hn : start + i < n) (hm : first + i < m) :
    (cells.write start (source.read first count))[start + i] = source[first + i] := by
  rw [getElem_write, if_pos (by omega), Nat.add_sub_cancel_left, getElem?_read, if_pos hi,
    Vector.getElem?_eq_getElem hm, Option.getD_some]

end Cells

namespace Console

variable {setup : Setup} {console left : Console} {x : Register}

/-! ## What the three instructions do -/

/-- **The registers up to Vx went to memory.** -/
structure Stored (setup : Setup) (console : Console) (x : Register) (left : Console) : Prop where
  copied : ∀ register ≤ x, ∀ (place : Nat) (_ : place < memorySize),
    (place : Int) = console.machine.index + register.val →
      left.machine.memory[place] = console.machine.register register
  memory_eq : ∀ (place : Nat) (_ : place < memorySize),
    place < console.machine.index ∨ console.machine.index + x.val < place →
      left.machine.memory[place] = console.machine.memory[place]
  index_eq : left.machine.index =
    if setup.dialect.advancesIndex then (console.machine.index + x.val + 1) % memorySize
    else console.machine.index
  /-- All else is as it was. -/
  left_eq : left = { console with machine := { console.machine with
    memory := left.machine.memory
    index := left.machine.index } }

/-- **The registers up to Vx came from memory.** -/
structure Loaded (setup : Setup) (console : Console) (x : Register) (left : Console) : Prop where
  copied : ∀ register ≤ x, ∀ (place : Nat) (_ : place < memorySize),
    (place : Int) = console.machine.index + register.val →
      left.machine.register register = console.machine.memory[place]
  register_eq : ∀ register, x < register →
    left.machine.register register = console.machine.register register
  index_eq : left.machine.index =
    if setup.dialect.advancesIndex then (console.machine.index + x.val + 1) % memorySize
    else console.machine.index
  /-- All else is as it was. -/
  left_eq : left = { console with machine := { console.machine with
    registers := left.machine.registers
    index := left.machine.index } }

/-- **The value of Vx was spelled out in memory,** in three decimal digits. -/
structure Spelled (console : Console) (x : Register) (left : Console) : Prop where
  digits : ∃ hundreds tens ones : Nat, hundreds ≤ 9 ∧ tens ≤ 9 ∧ ones ≤ 9 ∧
    100 * hundreds + 10 * tens + ones = (console.machine.register x).toNat ∧
      ∀ (place : Nat) (_ : place < memorySize),
        ((place : Int) = console.machine.index → left.machine.memory[place].toNat = hundreds) ∧
        ((place : Int) = console.machine.index + 1 → left.machine.memory[place].toNat = tens) ∧
        ((place : Int) = console.machine.index + 2 → left.machine.memory[place].toNat = ones)
  memory_eq : ∀ (place : Nat) (_ : place < memorySize),
    place < console.machine.index ∨ console.machine.index + 2 < place →
      left.machine.memory[place] = console.machine.memory[place]
  /-- All else is as it was. -/
  left_eq : left = { console with machine := { console.machine with
    memory := left.machine.memory } }

/-! ## How they are carried out -/

/-- The console after the registers went to memory. -/
def afterStore (setup : Setup) (console : Console) (x : Register) : Console :=
  { console with machine := { console.machine with
    memory := console.machine.memory.write console.machine.index.toNat
      (console.machine.registers.read 0 (x + 1))
    index := console.indexAfter setup x } }

/-- The console after the registers came from memory. -/
def afterLoad (setup : Setup) (console : Console) (x : Register) : Console :=
  { console with machine := { console.machine with
    registers := console.machine.registers.write 0
      (console.machine.memory.read console.machine.index.toNat (x + 1))
    index := console.indexAfter setup x } }

/-- The console with I put somewhere. -/
def withIndex (console : Console) (index : Int) : Console :=
  { console with machine := { console.machine with index } }

/-- Both copies are carried out where there is room for them. -/
lemma execute_copy (setup : Setup) (h : 0 ≤ console.machine.index)
    (room : console.machine.index + x.val < memorySize) :
    console.execute setup (.store x) = .ran .next none (console.afterStore setup x) ∧
      console.execute setup (.load x) = .ran .next none (console.afterLoad setup x) := by
  obtain ⟨start, hstart⟩ := Int.eq_ofNat_of_zero_le h
  have hroom : start + x.val < memorySize := by omega
  have htest : ¬ (memorySize : Int) ≤ console.machine.index + x.val := by omega
  rw [execute, execute, if_neg htest, if_neg htest]
  simp only [Machine.assign?_memory hstart hroom, Machine.assign?_registers hstart hroom]
  simp only [afterStore, afterLoad, hstart, Int.toNat_natCast]
  exact ⟨rfl, rfl⟩

/-- A store copies the registers and nothing else. -/
lemma stored_afterStore (setup : Setup) (h : 0 ≤ console.machine.index) :
    Stored setup console x (console.afterStore setup x) where
  copied := by
    intro register hle place hlt hplace
    rw [Fin.le_def] at hle
    have hstart : place = console.machine.index.toNat + register.val := by omega
    have hcopied := console.machine.memory.getElem_write_read console.machine.registers
      console.machine.index.toNat 0 (x + 1) register (by omega) (by omega) (by omega)
    simp only [Nat.zero_add, ← hstart] at hcopied
    exact hcopied
  memory_eq := by
    intro place hlt houtside
    refine Cells.getElem_write_of_outside _ hlt ?_
    rw [Cells.length_read _ (by omega)]
    omega
  index_eq := rfl
  left_eq := rfl

/-- A load copies into the registers and nothing else. -/
lemma loaded_afterLoad (setup : Setup) (h : 0 ≤ console.machine.index)
    (room : console.machine.index + x.val < memorySize) :
    Loaded setup console x (console.afterLoad setup x) where
  copied := by
    intro register hle place hlt hplace
    rw [Fin.le_def] at hle
    have hstart : place = console.machine.index.toNat + register.val := by omega
    have hcopied := console.machine.registers.getElem_write_read console.machine.memory 0
      console.machine.index.toNat (x + 1) register (by omega) (by omega) (by omega)
    simp only [Nat.zero_add, ← hstart] at hcopied
    exact hcopied
  register_eq := by
    intro register hlt
    rw [Fin.lt_def] at hlt
    refine Cells.getElem_write_of_outside _ register.isLt (Or.inr ?_)
    rw [Cells.length_read _ (by simp only [memorySize] at *; omega)]
    omega
  index_eq := rfl
  left_eq := rfl

/-- **A store is undone by a load** from the same place. -/
theorem registers_afterLoad_afterStore (setup : Setup) (h : 0 ≤ console.machine.index)
    (room : console.machine.index + x.val < memorySize) :
    (((console.afterStore setup x).withIndex console.machine.index).afterLoad
      setup x).machine.registers = console.machine.registers := by
  have hlength : (console.machine.registers.read 0 (x + 1)).length = x + 1 :=
    Cells.length_read _ (by omega)
  have hback := console.machine.memory.read_write console.machine.index.toNat
    (console.machine.registers.read 0 (x + 1)) (by omega)
  rw [hlength] at hback
  calc console.machine.registers.write 0
        ((console.machine.memory.write console.machine.index.toNat
          (console.machine.registers.read 0 (x + 1))).read console.machine.index.toNat (x + 1))
      = console.machine.registers.write 0 (console.machine.registers.read 0 (x + 1)) := by
        rw [hback]
    _ = console.machine.registers := Cells.write_read _ _ _

/-- **A load is undone by a store** to the same place. -/
theorem memory_afterStore_afterLoad (setup : Setup) (h : 0 ≤ console.machine.index)
    (room : console.machine.index + x.val < memorySize) :
    (((console.afterLoad setup x).withIndex console.machine.index).afterStore
      setup x).machine.memory = console.machine.memory := by
  have hlength : (console.machine.memory.read console.machine.index.toNat (x + 1)).length = x + 1 :=
    Cells.length_read _ (by omega)
  have hback := console.machine.registers.read_write 0
    (console.machine.memory.read console.machine.index.toNat (x + 1)) (by omega)
  rw [hlength] at hback
  calc console.machine.memory.write console.machine.index.toNat
        ((console.machine.registers.write 0
          (console.machine.memory.read console.machine.index.toNat (x + 1))).read 0 (x + 1))
      = console.machine.memory.write console.machine.index.toNat
          (console.machine.memory.read console.machine.index.toNat (x + 1)) := by
        rw [hback]
    _ = console.machine.memory := Cells.write_read _ _ _

/-- The console after the value of Vx was spelled out. -/
def afterDecimal (console : Console) (x : Register) : Console :=
  let v := console.machine.register x
  { console with machine := { console.machine with
    memory := console.machine.memory.write console.machine.index.toNat
      [v / 100, v / 10 % 10, v % 10] } }

/-- The digits are written where there is room for three. -/
lemma execute_decimal (setup : Setup) (h : 0 ≤ console.machine.index)
    (room : console.machine.index ≤ 4093) :
    console.execute setup (.decimal x) = .ran .next none (console.afterDecimal x) := by
  obtain ⟨start, hstart⟩ := Int.eq_ofNat_of_zero_le h
  have htest : ¬ (memorySize : Int) < console.machine.index + 3 := by
    simp only [memorySize]
    omega
  have hroom : start + 3 ≤ memorySize := by
    simp only [memorySize]
    omega
  rw [execute, if_neg htest]
  simp only [hstart]
  rw [Cells.setBytes?_natCast _ hroom]
  simp only [afterDecimal, hstart, Int.toNat_natCast]
  rfl

/-- They are the digits of the value, and nothing else is written. -/
lemma spelled_afterDecimal (h : 0 ≤ console.machine.index) :
    Spelled console x (console.afterDecimal x) where
  digits := by
    have hlt := (console.machine.register x).toNat_lt
    refine ⟨(console.machine.register x / 100).toNat,
      (console.machine.register x / 10 % 10).toNat, (console.machine.register x % 10).toNat,
      ?_, ?_, ?_, ?_, fun place hplace => ⟨?_, ?_, ?_⟩⟩
    -- the digits as numbers
    iterate 4
      simp only [UInt8.toNat_div, UInt8.toNat_mod, UInt8.reduceToNat]
      omega
    -- and the places where they are
    all_goals
      intro hwhere
      simp only [afterDecimal, Cells.getElem_write]
    · rw [if_pos (by omega), show place - console.machine.index.toNat = 0 by omega]
      rfl
    · rw [if_pos (by omega), show place - console.machine.index.toNat = 1 by omega]
      rfl
    · rw [if_pos (by omega), show place - console.machine.index.toNat = 2 by omega]
      rfl
  memory_eq := by
    intro place hlt houtside
    refine Cells.getElem_write_of_outside _ hlt ?_
    simp only [List.length_cons, List.length_nil]
    omega
  left_eq := rfl

/-! ## The exchange -/

/-- **What the three instructions make of a machine,** whatever else it is doing. -/
structure Exchange (setup : Setup) (console : Console) (x : Register) : Prop where
  /-- A store copies, and a load from the same place then leaves the registers as they were. -/
  store : console.machine.index + x.val < memorySize →
    ∃ stored back, console.execute setup (.store x) = .ran .next none stored ∧
      Stored setup console x stored ∧
      (stored.withIndex console.machine.index).execute setup (.load x) = .ran .next none back ∧
      Loaded setup (stored.withIndex console.machine.index) x back ∧
      back.machine.registers = console.machine.registers
  /-- A load copies, and a store to the same place then leaves memory as it was. -/
  load : console.machine.index + x.val < memorySize →
    ∃ loaded back, console.execute setup (.load x) = .ran .next none loaded ∧
      Loaded setup console x loaded ∧
      (loaded.withIndex console.machine.index).execute setup (.store x) = .ran .next none back ∧
      Stored setup (loaded.withIndex console.machine.index) x back ∧
      back.machine.memory = console.machine.memory
  /-- One byte too many is refused. -/
  beyond : memorySize ≤ console.machine.index + x.val →
    console.execute setup (.store x) =
        .faulted { kind := .illegalAddress (console.machine.index + x.val) } console ∧
      console.execute setup (.load x) =
        .faulted { kind := .illegalAddress (console.machine.index + x.val) } console
  spell : console.machine.index ≤ 4093 →
    ∃ left, console.execute setup (.decimal x) = .ran .next none left ∧ Spelled console x left
  spell_beyond : 4093 < console.machine.index →
    console.execute setup (.decimal x) =
      .faulted { kind := .illegalAddress console.machine.index } console

/-- **Registers and memory exchange their bytes without loss.** -/
theorem exchange_of_reachable (reach : console.machine.Reachable) (setup : Setup) (x : Register) :
    Exchange setup console x := by
  have h := reach.wellFormed.index_nonneg
  exact {
    store := by
      intro room
      have hload := (@execute_copy
        ((console.afterStore setup x).withIndex console.machine.index) x setup h room).2
      exact ⟨_, _, (execute_copy setup h room).1, stored_afterStore setup h, hload,
        loaded_afterLoad setup h room, registers_afterLoad_afterStore setup h room⟩
    load := by
      intro room
      have hstore := (@execute_copy
        ((console.afterLoad setup x).withIndex console.machine.index) x setup h room).1
      exact ⟨_, _, (execute_copy setup h room).2, loaded_afterLoad setup h room, hstore,
        stored_afterStore setup h, memory_afterStore_afterLoad setup h room⟩
    beyond := fun hbeyond => ⟨if_pos hbeyond, if_pos hbeyond⟩
    spell := fun room => ⟨_, execute_decimal setup h room, spelled_afterDecimal h⟩
    spell_beyond := by
      intro hbeyond
      refine if_pos ?_
      simp only [memorySize]
      omega }

/-- Sixteen registers reach to the last byte of memory.  VB is found there, and I goes on to
zero. -/
theorem exchange_of_reachable_to_end :
    let console := ({} : Console).acts {} [.load [0x6B, 123, 0xAF, 0xF0], .cycle, .cycle]
    Exchange {} console 15 ∧
      ∃ stored, console.execute {} (.store 15) = .ran .next none stored ∧
        stored.machine.memory[0xFFB] = 123 ∧ stored.machine.index = 0 := by
  intro console
  have reach : console.machine.Reachable := ⟨{}, console, reachable_iff.mpr ⟨_, rfl⟩, rfl⟩
  obtain ⟨hindex, hvalue⟩ : console.machine.index = 0xFF0 ∧ console.machine.register 11 = 123 := by
    decide +kernel
  have exchange := exchange_of_reachable reach {} 15
  obtain ⟨stored, -, hstore, copies, -⟩ := exchange.store (by rw [hindex]; decide)
  refine ⟨exchange, stored, hstore, ?_, ?_⟩
  · rw [← hvalue]
    exact copies.copied 11 (by decide) 0xFFB (by decide) (by rw [hindex]; decide)
  · rw [copies.index_eq, hindex]
    decide

end Console

end ChipEight
