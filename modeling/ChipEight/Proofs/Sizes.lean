import ChipEight.Proofs.Footprint

/-!
# Sizes and bounds

Memory, the register file and the screen are written in slices, and a row of which a slice is
replaced keeps its size only if as much comes as goes.  Here it is shown that this is so in every
run: registers and memory are copied only where all of the copy fits, and a program is put into
memory only if there is room for it.  Together with what every run keeps, these are the bounds of
the state.

* `Slice.Replaced` — a row of fixed size after one of its slices was replaced.
* `Console.KeepsSizes` — everything that an action puts in the place of a slice is as long as the
  slice.
* **`Console.WellFormed.keepsSizes`** — this holds of every action on a well-formed console.
* **`Session.bounds_of_run`** — the sizes and the bounds that hold after any run of orderly
  operations.
-/

namespace ChipEight

namespace Slice

variable {α : Type} {n : Nat} {start stop : Int}

/-- **A row of fixed size after one of its slices was replaced:** it is what comes out when anything
may take the place of a slice, and that is as long as the row was. -/
structure Replaced (left row : Vector α n) (start stop : Int) (items : List α) : Prop where
  toList_eq : left.toList = assign row.toList start stop items
  length_eq : (assign row.toList start stop items).length = n

/-- What comes out is enough, since it is then as long as the row. -/
lemma Replaced.of_toList_eq {left row : Vector α n} {items : List α}
    (h : left.toList = assign row.toList start stop items) : Replaced left row start stop items :=
  ⟨h, by rw [← h, Vector.length_toList]⟩

/-- A slice of a store that is replaced leaves such a row. -/
lemma Replaced.of_assign? {left cells : Cells n} {bytes : List UInt8}
    (h : cells.assign? start stop bytes = some left) : Replaced left cells start stop bytes :=
  .of_toList_eq (Cells.assign?_eq_some_iff.mp h)

end Slice

namespace Console

variable {setup : Setup} {console left : Console} {action : Action} {flow : Flow}
  {trace : Option Trace} {x : Register}

/-! ## Copies that were carried out -/

/-- Registers that went to memory have taken the place of a slice of it. -/
lemma replaced_of_store (h : console.execute setup (.store x) = .ran flow trace left) :
    Slice.Replaced left.machine.memory console.machine.memory
      console.machine.index (console.machine.index + x.val + 1)
      (Slice.read console.machine.registers.toList 0 (x.val + 1)) := by
  simp only [execute, go] at h
  split at h
  · cases h
  · split at h
    · cases h
    · rename_i hassign
      cases h
      rw [← Cells.slice_eq]
      exact .of_assign? hassign

/-- Bytes that came from memory have taken the place of the registers up to Vx. -/
lemma replaced_of_load (h : console.execute setup (.load x) = .ran flow trace left) :
    Slice.Replaced left.machine.registers console.machine.registers
      0 (x.val + 1)
      (Slice.read console.machine.memory.toList console.machine.index
        (console.machine.index + x.val + 1)) := by
  simp only [execute, go] at h
  split at h
  · cases h
  · split at h
    · cases h
    · rename_i hassign
      cases h
      rw [← Cells.slice_eq]
      exact .of_assign? hassign

/-! ## Every action keeps the sizes -/

/-- **What an action puts in the place of a slice is as long as the slice.**  There are five ways to
do so, and no cycle comes upon a slice that would change a size. -/
structure KeepsSizes (setup : Setup) (console : Console) (action : Action) : Prop where
  /-- The registers up to Vx go to memory. -/
  store : ∀ x, console.executed? setup action = some (.store x) →
    Slice.Replaced (console.act setup action).machine.memory console.machine.memory
      console.machine.index (console.machine.index + x.val + 1)
      (Slice.read console.machine.registers.toList 0 (x.val + 1))
  /-- The registers up to Vx come from memory. -/
  load : ∀ x, console.executed? setup action = some (.load x) →
    Slice.Replaced (console.act setup action).machine.registers console.machine.registers
      0 (x.val + 1)
      (Slice.read console.machine.memory.toList console.machine.index
        (console.machine.index + x.val + 1))
  /-- The whole screen goes dark, pixel for pixel. -/
  clear : console.executed? setup action = some .clear →
    Slice.Replaced (console.act setup action).machine.screen console.machine.screen
      0 console.machine.screen.toList.length
      (List.replicate console.machine.screen.toList.length false)
  /-- A program goes to memory. -/
  program : ∀ program, action = .load program → program.length ≤ programLimit →
    Slice.Replaced (console.act setup action).machine.memory console.machine.memory
      programStart (programStart + program.length) program
  /-- One that is too large stays out. -/
  tooLarge : ∀ program, action = .load program → programLimit < program.length →
    console.act setup action = console
  /-- The font goes to memory that has just been cleared. -/
  font : action = .reset →
    Slice.Replaced (console.act setup action).machine.memory (Vector.replicate memorySize 0)
      fontStart (fontStart + font.length) font
  /-- A cycle that is not refused with a fault is carried out. -/
  smooth : action = .cycle → ∀ misfit left, console.step setup ≠ .stuck misfit left

/-- **Every action on a well-formed console keeps the sizes.** -/
theorem WellFormed.keepsSizes (wf : console.WellFormed) (setup : Setup) (action : Action) :
    KeepsSizes setup console action where
  store := by
    intro x h
    obtain ⟨trace, left, hran, hact⟩ := exists_execute_of_executed? wf.machine.pc_nonneg h
    have hcopy := replaced_of_store hran
    rw [hact]
    exact hcopy
  load := by
    intro x h
    obtain ⟨trace, left, hran, hact⟩ := exists_execute_of_executed? wf.machine.pc_nonneg h
    have hcopy := replaced_of_load hran
    rw [hact]
    exact hcopy
  clear := by
    intro h
    obtain ⟨trace, left, hran, hact⟩ := exists_execute_of_executed? wf.machine.pc_nonneg h
    cases hran
    rw [hact]
    refine .of_toList_eq ?_
    rw [Slice.assign_all, Vector.length_toList]
    exact Vector.toList_replicate
  program := by
    rintro program rfl hlimit
    simp only [Console.act, Machine.load_of_le_limit _ hlimit, Option.getD_some]
    exact .of_assign? (Cells.assign?_natCast _ (Machine.room_of_le_limit hlimit))
  tooLarge := by
    rintro program rfl hlimit
    simp only [Console.act, Machine.load_of_limit_lt _ hlimit, Option.getD_none]
  font := by
    rintro rfl
    exact .of_assign? (Cells.assign?_natCast _ (by decide))
  smooth := fun _ => step_ne_stuck wf

end Console

namespace Session

/-! ## The bounds of a run -/

/-- **What every run keeps.**  After any orderly operations from power-on, in any order and under
any setup:

* Memory has 4096 bytes, the register file 16, and the screen 2048 pixels.  At every moment of the
  run, whatever went into the place of a slice was as long as the slice, so that no byte was ever
  pushed out or cut off to keep these sizes.
* Every number in the state is within its bounds, and the program counter is at most `0x10FE` unless
  an instruction was skipped.
* A machine that waits for a key points at the instruction it waits for, unless a program was put
  into memory since it last ran. -/
theorem bounds_of_run (setup : Setup) (journal : Journal) (pacer : Option Pacer)
    (audience : Audience) {operations : List Operation}
    (orderly : ∀ operation ∈ operations, operation.IsOrderly) :
    let start : Session := { setup, journal, pacer, audience }
    let machine := (performAll operations start).2.console.machine
    let actions := allActions operations start
    (machine.memory.toList.length = 4096 ∧ machine.registers.toList.length = 16 ∧
        machine.screen.toList.length = 2048) ∧
      (∀ first action last, actions = first ++ action :: last →
        (start.console.acts setup first).KeepsSizes setup action) ∧
      machine.WellFormed ∧
      (Action.skip ∉ actions → machine.pc ≤ 0x10FE) ∧
      ∀ register, machine.activity = .awaitingKey register →
        ∀ first last, actions = first ++ last →
          (start.console.acts setup first).machine.activity = .running →
          (∀ program, Action.load program ∉ last) →
          machine.PointsAt (Instruction.awaitKey register).word := by
  intro start machine actions
  have hrun : machine = (start.console.acts setup actions).machine :=
    congrArg Console.machine (performAll_console orderly start)
  have wf (moment : List Action) : (start.console.acts setup moment).WellFormed :=
    Console.wellFormed_powerOn.acts moment
  rw [hrun]
  refine ⟨⟨Vector.length_toList, Vector.length_toList, Vector.length_toList⟩,
    fun first action last _ => (wf first).keepsSizes setup action, (wf actions).machine,
    fun hskip => ?_, ?_⟩
  · have hpc : Machine.powerOn.pc ≤ 0x10FE := by decide
    exact Console.pc_le_acts Console.wellFormed_powerOn hpc hskip
  · intro register waiting first last hsplit running hload
    rw [hsplit, Console.acts_append] at waiting ⊢
    exact Console.showsWait_acts (wf first) (.of_running running) hload register waiting

/-- A program that puts V0 into the last byte of memory and then waits for a key into V3, run by a
host that has pressed a key before, and then by a pacer. -/
theorem bounds_of_run_awaiting :
    let program : List UInt8 := [0x60, 0x2A, 0xAF, 0xFF, 0xF0, 0x55, 0xF3, 0x0A]
    let operations : List Operation :=
      [.press 7, .load program, .run 3, .step, .pace .runFrame, .release 7]
    let machine := (performAll operations { pacer := some {} }).2.console.machine
    let before := ({} : Console).acts {} [.press 7, .load program, .cycle, .cycle]
    (∀ operation ∈ operations, operation.IsOrderly) ∧
      Slice.Replaced (before.act {} .cycle).machine.memory before.machine.memory 0xFFF 0x1000
        [0x2A] ∧
      machine.memory.toList.length = 4096 ∧ machine.activity = .awaitingKey 3 ∧
      machine.WellFormed ∧ machine.pc ≤ 0x10FE ∧
      machine.PointsAt (Instruction.awaitKey 3).word := by
  intro program operations machine before
  have orderly : ∀ operation ∈ operations, operation.IsOrderly := by
    simp [operations, Operation.IsOrderly]
  have waiting : machine.activity = .awaitingKey 3 := by decide +kernel
  have hsplit : allActions operations { pacer := some {} } =
      [.press 7, .load program, .cycle, .cycle] ++
        .cycle :: [.cycle, .cycle, .release 7] := by
    decide +kernel
  have hskip : Action.skip ∉ allActions operations { pacer := some {} } := by
    rw [hsplit]
    decide
  obtain ⟨running, hstore, hindex, hbytes⟩ : before.machine.activity = .running ∧
      before.executed? {} .cycle = some (.store Register.zero) ∧ before.machine.index = 0xFFF ∧
        Slice.read before.machine.registers.toList 0 1 = [0x2A] := by
    decide +kernel
  obtain ⟨⟨hmemory, -, -⟩, hsizes, wf, hpc, hwait⟩ := bounds_of_run {} {} (some {}) {} orderly
  have hreplaced := (hsizes _ _ _ hsplit).store _ hstore
  refine ⟨orderly, ?_, hmemory, waiting, wf, hpc hskip, ?_⟩
  · rw [← hbytes]
    rw [hindex] at hreplaced
    exact hreplaced
  · exact hwait 3 waiting _ _ hsplit running fun program => by simp

end Session

end ChipEight
