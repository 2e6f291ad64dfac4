import ChipEight.Launch
import ChipEight.Proofs.Footprint
import ChipEight.Proofs.WindowRuns

/-!
# From a command line to a program in memory

A program is measured twice, once as a file and once more when it is put into memory.  Both agree,
so a launch never breaks off between the two: there is a window with the program in its memory, or
the file could not be had.

* `Path.mem_text` — a path is printed with no character that it was not given.
* `Options.one_le_cycles` — options that were accepted have a budget.
* `Machine.HoldsProgram`, `Machine.load_of_le` — what loading does to a machine.
* **`Session.loadsExactly`** — loading by itself, in any session.
* `ProgramFile.Unavailable`, `ProgramFile.read_cases` — what comes of a file.
* `Window.Booted`, `Launch.ofArguments_cases` — the two ends of a launch.
* **`Launch.program_in_memory`** — what becomes of a launch with options that were accepted.
-/

namespace ChipEight

/-! ## Paths -/

namespace Path

variable {α : Type} {a : α} {sep piece : List α} {pieces : List (List α)}

/-- What is in a piece is in the pieces together. -/
lemma mem_intercalate_of_mem (hpiece : piece ∈ pieces) (h : a ∈ piece) :
    a ∈ sep.intercalate pieces := by
  induction pieces with
  | nil => cases hpiece
  | cons first rest ih =>
      cases rest with
      | nil =>
          rw [List.mem_singleton] at hpiece
          rwa [List.intercalate_singleton, ← hpiece]
      | cons second rest =>
          rw [List.intercalate_cons_cons, List.mem_append, List.mem_append]
          rcases List.mem_cons.mp hpiece with rfl | hrest
          · exact Or.inl (Or.inl h)
          · exact Or.inr (ih hrest)

/-- What is in the pieces together is in one of them, or between them. -/
lemma mem_of_mem_intercalate (h : a ∈ sep.intercalate pieces) :
    a ∈ sep ∨ ∃ piece ∈ pieces, a ∈ piece := by
  induction pieces with
  | nil => cases h
  | cons first rest ih =>
      cases rest with
      | nil =>
          rw [List.intercalate_singleton] at h
          exact Or.inr ⟨first, List.mem_cons_self, h⟩
      | cons second rest =>
          rw [List.intercalate_cons_cons, List.mem_append, List.mem_append] at h
          rcases h with (h | h) | h
          · exact Or.inr ⟨first, List.mem_cons_self, h⟩
          · exact Or.inl h
          · rcases ih h with h | ⟨piece, hpiece, h⟩
            · exact Or.inl h
            · exact Or.inr ⟨piece, List.mem_cons_of_mem _ hpiece, h⟩

/-- The names of a path are cut out of its text. -/
lemma mem_of_mem_namesOf {text name : String} {character : Char} (hname : name ∈ namesOf text)
    (h : character ∈ name.toList) : character ∈ text.toList := by
  obtain ⟨piece, hpiece, rfl⟩ := List.mem_map.mp (List.mem_filter.mp hname).1
  rw [String.toList_ofList] at h
  rw [← @List.intercalate_splitOn _ text.toList _ _ '/']
  exact mem_intercalate_of_mem hpiece h

/-- **A path is printed with the characters that it was given,** with slashes and with dots. -/
theorem mem_text {text : String} {character : Char} (h : character ∈ (parse text).text.toList) :
    character = '/' ∨ character = '.' ∨ character ∈ text.toList := by
  have hnames : character ∈ ("/".intercalate (namesOf text)).toList →
      character = '/' ∨ character ∈ text.toList := by
    intro hmem
    rw [String.toList_intercalate] at hmem
    rcases mem_of_mem_intercalate hmem with hslash | ⟨piece, hpiece, hpieceMem⟩
    · exact Or.inl (List.mem_singleton.mp hslash)
    · obtain ⟨name, hname, rfl⟩ := List.mem_map.mp hpiece
      exact Or.inr (mem_of_mem_namesOf hname hpieceMem)
  rw [Path.text] at h
  split at h
  · exact Or.inr (Or.inl (List.mem_singleton.mp h))
  · exact (hnames h).imp_right Or.inr
  · rw [String.toList_append, List.mem_append] at h
    rcases h with hslash | h
    · exact Or.inl (List.mem_singleton.mp hslash)
    · exact (hnames h).imp_right Or.inr
  · rw [String.toList_append, List.mem_append] at h
    rcases h with hslash | h
    · exact Or.inl (by simpa using hslash)
    · exact (hnames h).imp_right Or.inr

end Path

/-! ## Options -/

/-- **Options that were accepted have a budget.** -/
theorem Options.one_le_cycles {arguments : List String} {options : Options}
    (h : parse arguments = .accepted options) : 1 ≤ options.cycles := by
  rw [parse] at h
  split at h
  · cases h
  · split at h
    · cases h
    · cases h
    · rename_i draft _
      rw [finish] at h
      split at h
      · cases h
      · split at h
        · cases h
        · split at h
          · cases h
          · split at h
            · cases h
            · rename_i least
              cases h
              exact Int.not_lt.mp least

/-! ## Programs in memory -/

namespace Machine

variable {machine : Machine} {program : List UInt8}

/-- **A machine with a program put in its place:** the bytes lie where programs go, one after
another, and nothing else is different. -/
structure HoldsProgram (left machine : Machine) (program : List UInt8) : Prop where
  program_eq : ∀ place < program.length, left.memory[0x200 + place]? = program[place]?
  memory_eq : ∀ place, place < 0x200 ∨ 0x200 + program.length ≤ place →
    left.memory[place]? = machine.memory[place]?
  rest_eq : left = { machine with memory := left.memory }

/-- **A program that fits is put in its place.** -/
theorem load_of_le (machine : Machine) (h : program.length ≤ 3584) :
    ∃ left, machine.load program = some left ∧ left.HoldsProgram machine program := by
  have hlimit : program.length ≤ programLimit := h
  refine ⟨_, machine.load_of_le_limit hlimit, ?_, ?_, rfl⟩
  · intro place hplace
    have hin : 0x200 + place < memorySize := by
      simp only [memorySize]
      omega
    rw [Vector.getElem?_eq_getElem hin, Cells.overwrite, Cells.getElem_write,
      if_pos (by simp [programStart]), Nat.add_sub_cancel_left, List.getElem?_eq_getElem hplace,
      Option.getD_some]
  · intro place houtside
    by_cases hin : place < memorySize
    · rw [Vector.getElem?_eq_getElem hin, Vector.getElem?_eq_getElem hin]
      exact congrArg some (Cells.getElem_write_of_outside _ hin houtside)
    · rw [Vector.getElem?_eq_none (Nat.le_of_not_lt hin),
        Vector.getElem?_eq_none (Nat.le_of_not_lt hin)]

/-- What lies in memory when a machine is switched on. -/
lemma memory_powerOn {place : Nat} (h : place < memorySize) :
    powerOn.memory[place]? = some (font[place]?.getD 0) := by
  rw [Vector.getElem?_eq_getElem h, powerOn, Cells.overwrite, Cells.getElem_write,
    if_pos (Nat.zero_le _), Nat.sub_zero, Vector.getElem_replicate]

end Machine

/-- **Loading by itself.**  A program of any length either is too large, and then nothing changes,
or it is put in its place and nothing else changes. -/
structure Session.LoadsExactly (session : Session) (program : List UInt8) : Prop where
  refused : 3584 < program.length → session.perform (.load program) =
    { reply := .error (.programTooLarge program.length), session }
  loaded : program.length ≤ 3584 → ∃ left : Machine,
    left.HoldsProgram session.console.machine program ∧
      session.perform (.load program) =
        { reply := .ok .nothing
          records := session.journal.trace (.loaded program.length)
          session := session.withMachine left }

/-- **Every program is loaded exactly, in any session.** -/
theorem Session.loadsExactly (session : Session) (program : List UInt8) :
    session.LoadsExactly program where
  refused h := by simp only [perform, Machine.load_of_limit_lt _ h]
  loaded h := by
    obtain ⟨left, hload, holds⟩ := session.console.machine.load_of_le h
    exact ⟨left, holds, by simp only [perform, hload]⟩

/-! ## Program files -/

namespace ProgramFile

variable {reader : Reader} {path : Path}

/-- **A file that cannot be had:** it could not be read, or it is too large. -/
def Unavailable : Except ReadError (List UInt8) → Prop
  | .error _ => True
  | .ok bytes => 3584 < bytes.length

/-- **What comes of a file,** unless its path holds the character that no path can hold. -/
theorem read_cases (hpath : '\x00' ∉ path.text.toList) :
    (∃ failure, failure ≠ .embeddedNull ∧ read reader path = .error failure ∧
      Unavailable (reader path)) ∨
    ∃ bytes, bytes.length ≤ 3584 ∧ reader path = .ok bytes ∧ read reader path = .ok bytes := by
  have hnull : path.text.contains '\x00' = false := by
    rw [String.contains_char_eq, decide_eq_false hpath]
  cases hread : reader path with
  | error error =>
      refine Or.inl ⟨.unreadable error path, by simp, ?_, trivial⟩
      simp only [read, hnull, hread, Bool.false_eq_true, if_false]
  | ok bytes =>
      by_cases hlength : bytes.length ≤ programLimit
      · refine Or.inr ⟨bytes, hlength, rfl, ?_⟩
        simp only [read, hnull, hread, Bool.false_eq_true, if_false, hlength, if_true]
      · refine Or.inl ⟨.tooLarge path bytes.length, by simp, ?_, Nat.lt_of_not_le hlength⟩
        simp only [read, hnull, hread, Bool.false_eq_true, if_false, hlength]

/-- **Memory has room for what is read.** -/
theorem length_le_of_read {program : List UInt8} (h : read reader path = .ok program) :
    program.length ≤ 3584 := by
  rw [read] at h
  split at h
  · cases h
  · split at h
    · cases h
    · split at h
      · rename_i hlength
        cases h
        exact hlength
      · cases h

end ProgramFile

/-! ## Launches -/

/-- **A window that has just opened on a program:** the font, the program and nothing else in
memory, and everything but memory as it is switched on. -/
structure Window.Booted (window : Window) (options : Options) (program : List UInt8) : Prop where
  font_eq : ∀ place < 80, window.paced.console.machine.memory[place]? = font[place]?
  below : ∀ place, 80 ≤ place → place < 0x200 →
    window.paced.console.machine.memory[place]? = some 0
  program_eq : ∀ place < program.length,
    window.paced.console.machine.memory[0x200 + place]? = program[place]?
  behind : ∀ place, 0x200 + program.length ≤ place → place < 4096 →
    window.paced.console.machine.memory[place]? = some 0
  console_eq : window.paced.console =
    { machine := { Machine.powerOn with memory := window.paced.console.machine.memory }
      keypad := {}
      draws := 0 }
  pacer_eq : window.paced.pacer = { budget := options.cycles, paused := options.debug }
  budget_pos : 0 < window.paced.pacer.budget
  isNew : window.IsNew

namespace Launch

variable {reader : ProgramFile.Reader} {random : Nat → UInt8} {arguments : List String}
  {options : Options}

/-- A window that opens with a machine that holds a program has booted with it. -/
lemma booted_opened {setup : Setup} {journal : Journal} {machine : Machine} {program : List UInt8}
    (hload : Machine.powerOn.load program = some machine)
    (holds : machine.HoldsProgram Machine.powerOn program) (hbudget : 1 ≤ options.cycles) :
    (Window.opened options setup machine journal).Booted options program where
  font_eq := by
    intro place hplace
    have hfont : place < font.length := hplace
    rw [Window.opened, holds.memory_eq place (Or.inl (by omega)),
      Machine.memory_powerOn (by simp only [memorySize]; omega), List.getElem?_eq_getElem hfont,
      Option.getD_some]
  below := by
    intro place hfont hplace
    have hnone : font[place]? = none := List.getElem?_eq_none hfont
    rw [Window.opened, holds.memory_eq place (Or.inl hplace),
      Machine.memory_powerOn (by simp only [memorySize]; omega), hnone, Option.getD_none]
  program_eq := holds.program_eq
  behind := by
    intro place hprogram hplace
    have hnone : font[place]? = none :=
      List.getElem?_eq_none (Nat.le_trans (by decide : font.length ≤ 0x200) (by omega))
    rw [Window.opened, holds.memory_eq place (Or.inr hprogram), Machine.memory_powerOn hplace,
      hnone, Option.getD_none]
  console_eq := congrArg (fun machine => ({ machine } : Console)) holds.rest_eq
  pacer_eq := rfl
  budget_pos := hbudget
  isNew := ⟨options, setup, journal, program, machine, hload, rfl⟩

/-- **What a launch comes to** whose options were accepted and whose path can be one. -/
theorem ofArguments_cases (haccepted : Options.parse arguments = .accepted options)
    (hpath : '\x00' ∉ options.program.toList) :
    (∃ failure records, ofArguments reader random arguments = .failed failure records ∧
      ProgramFile.Unavailable (reader (Path.parse options.program))) ∨
    ∃ program window records, program.length ≤ 3584 ∧
      reader (Path.parse options.program) = .ok program ∧
      ofArguments reader random arguments = .opened window records ∧
      window.Booted options program := by
  have hprinted : '\x00' ∉ (Path.parse options.program).text.toList := by
    intro hmem
    rcases Path.mem_text hmem with h | h | h
    · cases h
    · cases h
    · exact hpath h
  simp only [ofArguments, haccepted, openWindow]
  rcases @ProgramFile.read_cases reader _ hprinted with
    ⟨failure, hother, hread, unavailable⟩ | ⟨program, hlength, hreader, hread⟩
  · left
    cases failure with
    | embeddedNull => exact absurd rfl hother
    | unreadable | tooLarge => exact ⟨_, _, by rw [hread], unavailable⟩
  · right
    obtain ⟨machine, hload, holds⟩ := Machine.powerOn.load_of_le hlength
    have booted := @booted_opened options { dialect := options.dialect, random }
      (journal options.logs) machine program hload holds (Options.one_le_cycles haccepted)
    exact ⟨program, _, _, hlength, hreader, by simp only [hread, hload]; rfl, booted⟩

/-- **From a command line to a program in memory.**  Let a command line be accepted, with a path
that can be one, and let its file be read or not.

* The launch ends with status 2, and without a window, just if the file could not be read or is
  larger than memory has room for.
* Otherwise a window opens on a machine with the program in its memory and all else as it is
  switched on.
* There is no third way, because memory has room for every program that is read.
* Loading by itself refuses what is too large without changing anything, and changes nothing but the
  place of the program if it is not. -/
theorem program_in_memory (haccepted : Options.parse arguments = .accepted options)
    (hpath : '\x00' ∉ options.program.toList) (reader : ProgramFile.Reader)
    (random : Nat → UInt8) :
    let launch := ofArguments reader random arguments
    let file := reader (Path.parse options.program)
    (launch.exitStatus = some 2 ↔ ProgramFile.Unavailable file) ∧
    (ProgramFile.Unavailable file → ∃ failure records, launch = .failed failure records) ∧
    (¬ ProgramFile.Unavailable file → ∃ program window records, file = .ok program ∧
      launch = .opened window records ∧ window.Booted options program) ∧
    (∀ path program, ProgramFile.read reader path = .ok program →
      ∀ machine : Machine, (machine.load program).isSome) ∧
    ∀ (session : Session) (program : List UInt8), session.LoadsExactly program := by
  intro launch file
  have hroom : ∀ path program, ProgramFile.read reader path = .ok program →
      ∀ machine : Machine, (machine.load program).isSome := by
    intro path program hread machine
    obtain ⟨left, hload, -⟩ := machine.load_of_le (ProgramFile.length_le_of_read hread)
    rw [hload]
    rfl
  rcases @ofArguments_cases reader random arguments options haccepted hpath with
    ⟨failure, records, hlaunch, unavailable⟩ |
      ⟨program, window, records, hlength, hfile, hlaunch, booted⟩
  · have hstatus : launch.exitStatus = some 2 := by
      rw [show launch = .failed failure records from hlaunch]
      rfl
    exact ⟨iff_of_true hstatus unavailable, fun _ => ⟨failure, records, hlaunch⟩,
      fun available => absurd unavailable available, hroom, Session.loadsExactly⟩
  · have hstatus : launch.exitStatus ≠ some 2 := by
      rw [show launch = .opened window records from hlaunch]
      simp [exitStatus]
    have available : ¬ ProgramFile.Unavailable file := by
      rw [show file = .ok program from hfile]
      exact Nat.not_lt.mpr hlength
    exact ⟨iff_of_false hstatus available, fun unavailable => absurd unavailable available,
      fun _ => ⟨program, window, records, hfile, hlaunch, booted⟩, hroom, Session.loadsExactly⟩

/-- A directory with a small program in it.  It is loaded, and a file that is not there is not. -/
theorem program_in_memory_maze :
    let tree : FileTree :=
      { nodes :=
          [(⟨.above 0, ["roms"]⟩, .directory),
           (⟨.above 0, ["maze.ch8", "roms"]⟩, .file [0xA2, 0x1E, 0xC2, 0x01])] }
    let launch := fun arguments => ofArguments tree.read (fun _ => 0) arguments
    (∃ window records, launch ["roms//maze.ch8", "--debug"] = .opened window records ∧
      window.paced.console.machine.memory[0x202]? = some 0xC2 ∧
      window.paced.console.machine.memory[0x204]? = some 0 ∧ window.paced.pacer.paused = true) ∧
    (launch ["missing.ch8"]).exitStatus = some 2 := by
  intro tree launch
  have hmaze : Options.parse ["roms//maze.ch8", "--debug"] =
      .accepted { program := "roms//maze.ch8", debug := true } := by rfl
  have hmissing : Options.parse ["missing.ch8"] = .accepted { program := "missing.ch8" } := by rfl
  have hfile : tree.read (Path.parse "roms//maze.ch8") = .ok [0xA2, 0x1E, 0xC2, 0x01] := by rfl
  have hnone : tree.read (Path.parse "missing.ch8") = .error .notFound := by rfl
  obtain ⟨-, -, hopened, -⟩ := program_in_memory hmaze (by decide) tree.read fun _ => 0
  obtain ⟨hstatus, -⟩ := program_in_memory hmissing (by decide) tree.read fun _ => 0
  refine ⟨?_, hstatus.mpr (by rw [hnone]; trivial)⟩
  rw [hfile] at hopened
  obtain ⟨program, window, records, hprogram, hlaunch, booted⟩ :=
    hopened (Nat.not_lt.mpr (by decide))
  cases hprogram
  refine ⟨window, records, hlaunch, booted.program_eq 2 (by decide), ?_, ?_⟩
  · exact booted.behind 0x204 (by decide) (by decide)
  · rw [booted.pacer_eq]

end Launch

end ChipEight
