import ChipEight.Proofs.Mnemonics
import ChipEight.Proofs.Succession

/-!
# Reports are faithful

A report shows every number of the state but those of memory and of the screen, on lines whose
number and width vary.  Two machines have the same report only if these numbers are the same, and
the last line says what the next cycle will meet, although it looks at the word on its own account.

* `Machine.SamePanel`, `Machine.SameReport` — the parts of the state that are shown.
* `Machine.splitOn_report` — the lines of a report can be told apart again.
* `Machine.reportLines_eq_iff`, `Machine.panelLines_eq_iff` — what is shown can be read again.
* `Console.Foretells`, **`Console.foretells_instructionText`** — the last line and the next cycle.
* **`Machine.report_faithful`** — all this of reachable machines.
-/

namespace ChipEight

open Numeral

namespace Machine

variable {machine other : Machine}

/-! ## Lines -/

/-- The instruction is shown on one line. -/
lemma lacks_instructionText (machine : Machine) : Lacks '\n' machine.instructionText := by
  rw [instructionText]
  cases machine.word? with
  | none => decide
  | some word =>
      exact lacks_append.mpr ⟨lacks_append.mpr ⟨lacks_hexPadded (by decide), by decide⟩,
        lacks_wordMnemonic (by decide) (by decide) word⟩

/-- **Every line of a report is one line.** -/
lemma lacks_of_mem_reportLines {line : String} (h : line ∈ machine.reportLines) :
    Lacks '\n' line := by
  have hhex {width n : Nat} : Lacks '\n' (hexPadded width n) := lacks_hexPadded (by decide)
  have hsigned {width : Nat} {number : Int} : Lacks '\n' (hexSigned width number) :=
    lacks_hexSigned (by decide) (by decide) number
  have hdigit {n : Nat} : Lacks '\n' (hex n) := lacks_hex (by decide)
  have hdecimal {n : Nat} : Lacks '\n' (decimal n) := lacks_decimal (by decide)
  have hpadded {width n : Nat} : Lacks '\n' (decimalPadded width n) :=
    lacks_decimalPadded (by decide) (by decide)
  have htimer {number : Int} : Lacks '\n' (decimalSigned number) :=
    lacks_decimalSigned (by decide) (by decide) number
  revert line
  simp only [reportLines, registerLine, callLine, List.forall_mem_append, List.forall_mem_cons,
    List.forall_mem_map, List.not_mem_nil, false_imp_iff, forall_const, lacks_append, hhex, hsigned,
    hdigit, hdecimal, hpadded, htimer, lacks_instructionText, and_true]
  refine ⟨⟨⟨⟨⟨⟨by decide, fun _ _ => by decide⟩, by decide⟩, fun _ _ => by decide⟩, by decide⟩, ?_⟩,
    by decide⟩
  cases machine.activity with
  | running => exact fun _ h => absurd h List.not_mem_nil
  | awaitingKey register =>
      simp only [List.mem_singleton, forall_eq]
      unfold waitLine
      exact lacks_append.mpr ⟨by decide, hdigit⟩

/-- **The lines of a report are told apart by its line ends.** -/
lemma splitOn_report (machine : Machine) :
    machine.report.toList.splitOn '\n' = machine.reportLines.map String.toList := by
  rw [report, String.toList_intercalate]
  refine List.splitOn_intercalate '\n' ?_ (by simp [reportLines])
  intro text h
  obtain ⟨line, hline, rfl⟩ := List.mem_map.mp h
  exact lacks_of_mem_reportLines hline

/-- Reports are the same if their lines are. -/
lemma report_eq_iff : machine.report = other.report ↔ machine.reportLines = other.reportLines := by
  refine ⟨fun h => ?_, fun h => by rw [report, report, h]⟩
  have hsplit := machine.splitOn_report
  rw [h, other.splitOn_report] at hsplit
  exact (List.map_inj_right fun _ _ => String.toList_inj.mp).mp hsplit.symm

/-! ## What is shown -/

/-- **The parts of the state that the panel shows** are the same of two machines. -/
structure SamePanel (machine other : Machine) : Prop where
  registers : machine.registers = other.registers
  index : machine.index = other.index
  pc : machine.pc = other.pc
  depth : machine.depth = other.depth
  delay : machine.delay = other.delay
  sound : machine.sound = other.sound
  /-- The word at the program counter, or its absence. -/
  word : machine.word? = other.word?

/-- **The parts of the state that a report shows** are the same of two machines. -/
structure SameReport (machine other : Machine) : Prop extends SamePanel machine other where
  /-- The return addresses in use. -/
  calls : machine.calls = other.calls
  /-- The awaited register, or none. -/
  activity : machine.activity = other.activity

/-- Texts with a beginning of the same length are told apart piece by piece. -/
lemma append_inj_of_length {first last first' last' : String}
    (h : first ++ last = first' ++ last') (hlength : first.toList.length = first'.toList.length) :
    first = first' ∧ last = last' := by
  rw [← String.toList_inj, String.toList_append, String.toList_append] at h
  obtain ⟨hfirst, hlast⟩ := List.append_inj h hlength
  exact ⟨String.toList_inj.mp hfirst, String.toList_inj.mp hlast⟩

/-- The registers are the same if each of them is. -/
lemma registers_eq_of_register
    (h : ∀ register, machine.register register = other.register register) :
    machine.registers = other.registers :=
  Vector.ext fun place hplace => h ⟨place, hplace⟩

/-- The line of a register tells its value. -/
lemma register_of_registerLine {register : Register}
    (h : machine.registerLine register = other.registerLine register) :
    machine.register register = other.register register := by
  have hwidth (machine : Machine) :
      (decimalPadded 3 (machine.register register).toNat).toList.length = 3 := by
    have hbyte := (machine.register register).toNat_lt
    exact length_decimalPadded (by decide) (by omega)
  simp only [registerLine, String.append_assoc, String.append_right_inj] at h
  have hvalue := (append_inj_of_length h (by rw [hwidth, hwidth])).1
  exact UInt8.toNat_inj.mp (decimalPadded_inj.mp hvalue)

/-- The lines of the stack tell the return addresses. -/
lemma calls_of_callLines
    (h : machine.calls.zipIdx.map (fun call => callLine call.1 call.2) =
      other.calls.zipIdx.map (fun call => callLine call.1 call.2)) :
    machine.calls = other.calls := by
  have hline {position : Nat} : Function.Injective fun address => callLine address position :=
    fun _ _ hlines => hexPadded_inj.mp ((String.append_right_inj _).mp hlines)
  refine List.ext_getElem? fun position => ?_
  have hplace := congrArg (fun lines => lines[position]?) h
  simp only [List.getElem?_map, List.getElem?_zipIdx, Option.map_map] at hplace
  exact Option.map_injective hline hplace

/-- The line of a wait, if there is one, tells the awaited register. -/
lemma activity_of_waitLines {first second : Activity}
    (h : (match first with
        | .running => []
        | .awaitingKey register => [waitLine register]) =
      (match second with
        | .running => []
        | .awaitingKey register => [waitLine register])) :
    first = second := by
  cases first with
  | running =>
      cases second with
      | running => rfl
      | awaitingKey register => cases h
  | awaitingKey register =>
      cases second with
      | running => cases h
      | awaitingKey register' =>
          have hline := (List.cons.inj h).1
          rw [Fin.ext (hex_inj.mp ((String.append_right_inj _).mp hline))]

/-- **The text of the instruction tells the word, or that there is none.** -/
lemma instructionText_eq_iff :
    machine.instructionText = other.instructionText ↔ machine.word? = other.word? := by
  refine ⟨fun h => ?_, fun h => by rw [instructionText, instructionText, h]⟩
  have hminus (word : Word) : Lacks '-' (hexPadded 4 word.toNat ++ "  " ++ word.mnemonic) :=
    lacks_append.mpr ⟨lacks_append.mpr ⟨lacks_hexPadded (by decide), by decide⟩,
      lacks_wordMnemonic (by decide) (by decide) word⟩
  rw [instructionText, instructionText] at h
  cases hword : machine.word? with
  | none =>
      cases hother : other.word? with
      | none => rfl
      | some word =>
          simp only [hword, hother] at h
          exact absurd (h ▸ hminus word) (by decide)
  | some word =>
      cases hother : other.word? with
      | none =>
          simp only [hword, hother] at h
          exact absurd (h ▸ hminus word) (by decide)
      | some word' =>
          have hwidth (word : Word) : (hexPadded 4 word.toNat).toList.length = 4 :=
            length_hexPadded (by decide) word.toNat_lt
          simp only [hword, hother, String.append_assoc] at h
          have hdigits := (append_inj_of_length h (by rw [hwidth, hwidth])).1
          rw [UInt16.toNat_inj.mp (hexPadded_inj.mp hdigits)]

/-- **The lines of a report tell what they show.** -/
theorem reportLines_eq_iff :
    machine.reportLines = other.reportLines ↔ machine.SameReport other := by
  constructor
  · intro h
    simp only [reportLines, List.append_assoc, List.cons_append, List.nil_append, List.cons.injEq,
      true_and] at h
    obtain ⟨hregisters, h⟩ := List.append_inj h (by simp)
    simp only [List.cons.injEq, String.append_right_inj, true_and] at h
    obtain ⟨hindex, hpc, hdepth, h⟩ := h
    have hdepth := decimal_inj.mp hdepth
    obtain ⟨hcalls, h⟩ := List.append_inj h (by simp [calls, hdepth])
    simp only [List.cons.injEq, String.append_right_inj] at h
    obtain ⟨hdelay, hsound, h⟩ := h
    obtain ⟨hwait, hlast⟩ := List.append_inj' h rfl
    simp only [List.cons.injEq, String.append_right_inj, and_true] at hlast
    exact {
      registers := registers_eq_of_register fun register =>
        register_of_registerLine (List.map_inj_left.mp hregisters register (List.mem_finRange _))
      index := hexSigned_inj.mp hindex
      pc := hexSigned_inj.mp hpc
      depth := hdepth
      delay := decimalSigned_inj.mp hdelay
      sound := decimalSigned_inj.mp hsound
      word := instructionText_eq_iff.mp hlast
      calls := calls_of_callLines hcalls
      activity := activity_of_waitLines hwait }
  · intro same
    have hline : machine.registerLine = other.registerLine := by
      funext register
      rw [registerLine, registerLine, Machine.register, Machine.register, same.registers]
    rw [reportLines, reportLines, hline, same.index, same.pc, same.depth, same.calls, same.delay,
      same.sound, same.activity, instructionText_eq_iff.mpr same.word]

/-- A row of the panel tells the values of its two registers. -/
lemma register_of_panelPair {pair : Fin 8} (h : machine.panelPair pair = other.panelPair pair) :
    ∀ register : Register, register / 2 = pair.val →
      machine.register register = other.register register := by
  have hwidth (machine : Machine) (register : Register) :
      (hexPadded 2 (machine.register register).toNat).toList.length = 2 :=
    length_hexPadded (by decide) (machine.register register).toNat_lt
  simp only [panelPair, String.append_assoc, String.append_right_inj] at h
  obtain ⟨hleft, h⟩ := append_inj_of_length h (by rw [hwidth, hwidth])
  simp only [String.append_right_inj] at h
  intro register hpair
  rcases Nat.mod_two_eq_zero_or_one register with heven | hodd
  · have heq : register = ⟨2 * pair, by omega⟩ := Fin.ext (by simp only; omega)
    rw [heq]
    exact UInt8.toNat_inj.mp (hexPadded_inj.mp hleft)
  · have heq : register = ⟨2 * pair + 1, by omega⟩ := Fin.ext (by simp only; omega)
    rw [heq]
    exact UInt8.toNat_inj.mp (hexPadded_inj.mp h)

/-- The panel has eleven lines. -/
lemma length_panelLines (machine : Machine) : machine.panelLines.length = 11 := by
  simp [panelLines]

/-- **The lines of the panel tell what they show,** as long as the numbers are within their
bounds. -/
theorem panelLines_eq_iff (wf : machine.WellFormed) (wf' : other.WellFormed) :
    machine.panelLines = other.panelLines ↔ machine.SamePanel other := by
  constructor
  · intro h
    obtain ⟨hpairs, h⟩ := List.append_inj h (by simp)
    simp only [List.cons.injEq, String.append_assoc, String.append_right_inj, and_true] at h
    obtain ⟨hplaces, hnumbers, hword⟩ := h
    have hindex {machine : Machine} (wf : machine.WellFormed) :
        (hexSigned 3 machine.index).toList.length = 3 := by
      have hle := wf.index_le
      exact length_hexSigned (by decide) wf.index_nonneg (by omega)
    have hdepth {machine : Machine} (wf : machine.WellFormed) :
        (decimalPadded 2 machine.depth).toList.length = 2 := by
      have hle := wf.depth_le
      exact length_decimalPadded (by decide) (by simp only [stackSize] at hle; omega)
    have hdelay {machine : Machine} (wf : machine.WellFormed) :
        (hexSigned 2 machine.delay).toList.length = 2 := by
      have hle := wf.delay_le
      exact length_hexSigned (by decide) wf.delay_nonneg (by omega)
    obtain ⟨hi, hpc⟩ := append_inj_of_length hplaces (by rw [hindex wf, hindex wf'])
    obtain ⟨hsp, htimers⟩ := append_inj_of_length hnumbers (by rw [hdepth wf, hdepth wf'])
    rw [String.append_right_inj] at hpc htimers
    obtain ⟨hdt, hst⟩ := append_inj_of_length htimers (by rw [hdelay wf, hdelay wf'])
    rw [String.append_right_inj] at hst
    exact {
      registers := registers_eq_of_register fun register =>
        register_of_panelPair
          (List.map_inj_left.mp hpairs ⟨register / 2, by omega⟩ (List.mem_finRange _)) register rfl
      index := hexSigned_inj.mp hi
      pc := hexSigned_inj.mp hpc
      depth := decimalPadded_inj.mp hsp
      delay := hexSigned_inj.mp hdt
      sound := hexSigned_inj.mp hst
      word := instructionText_eq_iff.mp hword }
  · intro same
    have hpair : machine.panelPair = other.panelPair := by
      funext pair
      simp only [panelPair, Machine.register, same.registers]
    rw [panelLines, panelLines, hpair, same.index, same.pc, same.depth, same.delay, same.sound,
      instructionText_eq_iff.mpr same.word]

/-- The last line of a report is that of the instruction. -/
lemma getLast?_reportLines (machine : Machine) :
    machine.reportLines.getLast? = some ("Current Instruction: " ++ machine.instructionText) := by
  rw [reportLines, List.getLast?_concat]

end Machine

namespace Console

variable {setup : Setup} {console : Console}

/-! ## The next cycle -/

/-- **What a line says about the next cycle** of a running machine. -/
structure Foretells (setup : Setup) (console : Console) (line : String) : Prop where
  /-- Four dashes say that there is no word at the program counter. -/
  outside_iff : "----".toList <:+: line.toList ↔
    console.step setup = .faulted (.outsideMemory console.machine.pc) console
  /-- Three question marks and a word say that this word stands for no instruction, -/
  unknown_iff : ∀ word : Word, ("??? " ++ hexPadded 4 word.toNat).toList <:+ line.toList ↔
    console.step setup = .faulted { kind := .unknownWord word.toNat } console
  /-- and question marks say nothing else. -/
  marked : "???".toList <:+: line.toList →
    ∃ word : Word, ("??? " ++ hexPadded 4 word.toNat).toList <:+ line.toList
  /-- Otherwise the instruction that the cycle turns to is shown. -/
  instruction : ¬ "----".toList <:+: line.toList → ¬ "???".toList <:+: line.toList →
    ∃ instruction : Instruction,
      line = "Current Instruction: " ++ hexPadded 4 instruction.word.toNat ++ "  "
        ++ instruction.mnemonic ∧
      console.machine.PointsAt instruction.word ∧
      console.step setup = (console.execute setup instruction).complete

/-- The fault of an instruction is never that of a word that stands for none. -/
lemma fault?_ne_unknownWord (dialect : Dialect) (machine : Machine) (instruction : Instruction)
    (word : Int) : instruction.fault? dialect machine ≠ some { kind := .unknownWord word } := by
  intro h
  cases instruction
  all_goals
    simp [Instruction.fault?, Fault.notAKey] at h

/-- A mark is not shown where one of its characters does not occur. -/
lemma not_shown {c : Char} {mark line : String} (hmark : c ∈ mark.toList) (h : Lacks c line) :
    ¬ mark.toList <:+: line.toList :=
  fun shown => h (shown.subset hmark)

/-- Where there is no word, dashes are shown. -/
lemma foretells_of_none (hpc : 0 ≤ console.machine.pc)
    (running : console.machine.activity = .running) (hword : console.machine.word? = none) :
    Foretells setup console ("Current Instruction: " ++ console.machine.instructionText) := by
  have hstep : console.step setup = .faulted (.outsideMemory console.machine.pc) console :=
    (step_outsideMemory_iff hpc running).mpr hword
  have hline : "Current Instruction: " ++ console.machine.instructionText =
      "Current Instruction: ----  (PC outside memory)" := by
    rw [Machine.instructionText, hword]
    rfl
  have hdashes : "----".toList <:+: "Current Instruction: ----  (PC outside memory)".toList :=
    ⟨"Current Instruction: ".toList, "  (PC outside memory)".toList, rfl⟩
  have hunmarked {mark : String} (h : '?' ∈ mark.toList) :
      ¬ mark.toList <:+: "Current Instruction: ----  (PC outside memory)".toList :=
    not_shown h (by decide)
  rw [hline]
  exact {
    outside_iff := iff_of_true hdashes hstep
    unknown_iff := by
      intro word
      refine iff_of_false (fun h => hunmarked (by simp) h.isInfix) ?_
      simp [hstep, Fault.outsideMemory]
    marked := fun h => absurd h (hunmarked (by decide))
    instruction := fun h => absurd hdashes h }

/-- Where the word stands for no instruction, question marks are shown with it. -/
lemma foretells_of_unknown {word : Word} (running : console.machine.activity = .running)
    (hword : console.machine.word? = some word) (hdecode : word.decode = none) :
    Foretells setup console ("Current Instruction: " ++ console.machine.instructionText) := by
  have hstep : console.step setup = .faulted { kind := .unknownWord word.toNat } console := by
    simp only [step, running, hword, hdecode]
  have hline : "Current Instruction: " ++ console.machine.instructionText =
      "Current Instruction: " ++ hexPadded 4 word.toNat ++ "  " ++
        ("??? " ++ hexPadded 4 word.toNat) := by
    simp only [Machine.instructionText, hword, Word.mnemonic, hdecode, String.append_assoc]
  have hshown : ("??? " ++ hexPadded 4 word.toNat).toList <:+
      ("Current Instruction: " ++ console.machine.instructionText).toList :=
    ⟨("Current Instruction: " ++ hexPadded 4 word.toNat ++ "  ").toList, by
      rw [hline, ← String.toList_append]⟩
  have hdashes : Lacks '-' ("Current Instruction: " ++ console.machine.instructionText) := by
    have hdigits : Lacks '-' (hexPadded 4 word.toNat) := lacks_hexPadded (by decide)
    simp only [hline, lacks_append, hdigits, and_true]
    decide
  exact {
    outside_iff := by
      refine iff_of_false (not_shown (by decide) hdashes) ?_
      simp [hstep, Fault.outsideMemory]
    unknown_iff := by
      intro other
      rw [hstep]
      constructor
      · intro h
        -- both texts end the line and have the same length
        have hlength : ("??? " ++ hexPadded 4 other.toNat).toList.length =
            ("??? " ++ hexPadded 4 word.toNat).toList.length := by
          rw [String.toList_append, String.toList_append, List.length_append, List.length_append,
            length_hexPadded (by decide) other.toNat_lt, length_hexPadded (by decide) word.toNat_lt]
        have hsame := (List.suffix_of_suffix_length_le h hshown (Nat.le_of_eq hlength)).eq_of_length
          hlength
        have hdigits := (String.append_right_inj _).mp (String.toList_inj.mp hsame)
        rw [hexPadded_inj.mp hdigits]
      · intro h
        simp only [Outcome.faulted.injEq, Fault.mk.injEq, Fault.Kind.unknownWord.injEq,
          Int.natCast_inj, and_true] at h
        rwa [← h]
    marked := fun _ => ⟨word, hshown⟩
    instruction := by
      intro _ h
      have hmarks : "???".toList <:+: ("??? " ++ hexPadded 4 word.toNat).toList :=
        ⟨[], ' ' :: (hexPadded 4 word.toNat).toList, by rw [String.toList_append]; rfl⟩
      exact absurd (hmarks.trans hshown.isInfix) h }

/-- Where the word stands for an instruction, that is shown. -/
lemma foretells_of_instruction {word : Word} {instruction : Instruction}
    (hpc : 0 ≤ console.machine.pc) (running : console.machine.activity = .running)
    (hword : console.machine.word? = some word) (hdecode : word.decode = some instruction) :
    Foretells setup console ("Current Instruction: " ++ console.machine.instructionText) := by
  have hstep : console.step setup = (console.execute setup instruction).complete := by
    simp only [step, running, hword, hdecode]
  have hline : "Current Instruction: " ++ console.machine.instructionText =
      "Current Instruction: " ++ hexPadded 4 word.toNat ++ "  " ++ instruction.mnemonic := by
    simp only [Machine.instructionText, hword, Word.mnemonic, hdecode, String.append_assoc]
  have hplain {c : Char} (hc : isNotation c = false)
      (htext : Lacks c "Current Instruction: " ∧ Lacks c "  ") :
      Lacks c ("Current Instruction: " ++ console.machine.instructionText) := by
    have hdigits : Lacks c (hexPadded 4 word.toNat) := lacks_hexPadded fun h => by
      rw [isNotation_of_mem h] at hc
      cases hc
    simp only [hline, lacks_append, hdigits, htext, lacks_mnemonic hc, and_self]
  have hmarks := hplain (c := '?') (by decide) (by decide)
  exact {
    outside_iff := by
      refine iff_of_false (not_shown (by decide) (hplain (c := '-') (by decide) (by decide))) ?_
      rw [step_outsideMemory_iff hpc running, hword]
      exact Option.some_ne_none _
    unknown_iff := by
      intro other
      refine iff_of_false (fun h => not_shown (by simp) hmarks h.isInfix) fun h => ?_
      rw [hstep] at h
      have met := (fault?_of_execute (of_complete_faulted h)).1
      exact fault?_ne_unknownWord _ _ _ _ met
    marked := fun h => absurd h (not_shown (by decide) hmarks)
    instruction := by
      intro _ _
      have heq := Word.word_of_decode hdecode
      refine ⟨instruction, ?_, ?_, hstep⟩
      · rw [hline, heq]
      · rw [heq]
        exact (Machine.word?_eq_some_iff hpc).mp hword }

/-- **The last line of a report foretells the next cycle.** -/
theorem foretells_instructionText (hpc : 0 ≤ console.machine.pc)
    (running : console.machine.activity = .running) :
    Foretells setup console ("Current Instruction: " ++ console.machine.instructionText) := by
  cases hword : console.machine.word? with
  | none => exact foretells_of_none hpc running hword
  | some word =>
      cases hdecode : word.decode with
      | none => exact foretells_of_unknown running hword hdecode
      | some instruction => exact foretells_of_instruction hpc running hword hdecode

end Console

namespace Machine

variable {machine : Machine}

/-! ## Reachable machines -/

/-- A look at the word at the program counter is answered unless the program counter counts back
beyond the first byte. -/
lemma reply_lookAtWord (session : Session) (reply : Session.Reply)
    (hpc : 0 ≤ session.console.machine.pc) : (session.lookAtWord reply).reply = .ok reply := by
  have hlost : ¬ session.console.machine.isLost = true := by
    simp only [isLost, memorySize, decide_eq_true_eq]
    omega
  rw [Session.lookAtWord, if_neg hlost]
  rfl

/-- **Reports are total, lose nothing, and are right about the next cycle.**  Every session with a
reachable machine is told its report and its panel, and can tell their lines apart.  Of two
reachable machines the reports are the same just if all that they show is.  While the machine runs,
the last line says what becomes of the next cycle, whatever the setup, the keypad and the random
bytes.  The panel has eleven lines, which are the same of two reachable machines just if all that
they show is. -/
theorem report_faithful (reach : machine.Reachable) :
    (∀ session : Session, session.console.machine = machine →
        (session.perform .report).reply = .ok (.lines machine.reportLines) ∧
        (session.perform .panel).reply = .ok (.lines machine.panelLines)) ∧
      machine.report.toList.splitOn '\n' = machine.reportLines.map String.toList ∧
      (∀ other : Machine, other.Reachable →
        (machine.report = other.report ↔ machine.SameReport other)) ∧
      (machine.activity = .running → ∃ line, machine.reportLines.getLast? = some line ∧
        ∀ setup keypad draws, Console.Foretells setup { machine, keypad, draws } line) ∧
      machine.panelLines.length = 11 ∧
      ∀ other : Machine, other.Reachable →
        (machine.panelLines = other.panelLines ↔ machine.SamePanel other) := by
  have wf := reach.wellFormed
  refine ⟨?_, machine.splitOn_report, fun other _ => report_eq_iff.trans reportLines_eq_iff, ?_,
    machine.length_panelLines, fun other hother => panelLines_eq_iff wf hother.wellFormed⟩
  · rintro session rfl
    exact ⟨reply_lookAtWord session _ wf.pc_nonneg, reply_lookAtWord session _ wf.pc_nonneg⟩
  · intro running
    exact ⟨_, machine.getLast?_reportLines, fun _ _ _ =>
      Console.foretells_instructionText wf.pc_nonneg running⟩

/-- A register is set, and no program follows.  The report tells the register from what it was at
power-on, and its last line shows the word that is not there. -/
theorem report_faithful_unknown_word :
    let machine := (({} : Console).acts {} [.load [0x60, 0x07], .cycle]).machine
    machine.Reachable ∧ machine.activity = .running ∧ machine.report ≠ powerOn.report ∧
      ∃ line, machine.reportLines.getLast? = some line ∧
        ("??? " ++ hexPadded 4 (0 : Word).toNat).toList <:+ line.toList := by
  intro machine
  have reach : machine.Reachable := ⟨{}, _, Console.reachable_iff.mpr ⟨_, rfl⟩, rfl⟩
  have start : powerOn.Reachable := ⟨{}, {}, Console.reachable_iff.mpr ⟨[], rfl⟩, by rfl⟩
  obtain ⟨running, hzero, hset, met⟩ :
      machine.activity = .running ∧ powerOn.register 0 = 0 ∧ machine.register 0 = 7 ∧
        machine.fault? {} = some { kind := .unknownWord 0 } := by
    decide +kernel
  clear_value machine
  obtain ⟨-, -, hreport, hline, -⟩ := report_faithful reach
  obtain ⟨line, hlast, foretells⟩ := hline running
  have hstep : ({ machine } : Console).step {} =
      .faulted { kind := .unknownWord (0 : Word).toNat } { machine } :=
    Console.step_of_fault? reach.wellFormed.pc_nonneg running met
  have hdiffers : machine.report ≠ powerOn.report := by
    intro h
    have hregister : machine.register 0 = powerOn.register 0 := by
      rw [register, register, ((hreport powerOn start).mp h).registers]
    rw [hset, hzero] at hregister
    cases hregister
  exact ⟨reach, running, hdiffers, line, hlast, ((foretells {} {} 0).unknown_iff 0).mpr hstep⟩

end Machine

end ChipEight
