import ChipEight.Proofs.Footprint

/-!
# Where a cycle goes on

A cycle tells what it did to the flow of control, and it leaves the program counter where the next
one begins.  The digits of the word at the program counter decide both, together with the registers
and the keys that a skip asks for.

* `Word.BeginsWait`, `Word.Jumps` — the words that leave the program counter where they set it.
* `Console.PassesOver` — the condition of a skip, told from the digits of its word.
* `Instruction.flow_eq_drew_iff`, `Instruction.flow_eq_jumped_iff`, `Console.skips_iff` — what the
  digits of a word say about its instruction.
* `Console.step_outsideMemory_iff` — the one fault that comes of the program counter alone.
* **`Console.GoesOn`, `Console.goesOn_of_ran`** — the flow and the program counter after any cycle
  that was carried out, and whether the next one finds a word there.
-/

namespace ChipEight

/-! ## Words by their digits -/

namespace Word

/-- `FX0A`. -/
def BeginsWait (word : Word) : Prop :=
  word.family = 0xF ∧ word.byte = 0x0A

/-- **A word that sets the program counter itself:** `1NNN`, `2NNN`, `BNNN` or `FX0A`. -/
def Jumps (word : Word) : Prop :=
  word.family = 0x1 ∨ word.family = 0x2 ∨ word.family = 0xB ∨ word.BeginsWait

end Word

/-- **A word passes over the one after it:** it is a skip, and its condition holds of the registers
and of the keys that are held. -/
def Console.PassesOver (console : Console) (word : Word) : Prop :=
  let x := console.machine.register word.x
  let y := console.machine.register word.y
  match word.family with
  | 0x3 => x = word.byte
  | 0x4 => x ≠ word.byte
  | 0x5 => x = y
  | 0x9 => x ≠ y
  | 0xE =>
    word.byte = 0x9E ∧ console.holdsKey word.x = true ∨
      word.byte = 0xA1 ∧ console.holdsKey word.x = false
  | _ => False

namespace Instruction

open Word

/-- Only `DXYN` draws. -/
lemma flow_eq_drew_iff (instruction : Instruction) :
    instruction.flow = .drew ↔ instruction.word.family = 0xD := by
  cases instruction
  case clear | ret => decide
  all_goals simp [flow, word, family_pack, family_packByte, family_packAddress]

/-- An instruction jumps if its word sets the program counter itself. -/
lemma flow_eq_jumped_iff (instruction : Instruction) :
    instruction.flow = .jumped ↔ instruction.word.Jumps := by
  cases instruction
  case clear | ret => simp [flow, word, Jumps, BeginsWait]; decide
  all_goals
    simp [flow, word, Jumps, BeginsWait, family_pack, family_packByte, family_packAddress,
      byte_packByte]

/-- No instruction ends in a wait that found nothing. -/
lemma flow_ne_waiting (instruction : Instruction) : instruction.flow ≠ .waiting := by
  cases instruction <;> simp [flow]

/-- Every other instruction lets the machine move on. -/
lemma flow_eq_next_iff (instruction : Instruction) :
    instruction.flow = .next ↔ instruction.word.family ≠ 0xD ∧ ¬ instruction.word.Jumps := by
  rw [Ne, ← flow_eq_drew_iff, ← flow_eq_jumped_iff]
  have hwaiting := flow_ne_waiting instruction
  cases hflow : instruction.flow <;> simp_all

end Instruction

namespace Console

open Word

variable {setup : Setup} {console left : Console} {instruction : Instruction} {word : Word}
  {flow : Flow} {trace : Option Trace}

/-- **An instruction passes over the one after it just if its word does.** -/
lemma skips_iff (console : Console) (instruction : Instruction) :
    console.skips instruction = true ↔ console.PassesOver instruction.word := by
  cases instruction
  case clear | ret => exact iff_of_false (by simp [skips]) id
  all_goals
    simp [skips, PassesOver, Instruction.word, family_pack, family_packByte, family_packAddress,
      x_pack, y_pack, x_packByte, byte_packByte]

/-- The instruction at a word is found by decoding it. -/
lemma eq_of_decode {found : Instruction} (h : instruction.word.decode = some found) :
    instruction = found := by
  rw [decode_word, Option.some.injEq] at h
  exact h

/-! ## Where an instruction leaves the program counter -/

/-- `1NNN` and `2NNN` leave it at NNN. -/
lemma pcAfter_of_direct (h : instruction.word.family = 0x1 ∨ instruction.word.family = 0x2) :
    console.pcAfter instruction = instruction.word.address.val := by
  rcases h with h | h
  · have hjump : instruction = .jump instruction.word.address := eq_of_decode (by simp [decode, h])
    rw [hjump, pcAfter, ← hjump]
  · have hcall : instruction = .call instruction.word.address := eq_of_decode (by simp [decode, h])
    rw [hcall, pcAfter, ← hcall]

/-- `BNNN` leaves it V0 behind NNN. -/
lemma pcAfter_of_offset (h : instruction.word.family = 0xB) :
    console.pcAfter instruction =
      instruction.word.address.val + (console.machine.register Register.zero).toNat := by
  have hoffset : instruction = .jumpOffset instruction.word.address :=
    eq_of_decode (by simp [decode, h])
  rw [hoffset, pcAfter, ← hoffset]

/-- `FX0A` leaves it where it is. -/
lemma pcAfter_of_beginsWait (h : instruction.word.BeginsWait) :
    console.pcAfter instruction = console.machine.pc := by
  have hwait : instruction = .awaitKey instruction.word.x :=
    eq_of_decode (by simp [decode, h.1, h.2])
  rw [hwait]
  rfl

/-- Any other instruction but a return leaves it behind the word that it passes over, or at its own
word. -/
lemma pcAfter_of_not_jumps (hjumps : ¬ instruction.word.Jumps)
    (hret : instruction.word ≠ 0x00EE) :
    console.pcAfter instruction =
      if console.skips instruction then console.machine.pc + 2 else console.machine.pc := by
  rw [← Instruction.flow_eq_jumped_iff] at hjumps
  cases instruction
  case ret => exact absurd rfl hret
  case jump | call | jumpOffset => exact absurd rfl hjumps
  all_goals rfl

/-- One that passes over a word leaves it behind that word, less its own advance. -/
lemma pcAfter_of_skips (h : console.skips instruction = true) :
    ¬ instruction.word.Jumps ∧ console.pcAfter instruction = console.machine.pc + 2 := by
  rw [← Instruction.flow_eq_jumped_iff]
  cases instruction
  case skipIfByte | skipUnlessByte | skipIfSame | skipUnlessSame | skipIfKey | skipUnlessKey =>
    exact ⟨Flow.noConfusion, if_pos h⟩
  all_goals cases h

/-! ## The fault of the program counter -/

/-- The fault of an instruction is never that of the program counter. -/
lemma fault?_ne_outsideMemory (dialect : Dialect) (machine : Machine) (instruction : Instruction)
    (pc : Int) : instruction.fault? dialect machine ≠ some (.outsideMemory pc) := by
  intro h
  cases instruction
  all_goals
    simp [Instruction.fault?, Fault.outsideMemory, Fault.notAKey] at h

/-- **The fault of the program counter** is met where there is no word to read, and nowhere else. -/
lemma step_outsideMemory_iff (hpc : 0 ≤ console.machine.pc)
    (running : console.machine.activity = .running) :
    console.step setup = .faulted (.outsideMemory console.machine.pc) console ↔
      console.machine.word? = none := by
  constructor
  · intro h
    cases hword : console.machine.word? with
    | none => rfl
    | some word =>
        cases hdecode : word.decode with
        | none => simp [step, running, hword, hdecode, Fault.outsideMemory] at h
        | some instruction =>
            simp only [step, running, hword, hdecode] at h
            have met := (fault?_of_execute (of_complete_faulted h)).1
            exact absurd met (fault?_ne_outsideMemory _ _ _ _)
  · intro hword
    exact step_of_fault? hpc running (by rw [Machine.fault?, hword])

/-! ## The whole cycle -/

/-- **How a cycle goes on** that has carried out the instruction of a word. -/
structure GoesOn (setup : Setup) (console : Console) (word : Word) (flow : Flow)
    (left : Console) : Prop where
  drew_iff : flow = .drew ↔ word.family = 0xD
  jumped_iff : flow = .jumped ↔ word.Jumps
  next_iff : flow = .next ↔ word.family ≠ 0xD ∧ ¬ word.Jumps
  not_waiting : flow ≠ .waiting
  /-- `1NNN` and `2NNN` go to NNN, -/
  direct : word.family = 0x1 ∨ word.family = 0x2 → left.machine.pc = word.address.val
  /-- and `BNNN` goes V0 behind it, be that beyond the last address. -/
  offset : word.family = 0xB →
    left.machine.pc = word.address.val + (console.machine.register Register.zero).toNat
  /-- A wait begins where its instruction is. -/
  stays : word.BeginsWait → left.machine.pc = console.machine.pc
  /-- A return goes behind the call on top of the stack. -/
  returns : word = 0x00EE → 0 < console.machine.depth ∧
    ∃ top : console.machine.depth - 1 < stackSize,
      left.machine.pc = console.machine.stack[console.machine.depth - 1] + 2
  /-- A skip whose condition holds goes behind the next word, -/
  skips : console.PassesOver word → left.machine.pc = console.machine.pc + 4
  /-- and everything else goes to it. -/
  moves : ¬ word.Jumps → word ≠ 0x00EE → ¬ console.PassesOver word →
    left.machine.pc = console.machine.pc + 2
  /-- There is no word to read from `0xFFF` on, -/
  unreadable_iff : left.machine.word? = none ↔ 0xFFF ≤ left.machine.pc
  /-- which is what the next cycle is refused for, -/
  refused_iff : left.machine.activity = .running →
    (left.step setup = .faulted (.outsideMemory left.machine.pc) left ↔ 0xFFF ≤ left.machine.pc)
  /-- and no wait begins there. -/
  waits : ∀ register, left.machine.activity = .awaitingKey register → left.machine.pc < 0xFFF

/-- **How every cycle goes on.**  Let a reachable machine run, and let a cycle carry out the
instruction of the word at the program counter.  The digits of the word tell the flow of control and
the next program counter, and the latter alone tells whether a word can be read there. -/
theorem goesOn_of_ran (reach : console.machine.Reachable)
    (running : console.machine.activity = .running) (pointed : console.machine.PointsAt word)
    (ran : console.step setup = .ran flow trace left) : GoesOn setup console word flow left := by
  have wf := reach.wellFormed
  rcases exists_execute_of_ran wf.pc_nonneg running ran with
    ⟨instruction, before, fetched, hran, rfl⟩
  obtain rfl := pointed.unique fetched
  have effect := execute_effect hran
  obtain rfl := effect.flow_eq
  obtain ⟨hnonneg, hfar, hnear⟩ := pcAfter_bounds wf fetched effect
  have hbounds := pc_finish_bounds wf fetched effect
  have hunreadable : (finish instruction.flow before).machine.word? = none ↔
      0xFFF ≤ (finish instruction.flow before).machine.pc := by
    rw [Machine.word?_eq_none_iff hbounds.1]
    simp only [memorySize]
    omega
  have hjumped : instruction.word.Jumps →
      (finish instruction.flow before).machine.pc = console.pcAfter instruction := by
    intro h
    rw [finish, (Instruction.flow_eq_jumped_iff _).mpr h]
    exact effect.pc_eq
  have hmoved : ¬ instruction.word.Jumps →
      (finish instruction.flow before).machine.pc = console.pcAfter instruction + 2 := by
    intro h
    rw [← Instruction.flow_eq_jumped_iff] at h
    have hle := hnear h
    simp only [finish, if_neg h, effect.pc_eq]
    omega
  exact {
    drew_iff := Instruction.flow_eq_drew_iff instruction
    jumped_iff := Instruction.flow_eq_jumped_iff instruction
    next_iff := Instruction.flow_eq_next_iff instruction
    not_waiting := Instruction.flow_ne_waiting instruction
    direct := by
      intro h
      rw [hjumped (h.elim Or.inl fun hcall => Or.inr (Or.inl hcall)), pcAfter_of_direct h]
    offset := by
      intro h
      rw [hjumped (Or.inr (Or.inr (Or.inl h))), pcAfter_of_offset h]
    stays := by
      intro h
      rw [hjumped (Or.inr (Or.inr (Or.inr h))), pcAfter_of_beginsWait h]
    returns := by
      intro h
      obtain rfl : instruction = .ret := eq_of_decode (by rw [h]; rfl)
      obtain ⟨hpos, hdepth, -, -⟩ := effect.returned rfl
      have htop : console.machine.depth - 1 < stackSize := by omega
      have hjumps : ¬ Instruction.ret.word.Jumps := by
        rw [← Instruction.flow_eq_jumped_iff]
        exact Flow.noConfusion
      exact ⟨hpos, htop, by rw [hmoved hjumps, pcAfter_ret htop]⟩
    skips := by
      intro h
      obtain ⟨hjumps, hpc⟩ := pcAfter_of_skips ((skips_iff console instruction).mpr h)
      rw [hmoved hjumps, hpc]
      omega
    moves := by
      intro hjumps hret hpasses
      have hkept : ¬ console.skips instruction = true :=
        (skips_iff console instruction).not.mpr hpasses
      rw [hmoved hjumps, pcAfter_of_not_jumps hjumps hret, if_neg hkept]
    unreadable_iff := hunreadable
    refused_iff := by
      intro hnext
      rw [step_outsideMemory_iff hbounds.1 hnext, hunreadable]
    waits := by
      intro register waiting
      obtain ⟨-, hstays⟩ := pc_le_of_waiting running fetched effect waiting
      have hle := fetched.pc_le.2
      omega }

/-- V0 is 255 and `BFFF` follows, which leads far behind the last address.  There is nothing to read
there. -/
theorem goesOn_of_ran_far_jump :
    let console := ({} : Console).acts {} [.load [0x60, 0xFF, 0xBF, 0xFF], .cycle]
    ∃ trace left, console.step {} = .ran .jumped trace left ∧
      GoesOn {} console 0xBFFF .jumped left ∧ left.machine.pc = 0x10FE ∧
      left.machine.word? = none := by
  intro console
  have reach : console.machine.Reachable := ⟨{}, console, reachable_iff.mpr ⟨_, rfl⟩, rfl⟩
  obtain ⟨running, hpc, hword, hzero, sound⟩ :
      console.machine.activity = .running ∧ console.machine.pc = 0x202 ∧
        (0xBFFF : Word).toNat = console.machine.memory[0x202].toNat * 256 +
          console.machine.memory[0x202 + 1].toNat ∧
        console.machine.register Register.zero = 255 ∧ console.machine.fault? {} = none := by
    decide +kernel
  have pointed : console.machine.PointsAt 0xBFFF := ⟨0x202, by decide, hpc, hword⟩
  rcases @step_of_fault?_none {} console reach.wellFormed running sound with
    ⟨instruction, trace, before, -, -, hstep⟩
  have goesOn := goesOn_of_ran reach running pointed hstep
  have hjumped := goesOn.jumped_iff.mpr (Or.inr (Or.inr (Or.inl (by decide))))
  rw [hjumped] at hstep goesOn
  have hfar := goesOn.offset (by decide)
  rw [hzero] at hfar
  exact ⟨trace, _, hstep, goesOn, hfar, goesOn.unreadable_iff.mpr (by rw [hfar]; decide)⟩

end Console

end ChipEight
