import ChipEight.Proofs.Faults

/-!
# Calls and returns

A call puts its own place on the stack and a return takes it from there.  Between the two anything
may happen: more calls, code that rewrites itself, a program put into memory, faults and waits.

* `Console.executed?`, `Console.executions` — the instruction that an action carries out, and the
  instructions that actions carry out.
* `Console.StackMove`, `Console.stackMove_act` — the three things that an action other than a reset
  can do to the stack.
* `Machine.Holds` — a call that was made is still outstanding, and its place is on the stack.
* `Console.holds_act`, `Console.holds_acts` — it stays outstanding until its own return.
* `Console.depth_add_returns` — how deep the stack is, counted in calls and returns.
* **`Console.call_discipline`** — all of this for whole runs, and the two faults of the stack.
-/

namespace ChipEight

/-- Whether an instruction is a call. -/
def Instruction.isCall : Instruction → Bool
  | .call _ => true
  | _ => false

namespace Console

variable {setup : Setup} {console left : Console} {action : Action} {actions : List Action}

/-! ## The instructions of a run -/

/-- The instruction that an action carries out, if it carries one out: the action is a cycle, the
machine is running, and the cycle is not refused. -/
def executed? (setup : Setup) (console : Console) : Action → Option Instruction
  | .cycle =>
    match console.machine.activity, console.step setup with
    | .running, .ran _ _ _ => console.machine.word?.bind Word.decode
    | _, _ => none
  | _ => none

/-- The instructions that actions carry out, in order. -/
def executions (setup : Setup) : Console → List Action → List Instruction
  | _, [] => []
  | console, action :: rest =>
    (console.executed? setup action).toList ++ executions setup (console.act setup action) rest

/-- Only a cycle carries out an instruction. -/
lemma eq_cycle_of_executed? {instruction : Instruction}
    (h : console.executed? setup action = some instruction) : action = .cycle := by
  cases action
  case cycle => rfl
  all_goals cases h

/-! ## What becomes of the stack -/

/-- **The three things that can become of the stack at once,** with the instruction that was carried
out. -/
inductive StackMove (console left : Console) : Option Instruction → Prop where
  /-- A call puts its own place on top. -/
  | called (target : Address) (room : console.machine.depth < stackSize)
      (fetched : 0 ≤ console.machine.pc ∧ console.machine.pc ≤ 0xFFE)
      (stack_eq : left.machine.stack =
        console.machine.stack.set console.machine.depth console.machine.pc.toNat room)
      (depth_eq : left.machine.depth = console.machine.depth + 1) :
      StackMove console left (some (.call target))
  /-- A return takes the topmost place away and goes on behind it. -/
  | returned (top : left.machine.depth < stackSize)
      (stack_eq : left.machine.stack = console.machine.stack)
      (depth_eq : left.machine.depth + 1 = console.machine.depth)
      (pc_eq : left.machine.pc = (console.machine.stack[left.machine.depth] + 2) % 65536) :
      StackMove console left (some .ret)
  /-- Whatever else happens leaves the stack alone. -/
  | kept (executed : Option Instruction) (hcall : ∀ target, executed ≠ some (.call target))
      (hret : executed ≠ some .ret) (stack_eq : left.machine.stack = console.machine.stack)
      (depth_eq : left.machine.depth = console.machine.depth) :
      StackMove console left executed

/-- The stack when no instruction was carried out. -/
lemma StackMove.untouched (stack_eq : left.machine.stack = console.machine.stack)
    (depth_eq : left.machine.depth = console.machine.depth) : StackMove console left none := by
  refine .kept none (fun target h => ?_) (fun h => ?_) stack_eq depth_eq
  all_goals cases h

/-- The instruction of a cycle that carried one out is the one at the program counter. -/
lemma executed?_of_ran {instruction : Instruction} {flow : Flow} {trace : Option Trace}
    (running : console.machine.activity = .running)
    (fetched : console.machine.PointsAt instruction.word)
    (ran : console.step setup = .ran flow trace left) :
    console.executed? setup .cycle = some instruction := by
  have hword := (Machine.word?_eq_some_iff fetched.pc_le.1).mpr fetched
  simp only [executed?, running, ran, hword, Option.bind_some, Word.decode_word]

/-- A cycle that carried out an instruction has had its effect. -/
lemma exists_effect_of_executed? {instruction : Instruction} (wf : console.WellFormed)
    (h : console.executed? setup .cycle = some instruction) :
    ∃ left, console.machine.activity = .running ∧ console.machine.PointsAt instruction.word ∧
      Effect setup console instruction instruction.flow left ∧
      console.act setup .cycle = finish instruction.flow left := by
  have hcycle := cycle_step setup wf
  rw [act]
  generalize hstep : console.step setup = outcome at hcycle ⊢
  cases hcycle with
  | idle register waiting silent =>
      simp only [executed?, waiting] at h
      cases h
  | answered register digit waiting typed =>
      simp only [executed?, waiting] at h
      cases h
  | refused fault running met =>
      simp only [executed?, running, hstep] at h
      cases h
  | executed other trace left running fetched sound effect =>
      rw [executed?_of_ran running fetched hstep] at h
      cases h
      exact ⟨left, running, fetched, effect, rfl⟩

/-- An instruction that was carried out has moved the stack. -/
lemma stackMove_executed {instruction : Instruction}
    (fetched : console.machine.PointsAt instruction.word)
    (effect : Effect setup console instruction instruction.flow left) :
    StackMove console (finish instruction.flow left) (some instruction) := by
  by_cases hcall : ∃ target, instruction = .call target
  · obtain ⟨target, rfl⟩ := hcall
    obtain ⟨hroom, hstack, hdepth⟩ := effect.called target rfl
    exact .called target hroom fetched.pc_le hstack hdepth
  · simp only [not_exists] at hcall
    by_cases hret : instruction = .ret
    · subst hret
      obtain ⟨hpos, hle, hstack, hdepth⟩ := effect.returned rfl
      have htop : (finish Instruction.ret.flow left).machine.depth < stackSize := by
        simp only [finish, Machine.countDown, hdepth]
        omega
      refine .returned htop hstack ?_ ?_
      · simp only [finish, Machine.countDown, hdepth]
        omega
      · have hpc : left.machine.pc = console.machine.stack[left.machine.depth] := by
          rw [effect.pc_eq, pcAfter_ret (by omega)]
          simp only [hdepth]
        exact congrArg (fun pc => (pc + 2) % 65536) hpc
    · obtain ⟨hstack, hdepth⟩ := effect.stacked hcall hret
      exact .kept _ (fun target heq => hcall target (Option.some.inj heq))
        (fun heq => hret (Option.some.inj heq)) hstack hdepth

/-- **Every action but a reset moves the stack in one of the three ways.** -/
theorem stackMove_act (setup : Setup) (wf : console.WellFormed) (hreset : action ≠ .reset) :
    StackMove console (console.act setup action) (console.executed? setup action) := by
  cases action with
  | cycle =>
      have hcycle := cycle_step setup wf
      simp only [act]
      generalize hstep : console.step setup = outcome at hcycle ⊢
      cases hcycle with
      | idle register waiting silent =>
          simp only [executed?, waiting]
          exact .untouched rfl rfl
      | answered register digit waiting typed =>
          simp only [executed?, waiting]
          exact .untouched rfl rfl
      | refused fault running met =>
          simp only [executed?, running, hstep]
          exact .untouched rfl rfl
      | executed instruction trace left running fetched sound effect =>
          rw [executed?_of_ran running fetched hstep]
          exact stackMove_executed fetched effect
  | reset => exact absurd rfl hreset
  | load program =>
      obtain ⟨memory, hload⟩ := load_getD console.machine program
      simp only [act, hload]
      exact .untouched rfl rfl
  | skip => exact .untouched rfl rfl
  | press key => exact .untouched rfl rfl
  | release key => exact .untouched rfl rfl
  | clearKeys => exact .untouched rfl rfl
  | takeTyped => exact .untouched rfl rfl

end Console

/-! ## Outstanding calls -/

/-- **The call that was made at `called` is still outstanding:** its place is where it was put, and
nothing below that was touched. -/
structure Machine.Holds (machine called : Machine) : Prop where
  deeper : called.depth < machine.depth
  placed : ∃ h : called.depth < stackSize, (machine.stack[called.depth] : Int) = called.pc
  below : ∀ position : Fin stackSize, position < called.depth →
    machine.stack[position] = called.stack[position]

/-- What is held stays held while the stack is left alone and deep enough. -/
lemma Machine.Holds.of_stack_eq {machine called next : Machine} (holds : machine.Holds called)
    (hstack : next.stack = machine.stack) (hdeeper : called.depth < next.depth) :
    next.Holds called where
  deeper := hdeeper
  placed := by simpa only [hstack] using holds.placed
  below := by simpa only [hstack] using holds.below

namespace Console

variable {setup : Setup} {console : Console} {called : Machine} {action : Action}
  {actions : List Action}

/-- A call is outstanding once it is made. -/
lemma holds_of_call {target : Address} (wf : console.WellFormed)
    (call : console.executed? setup .cycle = some (.call target)) :
    (console.act setup .cycle).machine.Holds console.machine := by
  have hcycle : Action.cycle ≠ .reset := by decide
  have hmove := stackMove_act setup wf hcycle
  rw [call] at hmove
  cases hmove with
  | called _ room fetched stack_eq depth_eq =>
      refine { deeper := by omega, placed := ⟨room, ?_⟩, below := fun position hlt => ?_ }
      · simp only [stack_eq, Vector.getElem_set_self]
        omega
      · simp only [stack_eq, Fin.getElem_fin, Vector.getElem_set]
        exact if_neg (by omega)
  | kept _ hcall hret stack_eq depth_eq => exact absurd rfl (hcall target)

/-- **An outstanding call stays outstanding until its own return,** which goes on behind it. -/
theorem holds_act (wf : console.WellFormed) (holds : console.machine.Holds called)
    (hreset : action ≠ .reset) :
    (console.act setup action).machine.Holds called ∨
      console.executed? setup action = some .ret ∧
        (console.act setup action).machine.depth = called.depth ∧
        (console.act setup action).machine.pc = called.pc + 2 := by
  have hdeeper := holds.deeper
  obtain ⟨hroom, hplaced⟩ := holds.placed
  have hmove := stackMove_act setup wf hreset
  generalize console.executed? setup action = executed at hmove ⊢
  cases hmove with
  | called target room fetched stack_eq depth_eq =>
      -- the new place lies above the one that is held
      refine Or.inl { deeper := by omega, placed := ⟨hroom, ?_⟩, below := fun position hlt => ?_ }
      · simp only [stack_eq, Vector.getElem_set, if_neg (Nat.ne_of_gt hdeeper), hplaced]
      · simp only [stack_eq, Fin.getElem_fin, Vector.getElem_set]
        rw [if_neg (by omega)]
        exact holds.below position hlt
  | returned top stack_eq depth_eq pc_eq =>
      by_cases hown : (console.act setup action).machine.depth = called.depth
      · refine Or.inr ⟨rfl, hown, ?_⟩
        have hentry := wf.machine.calls_le ⟨called.depth, hroom⟩ hdeeper
        simp only [Fin.getElem_fin] at hentry
        simp only [hown, hplaced] at pc_eq
        omega
      · exact Or.inl (holds.of_stack_eq stack_eq (by omega))
  | kept _ hcall hret stack_eq depth_eq =>
      exact Or.inl (holds.of_stack_eq stack_eq (by omega))

/-- **A call is outstanding as long as the stack is deeper than where it was made.** -/
theorem holds_acts (wf : console.WellFormed) (holds : console.machine.Holds called)
    (hreset : .reset ∉ actions)
    (deeper : ∀ first, first <+: actions →
      called.depth < (console.acts setup first).machine.depth) :
    (console.acts setup actions).machine.Holds called := by
  induction actions generalizing console with
  | nil => exact holds
  | cons action rest ih =>
      have hne : action ≠ .reset := fun heq => hreset (heq ▸ List.mem_cons_self)
      rcases holds_act wf holds hne with hnext | ⟨-, hdepth, -⟩
      · refine ih (wf.act action) hnext (fun hmem => hreset (List.mem_cons_of_mem _ hmem)) ?_
        exact fun first hfirst => deeper (action :: first) (List.cons_prefix_cons.mpr ⟨rfl, hfirst⟩)
      · have hlt := deeper [action] ⟨rest, rfl⟩
        simp only [acts_cons, acts_nil] at hlt
        omega

/-! ## The depth of the stack -/

/-- One action, counted in calls and returns. -/
lemma depth_act (setup : Setup) (wf : console.WellFormed) (hreset : action ≠ .reset) :
    (console.act setup action).machine.depth +
        (console.executed? setup action).toList.count .ret =
      console.machine.depth +
        (console.executed? setup action).toList.countP Instruction.isCall := by
  have hmove := stackMove_act setup wf hreset
  generalize console.executed? setup action = executed at hmove ⊢
  cases hmove with
  | called target room fetched stack_eq depth_eq =>
      simp [depth_eq, Instruction.isCall]
  | returned top stack_eq depth_eq pc_eq =>
      simp [← depth_eq, Instruction.isCall]
  | kept _ hcall hret stack_eq depth_eq =>
      cases executed with
      | none => simp [depth_eq]
      | some instruction =>
          have hother : instruction.isCall = false := by
            cases instruction
            case call target => exact absurd rfl (hcall target)
            all_goals rfl
          have hne : instruction ≠ .ret := fun heq => hret (congrArg some heq)
          simp [depth_eq, hother, hne]

/-- **Without a reset the stack grows by the calls and shrinks by the returns.** -/
theorem depth_add_returns (wf : console.WellFormed) (hreset : .reset ∉ actions) :
    (console.acts setup actions).machine.depth +
        (executions setup console actions).count .ret =
      console.machine.depth + (executions setup console actions).countP Instruction.isCall := by
  induction actions generalizing console with
  | nil => rfl
  | cons action rest ih =>
      have hne : action ≠ .reset := fun heq => hreset (heq ▸ List.mem_cons_self)
      have hfirst := depth_act setup wf hne
      have hnext : (console.act setup action).WellFormed := wf.act action
      have hrest := ih hnext fun hmem => hreset (List.mem_cons_of_mem _ hmem)
      simp only [acts_cons, executions, List.count_append, List.countP_append]
      omega

/-! ## The two faults of the stack -/

/-- The stack is full just for a call with every place taken. -/
lemma stackFull_iff (wf : console.WellFormed) :
    (∃ fault left, console.step setup = .faulted fault left ∧ fault.kind = .stackFull) ↔
      console.machine.activity = .running ∧
        (∃ target, console.machine.PointsAt (Instruction.call target).word) ∧
        console.machine.depth = stackSize := by
  rw [faulted_kind_iff wf]
  refine and_congr_right fun running => ?_
  constructor
  · rintro ⟨fault, refuses, hkind⟩
    cases refuses with
    | fullStack target pointed full => exact ⟨⟨target, pointed⟩, full⟩
    | _ => cases hkind
  · rintro ⟨⟨target, pointed⟩, full⟩
    exact ⟨_, .fullStack target pointed full, rfl⟩

/-- A return is illegal just with no call outstanding. -/
lemma illegalReturn_iff (wf : console.WellFormed) :
    (∃ fault left, console.step setup = .faulted fault left ∧ fault.kind = .illegalReturn) ↔
      console.machine.activity = .running ∧
        console.machine.PointsAt Instruction.ret.word ∧ console.machine.depth = 0 := by
  rw [faulted_kind_iff wf]
  refine and_congr_right fun running => ?_
  constructor
  · rintro ⟨fault, refuses, hkind⟩
    cases refuses with
    | noCall pointed empty => exact ⟨pointed, empty⟩
    | _ => cases hkind
  · rintro ⟨pointed, empty⟩
    exact ⟨_, .noCall pointed empty, rfl⟩

/-! ## Whole runs -/

/-- Power-on and every reset leave the stack empty. -/
lemma depth_of_fresh {before : List Action}
    (fresh : before = [] ∨ ∃ earlier, before = earlier ++ [.reset]) :
    (({} : Console).acts setup before).machine.depth = 0 := by
  rcases fresh with rfl | ⟨earlier, rfl⟩
  · simp only [acts_nil, Machine.powerOn]
  · simp only [acts_append, acts_cons, acts_nil, act, Machine.powerOn]

/-- **Calls and returns match,** under any setup.

* A call that a reachable console carries out stays outstanding, with its place and all places below
  it on the stack, through any actions without a reset during which the stack is deeper than before
  the call.  The action that ends this is a cycle that carries out a return, and the machine goes on
  behind the call.
* The depth of the stack is the number of calls less the number of returns that were carried out
  since power-on or the last reset.
* So the stack is full just for a call with 96 of them outstanding, and a return is illegal just
  with none outstanding. -/
theorem call_discipline (setup : Setup) :
    (∀ console target, Reachable setup console →
      console.executed? setup .cycle = some (.call target) →
      ∀ actions, .reset ∉ actions →
        (∀ first, first <+: actions → console.machine.depth <
          ((console.act setup .cycle).acts setup first).machine.depth) →
        let now := (console.act setup .cycle).acts setup actions
        now.machine.Holds console.machine ∧
          ∀ action, action ≠ .reset →
            (now.act setup action).machine.depth ≤ console.machine.depth →
            action = .cycle ∧ now.executed? setup .cycle = some .ret ∧
              (now.act setup action).machine.depth = console.machine.depth ∧
              (now.act setup action).machine.pc = console.machine.pc + 2) ∧
    ∀ before after, (before = [] ∨ ∃ earlier, before = earlier ++ [.reset]) → .reset ∉ after →
      let fresh := ({} : Console).acts setup before
      let now := fresh.acts setup after
      let calls := (executions setup fresh after).countP Instruction.isCall
      let returns := (executions setup fresh after).count .ret
      now.machine.depth + returns = calls ∧
        ((∃ fault left, now.step setup = .faulted fault left ∧ fault.kind = .stackFull) ↔
          now.machine.activity = .running ∧
            (∃ target, now.machine.PointsAt (Instruction.call target).word) ∧
            calls = returns + 96) ∧
        ((∃ fault left, now.step setup = .faulted fault left ∧ fault.kind = .illegalReturn) ↔
          now.machine.activity = .running ∧ now.machine.PointsAt Instruction.ret.word ∧
            calls = returns) := by
  refine ⟨?_, ?_⟩
  · intro console target reach call actions hreset deeper now
    have wf : (console.act setup .cycle).WellFormed := reach.wellFormed.act .cycle
    have holds : now.machine.Holds console.machine :=
      holds_acts wf (holds_of_call reach.wellFormed call) hreset deeper
    refine ⟨holds, fun action hne hback => ?_⟩
    have hnow : now.WellFormed := wf.acts actions
    rcases holds_act hnow holds hne with hstill | ⟨hexecuted, hdepth, hpc⟩
    · exact absurd hstill.deeper (Nat.not_lt.mpr hback)
    · obtain rfl := eq_cycle_of_executed? hexecuted
      exact ⟨rfl, hexecuted, hdepth, hpc⟩
  · intro before after hfresh hreset fresh now calls returns
    have wf : fresh.WellFormed := wellFormed_powerOn.acts before
    have hnow : now.WellFormed := wf.acts after
    have hzero : fresh.machine.depth = 0 := depth_of_fresh hfresh
    have hdepth : now.machine.depth + returns = calls := by
      rw [depth_add_returns wf hreset, hzero, Nat.zero_add]
    have hfull : now.machine.depth = stackSize ↔ calls = returns + 96 := by
      simp only [stackSize]
      omega
    have hempty : now.machine.depth = 0 ↔ calls = returns := by omega
    refine ⟨hdepth, ?_, ?_⟩
    · rw [stackFull_iff hnow, hfull]
    · rw [illegalReturn_iff hnow, hempty]

/-- A call at `0x200` to a routine that makes a call of its own.  Its return goes on at `0x202`,
where the next return has no call left. -/
theorem call_discipline_nested :
    let load : Action := .load [0x22, 0x04, 0x00, 0xEE, 0x22, 0x02, 0x00, 0xEE]
    let console := ({} : Console).acts {} [load]
    let inner := (console.act {} .cycle).acts {} [.cycle, .press 3, .cycle]
    let outer := ({} : Console).acts {} [load, .cycle, .cycle, .press 3, .cycle, .cycle]
    inner.machine.Holds console.machine ∧ inner.executed? {} .cycle = some .ret ∧
      outer = inner.act {} .cycle ∧ outer.machine.depth = 0 ∧ outer.machine.pc = 0x202 ∧
      ∃ fault left, outer.step {} = .faulted fault left ∧ fault.kind = .illegalReturn := by
  intro load console inner outer
  obtain ⟨hcalls, hcounts⟩ := call_discipline {}
  obtain ⟨call, hstart, hdeep, hback, hrunning, hplace, hcount⟩ :
      console.executed? {} .cycle = some (.call 0x204) ∧ console.machine.pc = 0x200 ∧
        (∀ count < 4, console.machine.depth < ((console.act {} .cycle).acts {}
          ([.cycle, .press 3, .cycle].take count)).machine.depth) ∧
        outer.machine.depth = 0 ∧ outer.machine.activity = .running ∧
        Instruction.ret.word.toNat =
          outer.machine.memory[0x202].toNat * 256 + outer.machine.memory[0x202 + 1].toNat ∧
        (executions {} {} [load, .cycle, .cycle, .press 3, .cycle, .cycle]).countP
          Instruction.isCall =
        (executions {} {} [load, .cycle, .cycle, .press 3, .cycle, .cycle]).count .ret := by
    decide +kernel
  have hsame : outer = inner.act {} .cycle := by
    simp only [outer, inner, console, acts_cons, acts_nil]
  have deeper : ∀ first, first <+: [.cycle, .press 3, .cycle] →
      console.machine.depth < ((console.act {} .cycle).acts {} first).machine.depth := by
    intro first hfirst
    rw [List.prefix_iff_eq_take.mp hfirst]
    exact hdeep _ (Nat.lt_succ_of_le hfirst.length_le)
  have hheld := hcalls console _ (reachable_iff.mpr ⟨_, rfl⟩) call _ (by decide) deeper
  obtain ⟨-, hexecuted, hdepth, hpc⟩ := hheld.2 .cycle (by decide)
    (by rw [← hsame, hback]; exact Nat.zero_le _)
  rw [← hsame, hstart] at hpc
  have hlast := (hcounts [] [load, .cycle, .cycle, .press 3, .cycle, .cycle] (Or.inl rfl)
    (by simp [load])).2.2
  refine ⟨hheld.1, hexecuted, hsame, hback, hpc, hlast.mpr ⟨hrunning, ?_, hcount⟩⟩
  exact ⟨0x202, by decide, hpc, hplace⟩

end Console

end ChipEight
