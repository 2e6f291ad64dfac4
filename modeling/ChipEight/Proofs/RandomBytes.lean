import ChipEight.Proofs.Footprint

/-!
# Random bytes

A machine is handed random bytes in order, and takes them one at a time.  Which byte comes next is
decided by how many were taken, and that is how many instructions were carried out that take one.

* `Console.draws_act`, `Console.draws_acts` — how many bytes were taken after one action, and after
  any actions.
* `Console.register_of_random` — what becomes of a byte that was taken.
* `Console.taken` — the bytes taken from power-on, counted in instructions.
* **`Session.random_bytes_in_order`** — the bytes of a whole run.
-/

namespace ChipEight

namespace Console

variable {setup : Setup} {console : Console} {action : Action} {actions : List Action}

/-- **An action takes a random byte just if it carries out an instruction that does.** -/
theorem draws_act (setup : Setup) (wf : console.WellFormed) (action : Action) :
    (console.act setup action).draws =
      console.draws + (console.executed? setup action).toList.countP Instruction.isRandom := by
  cases action with
  | cycle =>
      cases hexecuted : console.executed? setup .cycle with
      | some instruction =>
          rcases exists_execute_of_executed? wf.machine.pc_nonneg hexecuted with
            ⟨trace, before, hran, hact⟩
          have hdraws := congrArg Console.draws (left_execute setup console instruction)
          rw [hran] at hdraws
          rw [hact, Option.toList_some, List.countP_singleton]
          exact hdraws
      | none =>
          have hcycle := cycle_step setup wf
          simp only [act]
          generalize hstep : console.step setup = outcome at hcycle ⊢
          cases hcycle with
          | executed instruction trace left running fetched sound effect =>
              rw [executed?_of_ran running fetched hstep] at hexecuted
              cases hexecuted
          -- in a wait and where it is refused, a cycle takes nothing
          | _ => rfl
  | _ => rfl

/-- **As many random bytes are taken as instructions are carried out that take one.** -/
theorem draws_acts (setup : Setup) (wf : console.WellFormed) (actions : List Action) :
    (console.acts setup actions).draws =
      console.draws + (executions setup console actions).countP Instruction.isRandom := by
  induction actions generalizing console with
  | nil => rfl
  | cons action rest ih =>
      have hfirst := draws_act setup wf action
      have hnext : (console.act setup action).WellFormed := wf.act action
      have hrest := ih hnext
      simp only [acts_cons, executions, List.countP_append]
      omega

/-- **The next random byte goes to Vx,** as far as the mask lets it. -/
lemma register_of_random {x : Register} {mask : UInt8} (hpc : 0 ≤ console.machine.pc)
    (h : console.executed? setup .cycle = some (.random x mask)) :
    (console.act setup .cycle).machine.register x = setup.random console.draws &&& mask := by
  rcases exists_execute_of_executed? hpc h with ⟨trace, before, hran, hact⟩
  cases hran
  rw [hact, register_finish, Machine.register_setRegister_self]

/-- How many random bytes actions take from power-on: one for each instruction that they carry out
and that takes one. -/
def taken (setup : Setup) (actions : List Action) : Nat :=
  (executions setup {} actions).countP Instruction.isRandom

/-- They are all that is taken. -/
lemma draws_powerOn_acts (setup : Setup) (actions : List Action) :
    (({} : Console).acts setup actions).draws = taken setup actions := by
  rw [draws_acts setup wellFormed_powerOn, taken, Nat.zero_add]

end Console

namespace Session

variable {journal : Journal} {pacer : Option Pacer} {audience : Audience}

/-- **Random bytes are taken in order, one for each instruction that takes one.**  Let a host do
anything orderly with a machine that was just switched on.

* An instruction that takes a byte and is carried out stores the byte whose number is how many such
  instructions were carried out before it, resets or not and whatever their masks.
* Nothing else takes a byte: no other instruction, and no cycle that is refused or finds nothing
  typed, and neither a skip nor a reset nor a program nor a key. -/
theorem random_bytes_in_order (setup : Setup) {operations : List Operation}
    (orderly : ∀ operation ∈ operations, operation.IsOrderly) :
    let session : Session := { setup, journal, pacer, audience }
    let actions := allActions operations session
    (performAll operations session).2.console.draws = Console.taken setup actions ∧
      ∀ first action last, actions = first ++ action :: last →
        let here := ({} : Console).acts setup first
        let next := here.act setup action
        here.draws = Console.taken setup first ∧
          (∀ x mask, here.executed? setup action = some (.random x mask) →
            next.machine.register x = setup.random (Console.taken setup first) &&& mask ∧
              next.draws = Console.taken setup first + 1) ∧
          ((∀ x mask, here.executed? setup action ≠ some (.random x mask)) →
            next.draws = Console.taken setup first) := by
  intro session actions
  have hfinal : (performAll operations session).2.console = ({} : Console).acts setup actions :=
    performAll_console orderly session
  refine ⟨by rw [hfinal, Console.draws_powerOn_acts], ?_⟩
  intro first action last _ here next
  have hhere : here.WellFormed := Console.wellFormed_powerOn.acts first
  have hdraws : here.draws = Console.taken setup first := Console.draws_powerOn_acts setup first
  have hnext : next.draws = _ := Console.draws_act setup hhere action
  rw [hdraws] at hnext
  refine ⟨hdraws, fun x mask h => ?_, fun hother => ?_⟩
  · obtain rfl := Console.eq_cycle_of_executed? h
    rw [h] at hnext
    refine ⟨?_, hnext⟩
    rw [← hdraws]
    exact Console.register_of_random hhere.machine.pc_nonneg h
  · rw [hnext]
    generalize here.executed? setup action = executed at hother
    cases executed with
    | none => rfl
    | some instruction =>
        cases instruction
        case random x mask => exact absurd rfl (hother x mask)
        all_goals rfl

/-- Two bytes are taken, the second one to no purpose, then a return from nowhere is refused.  After
a reset and with another program the third byte is next. -/
theorem random_bytes_in_order_across_reset :
    let setup : Setup := { random := fun n => UInt8.ofNat (17 * n + 3) }
    let before : List Operation :=
      [.load [0xC0, 0xFF, 0xC1, 0x00, 0x00, 0xEE], .step, .step, .step, .reset, .load [0xC2, 0x0F]]
    let first : List Action :=
      [.load [0xC0, 0xFF, 0xC1, 0x00, 0x00, 0xEE], .cycle, .cycle, .cycle, .reset,
        .load [0xC2, 0x0F]]
    let here := ({} : Console).acts setup first
    let next := here.act setup .cycle
    (performAll (before ++ [.step]) { setup }).2.console.draws = 3 ∧
      here.draws = 2 ∧ next.machine.register 2 = setup.random 2 &&& 0x0F ∧
      next.machine.register 2 = 5 := by
  intro setup before first here next
  obtain ⟨htaken, hall, hexecuted, hfive⟩ :
      Console.taken setup first = 2 ∧ Console.taken setup (first ++ [.cycle]) = 3 ∧
        here.executed? setup .cycle = some (.random 2 0x0F) ∧ next.machine.register 2 = 5 := by
    decide +kernel
  have orderly : ∀ operation ∈ before ++ [.step], operation.IsOrderly := by
    simp [before, Operation.IsOrderly]
  obtain ⟨hdraws, hbytes⟩ := @random_bytes_in_order {} none {} setup (before ++ [.step]) orderly
  obtain ⟨hhere, hrandom, -⟩ := hbytes first .cycle [] rfl
  have hstored := (hrandom 2 0x0F hexecuted).1
  rw [htaken] at hhere hstored
  exact ⟨hdraws.trans hall, hhere, hstored, hfive⟩

end Session

end ChipEight
