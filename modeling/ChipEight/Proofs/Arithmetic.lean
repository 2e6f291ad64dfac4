import ChipEight.Proofs.Footprint

/-!
# Arithmetic on registers

Nine instructions calculate with registers.  The two operands, the result and the flag may share
registers in any way: both operands are read before anything is written, and the flag is written
last.  What they leave is told here by equations between numbers, in which a result and its flag
stand together for what one byte cannot hold.

* `Instruction.isCalculation` — the nine instructions.
* `Flagged`, `Combined` — what becomes of the register file around a result.
* `Instruction.Calculates` — the equation of each instruction.
* **`Console.calculates_of_cycle`** — every cycle of one of them obeys its equation.
-/

namespace ChipEight

/-- Whether an instruction calculates with registers. -/
def Instruction.isCalculation : Instruction → Bool
  | .addByte _ _ | .or _ _ | .and _ _ | .xor _ _ | .add _ _ | .sub _ _ | .subFrom _ _
  | .shiftRight _ _ | .shiftLeft _ _ => true
  | _ => false

/-! ## Register files

`v` is what the registers hold before an instruction and `w` what they hold after it.
-/

section

variable (dialect : Dialect) (v w : Register → UInt8)

/-- **A result went to Vx and a flag to VF.**  If that is one register, it holds the flag. -/
structure Flagged (x : Register) (result flag : Nat) : Prop where
  result_le : result ≤ 255
  flag_le : flag ≤ 1
  result_eq : x ≠ Register.flag → (w x).toNat = result
  flag_eq : (w Register.flag).toNat = flag
  other_eq : ∀ other, other ≠ x → other ≠ Register.flag → w other = v other

/-- **A result went to Vx,** and then VF was cleared if the dialect says so. -/
structure Combined (x : Register) (result : Nat) : Prop where
  result_eq : (x = Register.flag → dialect.logicClearsFlag = false) → (w x).toNat = result
  flag_eq : dialect.logicClearsFlag = true → w Register.flag = 0
  other_eq : ∀ other, other ≠ x → (other = Register.flag → dialect.logicClearsFlag = false) →
    w other = v other

/-- The operand of a shift. -/
def Dialect.shifted (x y : Register) : Nat :=
  if dialect.shiftsFromY then (v y).toNat else (v x).toNat

/-- **What each of the nine instructions calculates,** in numbers without bounds. -/
inductive Instruction.Calculates : Instruction → Prop
  | add {x y : Register} {result flag : Nat} (flagged : Flagged v w x result flag)
      (sum : result + 256 * flag = (v x).toNat + (v y).toNat) :
      Calculates (.add x y)
  | sub {x y : Register} {result flag : Nat} (flagged : Flagged v w x result flag)
      (difference : (result : Int) = (v x).toNat - (v y).toNat + 256 * (1 - flag))
      (unborrowed : flag = 1 ↔ (v y).toNat ≤ (v x).toNat) :
      Calculates (.sub x y)
  | subFrom {x y : Register} {result flag : Nat} (flagged : Flagged v w x result flag)
      (difference : (result : Int) = (v y).toNat - (v x).toNat + 256 * (1 - flag))
      (unborrowed : flag = 1 ↔ (v x).toNat ≤ (v y).toNat) :
      Calculates (.subFrom x y)
  | shiftRight {x y : Register} {result flag : Nat} (flagged : Flagged v w x result flag)
      (halved : 2 * result + flag = dialect.shifted v x y) :
      Calculates (.shiftRight x y)
  | shiftLeft {x y : Register} {result flag : Nat} (flagged : Flagged v w x result flag)
      (doubled : result + 256 * flag = 2 * dialect.shifted v x y) :
      Calculates (.shiftLeft x y)
  | or {x y : Register} (combined : Combined dialect v w x ((v x).toNat ||| (v y).toNat)) :
      Calculates (.or x y)
  | and {x y : Register} (combined : Combined dialect v w x ((v x).toNat &&& (v y).toNat)) :
      Calculates (.and x y)
  | xor {x y : Register} (combined : Combined dialect v w x ((v x).toNat ^^^ (v y).toNat)) :
      Calculates (.xor x y)
  | addByte {x : Register} {byte : UInt8} (sum : (w x).toNat = ((v x).toNat + byte.toNat) % 256)
      (other_eq : ∀ other, other ≠ x → w other = v other) :
      Calculates (.addByte x byte)

end

/-! ## Bytes as numbers -/

/-- A flag is one or zero. -/
lemma toNat_flag_le (condition : Prop) [Decidable condition] :
    (if condition then 1 else 0 : UInt8).toNat ≤ 1 := by
  split <;> decide

/-- The carry of a sum makes up for what is lost in a byte. -/
lemma toNat_add_carry (a b : UInt8) :
    (a + b).toNat + 256 * (if 256 ≤ a.toNat + b.toNat then 1 else 0 : UInt8).toNat =
      a.toNat + b.toNat := by
  have ha := a.toNat_lt
  have hb := b.toNat_lt
  rw [UInt8.toNat_add]
  split
  · simp only [UInt8.toNat_one]
    omega
  · simp only [UInt8.toNat_zero]
    omega

/-- What is borrowed for a difference is what a byte holds too much. -/
lemma toNat_sub_borrow (a b : UInt8) :
    ((a - b).toNat : Int) =
      a.toNat - b.toNat + 256 * (1 - ((if b ≤ a then 1 else 0 : UInt8).toNat : Int)) := by
  have ha := a.toNat_lt
  have hb := b.toNat_lt
  simp only [UInt8.toNat_sub, UInt8.le_iff_toNat_le, Nat.reducePow]
  split
  · simp only [UInt8.toNat_one]
    omega
  · simp only [UInt8.toNat_zero]
    omega

/-- Nothing is borrowed if there is enough. -/
lemma toNat_borrow_eq_one_iff (a b : UInt8) :
    (if b ≤ a then 1 else 0 : UInt8).toNat = 1 ↔ b.toNat ≤ a.toNat := by
  rw [← UInt8.le_iff_toNat_le]
  split <;> simp [*]

/-- A byte is twice its half and the bit that falls out at the right. -/
lemma toNat_shiftRight_one (a : UInt8) : 2 * (a >>> 1).toNat + (a &&& 1).toNat = a.toNat := by
  rw [UInt8.toNat_shiftRight, UInt8.toNat_and]
  simp only [UInt8.toNat_one, Nat.one_mod, Nat.and_one_is_mod, Nat.shiftRight_eq_div_pow]
  omega

lemma toNat_and_one_le (a : UInt8) : (a &&& 1).toNat ≤ 1 := by
  rw [UInt8.toNat_and, UInt8.toNat_one]
  exact Nat.and_le_right

/-- Twice a byte is what is left of it and the bit that falls out at the left. -/
lemma toNat_shiftLeft_one (a : UInt8) : (a <<< 1).toNat + 256 * (a >>> 7).toNat = 2 * a.toNat := by
  have ha := a.toNat_lt
  rw [UInt8.toNat_shiftLeft, UInt8.toNat_shiftRight]
  simp only [Nat.shiftLeft_eq, Nat.shiftRight_eq_div_pow, UInt8.reduceToNat, Nat.reduceMod,
    Nat.reducePow]
  omega

lemma toNat_shiftRight_seven_le (a : UInt8) : (a >>> 7).toNat ≤ 1 := by
  have hdouble := toNat_shiftLeft_one a
  have ha := a.toNat_lt
  omega

/-! ## Results put into registers -/

namespace Machine

variable {machine : Machine} {x : Register}

/-- A result, and the flag after it. -/
lemma flagged_setRegister (result : UInt8) {flag : UInt8} (hflag : flag.toNat ≤ 1) :
    Flagged machine.register
      ((machine.setRegister x result).setRegister Register.flag flag).register x
      result.toNat flag.toNat where
  result_le := Nat.le_of_lt_succ result.toNat_lt
  flag_le := hflag
  result_eq := by
    intro h
    rw [register_setRegister_of_ne _ _ h, register_setRegister_self]
  flag_eq := by rw [register_setRegister_self]
  other_eq := by
    intro other hx hother
    rw [register_setRegister_of_ne _ _ hother, register_setRegister_of_ne _ _ hx]

end Machine

namespace Console

variable {setup : Setup} {console : Console} {instruction : Instruction}

/-- A result, and VF cleared or left alone after it. -/
lemma combined_putLogic (setup : Setup) (console : Console) (x : Register) (result : UInt8) :
    ∃ left, console.putLogic setup x result = .ran .next none left ∧
      Combined setup.dialect console.machine.register left.machine.register x result.toNat := by
  cases hclears : setup.dialect.logicClearsFlag with
  | true =>
      refine ⟨_, by rw [putLogic, hclears]; rfl, ⟨?_, ?_, ?_⟩⟩
      · intro hkept
        have hne : x ≠ Register.flag := fun h => Bool.noConfusion (hclears.symm.trans (hkept h))
        rw [Machine.register_setRegister_of_ne _ _ hne, Machine.register_setRegister_self]
      · intro _
        exact Machine.register_setRegister_self _ _ _
      · intro other hx hother
        have hne : other ≠ Register.flag := fun h =>
          Bool.noConfusion (hclears.symm.trans (hother h))
        rw [Machine.register_setRegister_of_ne _ _ hne, Machine.register_setRegister_of_ne _ _ hx]
  | false =>
      refine ⟨_, by rw [putLogic, hclears]; rfl, ⟨?_, ?_, ?_⟩⟩
      · intro _
        rw [Machine.register_setRegister_self]
      · intro h
        cases hclears.symm.trans h
      · intro other hx _
        exact Machine.register_setRegister_of_ne _ _ hx

/-- A shift works on the operand that the dialect says. -/
lemma toNat_shiftSource (setup : Setup) (console : Console) (x y : Register) :
    (console.shiftSource setup x y).toNat =
      setup.dialect.shifted console.machine.register x y := by
  rw [shiftSource, Dialect.shifted]
  split <;> rfl

/-- **Each of the nine is carried out, and calculates what it is to.** -/
theorem execute_calculation (setup : Setup) (console : Console)
    (calculation : instruction.isCalculation = true) :
    ∃ trace left, console.execute setup instruction = .ran .next trace left ∧
      instruction.Calculates setup.dialect console.machine.register left.machine.register := by
  cases instruction
  case add x y =>
    exact ⟨_, _, rfl, .add (Machine.flagged_setRegister _ (toNat_flag_le _)) (toNat_add_carry _ _)⟩
  case sub x y =>
    exact ⟨_, _, rfl, .sub (Machine.flagged_setRegister _ (toNat_flag_le _))
      (toNat_sub_borrow _ _) (toNat_borrow_eq_one_iff _ _)⟩
  case subFrom x y =>
    exact ⟨_, _, rfl, .subFrom (Machine.flagged_setRegister _ (toNat_flag_le _))
      (toNat_sub_borrow _ _) (toNat_borrow_eq_one_iff _ _)⟩
  case shiftRight x y =>
    refine ⟨_, _, rfl, .shiftRight (Machine.flagged_setRegister _ (toNat_and_one_le _)) ?_⟩
    rw [toNat_shiftRight_one, toNat_shiftSource]
  case shiftLeft x y =>
    refine ⟨_, _, rfl, .shiftLeft (Machine.flagged_setRegister _ (toNat_shiftRight_seven_le _)) ?_⟩
    rw [toNat_shiftLeft_one, toNat_shiftSource]
  case or x y =>
    obtain ⟨left, hran, combined⟩ := combined_putLogic setup console x
      (console.machine.register x ||| console.machine.register y)
    rw [UInt8.toNat_or] at combined
    exact ⟨none, left, hran, .or combined⟩
  case and x y =>
    obtain ⟨left, hran, combined⟩ := combined_putLogic setup console x
      (console.machine.register x &&& console.machine.register y)
    rw [UInt8.toNat_and] at combined
    exact ⟨none, left, hran, .and combined⟩
  case xor x y =>
    obtain ⟨left, hran, combined⟩ := combined_putLogic setup console x
      (console.machine.register x ^^^ console.machine.register y)
    rw [UInt8.toNat_xor] at combined
    exact ⟨none, left, hran, .xor combined⟩
  case addByte x byte =>
    refine ⟨_, _, rfl, .addByte ?_ fun other hx => Machine.register_setRegister_of_ne _ _ hx⟩
    exact (congrArg UInt8.toNat (Machine.register_setRegister_self _ _ _)).trans
      (UInt8.toNat_add _ _)
  all_goals cases calculation

/-- **Every cycle of one of the nine calculates what it is to,** whichever registers it names: the
operands are those from before the cycle, and VF ends up as the flag. -/
theorem calculates_of_cycle (setup : Setup) (running : console.machine.activity = .running)
    (pointed : console.machine.PointsAt instruction.word)
    (calculation : instruction.isCalculation = true) :
    ∃ trace left, console.step setup = .ran .next trace left ∧
      instruction.Calculates setup.dialect console.machine.register left.machine.register := by
  obtain ⟨trace, before, hran, calculates⟩ := execute_calculation setup console calculation
  exact ⟨trace, _, step_of_execute_ran running pointed hran, calculates⟩

/-- VF is 200 and is added to itself.  The sum is 144 with a carry, and VF is left with the
latter. -/
theorem calculates_of_cycle_flag_twice :
    let console := ({} : Console).acts {} [.load [0x6F, 200, 0x8F, 0xF4], .cycle]
    ∃ trace left, console.step {} = .ran .next trace left ∧
      (Instruction.add 15 15).Calculates {} console.machine.register left.machine.register ∧
      left.machine.register Register.flag = 1 := by
  intro console
  obtain ⟨running, hpc, hword, hvalue⟩ :
      console.machine.activity = .running ∧ console.machine.pc = 0x202 ∧
        (Instruction.add 15 15).word.toNat = console.machine.memory[0x202].toNat * 256 +
          console.machine.memory[0x202 + 1].toNat ∧
        (console.machine.register 15).toNat = 200 := by
    decide +kernel
  have pointed : console.machine.PointsAt (Instruction.add 15 15).word :=
    ⟨0x202, by decide, hpc, hword⟩
  rcases calculates_of_cycle {} running pointed rfl with
    ⟨trace, left, hstep, calculates⟩
  refine ⟨trace, left, hstep, calculates, ?_⟩
  obtain ⟨flagged, sum⟩ := calculates
  have hle := flagged.result_le
  have hflag := flagged.flag_eq
  rw [hvalue] at sum
  exact UInt8.toNat_inj.mp (by rw [hflag, UInt8.toNat_one]; omega)

end Console

end ChipEight
