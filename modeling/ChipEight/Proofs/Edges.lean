import ChipEight.Proofs.Drawing

/-!
# Sprites at the edges of the screen

A sprite that reaches beyond an edge is cut off there, or its pixels wrap around.  The two ways
differ in how many rows they read, in where they stop, and in when they are refused.  What they share
is the part of the sprite behind its anchor: there they draw the same, and a sprite that lies there
altogether is drawn alike by both.

* `Setup.withClips` — one setup in both ways.
* `Sprite.offset_eq`, `Machine.spriteBit_eq`, `Machine.spriteBit_eq_false` — the bits of a sprite on
  either side of its anchor.
* `Sprite.pixels_eq` — the pixels of a sprite that reaches no edge.
* `Console.Cropped` — one picture next to the other.
* **`Console.MeetsEdges`, `Console.meetsEdges_of_pointsAt`** — a cycle in both ways.
-/

namespace ChipEight

/-- The setup with sprites cut off at the edges, or wrapping around. -/
def Setup.withClips (setup : Setup) (clips : Bool) : Setup :=
  { setup with dialect := { setup.dialect with clipsSprites := clips } }

/-! ## Bits before and behind the anchor -/

/-- Behind the anchor it makes no difference whether one goes around the screen. -/
lemma Sprite.offset_eq {size anchor place : Nat} (hle : anchor ≤ place) (hplace : place < size) :
    offset true size anchor place = offset false size anchor place := by
  simp only [offset, if_true, Bool.false_eq_true, if_false]
  rw [Int.emod_eq_of_lt (by omega) (by omega)]

namespace Machine

variable {column row height c r : Nat}

/-- Behind its anchor a sprite has the same bits in both ways. -/
lemma spriteBit_eq (machine : Machine) (hcolumn : column ≤ c) (hrow : row ≤ r)
    (hc : c < Screen.width) (hr : r < Screen.height) :
    machine.spriteBit true column row height c r =
      machine.spriteBit false column row height c r := by
  simp only [spriteBit, Sprite.offset_eq hcolumn hc, Sprite.offset_eq hrow hr]

/-- Before its anchor a sprite that is cut off has none. -/
lemma spriteBit_eq_false (machine : Machine) (h : c < column ∨ r < row) :
    machine.spriteBit true column row height c r = false := by
  simp only [spriteBit, Sprite.offset, if_true, Bool.and_eq_false_iff, decide_eq_false_iff_not]
  left
  omega

end Machine

/-! ## Sprites that reach no edge -/

namespace Sprite

variable {column row : Nat}

/-- A row with room for eight pixels is drawn alike in both ways. -/
lemma rowPixels_eq (h : column ≤ 56) (byte : UInt8) :
    rowPixels true column row byte = rowPixels false column row byte := by
  apply List.filterMap_congr
  intro across hmem
  rw [List.mem_range] at hmem
  have hroom : column + across < Screen.width := by
    simp only [Screen.width]
    omega
  simp [hroom]

/-- So are all rows of a sprite. -/
lemma pixels_eq (h : column ≤ 56) (bytes : List UInt8) :
    pixels true column row bytes = pixels false column row bytes := by
  induction bytes generalizing row with
  | nil => rfl
  | cons first rest ih => rw [pixels, pixels, rowPixels_eq h, ih]

/-- A sprite that ends above the lower edge has all its rows drawn in both ways. -/
lemma visibleRows_eq {spriteHeight : Nat} (h : row + spriteHeight ≤ Screen.height) :
    visibleRows true row spriteHeight = visibleRows false row spriteHeight := by
  simp only [visibleRows, if_true, Bool.false_eq_true, if_false]
  omega

/-- No more rows are drawn of a sprite that is cut off. -/
lemma visibleRows_le (row spriteHeight : Nat) :
    visibleRows true row spriteHeight ≤ visibleRows false row spriteHeight := by
  simp only [visibleRows, if_true, Bool.false_eq_true, if_false]
  omega

end Sprite

namespace Console

variable {setup : Setup} {console : Console} {x y : Register} {height : Fin 16}

/-- A sprite is not refused if the rows of it that are drawn lie in memory. -/
lemma fault?_draw_eq_none_iff (dialect : Dialect) :
    (Instruction.draw x y height).fault? dialect console.machine = none ↔
      console.machine.index + Sprite.visibleRows dialect.clipsSprites (console.anchorRow y) height ≤
        memorySize := by
  simp only [Instruction.fault?, ite_eq_right_iff, reduceCtorEq, imp_false, Int.not_lt, anchorRow]

/-- One that wraps and is not refused is not refused when it is cut off. -/
lemma fault?_withClips_true
    (sound : (Instruction.draw x y height).fault? (setup.withClips false).dialect console.machine =
      none) :
    (Instruction.draw x y height).fault? (setup.withClips true).dialect console.machine = none := by
  have hle := Sprite.visibleRows_le (console.anchorRow y) height
  rw [fault?_draw_eq_none_iff] at sound ⊢
  simp only [Setup.withClips] at sound ⊢
  omega

/-- **A sprite that reaches no edge is drawn alike in both ways,** or refused alike. -/
lemma execute_withClips (hcolumn : console.anchorColumn x ≤ 56)
    (hrow : console.anchorRow y + height ≤ Screen.height) :
    console.execute (setup.withClips true) (.draw x y height) =
      console.execute (setup.withClips false) (.draw x y height) := by
  simp only [anchorColumn] at hcolumn
  simp only [anchorRow] at hrow
  simp only [execute, Setup.withClips, Sprite.visibleRows_eq hrow, Sprite.pixels_eq hcolumn]
  rfl

/-! ## A cycle in both ways -/

/-- **A picture with a sprite cut off,** next to the one in which it wraps. -/
structure Cropped (console : Console) (x y : Register) (wrapped clipped : Console) : Prop where
  behind : ∀ c < Screen.width, ∀ r < Screen.height,
    console.anchorColumn x ≤ c → console.anchorRow y ≤ r →
      clipped.machine.screen.isLit c r = wrapped.machine.screen.isLit c r
  before : ∀ c < Screen.width, ∀ r < Screen.height,
    c < console.anchorColumn x ∨ r < console.anchorRow y →
      clipped.machine.screen.isLit c r = console.machine.screen.isLit c r
  flag_le : clipped.machine.register Register.flag ≤ wrapped.machine.register Register.flag

/-- Two drawings of one sprite are one picture next to the other. -/
lemma cropped_of_draws {wrapped clipped : Console}
    (draws : Draws (setup.withClips false) console x y height wrapped)
    (draws' : Draws (setup.withClips true) console x y height clipped) :
    Cropped console x y wrapped clipped := by
  have behind : ∀ c < Screen.width, ∀ r < Screen.height,
      console.anchorColumn x ≤ c → console.anchorRow y ≤ r →
        clipped.machine.screen.isLit c r = wrapped.machine.screen.isLit c r := by
    intro c hc r hr hcolumn hrow
    rw [draws.pixel_eq c hc r hr, draws'.pixel_eq c hc r hr]
    exact congrArg _ (console.machine.spriteBit_eq hcolumn hrow hc hr)
  have before : ∀ c < Screen.width, ∀ r < Screen.height,
      c < console.anchorColumn x ∨ r < console.anchorRow y →
        clipped.machine.screen.isLit c r = console.machine.screen.isLit c r := by
    intro c hc r hr hside
    rw [draws'.pixel_eq c hc r hr]
    exact (congrArg _ (console.machine.spriteBit_eq_false hside)).trans (Bool.xor_false _)
  refine ⟨behind, before, ?_⟩
  by_cases hone : clipped.machine.register Register.flag = 1
  · -- a pixel that went off lies behind the anchor, so that it went off in both pictures
    obtain ⟨c, hc, r, hr, hlit, hoff⟩ := draws'.flag_eq_one_iff.mp hone
    have hbehind : console.anchorColumn x ≤ c ∧ console.anchorRow y ≤ r := by
      by_contra hside
      rw [before c hc r hr (by omega), hlit] at hoff
      cases hoff
    rw [behind c hc r hr hbehind.1 hbehind.2] at hoff
    rw [hone, draws.flag_eq_one_iff.mpr ⟨c, hc, r, hr, hlit, hoff⟩]
    exact UInt8.le_refl 1
  · rw [draws'.flag_eq_zero_iff.mpr hone]
    exact UInt8.zero_le

/-- **What becomes of one sprite in both ways.** -/
structure MeetsEdges (setup : Setup) (console : Console) (x y : Register)
    (height : Fin 16) : Prop where
  /-- If it can wrap, it can be cut off, and the two pictures agree behind the anchor. -/
  accepted : (∀ fault left, console.step (setup.withClips false) ≠ .faulted fault left) →
    ∃ trace wrapped trace' clipped,
      console.step (setup.withClips false) = .ran .drew trace wrapped ∧
      console.step (setup.withClips true) = .ran .drew trace' clipped ∧
      Cropped console x y wrapped clipped
  /-- If it reaches no edge, it is refused alike or drawn alike. -/
  inside : console.anchorColumn x ≤ 56 → console.anchorRow y + height ≤ Screen.height →
    console.step (setup.withClips true) = console.step (setup.withClips false) ∧
      ((∃ address, console.step (setup.withClips true) =
        .faulted { kind := .illegalAddress address } console) ∨
      ∃ trace left, console.step (setup.withClips true) = .ran .drew trace left)

/-- **Cutting a sprite off agrees with letting it wrap,** as far as it lies behind its anchor.  Let a
reachable machine run and let a sprite be next. -/
theorem meetsEdges_of_pointsAt (reach : console.machine.Reachable)
    (running : console.machine.activity = .running)
    (pointed : console.machine.PointsAt (Instruction.draw x y height).word) (setup : Setup) :
    MeetsEdges setup console x y height := by
  have wf := reach.wellFormed
  exact {
    accepted := by
      intro accepted
      have sound : (Instruction.draw x y height).fault? (setup.withClips false).dialect
          console.machine = none := by
        rw [← Machine.fault?_of_pointsAt pointed, Option.eq_none_iff_forall_ne_some]
        intro fault met
        exact accepted _ _ (step_of_fault? wf.pc_nonneg running met)
      have sound' := fault?_withClips_true sound
      obtain ⟨trace, hwrapped⟩ := step_draw wf running pointed sound
      obtain ⟨trace', hclipped⟩ := step_draw wf running pointed sound'
      exact ⟨trace, _, trace', _, hwrapped, hclipped,
        cropped_of_draws (draws_afterSprite wf sound) (draws_afterSprite wf sound')⟩
    inside := by
      intro hcolumn hrow
      have hword := (Machine.word?_eq_some_iff wf.pc_nonneg).mpr pointed
      refine ⟨?_, ?_⟩
      · simp only [step, running, hword, Word.decode_word, execute_withClips hcolumn hrow]
      · cases hfault : (Instruction.draw x y height).fault? (setup.withClips true).dialect
            console.machine with
        | none =>
            obtain ⟨trace, hstep⟩ := step_draw wf running pointed hfault
            exact Or.inr ⟨trace, _, hstep⟩
        | some fault =>
            have hstep : console.step (setup.withClips true) = .faulted fault console :=
              step_of_fault? wf.pc_nonneg running
                ((Machine.fault?_of_pointsAt pointed).trans hfault)
            simp only [Instruction.fault?, Option.ite_none_right_eq_some,
              Option.some.injEq] at hfault
            obtain ⟨-, rfl⟩ := hfault
            exact Or.inl ⟨_, hstep⟩ }

/-- A zero is drawn in the lower right corner.  Cut off, it leaves the upper left corner as it was,
where it would go on otherwise. -/
theorem meetsEdges_of_pointsAt_corner :
    let console := ({} : Console).acts {}
      [.load [0x60, 62, 0x61, 30, 0xD0, 0x15], .cycle, .cycle]
    MeetsEdges {} console 0 1 5 ∧
      ∃ trace wrapped trace' clipped,
        console.step (Setup.withClips {} false) = .ran .drew trace wrapped ∧
        console.step (Setup.withClips {} true) = .ran .drew trace' clipped ∧
        Cropped console 0 1 wrapped clipped ∧
        clipped.machine.screen.isLit 0 0 = false := by
  intro console
  have reach : console.machine.Reachable := ⟨{}, console, reachable_iff.mpr ⟨_, rfl⟩, rfl⟩
  obtain ⟨running, hpc, hword, sound, hcolumn, hoff⟩ :
      console.machine.activity = .running ∧ console.machine.pc = 0x204 ∧
        (Instruction.draw 0 1 5).word.toNat = console.machine.memory[0x204].toNat * 256 +
          console.machine.memory[0x204 + 1].toNat ∧
        console.machine.fault? (Setup.withClips {} false).dialect = none ∧
        console.anchorColumn 0 = 62 ∧ console.machine.screen.isLit 0 0 = false := by
    decide +kernel
  have pointed : console.machine.PointsAt (Instruction.draw 0 1 5).word :=
    ⟨0x204, by decide, hpc, hword⟩
  have meetsEdges := meetsEdges_of_pointsAt reach running pointed {}
  have accepted (fault : Fault) (left : Console) :
      console.step (Setup.withClips {} false) ≠ .faulted fault left := by
    rcases step_of_fault?_none reach.wellFormed running sound with ⟨_, _, _, -, -, hran⟩
    rw [hran]
    exact Outcome.noConfusion
  obtain ⟨trace, wrapped, trace', clipped, hwrapped, hclipped, cropped⟩ :=
    meetsEdges.accepted accepted
  refine ⟨meetsEdges, trace, wrapped, trace', clipped, hwrapped, hclipped, cropped, ?_⟩
  rw [cropped.before 0 (by decide) 0 (by decide) (Or.inl (by rw [hcolumn]; decide)), hoff]

end Console

end ChipEight
