import ChipEight.Proofs.Drawing

/-!
# Sprites on top of one another

Which pixels a sprite turns over depends on memory, on I and on the registers that place it, but not
on the picture.  As long as no sprite is placed by VF, which every sprite changes, sprites drawn one
after another therefore turn over pixels that are known from the start.  Their order does not matter,
and a sprite that is drawn twice is gone.

* `Screen.draw_eq_of_parity` — only how often each pixel is turned over matters, and only whether
  that is even or odd.
* `Drawing`, `Console.drawAll?` — sprites that are drawn one after another.
* `Console.SameScene` — what the pixels of a sprite depend on.
* `Console.isSome_drawAll?_iff`, `Console.screen_of_drawAll?` — when sprites in a row are drawn, and
  the pixels that they turn over.
* **`Console.Superposes`, `Console.superposes_of_drawn`** — the order and the pairs of sprites.
-/

namespace ChipEight

/-! ## Pixels turned over -/

namespace Screen

/-- Two screens are one if they agree on every pixel. -/
lemma ext_get {screen other : Screen} (h : ∀ pixel, screen.get pixel = other.get pixel) :
    screen = other := by
  apply Vector.ext
  intro i hi
  exact h ⟨i, hi⟩

/-- **Pixels turned over in two ways give one picture** if each of them is turned over equally often
up to pairs. -/
theorem draw_eq_of_parity {first last : List (Fin 2048)} (screen : Screen)
    (h : ∀ pixel, (first.count pixel).bodd = (last.count pixel).bodd) :
    (screen.draw first).1 = (screen.draw last).1 := by
  apply ext_get
  intro pixel
  rw [get_draw, get_draw, h]

/-- It makes no difference whether pixels are turned over in one go or in two. -/
lemma draw_append (screen : Screen) (first last : List (Fin 2048)) :
    (screen.draw (first ++ last)).1 = ((screen.draw first).1.draw last).1 := by
  apply ext_get
  intro pixel
  rw [get_draw, get_draw, get_draw, List.count_append, Nat.bodd_add, Bool.xor_assoc]

/-- Pixels turned over twice are as they were. -/
lemma draw_draw (screen : Screen) (pixels : List (Fin 2048)) :
    ((screen.draw pixels).1.draw pixels).1 = screen := by
  apply ext_get
  intro pixel
  rw [get_draw, get_draw, Bool.xor_assoc, Bool.xor_self, Bool.xor_false]

end Screen

/-! ## Sprites in a row -/

/-- The operands of `DXYN`. -/
structure Drawing where
  x : Register
  y : Register
  height : Fin 16

namespace Drawing

/-- The instruction itself. -/
def instruction (drawing : Drawing) : Instruction :=
  .draw drawing.x drawing.y drawing.height

/-- **The sprite is not placed by VF.** -/
def IsSteady (drawing : Drawing) : Prop :=
  drawing.x ≠ Register.flag ∧ drawing.y ≠ Register.flag

instance (drawing : Drawing) : Decidable drawing.IsSteady :=
  inferInstanceAs (Decidable (_ ∧ _))

end Drawing

namespace Console

/-- **Sprites drawn one after another;** none if one of them is refused. -/
def drawAll? (setup : Setup) : List Drawing → Console → Option Console
  | [], console => some console
  | drawing :: rest, console =>
    match console.execute setup drawing.instruction with
    | .ran _ _ left => drawAll? setup rest left
    | .faulted _ _ => none
    | .stuck _ _ => none

variable {setup : Setup} {console other left : Console} {drawing : Drawing}
  {drawings : List Drawing}

/-- **Two consoles draw alike:** they agree but for VF in all that says which pixels a sprite
covers. -/
structure SameScene (console other : Console) : Prop where
  memory_eq : other.machine.memory = console.machine.memory
  index_eq : other.machine.index = console.machine.index
  register_eq : ∀ register ≠ Register.flag,
    other.machine.register register = console.machine.register register

/-- The pixels that a sprite turns over. -/
def pixelsOf (setup : Setup) (console : Console) (drawing : Drawing) : List (Fin 2048) :=
  console.spritePixels setup drawing.x drawing.y drawing.height

/-- They are the same on consoles that draw alike. -/
lemma SameScene.pixelsOf_eq (same : SameScene console other) (steady : drawing.IsSteady) :
    other.pixelsOf setup drawing = console.pixelsOf setup drawing := by
  simp only [pixelsOf, spritePixels, anchorColumn, anchorRow, same.memory_eq, same.index_eq,
    same.register_eq _ steady.1, same.register_eq _ steady.2]

/-- So is whether the sprite is refused. -/
lemma SameScene.fault?_eq (same : SameScene console other) (steady : drawing.IsSteady) :
    drawing.instruction.fault? setup.dialect other.machine =
      drawing.instruction.fault? setup.dialect console.machine := by
  simp only [Drawing.instruction, Instruction.fault?, same.index_eq, same.register_eq _ steady.2]

/-- **One sprite:** it turns over its pixels, VF tells whether one of them was on, and the console
goes on drawing alike. -/
lemma execute_drawing (wf : console.machine.WellFormed)
    (sound : drawing.instruction.fault? setup.dialect console.machine = none) :
    ∃ trace left, console.execute setup drawing.instruction = .ran .drew trace left ∧
      left.machine.screen = (console.machine.screen.draw (console.pixelsOf setup drawing)).1 ∧
      left.machine.register Register.flag =
        console.collision setup drawing.x drawing.y drawing.height ∧
      SameScene console left ∧ left.machine.WellFormed := by
  refine ⟨_, _, execute_draw wf sound, rfl, Machine.register_setRegister_self _ _ _, ?_,
    { wf with }⟩
  exact ⟨rfl, rfl, fun register hne => Machine.register_setRegister_of_ne _ _ hne⟩

/-- The first of several sprites. -/
lemma drawAll?_cons (rest : List Drawing) (wf : console.machine.WellFormed)
    (sound : drawing.instruction.fault? setup.dialect console.machine = none) :
    ∃ next, drawAll? setup (drawing :: rest) console = drawAll? setup rest next ∧
      next.machine.screen = (console.machine.screen.draw (console.pixelsOf setup drawing)).1 ∧
      SameScene console next ∧ next.machine.WellFormed := by
  obtain ⟨trace, next, hran, hscreen, -, same, wfnext⟩ := execute_drawing wf sound
  exact ⟨next, by rw [drawAll?, hran], hscreen, same, wfnext⟩

/-- **Sprites in a row are drawn just if none of them would be refused as the first.** -/
theorem isSome_drawAll?_iff (wf : console.machine.WellFormed)
    (steady : ∀ drawing ∈ drawings, drawing.IsSteady) :
    (drawAll? setup drawings console).isSome ↔
      ∀ drawing ∈ drawings, drawing.instruction.fault? setup.dialect console.machine = none := by
  induction drawings generalizing console with
  | nil => simp [drawAll?]
  | cons first rest ih =>
      obtain ⟨-, hrest⟩ := List.forall_mem_cons.mp steady
      cases hfault : first.instruction.fault? setup.dialect console.machine with
      | some fault => simp [drawAll?, execute_of_fault? hfault, hfault]
      | none =>
          obtain ⟨next, hnext, -, same, wfnext⟩ := drawAll?_cons rest wf hfault
          rw [hnext, ih wfnext hrest, List.forall_mem_cons, and_iff_right hfault]
          exact forall₂_congr fun drawing hmem => by rw [same.fault?_eq (hrest drawing hmem)]

/-- **They turn over all their pixels,** as these are before the first of them is drawn. -/
theorem screen_of_drawAll? (wf : console.machine.WellFormed)
    (steady : ∀ drawing ∈ drawings, drawing.IsSteady)
    (drawn : drawAll? setup drawings console = some left) :
    left.machine.screen =
      (console.machine.screen.draw (drawings.flatMap (console.pixelsOf setup))).1 := by
  induction drawings generalizing console with
  | nil =>
      cases drawn
      rfl
  | cons first rest ih =>
      obtain ⟨-, hrest⟩ := List.forall_mem_cons.mp steady
      have sound := (isSome_drawAll?_iff wf steady).mp (by rw [drawn]; rfl) first
        List.mem_cons_self
      obtain ⟨next, hnext, hscreen, same, wfnext⟩ := drawAll?_cons rest wf sound
      rw [hnext] at drawn
      have hpixels : rest.flatMap (next.pixelsOf setup) = rest.flatMap (console.pixelsOf setup) :=
        List.flatMap_congr fun drawing hmem => same.pixelsOf_eq (hrest drawing hmem)
      rw [ih wfnext hrest drawn, hscreen, hpixels, List.flatMap_cons, Screen.draw_append]

/-- **Sprites that turn over the same pixels up to pairs** give the same picture, and if the ones
are drawn, so are the others. -/
theorem exists_drawAll?_of_parity {others : List Drawing} (wf : console.machine.WellFormed)
    (steady : ∀ drawing ∈ drawings, drawing.IsSteady)
    (drawn : drawAll? setup drawings console = some left) (among : others ⊆ drawings)
    (parity : ∀ pixel, ((others.flatMap (console.pixelsOf setup)).count pixel).bodd =
      ((drawings.flatMap (console.pixelsOf setup)).count pixel).bodd) :
    ∃ other, drawAll? setup others console = some other ∧
      other.machine.screen = left.machine.screen := by
  have steady' : ∀ drawing ∈ others, drawing.IsSteady := fun drawing hmem =>
    steady drawing (among hmem)
  have sound := (isSome_drawAll?_iff wf steady).mp (by rw [drawn]; rfl)
  have hsome : (drawAll? setup others console).isSome :=
    (isSome_drawAll?_iff wf steady').mpr fun drawing hmem => sound drawing (among hmem)
  obtain ⟨other, hother⟩ := Option.isSome_iff_exists.mp hsome
  refine ⟨other, hother, ?_⟩
  rw [screen_of_drawAll? wf steady' hother, screen_of_drawAll? wf steady drawn]
  exact Screen.draw_eq_of_parity _ parity

/-! ## A sprite and the pixels under it -/

/-- What holds of some pixel that a sprite turns over holds of one under a set bit, and the other
way round. -/
lemma exists_pixelsOf_iff (wf : console.machine.WellFormed)
    (sound : drawing.instruction.fault? setup.dialect console.machine = none)
    (holds : Fin 2048 → Prop) :
    (∃ pixel ∈ console.pixelsOf setup drawing, holds pixel) ↔
      ∃ c < Screen.width, ∃ r < Screen.height,
        console.machine.spriteBit setup.dialect.clipsSprites (console.anchorColumn drawing.x)
          (console.anchorRow drawing.y) drawing.height c r = true ∧ holds (Screen.cell c r) := by
  rw [Screen.exists_cell_iff fun pixel => pixel ∈ console.pixelsOf setup drawing ∧ holds pixel]
  refine exists_congr fun c => and_congr_right fun hc => ?_
  refine exists_congr fun r => and_congr_right fun hr => ?_
  exact and_congr_left' (mem_spritePixels wf sound hc hr)

/-- **A sprite that is drawn twice in a row** restores the picture, and VF tells each time whether it
met a pixel that was on. -/
structure Redrawn (setup : Setup) (console : Console) (drawing : Drawing)
    (once twice : Console) : Prop where
  screen_eq : twice.machine.screen = console.machine.screen
  once_eq_one_iff : once.machine.register Register.flag = 1 ↔
    ∃ c < Screen.width, ∃ r < Screen.height,
      console.machine.spriteBit setup.dialect.clipsSprites (console.anchorColumn drawing.x)
          (console.anchorRow drawing.y) drawing.height c r = true ∧
        console.machine.screen.isLit c r = true
  once_eq_zero_iff : once.machine.register Register.flag = 0 ↔
    ¬ once.machine.register Register.flag = 1
  twice_eq_one_iff : twice.machine.register Register.flag = 1 ↔
    ∃ c < Screen.width, ∃ r < Screen.height,
      console.machine.spriteBit setup.dialect.clipsSprites (console.anchorColumn drawing.x)
          (console.anchorRow drawing.y) drawing.height c r = true ∧
        console.machine.screen.isLit c r = false
  twice_eq_zero_iff : twice.machine.register Register.flag = 0 ↔
    ¬ twice.machine.register Register.flag = 1

/-- VF tells of a sprite whether one of its pixels was on. -/
lemma collision_eq_one_iff_exists (setup : Setup) (console : Console) (drawing : Drawing) :
    console.collision setup drawing.x drawing.y drawing.height = 1 ↔
      ∃ pixel ∈ console.pixelsOf setup drawing, console.machine.screen.get pixel = true := by
  rw [collision_eq_one_iff, pixelsOf, Screen.draw_snd_iff (nodup_spritePixels _ _ _ _ _)]

/-- Every sprite that is not placed by VF can be drawn once more, and is gone then. -/
lemma exists_redrawn (wf : console.machine.WellFormed) (steady : drawing.IsSteady)
    (sound : drawing.instruction.fault? setup.dialect console.machine = none) :
    ∃ trace once trace' twice,
      console.execute setup drawing.instruction = .ran .drew trace once ∧
      once.execute setup drawing.instruction = .ran .drew trace' twice ∧
      Redrawn setup console drawing once twice := by
  obtain ⟨trace, once, hran, hscreen, hflag, same, wf'⟩ := execute_drawing wf sound
  have sound' : drawing.instruction.fault? setup.dialect once.machine = none := by
    rw [same.fault?_eq steady, sound]
  obtain ⟨trace', twice, hran', hscreen', hflag', -, -⟩ := execute_drawing wf' sound'
  have hnodup : (console.pixelsOf setup drawing).Nodup := nodup_spritePixels _ _ _ _ _
  have hpixels : once.pixelsOf setup drawing = console.pixelsOf setup drawing :=
    same.pixelsOf_eq steady
  refine ⟨trace, once, trace', twice, hran, hran', ?_, ?_, ?_, ?_, ?_⟩
  · rw [hscreen', hscreen, hpixels, Screen.draw_draw]
  · rw [hflag, collision_eq_one_iff_exists, exists_pixelsOf_iff wf sound]
    rfl
  · rw [hflag, collision_eq_zero_iff]
  · rw [hflag', collision_eq_one_iff_exists, hpixels, hscreen]
    -- the pixels of the sprite are on now just if they were off
    have hover : ∀ pixel ∈ console.pixelsOf setup drawing,
        (console.machine.screen.draw (console.pixelsOf setup drawing)).1.get pixel = true ↔
          console.machine.screen.get pixel = false := by
      intro pixel hmem
      rw [Screen.get_draw_of_nodup hnodup, decide_eq_true hmem, Bool.xor_true,
        Bool.not_eq_true']
    rw [exists_congr fun pixel => and_congr_right (hover pixel), exists_pixelsOf_iff wf sound]
    rfl
  · rw [hflag', collision_eq_zero_iff]

/-! ## Order and pairs -/

/-- **How sprites superpose** that have been drawn one after another. -/
structure Superposes (setup : Setup) (console : Console) (drawings : List Drawing)
    (left : Console) : Prop where
  /-- In any other order they give the same picture, -/
  reordered : ∀ others, others.Perm drawings →
    ∃ other, drawAll? setup others console = some other ∧
      other.machine.screen = left.machine.screen
  /-- and so they do without one that comes twice. -/
  cancelled : ∀ first drawing middle last,
    drawings = first ++ drawing :: middle ++ drawing :: last →
      ∃ other, drawAll? setup (first ++ middle ++ last) console = some other ∧
        other.machine.screen = left.machine.screen
  /-- Each of them, drawn twice in a row, restores the picture. -/
  redrawn : ∀ drawing ∈ drawings, ∃ trace once trace' twice,
    console.execute setup drawing.instruction = .ran .drew trace once ∧
      once.execute setup drawing.instruction = .ran .drew trace' twice ∧
      Redrawn setup console drawing once twice

/-- **Sprites superpose,** whatever the dialect, as long as none of them is refused and none of them
is placed by VF. -/
theorem superposes_of_drawn (reach : console.machine.Reachable)
    (steady : ∀ drawing ∈ drawings, drawing.IsSteady)
    (drawn : drawAll? setup drawings console = some left) :
    Superposes setup console drawings left := by
  have wf := reach.wellFormed
  exact {
    reordered := by
      intro others hperm
      refine exists_drawAll?_of_parity wf steady drawn hperm.subset fun pixel => ?_
      rw [(hperm.flatMap_right _).count_eq]
    cancelled := by
      rintro first drawing middle last rfl
      refine exists_drawAll?_of_parity wf steady drawn ?_ fun pixel => ?_
      · intro other hmem
        simp only [List.mem_append, List.mem_cons] at hmem ⊢
        tauto
      · simp only [List.flatMap_append, List.flatMap_cons, List.count_append, Nat.bodd_add]
        -- both occurrences count the pixel equally often, so their parities cancel
        cases (List.count pixel (console.pixelsOf setup drawing)).bodd <;> simp
    redrawn := by
      intro drawing hmem
      refine exists_redrawn wf (steady drawing hmem) ?_
      exact (isSome_drawAll?_iff wf steady).mp (by rw [drawn]; rfl) drawing hmem }

/-- A zero is drawn in the corner, around both edges, then a second one elsewhere, and then the first
once more.  Only the second is left. -/
theorem superposes_of_drawn_around_corner :
    let setup : Setup := { dialect := { clipsSprites := false } }
    let console := ({} : Console).acts setup [.load [0x61, 62, 0x62, 30], .cycle, .cycle]
    let drawings : List Drawing := [⟨1, 2, 5⟩, ⟨2, 1, 5⟩, ⟨1, 2, 5⟩]
    ∃ left, drawAll? setup drawings console = some left ∧
      Superposes setup console drawings left ∧
      ∃ other, drawAll? setup [⟨2, 1, 5⟩] console = some other ∧
        other.machine.screen = left.machine.screen := by
  intro setup console drawings
  have reach : console.machine.Reachable := ⟨setup, console, reachable_iff.mpr ⟨_, rfl⟩, rfl⟩
  have hsome : (drawAll? setup drawings console).isSome := by decide +kernel
  obtain ⟨left, hleft⟩ := Option.isSome_iff_exists.mp hsome
  have superposes := superposes_of_drawn reach (by decide) hleft
  exact ⟨left, hleft, superposes, superposes.cancelled [] ⟨1, 2, 5⟩ [⟨2, 1, 5⟩] [] rfl⟩

end Console

end ChipEight
