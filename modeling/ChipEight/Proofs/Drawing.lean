import ChipEight.Proofs.Footprint
import Mathlib.Data.List.Nodup
import Mathlib.Data.Nat.Bits

/-!
# Sprites, pixel by pixel

A sprite is drawn by turning over pixels one after another.  Each of them is turned over once, so
that what is on the screen afterwards depends on what was there before and on the sprite alone, and
a pixel that goes off is one that was on when the drawing began.

* `Screen.get_draw` — a pixel after drawing, counted from how often it was turned over.
* `Sprite.offset`, `Machine.spriteBit` — the bit of a sprite that lies over a pixel of the screen.
* `Sprite.mem_pixels`, `Sprite.nodup_pixels` — the pixels under a sprite, none of them twice.
* `Sprite.mem_pixels_iff` — they are the pixels under its set bits.
* **`Console.Draws`, `Console.draws_of_accepted`** — what a sprite does that is not refused.
-/

namespace ChipEight

/-! ## Pixels turned over -/

namespace Screen

/-- Turning over changes one pixel. -/
lemma get_toggle (screen : Screen) (pixel other : Fin 2048) :
    (screen.toggle pixel).get other =
      if pixel = other then !screen.get pixel else screen.get other :=
  getElem_toggle screen pixel other

lemma draw_cons (screen : Screen) (first : Fin 2048) (rest : List (Fin 2048)) :
    screen.draw (first :: rest) =
      (((screen.toggle first).draw rest).1,
        screen.get first || ((screen.toggle first).draw rest).2) := rfl

/-- **A pixel is as it was if it was turned over an even number of times.** -/
theorem get_draw (pixels : List (Fin 2048)) (screen : Screen) (pixel : Fin 2048) :
    (screen.draw pixels).1.get pixel = (screen.get pixel ^^ (pixels.count pixel).bodd) := by
  induction pixels generalizing screen with
  | nil => simp [draw]
  | cons first rest ih =>
      rw [draw_cons, ih, get_toggle, List.count_cons]
      by_cases h : first = pixel
      · simp [h]
      · simp [h]

/-- A list of pixels without repetitions turns over each of them. -/
lemma get_draw_of_nodup {pixels : List (Fin 2048)} (nodup : pixels.Nodup) (screen : Screen)
    (pixel : Fin 2048) [Decidable (pixel ∈ pixels)] :
    (screen.draw pixels).1.get pixel = (screen.get pixel ^^ decide (pixel ∈ pixels)) := by
  rw [get_draw, nodup.count]
  split <;> simp [*]

/-- It meets a pixel that is on just if one of them was on to begin with. -/
lemma draw_snd_iff {pixels : List (Fin 2048)} (nodup : pixels.Nodup) (screen : Screen) :
    (screen.draw pixels).2 = true ↔ ∃ pixel ∈ pixels, screen.get pixel = true := by
  induction pixels generalizing screen with
  | nil => simp [draw]
  | cons first rest ih =>
      obtain ⟨hfirst, hrest⟩ := List.nodup_cons.mp nodup
      -- what is turned over first plays no part in what follows
      have hkept : ∀ pixel ∈ rest, (screen.toggle first).get pixel = screen.get pixel := by
        intro pixel hmem
        rw [get_toggle, if_neg]
        rintro rfl
        exact hfirst hmem
      simp only [draw_cons, Bool.or_eq_true, ih hrest, List.mem_cons, or_and_right, exists_or,
        exists_eq_left]
      refine or_congr Iff.rfl (exists_congr fun pixel => and_congr_right fun hmem => ?_)
      rw [hkept pixel hmem]

lemma isLit_eq (screen : Screen) (c r : Nat) : screen.isLit c r = screen.get (cell c r) := rfl

/-- What holds of some pixel holds of the one in some column and some row. -/
lemma exists_cell_iff (holds : Fin 2048 → Prop) :
    (∃ pixel, holds pixel) ↔ ∃ c < width, ∃ r < height, holds (cell c r) := by
  constructor
  · rintro ⟨pixel, h⟩
    have hlt := pixel.isLt
    refine ⟨pixel % width, Nat.mod_lt _ (by decide), pixel / width, ?_, ?_⟩
    · simp only [width, height]
      omega
    · rwa [cell_mod_div]
  · rintro ⟨c, -, r, -, h⟩
    exact ⟨cell c r, h⟩

/-- Since none is met twice, that is whether a pixel has gone off. -/
lemma draw_snd_iff_exists_off {pixels : List (Fin 2048)} (nodup : pixels.Nodup) (screen : Screen) :
    (screen.draw pixels).2 = true ↔ ∃ c < width, ∃ r < height,
      screen.isLit c r = true ∧ (screen.draw pixels).1.isLit c r = false := by
  simp only [draw_snd_iff nodup, isLit_eq, get_draw_of_nodup nodup]
  rw [← exists_cell_iff fun pixel =>
    screen.get pixel = true ∧ (screen.get pixel ^^ decide (pixel ∈ pixels)) = false]
  refine exists_congr fun pixel => ?_
  cases screen.get pixel <;> simp

/-- Two places are one pixel if they agree around the screen. -/
lemma cell_eq_iff {column row column' row' : Nat} :
    cell column row = cell column' row' ↔
      column % width = column' % width ∧ row % height = row' % height := by
  simp only [cell, Fin.ext_iff, width, height]
  omega

end Screen

/-! ## The pixels under a sprite -/

namespace Sprite

open Screen

variable {clips : Bool} {column row : Nat}

/-- How far a pixel lies behind the anchor of a sprite, in one direction: around the screen, or not
if the sprite is cut off at the edge. -/
def offset (clips : Bool) (size anchor place : Nat) : Int :=
  if clips then (place : Int) - anchor else ((place : Int) - anchor) % size

lemma mem_rowPixels {byte : UInt8} {pixel : Fin 2048} :
    pixel ∈ rowPixels clips column row byte ↔
      ∃ across < 8, bitAt byte across = true ∧ (clips = true → column + across < width) ∧
        cell (column + across) row = pixel := by
  simp only [rowPixels, List.mem_filterMap, List.mem_range]
  refine exists_congr fun across => and_congr_right fun _ => ?_
  cases clips <;> simp [and_assoc]

/-- **A pixel lies under a sprite** if it lies under a set bit of one of its rows. -/
lemma mem_pixels {bytes : List UInt8} {pixel : Fin 2048} :
    pixel ∈ pixels clips column row bytes ↔
      ∃ down byte, bytes[down]? = some byte ∧
        ∃ across < 8, bitAt byte across = true ∧ (clips = true → column + across < width) ∧
          cell (column + across) (row + down) = pixel := by
  induction bytes generalizing row with
  | nil => simp [pixels]
  | cons first rest ih =>
      rw [pixels, List.mem_append, mem_rowPixels, ih]
      constructor
      · rintro (h | ⟨down, byte, hbyte, h⟩)
        · exact ⟨0, first, rfl, h⟩
        · refine ⟨down + 1, byte, hbyte, ?_⟩
          rwa [Nat.add_assoc, Nat.add_comm 1] at h
      · rintro ⟨down, byte, hbyte, h⟩
        cases down with
        | zero =>
            cases hbyte
            exact Or.inl h
        | succ down =>
            refine Or.inr ⟨down, byte, hbyte, ?_⟩
            rwa [Nat.add_assoc, Nat.add_comm 1]

/-- No pixel lies under a row twice, since a row is no longer than the screen is wide. -/
lemma nodup_rowPixels (byte : UInt8) : (rowPixels clips column row byte).Nodup := by
  rw [rowPixels, List.Nodup, List.pairwise_filterMap]
  refine List.nodup_range.imp_of_mem ?_
  intro across other hacross hother hne pixel hpixel pixel' hpixel'
  simp only [List.mem_range] at hacross hother
  simp only [Option.ite_none_right_eq_some, Option.some.injEq] at hpixel hpixel'
  rintro rfl
  have hsame := cell_eq_iff.mp (hpixel.2.trans hpixel'.2.symm)
  simp only [width] at hsame
  omega

/-- **No pixel lies under a sprite twice,** if it is no higher than the screen. -/
lemma nodup_pixels {bytes : List UInt8} (h : bytes.length ≤ height) :
    (pixels clips column row bytes).Nodup := by
  induction bytes generalizing row with
  | nil => exact List.nodup_nil
  | cons first rest ih =>
      rw [List.length_cons] at h
      rw [pixels]
      refine List.Nodup.append (nodup_rowPixels first) (ih (by omega)) ?_
      intro pixel hfirst hrest
      obtain ⟨across, -, -, -, rfl⟩ := mem_rowPixels.mp hfirst
      obtain ⟨down, byte, hbyte, other, -, -, -, hcell⟩ := mem_pixels.mp hrest
      have hdown := (List.getElem?_eq_some_iff.mp hbyte).1
      have hsame := (cell_eq_iff.mp hcell).2
      simp only [height] at h hsame
      omega

/-- What lies at a distance from the anchor, told from the anchor. -/
lemma offset_eq_iff {size anchor place distance : Nat} (hsize : size = width ∨ size = height)
    (hanchor : anchor < size) (hplace : place < size) (hdistance : distance < size) :
    offset clips size anchor place = distance ↔
      (anchor + distance) % size = place ∧ (clips = true → anchor + distance < size) := by
  rcases hsize with rfl | rfl
  all_goals
    simp only [width, height] at *
    cases clips
    · simp only [offset, Bool.false_eq_true, if_false, false_implies, and_true]
      omega
    · simp only [offset, if_true, forall_const]
      omega

end Sprite

/-- **The bit of a sprite over a pixel of the screen:** the sprite lies in memory from I on, it is
eight pixels wide, and the highest bit of each of its bytes is at the left. -/
def Machine.spriteBit (machine : Machine) (clips : Bool) (column row height c r : Nat) : Bool :=
  let across := Sprite.offset clips Screen.width column c
  let down := Sprite.offset clips Screen.height row r
  decide (0 ≤ across ∧ across < 8 ∧ 0 ≤ down ∧ down < height) &&
    (machine.memory[(machine.index + down).toNat]?).any fun byte =>
      byte.toNat.testBit (7 - across.toNat)

/-- **The pixels under a sprite are those under its set bits.** -/
theorem Sprite.mem_pixels_iff {machine : Machine} {clips : Bool} {start column row : Nat}
    {spriteHeight : Fin 16} {c r : Nat} (hindex : machine.index = start)
    (hcolumn : column < Screen.width) (hrow : row < Screen.height)
    (hroom : start + visibleRows clips row spriteHeight ≤ memorySize)
    (hc : c < Screen.width) (hr : r < Screen.height) :
    Screen.cell c r ∈ pixels clips column row
        (machine.memory.read start (visibleRows clips row spriteHeight)) ↔
      machine.spriteBit clips column row spriteHeight c r = true := by
  have hheight := spriteHeight.isLt
  have hacross (distance : Nat) (h : distance < 8) :=
    @offset_eq_iff clips _ column c distance (Or.inl rfl) hcolumn hc (Nat.lt_trans h (by decide))
  have hdown (distance : Nat) (h : distance < 16) :=
    @offset_eq_iff clips _ row r distance (Or.inr rfl) hrow hr (Nat.lt_trans h (by decide))
  -- a row of the sprite is one of those that are read just if it does not lie beyond the edge
  have hread (down : Nat) : down < visibleRows clips row spriteHeight ↔
      down < spriteHeight ∧ (clips = true → row + down < Screen.height) := by
    cases clips
    · simp [visibleRows]
    · simp [visibleRows]
      omega
  simp only [mem_pixels, Screen.cell_eq_iff, Cells.getElem?_read, Option.ite_none_right_eq_some,
    Machine.spriteBit, hindex, Bool.and_eq_true, decide_eq_true_eq]
  constructor
  · rintro ⟨down, byte, ⟨hlt, hbyte⟩, across, hlt', hbit, hedge, hcell, hcell'⟩
    rw [Nat.mod_eq_of_lt hc] at hcell
    rw [Nat.mod_eq_of_lt hr] at hcell'
    obtain ⟨hheight', hedge'⟩ := (hread down).mp hlt
    rw [(hacross across hlt').mpr ⟨hcell, hedge⟩, (hdown down (by omega)).mpr ⟨hcell', hedge'⟩,
      show ((start : Int) + (down : Int)).toNat = start + down by omega]
    refine ⟨by omega, ?_⟩
    rw [show machine.memory[start + down]? = some byte from hbyte]
    exact hbit
  · rintro ⟨⟨hacross_nonneg, hacross_lt, hdown_nonneg, hdown_lt⟩, hbyte⟩
    obtain ⟨across, hacross_eq⟩ := Int.eq_ofNat_of_zero_le hacross_nonneg
    obtain ⟨down, hdown_eq⟩ := Int.eq_ofNat_of_zero_le hdown_nonneg
    rw [hacross_eq] at hacross_lt hbyte
    rw [hdown_eq] at hdown_lt hbyte
    obtain ⟨hcell, hedge⟩ := (hacross across (by omega)).mp hacross_eq
    obtain ⟨hcell', hedge'⟩ := (hdown down (by omega)).mp hdown_eq
    rw [show ((start : Int) + (down : Int)).toNat = start + down by omega] at hbyte
    obtain ⟨byte, hget, hbit⟩ := (Option.any_eq_true _ _).mp hbyte
    refine ⟨down, byte, ⟨(hread down).mpr ⟨by omega, hedge'⟩, hget⟩, across, by omega, hbit, hedge,
      ?_, ?_⟩
    · rw [hcell, Nat.mod_eq_of_lt hc]
    · rw [hcell', Nat.mod_eq_of_lt hr]

namespace Console

variable {setup : Setup} {console left : Console} {x y : Register} {height : Fin 16}

/-! ## The instruction -/

/-- The column of the anchor of a sprite. -/
def anchorColumn (console : Console) (x : Register) : Nat :=
  (console.machine.register x).toNat % Screen.width

/-- The row of the anchor of a sprite. -/
def anchorRow (console : Console) (y : Register) : Nat :=
  (console.machine.register y).toNat % Screen.height

/-- The pixels that a sprite turns over. -/
def spritePixels (setup : Setup) (console : Console) (x y : Register) (height : Fin 16) :
    List (Fin 2048) :=
  let clips := setup.dialect.clipsSprites
  let row := console.anchorRow y
  Sprite.pixels clips (console.anchorColumn x) row
    (console.machine.memory.read console.machine.index.toNat (Sprite.visibleRows clips row height))

/-- None of them is turned over twice. -/
lemma nodup_spritePixels (setup : Setup) (console : Console) (x y : Register) (height : Fin 16) :
    (console.spritePixels setup x y height).Nodup := by
  refine Sprite.nodup_pixels (Nat.le_trans (Cells.length_read_le _ _ _) ?_)
  have hheight := height.isLt
  simp only [Sprite.visibleRows, Screen.height]
  split <;> omega

/-- They are those under the set bits of the sprite, unless that is refused. -/
lemma mem_spritePixels (wf : console.machine.WellFormed)
    (sound : (Instruction.draw x y height).fault? setup.dialect console.machine = none) {c r : Nat}
    (hc : c < Screen.width) (hr : r < Screen.height) :
    Screen.cell c r ∈ console.spritePixels setup x y height ↔
      console.machine.spriteBit setup.dialect.clipsSprites (console.anchorColumn x)
        (console.anchorRow y) height c r = true := by
  obtain ⟨start, hstart, hindex⟩ := wf.index_eq
  have hcolumn : console.anchorColumn x < Screen.width := Nat.mod_lt _ (by decide)
  have hrow : console.anchorRow y < Screen.height := Nat.mod_lt _ (by decide)
  have hroom : start + Sprite.visibleRows setup.dialect.clipsSprites (console.anchorRow y) height ≤
      memorySize := by
    simp only [Instruction.fault?, ite_eq_right_iff, reduceCtorEq, imp_false, hindex] at sound
    simp only [anchorRow]
    omega
  rw [← Sprite.mem_pixels_iff hindex hcolumn hrow hroom hc hr, spritePixels, hindex,
    Int.toNat_natCast]

/-- What a sprite leaves in VF: whether a pixel that it turned over was on. -/
def collision (setup : Setup) (console : Console) (x y : Register) (height : Fin 16) : UInt8 :=
  if (console.machine.screen.draw (console.spritePixels setup x y height)).2 then 1 else 0

/-- It is one if there was such a pixel, -/
lemma collision_eq_one_iff (setup : Setup) (console : Console) (x y : Register)
    (height : Fin 16) :
    console.collision setup x y height = 1 ↔
      (console.machine.screen.draw (console.spritePixels setup x y height)).2 = true := by
  rw [collision]
  split <;> simp [*]

/-- and zero if there was none. -/
lemma collision_eq_zero_iff (setup : Setup) (console : Console) (x y : Register)
    (height : Fin 16) :
    console.collision setup x y height = 0 ↔ ¬ console.collision setup x y height = 1 := by
  rw [collision]
  split <;> simp

/-- **A sprite that is not refused is drawn.** -/
lemma execute_draw (wf : console.machine.WellFormed)
    (sound : (Instruction.draw x y height).fault? setup.dialect console.machine = none) :
    let collision := console.collision setup x y height
    let screen := (console.machine.screen.draw (console.spritePixels setup x y height)).1
    console.execute setup (.draw x y height) =
      .ran .drew (some (.drew (console.anchorColumn x) (console.anchorRow y) collision))
        { console with machine :=
          { console.machine.setRegister Register.flag collision with screen } } := by
  obtain ⟨start, hstart, hindex⟩ := wf.index_eq
  simp only [Instruction.fault?, ite_eq_right_iff, reduceCtorEq, imp_false] at sound
  rw [hindex] at sound
  simp only [execute, hindex, if_neg sound]
  rw [Cells.bytes?_natCast _ (by omega)]
  simp only [collision, spritePixels, anchorColumn, anchorRow, hindex, Int.toNat_natCast]

/-! ## The cycle -/

/-- **What a sprite does,** with the anchor as it was when it began. -/
structure Draws (setup : Setup) (console : Console) (x y : Register) (height : Fin 16)
    (left : Console) : Prop where
  /-- Each pixel is turned over just if it lies under a bit of the sprite that is set. -/
  pixel_eq : ∀ c < Screen.width, ∀ r < Screen.height, left.machine.screen.isLit c r =
    (console.machine.screen.isLit c r ^^ console.machine.spriteBit setup.dialect.clipsSprites
      (console.anchorColumn x) (console.anchorRow y) height c r)
  /-- VF tells whether a pixel has gone off, -/
  flag_eq_one_iff : left.machine.register Register.flag = 1 ↔
    ∃ c < Screen.width, ∃ r < Screen.height,
      console.machine.screen.isLit c r = true ∧ left.machine.screen.isLit c r = false
  /-- and is zero if none has. -/
  flag_eq_zero_iff : left.machine.register Register.flag = 0 ↔
    ¬ left.machine.register Register.flag = 1
  /-- All else is as it was, but for the program counter and the timers. -/
  left_eq : left = { console with machine := { console.machine with
    registers :=
      (console.machine.setRegister Register.flag (left.machine.register Register.flag)).registers
    screen := left.machine.screen
    pc := console.machine.pc + 2
    delay := max (console.machine.delay - 1) 0
    sound := max (console.machine.sound - 1) 0 } }

/-- The console after a sprite was drawn. -/
def afterSprite (setup : Setup) (console : Console) (x y : Register) (height : Fin 16) : Console :=
  { console with machine := { console.machine with
    registers :=
      (console.machine.setRegister Register.flag (console.collision setup x y height)).registers
    screen := (console.machine.screen.draw (console.spritePixels setup x y height)).1
    pc := console.machine.pc + 2
    delay := max (console.machine.delay - 1) 0
    sound := max (console.machine.sound - 1) 0 } }

lemma register_flag_afterSprite (setup : Setup) :
    (console.afterSprite setup x y height).machine.register Register.flag =
      console.collision setup x y height :=
  Machine.register_setRegister_self _ _ _

/-- It is what a cycle leaves behind if the sprite is not refused. -/
lemma step_draw (wf : console.machine.WellFormed) (running : console.machine.activity = .running)
    (pointed : console.machine.PointsAt (Instruction.draw x y height).word)
    (sound : (Instruction.draw x y height).fault? setup.dialect console.machine = none) :
    ∃ trace, console.step setup = .ran .drew trace (console.afterSprite setup x y height) := by
  have hran := execute_draw wf sound
  obtain ⟨hpc, hle⟩ := pointed.pc_le
  have hnext : (console.machine.pc + 2) % 65536 = console.machine.pc + 2 := by omega
  have htimers := (execute_effect hran).countDown_eq wf
  have hdrew : Flow.drew ≠ Flow.jumped := Flow.noConfusion
  refine ⟨_, (step_of_execute_ran running pointed hran).trans (congrArg _ ?_)⟩
  rw [finish, htimers, if_neg hdrew]
  simp only [Machine.setRegister, hnext]
  rfl

/-- It is what the sprite is to do. -/
lemma draws_afterSprite (wf : console.machine.WellFormed)
    (sound : (Instruction.draw x y height).fault? setup.dialect console.machine = none) :
    Draws setup console x y height (console.afterSprite setup x y height) := by
  have nodup := nodup_spritePixels setup console x y height
  exact {
    pixel_eq := by
      intro c hc r hr
      have hmem := mem_spritePixels wf sound hc hr
      simp only [afterSprite, Screen.isLit_eq, Screen.get_draw_of_nodup nodup, hmem,
        Bool.decide_eq_true]
    flag_eq_one_iff := by
      rw [register_flag_afterSprite, collision_eq_one_iff]
      exact Screen.draw_snd_iff_exists_off nodup console.machine.screen
    flag_eq_zero_iff := by rw [register_flag_afterSprite, collision_eq_zero_iff]
    left_eq := by
      rw [register_flag_afterSprite]
      rfl }

/-- **Every sprite that is accepted is drawn, pixel by pixel.**  Let a reachable machine run and let
a sprite be next.  If the cycle is not refused, it ends as one that drew, and does what the sprite
does. -/
theorem draws_of_accepted (reach : console.machine.Reachable)
    (running : console.machine.activity = .running)
    (pointed : console.machine.PointsAt (Instruction.draw x y height).word)
    (accepted : ∀ fault left, console.step setup ≠ .faulted fault left) :
    ∃ trace left, console.step setup = .ran .drew trace left ∧
      Draws setup console x y height left := by
  have wf := reach.wellFormed
  have sound : (Instruction.draw x y height).fault? setup.dialect console.machine = none := by
    rw [← Machine.fault?_of_pointsAt pointed, Option.eq_none_iff_forall_ne_some]
    intro fault met
    exact accepted _ _ (step_of_fault? wf.pc_nonneg running met)
  obtain ⟨trace, hstep⟩ := step_draw wf running pointed sound
  exact ⟨trace, _, hstep, draws_afterSprite wf sound⟩

/-- A zero is drawn a second time in the same corner, around both edges of the screen.  Its anchor
is read from VF before that is set to tell that pixels go off. -/
theorem draws_of_accepted_around_corner :
    let setup : Setup := { dialect := { clipsSprites := false } }
    let console := ({} : Console).acts setup
      [.load [0x6F, 0xFE, 0xDF, 0xF5, 0x6F, 0xFE, 0xDF, 0xF5], .cycle, .cycle, .cycle]
    ∃ trace left, console.step setup = .ran .drew trace left ∧ Draws setup console 15 15 5 left ∧
      console.machine.screen.isLit 1 2 = true ∧ left.machine.screen.isLit 1 2 = false ∧
      left.machine.register Register.flag = 1 := by
  intro setup console
  have reach : console.machine.Reachable := ⟨setup, console, reachable_iff.mpr ⟨_, rfl⟩, rfl⟩
  obtain ⟨running, hpc, hword, sound, hlit, hbit⟩ :
      console.machine.activity = .running ∧ console.machine.pc = 0x206 ∧
        (Instruction.draw 15 15 5).word.toNat = console.machine.memory[0x206].toNat * 256 +
          console.machine.memory[0x206 + 1].toNat ∧
        console.machine.fault? setup.dialect = none ∧
        console.machine.screen.isLit 1 2 = true ∧
        console.machine.spriteBit false (console.anchorColumn 15) (console.anchorRow 15) 5 1 2 =
          true := by
    decide +kernel
  have pointed : console.machine.PointsAt (Instruction.draw 15 15 5).word :=
    ⟨0x206, by decide, hpc, hword⟩
  have accepted (fault : Fault) (left : Console) : console.step setup ≠ .faulted fault left := by
    rcases step_of_fault?_none reach.wellFormed running sound with ⟨_, _, _, -, -, hran⟩
    rw [hran]
    exact Outcome.noConfusion
  rcases draws_of_accepted reach running pointed accepted with ⟨trace, left, hstep, draws⟩
  have hoff : left.machine.screen.isLit 1 2 = false := by
    rw [draws.pixel_eq 1 (by decide) 2 (by decide), hlit, Bool.true_xor, Bool.not_eq_false']
    exact hbit
  exact ⟨trace, left, hstep, draws, hlit, hoff,
    draws.flag_eq_one_iff.mpr ⟨1, by decide, 2, by decide, hlit, hoff⟩⟩

end Console

end ChipEight
