import ChipEight.Proofs.Numerals
import ChipEight.Proofs.Rates
import Mathlib

/-!
# What the labels of the rates show

Two labels tell how much is going on: how many drawings there were a second, and how many cycles.
They change when the rates are taken, which is a second after the last time or later.  The first
number is divided by the time that has gone by; the second one is not.

* `Precision.binary_near`, `Tenths.tenths_near` — the error of a quotient that is rounded twice.
* `Span.rate_near` — a count per second is right to the nearest tenth.
* `Window.ShowsDrawingRate`, `Window.ShowsCycleRate` — a label that shows a rate.
* `Window.TakesRates`, `Window.counted_of_takesRates` — what is counted when the rates are taken.
* **`Window.labels_of_takesRates`** — what both labels show, after any events.
* **`Window.not_showsCycleRate_two_seconds`** — twelve cycles in two seconds, which are not shown as
  six a second.
-/

namespace ChipEight

/-! ## Quotients -/

namespace Precision

/-- Rounding does not go below the whole part. -/
lemma div_le_roundDiv (n d : Nat) : n / d ≤ roundDiv n d := by
  simp only [roundDiv]
  split_ifs <;> omega

/-- A number of 53 binary digits and more is kept as such. -/
lemma le_keep {n : Int} (h : 2 ^ 53 ≤ n) : 2 ^ 53 ≤ keep n := by
  by_cases hsmall : n.natAbs ≤ 1 <<< 53
  · rwa [keep_small hsmall]
  obtain ⟨n, rfl⟩ := Int.eq_ofNat_of_zero_le (by omega : 0 ≤ n)
  have hlarge : 2 ^ 53 < n := by simpa using hsmall
  have hlog : 53 ≤ n.log2 := (Nat.le_log2 (by omega)).mpr hlarge.le
  have hunit : 0 < 2 ^ (n.log2 - 52) := Nat.two_pow_pos _
  have hdigits : 2 ^ 52 ≤ n / 2 ^ (n.log2 - 52) := by
    rw [Nat.le_div_iff_mul_le hunit, ← Nat.pow_add,
      show 52 + (n.log2 - 52) = n.log2 by omega]
    exact Nat.log2_self_le (by omega)
  have htwo : 2 ≤ 2 ^ (n.log2 - 52) := Nat.le_self_pow (by omega) 2
  have hkeep : keepSize n = roundDiv n (2 ^ (n.log2 - 52)) * 2 ^ (n.log2 - 52) := by
    rw [keepSize, if_neg (by simpa using hlarge), Nat.one_shiftLeft]
  have hsize : 2 ^ 53 ≤ keepSize n := by
    rw [hkeep]
    calc 2 ^ 53 = 2 ^ 52 * 2 := rfl
      _ ≤ roundDiv n (2 ^ (n.log2 - 52)) * 2 ^ (n.log2 - 52) :=
        Nat.mul_le_mul (hdigits.trans (div_le_roundDiv _ _)) htwo
  change (2 ^ 53 : Int) ≤ (keepSize n : Int)
  exact_mod_cast hsize

/-- Scaled by a power of two, numbers of so many digits differ by so many. -/
lemma scaled_le {n d : Nat} {shift : Int} (hn : n ≠ 0)
    (hshift : shift = 53 - (n.log2 : Int) + d.log2) :
    2 ^ 52 * (d * 2 ^ (-shift).toNat) ≤ n * 2 ^ shift.toNat := by
  have hsum : n.log2 + shift.toNat = 52 + (d.log2 + 1 + (-shift).toNat) := by omega
  calc 2 ^ 52 * (d * 2 ^ (-shift).toNat)
      ≤ 2 ^ 52 * (2 ^ (d.log2 + 1) * 2 ^ (-shift).toNat) := by
        gcongr
        exact Nat.lt_log2_self.le
    _ = 2 ^ n.log2 * 2 ^ shift.toNat := by
        rw [← Nat.pow_add, ← Nat.pow_add, ← Nat.pow_add, hsum]
    _ ≤ n * 2 ^ shift.toNat := by
        gcongr
        exact Nat.log2_self_le hn

/-- **A quotient is scaled until 53 binary digits stand before the point,** and then rounded. -/
lemma exists_binary_eq {n d : Nat} (hn : n ≠ 0) (hd : 0 < d) :
    ∃ up down, 0 < up ∧ 0 < down ∧ binary n d = (roundDiv (n * up) (d * down) * down, up) ∧
      2 ^ 52 * (d * down) ≤ n * up := by
  let guess : Int := 52 - n.log2 + d.log2
  by_cases hfew : n * 1 <<< guess.toNat / (d * 1 <<< (-guess).toNat) < 1 <<< 52
  · refine ⟨2 ^ (guess + 1).toNat, 2 ^ (-(guess + 1)).toNat, Nat.two_pow_pos _, Nat.two_pow_pos _,
      ?_, scaled_le hn (by omega)⟩
    simp only [binary, if_neg hn]
    rw [if_pos hfew]
    simp only [Nat.one_shiftLeft]
    rfl
  · refine ⟨2 ^ guess.toNat, 2 ^ (-guess).toNat, Nat.two_pow_pos _, Nat.two_pow_pos _, ?_, ?_⟩
    · simp only [binary, if_neg hn]
      rw [if_neg hfew]
      simp only [Nat.one_shiftLeft]
      rfl
    · simp only [Nat.one_shiftLeft, not_lt] at hfew
      exact (Nat.le_div_iff_mul_le (Nat.mul_pos hd (Nat.two_pow_pos _))).mp hfew

/-- **A quotient is kept to 53 binary digits:** the error is less than its 2^53rd part. -/
lemma binary_near {n d : Nat} (hn : n ≠ 0) (hd : 0 < d) :
    0 < (binary n d).2 ∧
      2 ^ 53 * ((binary n d).1 * d) ≤ 2 ^ 53 * (n * (binary n d).2) + n * (binary n d).2 ∧
      2 ^ 53 * (n * (binary n d).2) ≤ 2 ^ 53 * ((binary n d).1 * d) + n * (binary n d).2 := by
  obtain ⟨up, down, hup, hdown, hbinary, hscaled⟩ := exists_binary_eq hn hd
  obtain ⟨hle, hge⟩ := roundDiv_near (n * up) (Nat.mul_pos hd hdown)
  rw [hbinary]
  simp only
  have hproduct : roundDiv (n * up) (d * down) * down * d =
      d * down * roundDiv (n * up) (d * down) := by ring
  rw [hproduct]
  exact ⟨hup, by omega, by omega⟩

end Precision

namespace Tenths

/-- **The tenths of a quotient are the nearest ones,** as long as the quotient is not so large that
its 53 binary digits no longer tell them apart. -/
lemma tenths_near {n d : Nat} (hd : 0 < d) (hn : 20 * n < 2 ^ 53) :
    2 * (d * tenths n d) ≤ 20 * n + d ∧ 20 * n ≤ 2 * (d * tenths n d) + d := by
  rcases Nat.eq_zero_or_pos n with rfl | hpos
  · simp [tenths, Precision.binary, Precision.roundDiv]
  obtain ⟨hup, hle, hge⟩ := Precision.binary_near hpos.ne' hd
  obtain ⟨hle', hge'⟩ := Precision.roundDiv_near (10 * (Precision.binary n d).1) hup
  rw [tenths]
  generalize (Precision.binary n d).1 = p at *
  generalize (Precision.binary n d).2 = q at *
  generalize Precision.roundDiv (10 * p) q = k at *
  -- a tenth more or less would be an error of a `d`th part at least, and the digits err by less
  have hexact : 20 * n * q < 2 ^ 53 * q := Nat.mul_lt_mul_of_pos_right hn hup
  have hbelow := Nat.mul_le_mul_left d hle'
  have habove := Nat.mul_le_mul_left d hge'
  constructor
  · by_contra hlarge
    have hstep := Nat.mul_le_mul_right q (Nat.succ_le_of_lt (not_le.mp hlarge))
    linarith
  · by_contra hlarge
    have hstep := Nat.mul_le_mul_right q (Nat.succ_le_of_lt (not_le.mp hlarge))
    linarith

/-- The tenths as a number. -/
lemma abs_tenths_sub_le {n d : Nat} (hd : 0 < d) (hn : 20 * n < 2 ^ 53) :
    |(tenths n d : ℚ) / 10 - n / d| ≤ 1 / 20 := by
  obtain ⟨hle, hge⟩ := tenths_near hd hn
  have hd' : (0 : ℚ) < d := Nat.cast_pos.mpr hd
  have hle' : (2 * (d * tenths n d) : ℚ) ≤ 20 * n + d := by exact_mod_cast hle
  have hge' : (20 * n : ℚ) ≤ 2 * (d * tenths n d) + d := by exact_mod_cast hge
  have hquotient : (tenths n d : ℚ) / 10 - n / d = (2 * (d * tenths n d) - 20 * n) / (20 * d) := by
    field_simp
    ring
  rw [hquotient, abs_le, le_div_iff₀ (by linarith), div_le_iff₀ (by linarith)]
  constructor
  · linarith
  · linarith

end Tenths

namespace Span

/-- Up to 53 binary digits the clock loses nothing. -/
lemma ofQuarters_of_le {time : Nat} (h : time ≤ 2 ^ 53) : ofQuarters time = .quarters time := by
  have hkeep : Precision.keep time = time := Precision.keep_small (by simpa using h)
  have hlimit : 2 ^ 53 < limit := by decide
  simp only [ofQuarters, hkeep]
  rw [if_neg (by omega), if_neg (by omega)]

/-- Over a very long time, what did not happen more often still has no rate. -/
lemma rate_ofQuarters_of_lt {time count : Nat} (htime : 2 ^ 53 < time)
    (hcount : 80 * count < 2 ^ 53) : (ofQuarters time).rate count = Tenths.quotient 0 1 := by
  have hkeep : 2 ^ 53 ≤ Precision.keep time := Precision.le_keep (by exact_mod_cast htime.le)
  have hlimit : 2 ^ 53 < limit := by decide
  simp only [ofQuarters]
  split_ifs with hend hback
  · rfl
  · omega
  · have hnear := (Tenths.tenths_near (n := 4 * count) (d := (Precision.keep time).toNat) (by omega)
      (by omega)).1
    have hzero : Tenths.tenths (4 * count) (Precision.keep time).toNat = 0 := by
      by_contra hsome
      have hone := Nat.mul_le_mul_left (Precision.keep time).toNat (Nat.pos_of_ne_zero hsome)
      omega
    rw [rate, Tenths.quotient, hzero]
    rfl

/-- **How often a second something happened,** as a number with one decimal place. -/
theorem rate_near {time count : Nat} (htime : 0 < time) (hcount : 80 * count < 2 ^ 53) :
    ∃ tenths : Nat, (ofQuarters time).rate count =
        Numeral.decimal (tenths / 10) ++ "." ++ Numeral.decimal (tenths % 10) ∧
      |(tenths : ℚ) / 10 - count / ((time : ℚ) / 4)| ≤ 1 / 20 := by
  have hpos : (0 : ℚ) < time := Nat.cast_pos.mpr htime
  have hquotient : (count : ℚ) / ((time : ℚ) / 4) = (4 * count : Nat) / (time : Nat) := by
    push_cast
    field_simp
  rw [hquotient]
  by_cases hshort : time ≤ 2 ^ 53
  · rw [ofQuarters_of_le hshort]
    exact ⟨Tenths.tenths (4 * count) time, rfl, Tenths.abs_tenths_sub_le htime (by omega)⟩
  · refine ⟨0, rate_ofQuarters_of_lt (by omega) hcount, ?_⟩
    have hfew : ((80 * count : Nat) : ℚ) ≤ time := by exact_mod_cast (by omega : 80 * count ≤ time)
    have hnonneg : (0 : ℚ) ≤ (4 * count : Nat) / (time : Nat) := by positivity
    rw [Nat.cast_zero, zero_div, zero_sub, abs_neg, abs_of_nonneg hnonneg, div_le_iff₀ hpos]
    push_cast at hfew ⊢
    linarith

end Span

namespace Window

variable {window : Window} {earlier since : List Event} {quarters : Int}

/-! ## Rates and when they are taken -/

/-- The label of the drawings shows how many there were a second, to the nearest tenth. -/
def ShowsDrawingRate (window : Window) (drawings : Nat) (seconds : ℚ) : Prop :=
  ∃ tenths : Nat,
    window.drawingsText =
      "FPS: " ++ Numeral.decimal (tenths / 10) ++ "." ++ Numeral.decimal (tenths % 10) ∧
    |(tenths : ℚ) / 10 - drawings / seconds| ≤ 1 / 20

/-- The label of the cycles shows how many there were a second, up to less than one. -/
def ShowsCycleRate (window : Window) (cycles : Nat) (seconds : ℚ) : Prop :=
  ∃ shown : Nat, window.cyclesText = "Cycles/s: " ++ Numeral.decimal shown ∧
    |(shown : ℚ) - cycles / seconds| < 1

/-- **The rates are taken on a wait,** and before that they were last taken on the last of the
earlier events, or not at all if there are none. -/
structure TakesRates (window : Window) (earlier since : List Event) (quarters : Int) : Prop where
  before : earlier = [] ∨ ∃ first pause, earlier = first ++ [.wait pause] ∧
    ((window.after first).taking? (.wait pause)).isSome
  between : takings since (window.after earlier) = []
  taken : ((window.after (earlier ++ since)).taking? (.wait quarters)).isSome

/-! ## The labels -/

/-- **A label that shows the count itself** shows its rate just if less than one of the count falls
to the time beyond a second. -/
lemma showsCycleRate_iff {cycles : Nat} {seconds : ℚ}
    (htext : window.cyclesText = "Cycles/s: " ++ Numeral.decimal cycles) (hseconds : 1 ≤ seconds) :
    window.ShowsCycleRate cycles seconds ↔ cycles * (seconds - 1) < seconds := by
  have hpos : 0 < seconds := by linarith
  have hover : |(cycles : ℚ) - cycles / seconds| = cycles * (seconds - 1) / seconds := by
    have hquotient : (cycles : ℚ) - cycles / seconds = cycles * (seconds - 1) / seconds := by
      field_simp
    rw [hquotient, abs_of_nonneg]
    have hnonneg : (0 : ℚ) ≤ cycles * (seconds - 1) :=
      mul_nonneg (Nat.cast_nonneg _) (by linarith)
    positivity
  rw [← div_lt_one hpos, ← hover]
  constructor
  · rintro ⟨shown, hshown, hnear⟩
    rw [htext, String.append_right_inj, Numeral.decimal_inj] at hshown
    obtain rfl := hshown
    exact hnear
  · intro hnear
    exact ⟨cycles, htext, hnear⟩

/-- The rates are taken on a wait just if a second has gone by. -/
lemma isSome_taking?_iff : (window.taking? (.wait quarters)).isSome ↔
    (window.waited quarters).isDue = true := by
  rw [taking?]
  split_ifs with hdue <;> simp [hdue]

/-- **What the labels show when the rates are taken,** by the times on the clock. -/
lemma labels_takeRates (hdue : window.isDue = true) {first last : Int}
    (hfirst : window.ratesTaken = .quarters first) (hlast : window.clock = .quarters last) :
    let seconds : ℚ := ((last - first : Int) : ℚ) / 4
    1 ≤ seconds ∧
      (80 * window.drawings < 2 ^ 53 →
        window.takeRates.ShowsDrawingRate window.drawings seconds) ∧
      window.takeRates.cyclesText =
        "Cycles/s: " ++ Numeral.decimal window.paced.pacer.cycles := by
  intro seconds
  have hapart := (Span.isFullSecond_since_iff _ _).mp hdue
  rw [hfirst, hlast] at hapart
  simp only [Span.SecondApart, Span.second] at hapart
  obtain ⟨time, htime⟩ := Int.eq_ofNat_of_zero_le (by omega : 0 ≤ last - first)
  have hseconds : seconds = (time : ℚ) / 4 := by
    simp only [seconds, htime, Int.cast_natCast]
  have hlong : (4 : ℚ) ≤ time := by exact_mod_cast (by omega : 4 ≤ time)
  have hsince : window.clock.since window.ratesTaken = some (.ofQuarters time) := by
    rw [hlast, hfirst, Span.since, htime]
  have hfull : (Span.ofQuarters time).isFullSecond = true := by
    rw [Span.isFullSecond_ofQuarters]
    simp only [Span.second]
    omega
  obtain ⟨hdrawingsText, hcyclesText⟩ :
      window.takeRates.drawingsText = "FPS: " ++ (Span.ofQuarters time).rate window.drawings ∧
        window.takeRates.cyclesText =
          "Cycles/s: " ++ Numeral.decimal window.paced.pacer.cycles := by
    simp only [takeRates, hsince, hfull, if_true, and_self]
  refine ⟨by rw [hseconds]; linarith, fun hfew => ?_, hcyclesText⟩
  obtain ⟨tenths, hrate, hnear⟩ := Span.rate_near (by omega : 0 < time) hfew
  exact ⟨tenths, by rw [hdrawingsText, hrate]; simp only [String.append_assoc], hseconds ▸ hnear⟩

/-- When the rates have been taken, everything is counted from there. -/
lemma fresh_of_takesRates (new : window.IsNew) (taken : window.TakesRates earlier since quarters) :
    (window.after earlier).paced.pacer.cycles = 0 ∧ (window.after earlier).drawings = 0 ∧
      (window.after earlier).ratesTaken = (window.after earlier).clock := by
  rcases taken.before with rfl | ⟨before, pause, rfl, isTaken⟩
  · obtain ⟨options, setup, journal, program, machine, -, rfl⟩ := new
    exact ⟨rfl, rfl, rfl⟩
  · obtain ⟨drawingsText, htaken⟩ := takeRates_of_isDue (isSome_taking?_iff.mp isTaken)
    rw [after_append, after_cons, after_nil,
      show ((window.after before).handle (.wait pause)).1 = _ from htaken]
    exact ⟨rfl, rfl, rfl⟩

/-- **What is counted when the rates are taken** is what has happened since the last time. -/
lemma counted_of_takesRates (new : window.IsNew)
    (taken : window.TakesRates earlier since quarters) :
    let here := window.after (earlier ++ since)
    here.paced.pacer.cycles = (window.after earlier).executions since ∧
      here.drawings = since.count .draw ∧ here.ratesTaken = (window.after earlier).clock := by
  intro here
  have hhere : here = (window.after earlier).after since := after_append window earlier since
  have wf := wellFormed_after new.wellFormed earlier
  obtain ⟨hcycles, hdrawings, hratesTaken⟩ := fresh_of_takesRates new taken
  have hexecuted := takings_cycles wf since
  have hdrawn := takings_drawings wf since
  have hlast := ratesTaken_after wf since
  rw [taken.between, ← hhere] at hexecuted hdrawn hlast
  rw [hcycles] at hexecuted
  rw [hdrawings] at hdrawn
  refine ⟨?_, ?_, hlast.trans hratesTaken⟩
  · simpa using hexecuted
  · simpa using hdrawn

/-- **What the labels show.**  Let any events happen to a window that has just opened, and let the
rates be taken at the end of them.  A second or more has gone by since the last time.  The label of
the drawings shows how many there were a second, unless there were so many that 53 binary digits do
not tell a tenth any more.  The label of the cycles, however, shows how many were executed since the
last time, and this is their rate just if less than one of them falls to the time beyond a
second. -/
theorem labels_of_takesRates (new : window.IsNew) {events : List Event}
    (history : played events window = earlier ++ since ++ [.wait quarters])
    (taken : window.TakesRates earlier since quarters) {first last : Int}
    (hfirst : (window.after earlier).clock = .quarters first)
    (hlast : (play events window).1.clock = .quarters last) :
    let now := (play events window).1
    let cycles := (window.after earlier).executions since
    let drawings := since.count .draw
    let seconds : ℚ := ((last - first : Int) : ℚ) / 4
    1 ≤ seconds ∧
      (80 * drawings < 2 ^ 53 → now.ShowsDrawingRate drawings seconds) ∧
      now.cyclesText = "Cycles/s: " ++ Numeral.decimal cycles ∧
      (now.ShowsCycleRate cycles seconds ↔ cycles * (seconds - 1) < seconds) := by
  intro now cycles drawings seconds
  obtain ⟨hcycles, hdrawings, hratesTaken⟩ := counted_of_takesRates new taken
  have hdue := isSome_taking?_iff.mp taken.taken
  set due := (window.after (earlier ++ since)).waited quarters
  have hnow : now = due.takeRates := by
    change (play events window).1 = _
    rw [play_eq, history, after_append]
    rfl
  have hclock : due.clock = .quarters last := by
    obtain ⟨drawingsText, htaken⟩ := takeRates_of_isDue hdue
    rw [← hlast]
    change _ = now.clock
    rw [hnow, htaken]
  obtain ⟨hone, hrate, htext⟩ := labels_takeRates hdue (hratesTaken.trans hfirst) hclock
  have hexecuted : due.paced.pacer.cycles = cycles := hcycles
  have hdrawn : due.drawings = drawings := hdrawings
  rw [← hnow, hdrawn] at hrate
  rw [← hnow, hexecuted] at htext
  exact ⟨hone, hrate, htext, showsCycleRate_iff htext hone⟩

/-- A program that stays where it is, twelve cycles of it, and a wait of two seconds.  The label
shows twelve cycles a second. -/
theorem not_showsCycleRate_two_seconds :
    let machine := (Machine.powerOn.load [0x12, 0x00]).getD Machine.powerOn
    let window := opened { program := "stay.ch8", cycles := 6 } {} machine {}
    let since : List Event := [.tick, .tick, .draw]
    window.IsNew ∧ played (since ++ [.wait 8]) window = since ++ [.wait 8] ∧
      window.TakesRates [] since 8 ∧ window.clock = .quarters 0 ∧
      (play (since ++ [.wait 8]) window).1.clock = .quarters 8 ∧ window.executions since = 12 ∧
      ¬ (play (since ++ [.wait 8]) window).1.ShowsCycleRate 12 2 := by
  intro machine window since
  have new : window.IsNew :=
    ⟨{ program := "stay.ch8", cycles := 6 }, {}, {}, [0x12, 0x00], machine, rfl, rfl⟩
  obtain ⟨hplayed, hbetween, htaken, hclock, hexecuted, htext⟩ :
      played (since ++ [.wait 8]) window = since ++ [.wait 8] ∧
        takings since (window.after []) = [] ∧
        ((window.after ([] ++ since)).taking? (.wait 8)).isSome ∧
        (play (since ++ [.wait 8]) window).1.clock = .quarters 8 ∧
        window.executions since = 12 ∧
        (play (since ++ [.wait 8]) window).1.cyclesText = "Cycles/s: " ++ Numeral.decimal 12 := by
    decide +kernel
  refine ⟨new, hplayed, ⟨.inl rfl, hbetween, htaken⟩, rfl, hclock, hexecuted, ?_⟩
  rw [showsCycleRate_iff htext (by norm_num)]
  norm_num

/-- A program that stays where it is, three cycles a frame.  The rates are taken after a second, and
again after one frame more and five quarters: over so short a time both labels show rates. -/
theorem labels_of_takesRates_five_quarters :
    let machine := (Machine.powerOn.load [0x12, 0x00]).getD Machine.powerOn
    let window := opened { program := "stay.ch8", cycles := 3 } {} machine {}
    let earlier : List Event := [.tick, .draw, .wait 3, .tick, .draw, .wait 1]
    let since : List Event := [.tick, .draw]
    let now := (play (earlier ++ since ++ [.wait 5]) window).1
    window.IsNew ∧ window.TakesRates earlier since 5 ∧ now.ShowsDrawingRate 1 (5 / 4) ∧
      now.ShowsCycleRate 3 (5 / 4) := by
  intro machine window earlier since now
  have new : window.IsNew :=
    ⟨{ program := "stay.ch8", cycles := 3 }, {}, {}, [0x12, 0x00], machine, rfl, rfl⟩
  obtain ⟨hplayed, hbefore, hbetween, htaken, hfirst, hlast, hexecuted⟩ :
      played (earlier ++ since ++ [.wait 5]) window = earlier ++ since ++ [.wait 5] ∧
        ((window.after [.tick, .draw, .wait 3, .tick, .draw]).taking? (.wait 1)).isSome ∧
        takings since (window.after earlier) = [] ∧
        ((window.after (earlier ++ since)).taking? (.wait 5)).isSome ∧
        (window.after earlier).clock = .quarters 4 ∧ now.clock = .quarters 9 ∧
        (window.after earlier).executions since = 3 := by
    decide +kernel
  have taken : window.TakesRates earlier since 5 :=
    ⟨.inr ⟨[.tick, .draw, .wait 3, .tick, .draw], 1, rfl, hbefore⟩, hbetween, htaken⟩
  have hseconds : (((9 : Int) - 4 : Int) : ℚ) / 4 = 5 / 4 := by norm_num
  obtain ⟨-, hdrawings, -, hcycles⟩ := labels_of_takesRates new hplayed taken hfirst hlast
  rw [hexecuted, hseconds] at hcycles
  rw [hseconds, show since.count .draw = 1 by decide] at hdrawings
  exact ⟨new, taken, hdrawings (by norm_num), hcycles.mpr (by norm_num)⟩

end Window

end ChipEight
