import ChipEight.Text.Numeral
import Mathlib.Algebra.GroupWithZero.Nat
import Mathlib.Tactic.Common

/-!
# Numerals are told apart

A numeral can be read back, however it is filled on the left, so that different numbers never have
the same numeral of one form.  A number that fits has a numeral of exactly the width asked for.

* `Numeral.readHex`, **`Numeral.readHex_padLeft_hexDigits`** — reading a numeral in base sixteen.
* `Numeral.mem_hexDigits`, `Numeral.mem_decimalDigits` — the characters of numerals.
* `Numeral.Lacks` — a text without a certain character, as numerals are.
* `Numeral.hexPadded_inj`, `Numeral.hexSigned_inj`, `Numeral.decimalPadded_inj`,
  `Numeral.decimalSigned_inj` — different numbers have different numerals.
* `Numeral.length_hexPadded`, `Numeral.length_hexSigned`, `Numeral.length_decimalPadded` — the width
  of a numeral.
-/

namespace ChipEight.Numeral

/-! ## Base sixteen -/

/-- The sixteen digits. -/
def hexAlphabet : List Char :=
  ['0', '1', '2', '3', '4', '5', '6', '7', '8', '9', 'A', 'B', 'C', 'D', 'E', 'F']

/-- The value of a digit. -/
def hexValue (c : Char) : Nat :=
  if c.toNat < 58 then c.toNat - 48 else c.toNat - 55

/-- **The number that digits stand for.** -/
def readHex (text : List Char) : Nat :=
  text.foldl (fun value c => 16 * value + hexValue c) 0

lemma readHex_concat (text : List Char) (c : Char) :
    readHex (text ++ [c]) = 16 * readHex text + hexValue c :=
  List.foldl_append

/-- The digit of a value. -/
lemma digitChar_toUpper {value : Nat} (h : value < 16) :
    value.digitChar.toUpper ∈ hexAlphabet ∧ hexValue value.digitChar.toUpper = value := by
  have all : ∀ value : Fin 16, value.val.digitChar.toUpper ∈ hexAlphabet ∧
      hexValue value.val.digitChar.toUpper = value.val := by decide
  exact all ⟨value, h⟩

lemma hexDigits_of_lt {n : Nat} (h : n < 16) : hexDigits n = [n.digitChar.toUpper] := by
  rw [hexDigits, Nat.toDigits_of_lt_base h]
  rfl

lemma hexDigits_of_le {n : Nat} (h : 16 ≤ n) :
    hexDigits n = hexDigits (n / 16) ++ [(n % 16).digitChar.toUpper] := by
  rw [hexDigits, Nat.toDigits_of_base_le (by decide) h, List.map_append]
  rfl

/-- Numbers in base sixteen are written in the sixteen digits. -/
lemma mem_hexDigits {n : Nat} {c : Char} (h : c ∈ hexDigits n) : c ∈ hexAlphabet := by
  induction n using Nat.strongRecOn with
  | ind n ih =>
      by_cases hsmall : n < 16
      · rw [hexDigits_of_lt hsmall, List.mem_singleton] at h
        rw [h]
        exact (digitChar_toUpper hsmall).1
      · rw [hexDigits_of_le (by omega), List.mem_append, List.mem_singleton] at h
        rcases h with hfirst | rfl
        · exact ih (n / 16) (by omega) hfirst
        · exact (digitChar_toUpper (by omega)).1

/-- The digits of a number stand for it. -/
lemma readHex_hexDigits (n : Nat) : readHex (hexDigits n) = n := by
  induction n using Nat.strongRecOn with
  | ind n ih =>
      by_cases hsmall : n < 16
      · rw [hexDigits_of_lt hsmall, ← List.nil_append [_], readHex_concat,
          (digitChar_toUpper hsmall).2]
        exact Nat.zero_add n
      · rw [hexDigits_of_le (by omega), readHex_concat, ih (n / 16) (by omega),
          (digitChar_toUpper (by omega)).2]
        omega

/-- **Zeros on the left do not matter.** -/
theorem readHex_padLeft_hexDigits (width n : Nat) :
    readHex (padLeft width '0' (hexDigits n)) = n := by
  have hzeros : ∀ count, readHex (List.replicate count '0') = 0 := by
    intro count
    induction count with
    | zero => rfl
    | succ count ih => rw [List.replicate_succ', readHex_concat, ih]; rfl
  rw [padLeft, readHex, List.foldl_append]
  change List.foldl _ (readHex _) _ = n
  rw [hzeros]
  exact readHex_hexDigits n

lemma toList_hexPadded (width n : Nat) :
    (hexPadded width n).toList = padLeft width '0' (hexDigits n) :=
  String.toList_ofList

lemma toList_hex (n : Nat) : (hex n).toList = hexDigits n :=
  String.toList_ofList

/-- Filled numerals are written in the sixteen digits, too. -/
lemma mem_hexPadded {width n : Nat} {c : Char} (h : c ∈ (hexPadded width n).toList) :
    c ∈ hexAlphabet := by
  rw [toList_hexPadded, padLeft, List.mem_append] at h
  rcases h with hzero | hdigit
  · rw [List.eq_of_mem_replicate hzero]
    decide
  · exact mem_hexDigits hdigit

lemma hexPadded_inj {width m n : Nat} : hexPadded width m = hexPadded width n ↔ m = n := by
  refine ⟨fun h => ?_, fun h => by rw [h]⟩
  have hread := congrArg (fun text => readHex text.toList) h
  simpa only [toList_hexPadded, readHex_padLeft_hexDigits] using hread

lemma hex_inj {m n : Nat} : hex m = hex n ↔ m = n := by
  refine ⟨fun h => ?_, fun h => by rw [h]⟩
  have hread := congrArg (fun text => readHex text.toList) h
  simpa only [toList_hex, readHex_hexDigits] using hread

/-- A number that fits has a numeral of the width asked for. -/
lemma length_hexPadded {width n : Nat} (hwidth : 0 < width) (h : n < 16 ^ width) :
    (hexPadded width n).toList.length = width := by
  have hlength := (Nat.length_toDigits_le_iff (by decide) hwidth).mpr h
  rw [toList_hexPadded, length_padLeft, hexDigits, List.length_map]
  omega

/-! ## Base ten -/

lemma toList_decimal (n : Nat) : (decimal n).toList = decimalDigits n :=
  String.toList_ofList

/-- Numbers in base ten are written in the ten digits. -/
lemma mem_decimalDigits {n : Nat} {c : Char} (h : c ∈ decimalDigits n) : c.isDigit = true :=
  Nat.isDigit_of_mem_toDigits (by decide) (by decide) h

lemma decimalDigits_inj {m n : Nat} : decimalDigits m = decimalDigits n ↔ m = n := by
  refine ⟨fun h => ?_, fun h => by rw [h]⟩
  have hread := congrArg (fun text => Nat.ofDigitChars 10 text 0) h
  simpa only [decimalDigits, Nat.ofDigitChars_ten_toDigits] using hread

lemma decimal_inj {m n : Nat} : decimal m = decimal n ↔ m = n := by
  rw [decimal, decimal, String.ofList_inj, decimalDigits_inj]

/-- **Blanks on the left do not matter.** -/
lemma decimalPadded_inj {width m n : Nat} :
    decimalPadded width m = decimalPadded width n ↔ m = n := by
  refine ⟨fun h => ?_, fun h => by rw [h]⟩
  have hfilled : ∀ n, (padLeft width ' ' (decimalDigits n)).filter Char.isDigit =
      decimalDigits n := by
    intro n
    rw [padLeft, List.filter_append, List.filter_eq_self.mpr fun _ hc => mem_decimalDigits hc,
      List.filter_eq_nil_iff.mpr, List.nil_append]
    intro c hc
    rw [List.eq_of_mem_replicate hc]
    decide
  rw [decimalPadded, decimalPadded, String.ofList_inj] at h
  rw [← decimalDigits_inj, ← hfilled m, h, hfilled n]

lemma length_decimalPadded {width n : Nat} (hwidth : 0 < width) (h : n < 10 ^ width) :
    (decimalPadded width n).toList.length = width := by
  have hlength := (Nat.length_toDigits_le_iff (by decide) hwidth).mpr h
  rw [decimalPadded, String.toList_ofList, length_padLeft, decimalDigits]
  omega

/-! ## Characters that do not occur -/

/-- **A character does not occur in a text.** -/
def Lacks (c : Char) (text : String) : Prop :=
  c ∉ text.toList

instance (c : Char) (text : String) : Decidable (Lacks c text) :=
  inferInstanceAs (Decidable (c ∉ text.toList))

section Lacks

variable {c : Char} {width n : Nat}

@[simp] lemma lacks_append {first last : String} :
    Lacks c (first ++ last) ↔ Lacks c first ∧ Lacks c last := by
  simp [Lacks, not_or]

lemma lacks_hexPadded (hc : c ∉ hexAlphabet) : Lacks c (hexPadded width n) :=
  fun h => hc (mem_hexPadded h)

lemma lacks_hex (hc : c ∉ hexAlphabet) : Lacks c (hex n) := by
  rw [Lacks, toList_hex]
  exact fun h => hc (mem_hexDigits h)

lemma lacks_decimal (hc : c.isDigit = false) : Lacks c (decimal n) := by
  intro h
  rw [toList_decimal] at h
  exact absurd (mem_decimalDigits h) (by simp [hc])

lemma lacks_decimalPadded (hc : c.isDigit = false) (hblank : c ≠ ' ') :
    Lacks c (decimalPadded width n) := by
  rw [Lacks, decimalPadded, String.toList_ofList, padLeft, List.mem_append, not_or]
  exact ⟨fun h => hblank (List.eq_of_mem_replicate h), fun h => by simp [mem_decimalDigits h] at hc⟩

lemma lacks_hexSigned (hc : c ∉ hexAlphabet) (hminus : Lacks c "-") (number : Int) :
    Lacks c (hexSigned width number) := by
  cases number with
  | ofNat n => exact lacks_hexPadded hc
  | negSucc n => exact lacks_append.mpr ⟨hminus, lacks_hexPadded hc⟩

lemma lacks_decimalSigned (hc : c.isDigit = false) (hminus : Lacks c "-") (number : Int) :
    Lacks c (decimalSigned number) := by
  cases number with
  | ofNat n => exact lacks_decimal hc
  | negSucc n => exact lacks_append.mpr ⟨hminus, lacks_decimal hc⟩

end Lacks

/-! ## Signed numbers -/

/-- A numeral begins with a minus sign just if its number is negative. -/
lemma ne_minus_append {text : String} (h : Lacks '-' text) (other : String) :
    text ≠ "-" ++ other := by
  rintro rfl
  exact absurd (lacks_append.mp h).1 (by decide)

lemma hexSigned_inj {width : Nat} {m n : Int} : hexSigned width m = hexSigned width n ↔ m = n := by
  refine ⟨fun h => ?_, fun h => by rw [h]⟩
  cases m with
  | ofNat m =>
      cases n with
      | ofNat n => rw [hexPadded_inj.mp h]
      | negSucc n => exact absurd h (ne_minus_append (lacks_hexPadded (by decide)) _)
  | negSucc m =>
      cases n with
      | ofNat n => exact absurd h.symm (ne_minus_append (lacks_hexPadded (by decide)) _)
      | negSucc n =>
          have hsucc := hexPadded_inj.mp ((String.append_right_inj "-").mp h)
          rw [Nat.add_right_cancel hsucc]

lemma decimalSigned_inj {m n : Int} : decimalSigned m = decimalSigned n ↔ m = n := by
  refine ⟨fun h => ?_, fun h => by rw [h]⟩
  cases m with
  | ofNat m =>
      cases n with
      | ofNat n => rw [decimal_inj.mp h]
      | negSucc n => exact absurd h (ne_minus_append (lacks_decimal (by decide)) _)
  | negSucc m =>
      cases n with
      | ofNat n => exact absurd h.symm (ne_minus_append (lacks_decimal (by decide)) _)
      | negSucc n =>
          have hsucc := decimal_inj.mp ((String.append_right_inj "-").mp h)
          rw [Nat.add_right_cancel hsucc]

/-- A number that fits and is not negative has a numeral of the width asked for. -/
lemma length_hexSigned {width : Nat} {number : Int} (hwidth : 0 < width) (hnonneg : 0 ≤ number)
    (h : number.toNat < 16 ^ width) : (hexSigned width number).toList.length = width := by
  obtain ⟨n, rfl⟩ := Int.eq_ofNat_of_zero_le hnonneg
  exact length_hexPadded hwidth h

end ChipEight.Numeral
