import Mathlib.Algebra.Order.Field.Rat
import Mathlib.Data.List.Basic
import Mathlib.Tactic.Linarith
import Mathlib.Tactic.NormNum
import Smsl.Source.Size

namespace Smsl.Size

/-!
# Sizes as they are shown

A size is shown as a number of bytes, or with two decimals in the first unit in
which it stays below 1024.  The number shown is within half a hundredth of the
size, and it is at least one.  It is rounded after its unit was chosen, so that
sizes directly below the next unit are shown as 1024.00 of the smaller one; this
module says exactly which sizes these are.
-/

/-- The units above the byte. -/
inductive LargeUnit where
  | kilobyte
  | megabyte
  | gigabyte
  deriving Repr, DecidableEq

namespace LargeUnit

def label : LargeUnit → String
  | .kilobyte => "KB"
  | .megabyte => "MB"
  | .gigabyte => "GB"

/-- The bytes of one unit. -/
def scale : LargeUnit → Nat
  | .kilobyte => 1024
  | .megabyte => 1048576
  | .gigabyte => 1073741824

theorem scale_pos (unit : LargeUnit) :
    0 < unit.scale := by
  cases unit <;> decide

end LargeUnit

/-- What is shown of a size: whole bytes, or hundredths of a larger unit. -/
inductive Shown where
  | bytes (count : Nat)
  | hundredths (count : Nat) (unit : LargeUnit)
  deriving Repr, DecidableEq

namespace Shown

/-- How it is written. -/
def text : Shown → String
  | .bytes count => toString count ++ " B"
  | .hundredths count unit => decimals count ++ " " ++ unit.label

/-- The number that is shown. -/
def number : Shown → ℚ
  | .bytes count => count
  | .hundredths count _ => count / 100

/-- The bytes of the unit in which the number is shown. -/
def scale : Shown → ℚ
  | .bytes _ => 1
  | .hundredths _ unit => unit.scale

/-- The number times the unit is the size, up to half a hundredth of the unit. -/
def Accurate
    (shown : Shown)
    (size : Nat) :
    Prop :=
  |shown.number * shown.scale - size| ≤ 5 / 1000 * shown.scale

/-- A number of a larger unit is at least one. -/
def AtLeastOne : Shown → Prop
  | .bytes _ => True
  | .hundredths count _ => 1 ≤ (count / 100 : ℚ)

/-- The number is too small for the next unit, if there is one. -/
def BelowNext : Shown → Prop
  | .bytes count => count ≤ 1023
  | .hundredths count .kilobyte => (count / 100 : ℚ) < 1024
  | .hundredths count .megabyte => (count / 100 : ℚ) < 1024
  | .hundredths _ .gigabyte => True

/-- What is shown of a size, before it is written. -/
def ofSize (size : Nat) : Shown :=
  if size < 1024 then
    .bytes size
  else if size < 1048576 then
    .hundredths (roundDiv (100 * size) 1024) .kilobyte
  else if size < 1073741824 then
    .hundredths (roundDiv (100 * size) 1048576) .megabyte
  else
    .hundredths (roundDiv (100 * size) 1073741824) .gigabyte

end Shown

/-- At least 1023.995 of a unit that has a larger one, but not 1024. -/
def RoundsUpToNext (size : Nat) : Prop :=
  ∃ unit ∈ [LargeUnit.kilobyte, LargeUnit.megabyte],
    204799 * unit.scale ≤ 200 * size ∧ size < 1024 * unit.scale

instance (size : Nat) : Decidable (RoundsUpToNext size) :=
  inferInstanceAs (Decidable (∃ unit ∈ [LargeUnit.kilobyte, LargeUnit.megabyte], _))

/-- The size is shown accurately, in a unit that it reaches and below the next one. -/
def WellDescribed (size : Nat) : Prop :=
  ∃ shown : Shown,
    describe size = shown.text ∧
      shown.AtLeastOne ∧ shown.BelowNext ∧ shown.Accurate size

/-! Rounding. -/

/-- A rounded quotient is within half a divisor of the dividend. -/
theorem roundDiv_near
    (dividend : Nat)
    {divisor : Nat}
    (positive : 0 < divisor) :
    2 * dividend ≤ 2 * (roundDiv dividend divisor * divisor) + divisor ∧
      2 * (roundDiv dividend divisor * divisor) ≤ 2 * dividend + divisor := by
  have whole := Nat.div_add_mod dividend divisor
  have small := Nat.mod_lt dividend positive
  unfold roundDiv
  rw [Nat.mul_comm divisor] at whole
  dsimp only
  split
  case isTrue rounded =>
      omega
  case isFalse rounded =>
      rw [Nat.add_mul]
      omega

/-- A rounded quotient is below an even number exactly if the quotient is, by more than a half. -/
theorem roundDiv_lt_iff
    (dividend : Nat)
    {divisor bound : Nat}
    (positive : 0 < divisor)
    (even : bound % 2 = 0) :
    roundDiv dividend divisor < bound ↔ 2 * dividend + divisor < 2 * (bound * divisor) := by
  have whole := Nat.div_add_mod dividend divisor
  have small := Nat.mod_lt dividend positive
  rw [Nat.mul_comm divisor] at whole
  unfold roundDiv
  dsimp only
  generalize dividend / divisor = quotient at whole ⊢
  generalize dividend % divisor = rest at whole small ⊢
  -- Only directly below the bound does the rest decide, and the quotient is odd there.
  rcases Nat.lt_trichotomy (quotient + 1) bound with farBelow | directlyBelow | notBelow
  · have scaled := Nat.mul_le_mul_right divisor farBelow
    simp only [Nat.succ_eq_add_one, Nat.add_mul] at scaled
    split <;> omega
  · subst directlyBelow
    rw [Nat.add_mul]
    split <;> omega
  · have scaled := Nat.mul_le_mul_right divisor (Nat.le_of_lt_succ notBelow)
    split <;> omega

theorem le_roundDiv
    {dividend divisor bound : Nat}
    (positive : 0 < divisor)
    (reaches : bound * divisor ≤ dividend) :
    bound ≤ roundDiv dividend divisor := by
  have below : bound ≤ dividend / divisor := (Nat.le_div_iff_mul_le positive).mpr reaches
  unfold roundDiv
  dsimp only
  split <;> omega

/-- Numbers of up to 53 binary digits are kept as they are. -/
theorem toPrecision_eq
    {size : Nat}
    (exact : size < 2 ^ 53) :
    toPrecision size = size := by
  have short : Nat.log2 size - 52 = 0 := by
    rcases Nat.eq_zero_or_pos size with rfl | positive
    · rfl
    · have digits := (Nat.log2_lt (Nat.ne_of_gt positive)).mpr exact
      omega
  simp [toPrecision, short, roundDiv, Nat.mod_one]

/-! What is written. -/

theorem inUnit_of_lt
    {size scale : Nat}
    (below : size < 1024 * scale)
    (unit : String)
    (larger : List String) :
    inUnit size scale unit larger =
      decimals (roundDiv (100 * size) scale) ++ " " ++ unit := by
  cases larger with
  | nil =>
      rfl
  | cons next rest =>
      rw [inUnit, if_pos below]

theorem inUnit_of_le
    {size scale : Nat}
    (reaches : 1024 * scale ≤ size)
    (unit next : String)
    (rest : List String) :
    inUnit size scale unit (next :: rest) = inUnit size (1024 * scale) next rest := by
  rw [inUnit, if_neg (Nat.not_lt.mpr reaches)]

/-- A size that is exact in 53 binary digits is written as it is shown. -/
theorem describe_eq_text
    {size : Nat}
    (exact : size < 2 ^ 53) :
    describe size = (Shown.ofSize size).text := by
  rw [describe, toPrecision_eq exact, Shown.ofSize]
  by_cases inBytes : size < 1024
  · rw [if_pos inBytes, if_pos inBytes]
    rfl
  rw [if_neg inBytes, if_neg inBytes]
  by_cases inKilobytes : size < 1048576
  · rw [if_pos inKilobytes, inUnit_of_lt inKilobytes]
    rfl
  rw [if_neg inKilobytes, inUnit_of_le (Nat.not_lt.mp inKilobytes)]
  by_cases inMegabytes : size < 1073741824
  · rw [if_pos inMegabytes, inUnit_of_lt inMegabytes]
    rfl
  · rw [if_neg inMegabytes, inUnit_of_le (Nat.not_lt.mp inMegabytes)]
    rfl

/-- The two digits behind the point. -/
def fractionDigits (fraction : Nat) : List Char :=
  (if fraction < 10 then ['0'] else []) ++ Nat.toDigits 10 fraction

theorem toList_decimals (hundredths : Nat) :
    (decimals hundredths).toList =
      Nat.toDigits 10 (hundredths / 100) ++ '.' :: fractionDigits (hundredths % 100) := by
  unfold decimals fractionDigits
  dsimp only
  split <;> simp [Nat.toString_eq_repr, Nat.toList_repr]

theorem point_not_mem_toDigits (number : Nat) :
    '.' ∉ Nat.toDigits 10 number := by
  intro member
  have isDigit := Nat.isDigit_of_mem_toDigits (by decide) (by decide) member
  revert isDigit
  decide

theorem toDigits_injective : Function.Injective (Nat.toDigits 10) := by
  intro first second same
  calc
    first = Nat.ofDigitChars 10 (Nat.toDigits 10 first) 0 :=
      Nat.ofDigitChars_ten_toDigits.symm
    _ = Nat.ofDigitChars 10 (Nat.toDigits 10 second) 0 := by rw [same]
    _ = second := Nat.ofDigitChars_ten_toDigits

theorem fractionDigits_injective : Function.Injective fractionDigits := by
  have readBack (fraction : Nat) :
      Nat.ofDigitChars 10 (fractionDigits fraction) 0 = fraction := by
    unfold fractionDigits
    split <;> simp [Nat.ofDigitChars_cons]
  intro first second same
  rw [← readBack first, same, readBack second]

theorem decimals_injective : Function.Injective decimals := by
  intro first second same
  have sameDigits := congrArg String.toList same
  rw [toList_decimals, toList_decimals,
    List.append_cons_inj_of_notMem (point_not_mem_toDigits _) ?_] at sameDigits
  · obtain ⟨sameWhole, _, sameFraction⟩ := sameDigits
    have whole := toDigits_injective sameWhole
    have fraction := fractionDigits_injective sameFraction
    omega
  · unfold fractionDigits
    split <;> simp [point_not_mem_toDigits]

namespace Shown

/-- A written size can be read in one way only. -/
theorem text_injective : Function.Injective text := by
  intro first second same
  -- Read from the end, the unit comes first.
  have sameEnd := congrArg (fun written => written.toList.reverse) same
  cases first with
  | bytes firstCount =>
      cases second with
      | bytes secondCount =>
          simp only [text, String.append_left_inj, Nat.toString_eq_repr] at same
          have sameDigits := congrArg String.toList same
          simp only [Nat.toList_repr] at sameDigits
          rw [toDigits_injective sameDigits]
      | hundredths secondCount secondUnit =>
          cases secondUnit <;> simp [text, LargeUnit.label] at sameEnd
  | hundredths firstCount firstUnit =>
      cases second with
      | bytes secondCount =>
          cases firstUnit <;> simp [text, LargeUnit.label] at sameEnd
      | hundredths secondCount secondUnit =>
          have sameUnit : firstUnit = secondUnit := by
            cases firstUnit <;> cases secondUnit <;> simp [text, LargeUnit.label] at sameEnd ⊢
          subst sameUnit
          simp only [text, String.append_left_inj] at same
          rw [decimals_injective same]

/-! What is shown. -/

theorem accurate_of_roundDiv
    (size : Nat)
    (unit : LargeUnit) :
    (hundredths (roundDiv (100 * size) unit.scale) unit).Accurate size := by
  obtain ⟨lower, upper⟩ := roundDiv_near (100 * size) unit.scale_pos
  have lowerBound :
      (2 * (100 * size) : ℚ) ≤
        2 * (roundDiv (100 * size) unit.scale * unit.scale) + unit.scale := by
    exact_mod_cast lower
  have upperBound :
      (2 * (roundDiv (100 * size) unit.scale * unit.scale) : ℚ) ≤
        2 * (100 * size) + unit.scale := by
    exact_mod_cast upper
  simp only [Accurate, number, scale]
  apply abs_le.mpr
  constructor <;> linarith

theorem atLeastOne_of_roundDiv
    {size : Nat}
    {unit : LargeUnit}
    (reaches : unit.scale ≤ size) :
    (hundredths (roundDiv (100 * size) unit.scale) unit).AtLeastOne := by
  have hundred : 100 ≤ roundDiv (100 * size) unit.scale :=
    le_roundDiv unit.scale_pos (Nat.mul_le_mul_left 100 reaches)
  have hundredRational : (100 : ℚ) ≤ roundDiv (100 * size) unit.scale := by
    exact_mod_cast hundred
  simp only [AtLeastOne]
  linarith

/-- The number shown stays below 1024 exactly below 1023.995 units. -/
theorem roundDiv_lt_next_iff
    (size : Nat)
    (unit : LargeUnit) :
    ((roundDiv (100 * size) unit.scale : ℚ) / 100 < 1024) ↔ 200 * size < 204799 * unit.scale := by
  have inHundredths :
      ((roundDiv (100 * size) unit.scale : ℚ) / 100 < 1024) ↔
        roundDiv (100 * size) unit.scale < 102400 := by
    rw [div_lt_iff₀ (by norm_num)]
    norm_num
  rw [inHundredths, roundDiv_lt_iff _ unit.scale_pos (by decide)]
  omega

theorem roundDiv_eq_next
    {size : Nat}
    {unit : LargeUnit}
    (atLeast : 204799 * unit.scale ≤ 200 * size)
    (below : size < 1024 * unit.scale) :
    roundDiv (100 * size) unit.scale = 102400 := by
  have notBelow : ¬ roundDiv (100 * size) unit.scale < 102400 := by
    rw [roundDiv_lt_iff _ unit.scale_pos (by decide)]
    omega
  have notAbove : roundDiv (100 * size) unit.scale ≤ 102400 := by
    obtain ⟨_, upper⟩ := roundDiv_near (100 * size) unit.scale_pos
    cases unit <;> simp only [LargeUnit.scale] at upper below ⊢ <;> omega
  omega

/-- A size is shown in bytes, or in the first unit in which it stays below 1024. -/
theorem ofSize_cases (size : Nat) :
    size < 1024 ∧ ofSize size = .bytes size ∨
      ∃ unit : LargeUnit,
        unit.scale ≤ size ∧
          (unit ≠ .gigabyte → size < 1024 * unit.scale) ∧
            ofSize size = .hundredths (roundDiv (100 * size) unit.scale) unit := by
  unfold ofSize
  split
  case isTrue inBytes =>
      exact .inl ⟨inBytes, rfl⟩
  case isFalse inBytes =>
      right
      split
      case isTrue inKilobytes =>
          exact ⟨.kilobyte, Nat.not_lt.mp inBytes, fun _ => inKilobytes, rfl⟩
      case isFalse inKilobytes =>
          split
          case isTrue inMegabytes =>
              exact ⟨.megabyte, Nat.not_lt.mp inKilobytes, fun _ => inMegabytes, rfl⟩
          case isFalse inMegabytes =>
              exact ⟨.gigabyte, Nat.not_lt.mp inMegabytes, fun isOther => absurd rfl isOther, rfl⟩

theorem accurate_ofSize (size : Nat) :
    (ofSize size).Accurate size := by
  rcases ofSize_cases size with ⟨_, isBytes⟩ | ⟨unit, _, _, isUnit⟩
  · rw [isBytes]
    norm_num [Accurate, number, scale]
  · rw [isUnit]
    exact accurate_of_roundDiv size unit

theorem atLeastOne_ofSize (size : Nat) :
    (ofSize size).AtLeastOne := by
  rcases ofSize_cases size with ⟨_, isBytes⟩ | ⟨unit, reaches, _, isUnit⟩
  · rw [isBytes]
    trivial
  · rw [isUnit]
    exact atLeastOne_of_roundDiv reaches

end Shown

theorem roundsUpToNext_iff (size : Nat) :
    RoundsUpToNext size ↔
      204799 * 1024 ≤ 200 * size ∧ size < 1024 * 1024 ∨
        204799 * 1048576 ≤ 200 * size ∧ size < 1024 * 1048576 := by
  simp [RoundsUpToNext, LargeUnit.scale]

namespace Shown

/-- Only sizes that round up to the next unit are shown as large as it. -/
theorem belowNext_ofSize_iff (size : Nat) :
    (ofSize size).BelowNext ↔ ¬ RoundsUpToNext size := by
  rw [roundsUpToNext_iff]
  rcases ofSize_cases size with ⟨inBytes, isBytes⟩ | ⟨unit, reaches, below, isUnit⟩
  · rw [isBytes]
    simp only [BelowNext]
    omega
  · rw [isUnit]
    have lt_iff := roundDiv_lt_next_iff size unit
    cases unit with
    | kilobyte | megabyte =>
        have inUnit := below (by decide)
        simp only [BelowNext, lt_iff]
        simp only [LargeUnit.scale] at inUnit reaches ⊢
        omega
    | gigabyte =>
        simp only [BelowNext, true_iff]
        simp only [LargeUnit.scale] at reaches
        omega

/-- A size that rounds up to the next unit is shown as 1024.00. -/
theorem number_ofSize_of_roundsUp
    {size : Nat}
    (roundsUp : RoundsUpToNext size) :
    (ofSize size).number = 1024 := by
  rw [roundsUpToNext_iff] at roundsUp
  rcases ofSize_cases size with ⟨inBytes, isBytes⟩ | ⟨unit, reaches, below, isUnit⟩
  · omega
  · have isNext : roundDiv (100 * size) unit.scale = 102400 := by
      cases unit with
      | kilobyte | megabyte =>
          have inUnit := below (by decide)
          refine roundDiv_eq_next ?_ inUnit
          simp only [LargeUnit.scale] at inUnit reaches ⊢
          omega
      | gigabyte =>
          simp only [LargeUnit.scale] at reaches
          omega
    rw [isUnit, isNext]
    norm_num [number]

end Shown

/-- A size is well described exactly if it is shown below the next unit. -/
theorem wellDescribed_iff_belowNext
    {size : Nat}
    (exact : size < 2 ^ 53) :
    WellDescribed size ↔ (Shown.ofSize size).BelowNext := by
  constructor
  · rintro ⟨shown, isText, _, belowNext, _⟩
    rw [describe_eq_text exact] at isText
    rw [Shown.text_injective isText]
    exact belowNext
  · intro belowNext
    exact
      ⟨Shown.ofSize size, describe_eq_text exact, Shown.atLeastOne_ofSize size, belowNext,
        Shown.accurate_ofSize size⟩

/--
A size below 2^53 is shown accurately and as at least one of its unit.  The number
shown is below the next unit unless the size is within half a hundredth of it:
such a size is shown as 1024.00 of the smaller unit.
-/
theorem well_described_iff_not_roundsUpToNext
    {size : Nat}
    (exact : size < 2 ^ 53) :
    (WellDescribed size ↔ ¬ RoundsUpToNext size) ∧
      ∃ shown : Shown,
        describe size = shown.text ∧
          shown.AtLeastOne ∧ shown.Accurate size ∧
            (RoundsUpToNext size → shown.number = 1024) := by
  refine ⟨(wellDescribed_iff_belowNext exact).trans (Shown.belowNext_ofSize_iff size), ?_⟩
  exact
    ⟨Shown.ofSize size, describe_eq_text exact, Shown.atLeastOne_ofSize size,
      Shown.accurate_ofSize size, Shown.number_ofSize_of_roundsUp⟩

/-- The largest size that is shown in kilobytes and below 1024 of them. -/
theorem well_described_iff_not_roundsUpToNext_of_last_before_window :
    1048570 < 2 ^ 53 ∧ ¬ RoundsUpToNext 1048570 ∧ WellDescribed 1048570 :=
  ⟨by decide, by decide,
    (well_described_iff_not_roundsUpToNext (by decide)).1.mpr (by decide)⟩

/-- One byte below a megabyte is shown as 1024 kilobytes. -/
theorem not_wellDescribed_of_last_kilobyte :
    describe 1048575 = "1024.00 KB" ∧ ¬ WellDescribed 1048575 := by
  refine ⟨by decide +kernel, ?_⟩
  rw [wellDescribed_iff_belowNext (by decide), Shown.belowNext_ofSize_iff]
  decide

end Smsl.Size
