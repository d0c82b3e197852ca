import Mathlib.Data.Int.Log
import Mathlib.Data.Rat.Floor
import Mathlib.Tactic.Ring

/-!
# Arithmetic with a fixed number of digits

An operation computes its exact result and rounds it to a number of significant digits in
some base, a tie to the even neighbour. Decimal arithmetic with a precision is base ten;
a double is base two with 53 digits.

Numbers are named by their values: how many zeros a decimal carries at its end is left out,
and so are the bounds on exponents.
-/

set_option autoImplicit false

namespace LlmGateway.Library

/-- The nearest integer, and of two the even one. -/
def roundHalfEven (value : ℚ) : ℤ :=
  if value - ⌊value⌋ < 1 / 2 then ⌊value⌋
  else if 1 / 2 < value - ⌊value⌋ then ⌊value⌋ + 1
  else if 2 ∣ ⌊value⌋ then ⌊value⌋
  else ⌊value⌋ + 1

/-- The place value of the last of so many significant digits. -/
def lastPlace (base digits : ℕ) (value : ℚ) : ℚ := (base : ℚ) ^ (Int.log base |value| - digits + 1)

/-- A value rounded to so many significant digits. -/
def roundSignificant (base digits : ℕ) (value : ℚ) : ℚ :=
  if value = 0 then 0
  else roundHalfEven (value / lastPlace base digits value) * lastPlace base digits value

theorem roundHalfEven_nonneg {value : ℚ} (nonneg : 0 ≤ value) : 0 ≤ roundHalfEven value := by
  have floor : 0 ≤ ⌊value⌋ := Int.floor_nonneg.mpr nonneg
  unfold roundHalfEven
  split_ifs <;> omega

/-- Rounding keeps a value on its side of zero. -/
theorem roundSignificant_nonneg (base digits : ℕ) {value : ℚ} (nonneg : 0 ≤ value) :
    0 ≤ roundSignificant base digits value := by
  unfold roundSignificant
  split_ifs
  · exact le_refl 0
  · have place : 0 ≤ lastPlace base digits value := zpow_nonneg (Nat.cast_nonneg base) _
    have quotient : 0 ≤ value / lastPlace base digits value := div_nonneg nonneg place
    exact mul_nonneg (by exact_mod_cast roundHalfEven_nonneg quotient) place

@[simp] theorem roundSignificant_zero (base digits : ℕ) : roundSignificant base digits 0 = 0 := by
  simp [roundSignificant]

theorem roundHalfEven_le_add_one (value : ℚ) : (roundHalfEven value : ℚ) ≤ value + 1 := by
  have floor := Int.floor_le value
  unfold roundHalfEven
  split_ifs <;> push_cast <;> linarith only [floor]

@[simp]
theorem roundHalfEven_intCast (n : ℤ) : roundHalfEven n = n := by
  simp [roundHalfEven]

theorem lastPlace_pos {base : ℕ} (wide : 1 < base) (digits : ℕ) (value : ℚ) :
    0 < lastPlace base digits value :=
  zpow_pos (by exact_mod_cast zero_lt_one.trans wide) _

/-- The last place of a value, in relation to it. -/
theorem lastPlace_le {base : ℕ} (wide : 1 < base) (digits : ℕ) {value : ℚ} (positive : 0 < value) :
    lastPlace base digits value ≤ value * (base : ℚ) ^ (1 - (digits : ℤ)) := by
  have unit : (0 : ℚ) < (base : ℚ) ^ (1 - (digits : ℤ)) :=
    zpow_pos (by exact_mod_cast zero_lt_one.trans wide) _
  have nonzero : (base : ℚ) ≠ 0 := by exact_mod_cast (zero_lt_one.trans wide).ne'
  have split : lastPlace base digits value =
      (base : ℚ) ^ Int.log base value * (base : ℚ) ^ (1 - (digits : ℤ)) := by
    rw [lastPlace, abs_of_pos positive, ← zpow_add₀ nonzero]
    ring_nf
  rw [split]
  exact mul_le_mul_of_nonneg_right (Int.zpow_log_le_self wide positive) unit.le

/-- **A rounded value** is hardly larger. -/
theorem roundSignificant_le {base : ℕ} (wide : 1 < base) (digits : ℕ) {value : ℚ} (nonneg : 0 ≤ value) :
    roundSignificant base digits value ≤ value * (1 + (base : ℚ) ^ (1 - (digits : ℤ))) := by
  rcases nonneg.eq_or_lt with rfl | positive
  · simp [roundSignificant]
  · have place := lastPlace_pos wide digits value
    rw [roundSignificant, if_neg positive.ne']
    calc
      _ ≤ (value / lastPlace base digits value + 1) * lastPlace base digits value :=
        mul_le_mul_of_nonneg_right (roundHalfEven_le_add_one _) place.le
      _ = value + lastPlace base digits value := by rw [add_mul, div_mul_cancel₀ _ place.ne', one_mul]
      _ ≤ value + value * (base : ℚ) ^ (1 - (digits : ℤ)) :=
        add_le_add_right (lastPlace_le wide digits positive) _
      _ = _ := by ring

/-- **A whole number** of so many digits is not rounded. -/
theorem roundSignificant_natCast {base digits n : ℕ} (wide : 1 < base) (short : n < base ^ digits) :
    roundSignificant base digits n = n := by
  rcases n.eq_zero_or_pos with rfl | positive
  · simp [roundSignificant]
  · have nonzero : (base : ℚ) ≠ 0 := by exact_mod_cast (zero_lt_one.trans wide).ne'
    have log : Nat.log base n < digits := (Nat.log_lt_iff_lt_pow wide positive.ne').mpr short
    have place : lastPlace base digits (n : ℚ) * (base : ℚ) ^ (digits - 1 - Nat.log base n : ℕ) = 1 := by
      rw [lastPlace, Nat.abs_cast, Int.log_natCast, ← zpow_natCast, ← zpow_add₀ nonzero]
      have none : (Nat.log base n : ℤ) - digits + 1 + ((digits - 1 - Nat.log base n : ℕ) : ℤ) = 0 := by omega
      rw [none, zpow_zero]
    have whole : (n : ℚ) / lastPlace base digits (n : ℚ) =
        ((n * base ^ (digits - 1 - Nat.log base n) : ℤ) : ℚ) := by
      rw [div_eq_iff (lastPlace_pos wide digits _).ne']
      push_cast
      rw [mul_assoc, mul_comm _ (lastPlace _ _ _), place, mul_one]
    rw [roundSignificant, if_neg (by exact_mod_cast positive.ne'), whole, roundHalfEven_intCast, ← whole,
      div_mul_cancel₀ _ (lastPlace_pos wide digits _).ne']
/-- The double next to a value. -/
def double (value : ℚ) : ℚ := roundSignificant 2 53 value

/-- A double: its value, or one of the three that have none. -/
inductive Double where
  | finite (value : ℚ)
  | infinity
  | negInfinity
  | nan
deriving DecidableEq

namespace Double

/-- The nearest double. Small values share one last place, and large ones are infinite. -/
def ofRat (value : ℚ) : Double :=
  let rounded :=
    if |value| < 1 / 2 ^ 1022 then (roundHalfEven (value * 2 ^ 1074) : ℚ) / 2 ^ 1074
    else double value
  if |rounded| < 2 ^ 1024 then .finite rounded
  else if 0 < rounded then .infinity
  else .negInfinity

/-- The nearest double of an integer that is not too large. -/
def ofInt (value : ℤ) : Option Double :=
  match ofRat value with
  | .finite rounded => some (.finite rounded)
  | _ => none

/-- The double lies below zero. -/
def isNegative : Double → Bool
  | .finite value => value < 0
  | .negInfinity => true
  | .infinity | .nan => false

def add : Double → Double → Double
  | .nan, _ | _, .nan => .nan
  | .finite first, .finite second => ofRat (first + second)
  | .infinity, .negInfinity | .negInfinity, .infinity => .nan
  | .infinity, _ | _, .infinity => .infinity
  | .negInfinity, _ | _, .negInfinity => .negInfinity

/-- The nearest double of a value lies on its side of zero. -/
theorem isNegative_ofRat {value : ℚ} (nonneg : 0 ≤ value) : (ofRat value).isNegative = false := by
  have rounded : ∀ near : ℚ, 0 ≤ near →
      (if |near| < 2 ^ 1024 then finite near else if 0 < near then infinity
        else negInfinity).isNegative = false := by
    intro near above
    split_ifs with small positive
    · exact decide_eq_false (not_lt.mpr above)
    · rfl
    · have zero : near = 0 := le_antisymm (not_lt.mp positive) above
      rw [zero, abs_zero] at small
      exact absurd (by positivity) small
  unfold ofRat
  refine rounded _ ?_
  split_ifs
  · exact div_nonneg (by exact_mod_cast roundHalfEven_nonneg (by positivity)) (by positivity)
  · exact roundSignificant_nonneg 2 53 nonneg

/-- **A whole number** of 53 bits is a double. -/
theorem ofRat_natCast {n : ℕ} (short : n < 2 ^ 53) : ofRat n = .finite n := by
  have exact : (if |(n : ℚ)| < 1 / 2 ^ 1022 then (roundHalfEven ((n : ℚ) * 2 ^ 1074) : ℚ) / 2 ^ 1074
      else double n) = n := by
    split_ifs with small
    · have zero : n = 0 := by
        rw [Nat.abs_cast] at small
        have unit : (1 : ℚ) / 2 ^ 1022 ≤ 1 := div_le_self zero_le_one (one_le_pow₀ one_le_two)
        have below : (n : ℚ) < 1 := small.trans_le unit
        exact Nat.lt_one_iff.mp (by exact_mod_cast below)
      simp [zero, roundHalfEven]
    · exact roundSignificant_natCast one_lt_two short
  have bounded : |(n : ℚ)| < 2 ^ 1024 := by
    rw [Nat.abs_cast]
    have below : (n : ℚ) < 2 ^ 53 := by exact_mod_cast short
    exact below.trans (pow_lt_pow_right₀ one_lt_two (by decide))
  unfold ofRat
  rw [exact]
  exact if_pos bounded

theorem add_natCast {m n : ℕ} (short : m + n < 2 ^ 53) :
    (finite m).add (ofRat n) = finite ((m + n : ℕ) : ℚ) := by
  have right : ofRat n = finite n := ofRat_natCast (lt_of_le_of_lt (Nat.le_add_left n m) short)
  rw [right, Nat.cast_add]
  change ofRat (m + n) = _
  rw [← Nat.cast_add]
  exact ofRat_natCast short

/-- **Whole numbers** with a sum of 53 bits are added up exactly. -/
theorem foldl_add_natCast (amounts : List ℕ) (start : ℕ) (short : start + amounts.sum < 2 ^ 53) :
    (amounts.map (Nat.cast : ℕ → ℚ)).foldl (fun value amount => value.add (ofRat amount)) (finite start) =
      finite ((start + amounts.sum : ℕ) : ℚ) := by
  induction amounts generalizing start with
  | nil => rfl
  | cons amount amounts ih =>
      have same : start + (amount :: amounts).sum = start + amount + amounts.sum := by
        rw [List.sum_cons, add_assoc]
      rw [same] at short
      have here : start + amount < 2 ^ 53 := lt_of_le_of_lt (Nat.le_add_right _ _) short
      rw [List.map_cons, List.foldl_cons, add_natCast here, same]
      exact ih _ short
/-- A finite double lies below the largest power of two. -/
theorem abs_lt_of_ofRat {value rounded : ℚ} (same : ofRat value = .finite rounded) :
    |rounded| < 2 ^ 1024 := by
  have bounded : ∀ near : ℚ, (if |near| < 2 ^ 1024 then finite near else if 0 < near then infinity
      else negInfinity) = finite rounded → |rounded| < 2 ^ 1024 := by
    intro near same
    split_ifs at same with small
    cases same
    exact small
  exact bounded _ same

end Double

namespace Decimal

/-- The precision of the default context. -/
def precision : ℕ := 28

def mul (first second : ℚ) : ℚ := roundSignificant 10 precision (first * second)

def div (first second : ℚ) : ℚ := roundSignificant 10 precision (first / second)

def add (first second : ℚ) : ℚ := roundSignificant 10 precision (first + second)

/-- What a `NUMERIC` column with so many decimal places stores: the nearest value, and of two
the one farther from zero. -/
def column (scale : ℕ) (value : ℚ) : ℚ :=
  (if value < 0 then -⌊-value * 10 ^ scale + 1 / 2⌋ else ⌊value * 10 ^ scale + 1 / 2⌋) / 10 ^ scale

theorem abs_floor_half_sub_le (value : ℚ) : |(⌊value + 1 / 2⌋ : ℚ) - value| ≤ 1 / 2 := by
  rw [abs_le]
  constructor
  · linarith only [Int.lt_floor_add_one (value + 1 / 2)]
  · linarith only [Int.floor_le (value + 1 / 2)]

/-- A column stores a value to half a unit of its last place. -/
theorem abs_column_sub_le (scale : ℕ) (value : ℚ) :
    |column scale value - value| ≤ 1 / 2 / 10 ^ scale := by
  have unit : (0 : ℚ) < 10 ^ scale := by positivity
  have near : ∀ units : ℚ, |units - value * 10 ^ scale| ≤ 1 / 2 →
      |units / 10 ^ scale - value| ≤ 1 / 2 / 10 ^ scale := by
    intro units close
    have split : units / 10 ^ scale - value = (units - value * 10 ^ scale) / 10 ^ scale := by
      field_simp
    rw [split, abs_div, abs_of_pos unit]
    exact div_le_div_of_nonneg_right close unit.le
  unfold column
  refine near _ ?_
  split_ifs with negative
  · have mirrored : ((-⌊-value * 10 ^ scale + 1 / 2⌋ : ℤ) : ℚ) - value * 10 ^ scale =
        -((⌊-value * 10 ^ scale + 1 / 2⌋ : ℚ) - -value * 10 ^ scale) := by
      rw [Int.cast_neg]
      ring
    rw [mirrored, abs_neg]
    exact abs_floor_half_sub_le _
  · exact abs_floor_half_sub_le _

/-- A nonnegative value written with so many decimal places. -/
def text (scale : ℕ) (value : ℚ) : String :=
  let units := ⌊value * 10 ^ scale⌋.toNat
  let decimals := (units % 10 ^ scale).repr
  (units / 10 ^ scale).repr ++ "." ++
    String.ofList (List.replicate (scale - decimals.length) '0') ++ decimals

/-- Any value written with so many decimal places. -/
def str (scale : ℕ) (value : ℚ) : String :=
  if value < 0 then "-" ++ text scale (-value) else text scale value

/-- Rounding makes a value larger by one per cent at most. -/
theorem roundSignificant_le_mul {value : ℚ} (nonneg : 0 ≤ value) :
    roundSignificant 10 precision value ≤ value * (101 / 100) := by
  refine (roundSignificant_le (by decide) precision nonneg).trans (mul_le_mul_of_nonneg_left ?_ nonneg)
  norm_num [precision]

theorem nonneg_mul {first second : ℚ} (left : 0 ≤ first) (right : 0 ≤ second) :
    0 ≤ mul first second :=
  roundSignificant_nonneg _ _ (mul_nonneg left right)

theorem nonneg_div {first second : ℚ} (left : 0 ≤ first) (right : 0 ≤ second) :
    0 ≤ div first second :=
  roundSignificant_nonneg _ _ (div_nonneg left right)

theorem nonneg_add {first second : ℚ} (left : 0 ≤ first) (right : 0 ≤ second) :
    0 ≤ add first second :=
  roundSignificant_nonneg _ _ (add_nonneg left right)

end Decimal

end LlmGateway.Library
