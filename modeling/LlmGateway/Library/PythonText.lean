import LlmGateway.Library.Json.Value
import LlmGateway.Library.Rounding
import Mathlib.Data.List.TakeWhile

/-!
# Texts and numbers of a Python program

The string methods `strip`, `lstrip` of one character, `startswith` and `isdigit`, and the
conversion of a text or a float to an integer. The character classes are those of
Unicode 14: a decimal digit is one of ten consecutive characters, and a few other
characters count as digits without having a decimal value.

The interpreter refuses to convert texts of more than `maxStrDigits` digits.

* `intOfText_minuses`: what `int` makes of minus signs and digits, which is what a text is made of
  whose `lstrip` consists of digits (`minuses_of_allDigits`).
-/

set_option autoImplicit false

namespace LlmGateway.Library.PythonText

/-- A code point lies in one of some ranges. -/
def inRanges (ranges : List (ℕ × ℕ)) (n : ℕ) : Bool :=
  ranges.any fun range => decide (range.1 ≤ n) && decide (n ≤ range.2)

/-- The ranges of white space. -/
def spaceRanges : List (ℕ × ℕ) :=
    [(9, 13), (28, 32), (133, 133), (160, 160), (5760, 5760), (8192, 8202), (8232, 8233),
     (8239, 8239), (8287, 8287), (12288, 12288)]

/-- The zeros of the decimal digits. -/
def decimalZeros : List ℕ :=
    [48, 1632, 1776, 1984, 2406, 2534, 2662, 2790, 2918, 3046, 3174, 3302, 3430, 3558, 3664,
     3792, 3872, 4160, 4240, 6112, 6160, 6470, 6608, 6784, 6800, 6992, 7088, 7232, 7248, 42528,
     43216, 43264, 43472, 43504, 43600, 44016, 65296, 66720, 68912, 69734, 69872, 69942, 70096,
     70384, 70736, 70864, 71248, 71360, 71472, 71904, 72016, 72784, 73040, 73120, 92768, 92864,
     93008, 120782, 120792, 120802, 120812, 120822, 123200, 123632, 125264, 130032]

/-- The ranges of digits that have no decimal value. -/
def otherDigitRanges : List (ℕ × ℕ) :=
    [(178, 179), (185, 185), (4969, 4977), (6618, 6618), (8304, 8304), (8308, 8313),
     (8320, 8329), (9312, 9320), (9332, 9340), (9352, 9360), (9450, 9450), (9461, 9469),
     (9471, 9471), (10102, 10110), (10112, 10120), (10122, 10130), (68160, 68163),
     (69216, 69224), (69714, 69722), (127232, 127242)]

def isSpace (c : Char) : Bool := inRanges spaceRanges c.toNat

/-- The value of a decimal digit. -/
def decimalValue (c : Char) : Option ℕ :=
  (decimalZeros.find? fun first => decide (first ≤ c.toNat) && decide (c.toNat ≤ first + 9)).map
    fun first => c.toNat - first

def isDecimal (c : Char) : Bool := (decimalValue c).isSome

def isDigit (c : Char) : Bool := isDecimal c || inRanges otherDigitRanges c.toNat

/-- A text without the blanks at its ends. -/
def trim (blank : Char → Bool) (text : List Char) : List Char :=
  ((text.dropWhile blank).reverse.dropWhile blank).reverse

/-- `str.strip()`. -/
def strip (text : List Char) : List Char := trim isSpace text

/-- The white space that `int` strips: the four separators of ASCII are not among it. -/
def isIntSpace (c : Char) : Bool := isSpace c && !inRanges [(28, 31)] c.toNat

/-- `str.lstrip(c)`. -/
def lstrip (c : Char) (text : List Char) : List Char := text.dropWhile fun other => other == c

/-- `str.isdigit()`: every character is a digit, and there is one. -/
def allDigits (text : List Char) : Bool := !text.isEmpty && text.all isDigit

/-- The value of decimal digits with single underscores between them; the number read so
far is the accumulator. -/
def digitsValue : ℕ → List Char → Option ℕ
  | value, [] => some value
  | value, '_' :: c :: rest =>
      (decimalValue c).bind fun digit => digitsValue (10 * value + digit) rest
  | value, c :: rest => (decimalValue c).bind fun digit => digitsValue (10 * value + digit) rest

/-- The value of a nonempty run of digits. -/
def naturalValue : List Char → Option ℕ
  | [] => none
  | c :: rest => (decimalValue c).bind fun digit => digitsValue digit rest

/-- The most digits that `int` converts. -/
def maxStrDigits : ℕ := 4300

/-- `int(text)`; nothing is a `ValueError`. -/
def intOfText (text : List Char) : Option ℤ :=
  let text := trim isIntSpace text
  if maxStrDigits < text.countP isDecimal then none
  else
    match text with
    | '-' :: digits => (naturalValue digits).map fun n => -(n : ℤ)
    | '+' :: digits => (naturalValue digits).map fun n => (n : ℤ)
    | digits => (naturalValue digits).map fun n => (n : ℤ)

/-! ## Floats -/

/-- The value of ASCII digits. -/
def asciiValue (digits : List Char) : ℕ := Nat.ofDigitChars 10 digits 0

/-- The exponent that a scale stands for. -/
def scaleValue : List Char → ℤ
  | _ :: '-' :: digits => -(asciiValue digits : ℤ)
  | _ :: '+' :: digits => asciiValue digits
  | _ :: digits => asciiValue digits
  | [] => 0

/-- The exact value of a float literal without its sign. -/
def unsignedLiteralValue (text : List Char) : ℚ :=
  let whole := text.takeWhile Char.isDigit
  match text.dropWhile Char.isDigit with
  | '.' :: rest =>
      let digits := rest.takeWhile Char.isDigit
      (asciiValue (whole ++ digits) : ℚ) *
        (10 : ℚ) ^ (scaleValue (rest.dropWhile Char.isDigit) - digits.length)
  | rest => (asciiValue whole : ℚ) * (10 : ℚ) ^ scaleValue rest

/-- The exact value of a float literal. -/
def literalValue : List Char → ℚ
  | '-' :: text => -unsignedLiteralValue text
  | text => unsignedLiteralValue text

end PythonText

/-- The double that a float literal stands for. -/
def JsonFloat.toDouble : JsonFloat → Double
  | .finite literal _ => .ofRat (PythonText.literalValue literal)
  | .nan => .nan
  | .infinity => .infinity
  | .negInfinity => .negInfinity

/-- The float is false: it is zero, or too small for a double. -/
def JsonFloat.isZero (value : JsonFloat) : Bool := value.toDouble == .finite 0

namespace PythonText

/-- The integer part of a value, toward zero. -/
def truncate (value : ℚ) : ℤ := if 0 ≤ value then ⌊value⌋ else ⌈value⌉

/-- `int(float)` of a float that is a number and not too large for a double. -/
def intOfFloat (value : JsonFloat) : Option ℤ :=
  match value.toDouble with
  | .finite value => some (truncate value)
  | _ => none

/-! ## Minus signs and digits -/

theorem trim_of_noBlank {blank : Char → Bool} {text : List Char}
    (plain : ∀ c ∈ text, blank c = false) : trim blank text = text := by
  have keeps : ∀ rest : List Char, (∀ c ∈ rest, blank c = false) →
      rest.dropWhile blank = rest := by
    intro rest plain
    cases rest with
    | nil => rfl
    | cons c rest => rw [List.dropWhile_cons, plain c List.mem_cons_self]; rfl
  rw [trim, keeps text plain, keeps text.reverse fun c member =>
    plain c (List.mem_reverse.mp member), List.reverse_reverse]

theorem inRanges_iff {ranges : List (ℕ × ℕ)} {n : ℕ} :
    inRanges ranges n = true ↔ ∃ range ∈ ranges, range.1 ≤ n ∧ n ≤ range.2 := by
  simp [inRanges]

/-- No number lies in ranges that are apart. -/
theorem not_inRanges_of_apart {first second : List (ℕ × ℕ)} {n : ℕ}
    (apart : ∀ left ∈ first, ∀ right ∈ second, left.2 < right.1 ∨ right.2 < left.1)
    (inside : inRanges first n = true) : inRanges second n = false := by
  refine Bool.eq_false_of_not_eq_true fun also => ?_
  obtain ⟨left, member, low, high⟩ := inRanges_iff.mp inside
  obtain ⟨right, member', low', high'⟩ := inRanges_iff.mp also
  rcases apart left member right member' with before | after <;> omega

/-- The ranges of all digits. -/
def digitRanges : List (ℕ × ℕ) := decimalZeros.map (fun first => (first, first + 9)) ++ otherDigitRanges

theorem isDigit_iff (c : Char) : isDigit c = inRanges digitRanges c.toNat := by
  rw [isDigit, isDecimal, decimalValue, Option.isSome_map, digitRanges, inRanges, inRanges,
    List.any_append, List.any_map, List.isSome_find?]
  rfl

theorem not_space_of_isDigit {c : Char} (digit : isDigit c = true) : isSpace c = false := by
  rw [isDigit_iff] at digit
  exact not_inRanges_of_apart (by decide +kernel) digit

/-- A text of decimal digits. -/
def Decimals (text : List Char) : Prop := text ≠ [] ∧ text.all isDecimal = true

instance (text : List Char) : Decidable (Decimals text) :=
  inferInstanceAs (Decidable (_ ∧ _))

/-- The number that decimal digits write. -/
def decimalNumber (digits : List Char) : ℕ :=
  digits.foldl (fun value c => 10 * value + (decimalValue c).getD 0) 0

theorem digitsValue_digits {digits : List Char} (value : ℕ) (given : ∀ c ∈ digits, isDigit c = true) :
    digitsValue value digits =
      if digits.all isDecimal then
        some (digits.foldl (fun value c => 10 * value + (decimalValue c).getD 0) value)
      else none := by
  induction digits generalizing value with
  | nil => simp [digitsValue]
  | cons c rest ih =>
      have here := given c List.mem_cons_self
      have notUnderscore : c ≠ '_' := by
        rintro rfl
        revert here
        decide
      have step : digitsValue value (c :: rest) =
          (decimalValue c).bind fun digit => digitsValue (10 * value + digit) rest := by
        rw [digitsValue]
        exact fun _ _ same => absurd same notUnderscore
      rw [step]
      cases decimal : decimalValue c with
      | none => simp [isDecimal, decimal]
      | some digit =>
          rw [Option.bind_some, ih _ fun other member => given other (List.mem_cons_of_mem c member)]
          simp [isDecimal, decimal]

/-- Digits are read if they are decimals. -/
theorem naturalValue_digits {digits : List Char} (nonempty : digits ≠ [])
    (given : ∀ c ∈ digits, isDigit c = true) :
    naturalValue digits = if Decimals digits then some (decimalNumber digits) else none := by
  cases digits with
  | nil => exact absurd rfl nonempty
  | cons c rest =>
      have whole := digitsValue_digits 0 given
      have notUnderscore : c ≠ '_' := by
        rintro rfl
        have here := given '_' List.mem_cons_self
        revert here
        decide
      have same : naturalValue (c :: rest) = digitsValue 0 (c :: rest) := by
        rw [naturalValue, digitsValue]
        · simp
        · exact fun _ _ same => absurd same notUnderscore
      rw [same, whole]
      simp [Decimals, decimalNumber]

theorem notSign_of_isDigit {c : Char} (digit : isDigit c = true) : c ≠ '-' ∧ c ≠ '+' := by
  constructor <;> rintro rfl <;> revert digit <;> decide

/-- A text whose `lstrip` consists of digits. -/
theorem minuses_of_allDigits {text : List Char} (digits : allDigits (lstrip '-' text) = true) :
    ∃ count rest, text = List.replicate count '-' ++ rest ∧ rest ≠ [] ∧
      ∀ c ∈ rest, isDigit c = true := by
  obtain ⟨nonempty, all⟩ := Bool.and_eq_true_iff.mp digits
  refine ⟨(text.takeWhile fun other => other == '-').length, lstrip '-' text, ?_,
    by simpa using nonempty, List.all_eq_true.mp all⟩
  have front : text.takeWhile (fun other => other == '-') =
      List.replicate (text.takeWhile fun other => other == '-').length '-' :=
    List.eq_replicate_of_mem fun c member => by simpa using List.mem_takeWhile_imp member
  rw [← front, lstrip, List.takeWhile_append_dropWhile]

/-- The value of an optional sign and digits. -/
def signedValue (text : List Char) : Option ℤ :=
  match text with
  | '-' :: digits => (naturalValue digits).map fun n => -(n : ℤ)
  | '+' :: digits => (naturalValue digits).map fun n => (n : ℤ)
  | digits => (naturalValue digits).map fun n => (n : ℤ)

theorem intOfText_eq (text : List Char) :
    intOfText text =
      if maxStrDigits < (trim isIntSpace text).countP isDecimal then none
      else signedValue (trim isIntSpace text) := rfl

/-- The number that stands behind at most one minus sign. -/
def minusNumber (count : ℕ) (digits : List Char) : ℤ :=
  if count = 0 then (decimalNumber digits : ℤ) else -(decimalNumber digits : ℤ)

theorem signedValue_minuses (count : ℕ) {digits : List Char} (nonempty : digits ≠ [])
    (given : ∀ c ∈ digits, isDigit c = true) :
    signedValue (List.replicate count '-' ++ digits) =
      if count ≤ 1 ∧ Decimals digits then some (minusNumber count digits) else none := by
  match count with
  | 0 =>
      cases digits with
      | nil => exact absurd rfl nonempty
      | cons c rest =>
          obtain ⟨notMinus, notPlus⟩ := notSign_of_isDigit (given c List.mem_cons_self)
          rw [List.replicate_zero, List.nil_append]
          unfold signedValue
          split
          · rename_i same
            exact absurd (List.cons.inj same).1 notMinus
          · rename_i same
            exact absurd (List.cons.inj same).1 notPlus
          · rw [naturalValue_digits nonempty given]
            split_ifs <;> simp_all [minusNumber]
  | 1 =>
      change (naturalValue digits).map (fun n => -(n : ℤ)) = _
      rw [naturalValue_digits nonempty given]
      split_ifs <;> simp_all [minusNumber]
  | more + 2 =>
      change (naturalValue ('-' :: (List.replicate more '-' ++ digits))).map (fun n => -(n : ℤ)) = _
      have refused : decimalValue '-' = none := by decide
      rw [naturalValue, refused]
      simp

/-- **What `int` makes of minus signs and digits**: a number if there is at most one sign and the
digits are decimals, not too many of them. -/
theorem intOfText_minuses (count : ℕ) {digits : List Char} (nonempty : digits ≠ [])
    (given : ∀ c ∈ digits, isDigit c = true) :
    intOfText (List.replicate count '-' ++ digits) =
      if count ≤ 1 ∧ Decimals digits ∧ digits.length ≤ maxStrDigits then
        some (minusNumber count digits)
      else none := by
  have plain : ∀ c ∈ List.replicate count '-' ++ digits, isIntSpace c = false := by
    intro c member
    rcases List.mem_append.mp member with sign | digit
    · rw [List.eq_of_mem_replicate sign]
      decide
    · rw [isIntSpace, not_space_of_isDigit (given c digit), Bool.false_and]
  have counted : (List.replicate count '-' ++ digits).countP isDecimal = digits.countP isDecimal := by
    rw [List.countP_append, List.countP_replicate]
    simp [show isDecimal '-' = false by decide]
  have few : Decimals digits → digits.countP isDecimal = digits.length := fun decimals =>
    List.countP_eq_length.mpr (List.all_eq_true.mp decimals.2)
  rw [intOfText_eq, trim_of_noBlank plain, counted, signedValue_minuses count nonempty given]
  by_cases decimals : Decimals digits
  · rw [few decimals]
    by_cases long : maxStrDigits < digits.length
    · rw [if_pos long, if_neg fun whole => absurd whole.2.2 (not_le.mpr long)]
    · rw [if_neg long]
      simp [decimals, not_lt.mp long]
  · rw [if_neg fun whole : count ≤ 1 ∧ Decimals digits => decimals whole.2,
      if_neg fun whole : count ≤ 1 ∧ Decimals digits ∧ _ => decimals whole.2.1]
    split_ifs <;> rfl

/-! ## Bounds -/

theorem decimalValue_le {c : Char} {digit : ℕ} (decimal : decimalValue c = some digit) :
    digit ≤ 9 ∧ isDecimal c = true := by
  refine ⟨?_, by rw [isDecimal, decimal]; rfl⟩
  obtain ⟨first, found, rfl⟩ := Option.map_eq_some_iff.mp decimal
  have inside := List.find?_some found
  simp only [Bool.and_eq_true, decide_eq_true_eq] at inside
  omega

/-- A number is as long as the digits that write it. -/
theorem digitsValue_lt {value n : ℕ} {text : List Char} (read : digitsValue value text = some n) :
    n < (value + 1) * 10 ^ text.countP isDecimal := by
  have more {value digit count n : ℕ} (small : digit ≤ 9)
      (bound : n < (10 * value + digit + 1) * 10 ^ count) : n < (value + 1) * 10 ^ (count + 1) := by
    refine bound.trans_le ?_
    rw [pow_succ', ← mul_assoc]
    exact Nat.mul_le_mul_right _ (by omega)
  fun_induction digitsValue value text with
  | case1 => simpa using Nat.lt_succ_of_le (Option.some.inj read).ge
  | case2 value c rest ih =>
      obtain ⟨digit, decimal, later⟩ := Option.bind_eq_some_iff.mp read
      obtain ⟨small, counted⟩ := decimalValue_le decimal
      rw [List.countP_cons_of_neg (by decide), List.countP_cons_of_pos counted]
      exact more small (ih digit later)
  | case3 value c rest _ ih =>
      obtain ⟨digit, decimal, later⟩ := Option.bind_eq_some_iff.mp read
      obtain ⟨small, counted⟩ := decimalValue_le decimal
      rw [List.countP_cons_of_pos counted]
      exact more small (ih digit later)

theorem naturalValue_lt {n : ℕ} {text : List Char} (read : naturalValue text = some n) :
    n < 10 ^ text.countP isDecimal := by
  cases text with
  | nil => cases read
  | cons c rest =>
      obtain ⟨digit, decimal, later⟩ := Option.bind_eq_some_iff.mp read
      obtain ⟨small, counted⟩ := decimalValue_le decimal
      rw [List.countP_cons_of_pos counted, pow_succ']
      exact (digitsValue_lt later).trans_le (Nat.mul_le_mul_right _ (by omega))

/-- **What `int` makes of a text** has no more digits than it converts. -/
theorem intOfText_lt {text : List Char} {n : ℤ} (read : intOfText text = some n) :
    n.natAbs < 10 ^ maxStrDigits := by
  rw [intOfText_eq] at read
  split_ifs at read with long
  refine lt_of_lt_of_le ?_ (Nat.pow_le_pow_right (by decide) (not_lt.mp long))
  have signed {digits : List Char} (sign : ℤ) (unit : sign.natAbs = 1)
      (written : ((naturalValue digits).bind fun m => some (sign * (m : ℤ))) = some n) :
      n.natAbs < 10 ^ digits.countP isDecimal := by
    obtain ⟨m, natural, same⟩ := Option.bind_eq_some_iff.mp written
    rw [← Option.some.inj same, Int.natAbs_mul, unit, one_mul, Int.natAbs_natCast]
    exact naturalValue_lt natural
  unfold signedValue at read
  split at read
  · rename_i digits same
    rw [same, List.countP_cons_of_neg (by decide)]
    exact signed (-1) rfl (by simpa using read)
  · rename_i digits same
    rw [same, List.countP_cons_of_neg (by decide)]
    exact signed 1 rfl (by simpa using read)
  · exact signed 1 rfl (by simpa using read)

theorem natAbs_truncate_le (value : ℚ) : ((truncate value).natAbs : ℚ) ≤ |value| := by
  rw [Nat.cast_natAbs, Int.cast_abs]
  unfold truncate
  split_ifs with nonneg
  · rw [abs_of_nonneg nonneg, abs_of_nonneg (by exact_mod_cast Int.floor_nonneg.mpr nonneg)]
    exact Int.floor_le value
  · have below : value ≤ 0 := (not_le.mp nonneg).le
    have ceiling : (⌈value⌉ : ℚ) ≤ 0 := by exact_mod_cast Int.ceil_le.mpr (by exact_mod_cast below)
    rw [abs_of_nonpos below, abs_of_nonpos ceiling]
    exact neg_le_neg (Int.le_ceil value)

/-- **What `int` makes of a float** has no more digits than it converts. -/
theorem intOfFloat_lt {value : JsonFloat} {n : ℤ} (read : intOfFloat value = some n) :
    n.natAbs < 10 ^ maxStrDigits := by
  unfold intOfFloat at read
  split at read
  · rename_i rounded double
    obtain rfl := Option.some.inj read
    have finite : |rounded| < 2 ^ 1024 := by
      cases value with
      | finite => exact Double.abs_lt_of_ofRat double
      | nan | infinity | negInfinity => cases double
    have bound : ((truncate rounded).natAbs : ℚ) < ((2 ^ 1024 : ℕ) : ℚ) := by
      refine (natAbs_truncate_le rounded).trans_lt ?_
      rw [Nat.cast_pow]
      exact finite
    have wide : ∀ k ≤ maxStrDigits, 2 ^ k ≤ 10 ^ maxStrDigits := fun k le =>
      (Nat.pow_le_pow_left (by decide) k).trans (Nat.pow_le_pow_right (by decide) le)
    exact (Nat.cast_lt.mp bound).trans_le (wide 1024 (by decide))
  · cases read

end LlmGateway.Library.PythonText
