import LlmGateway.Library.Json.Parse
import Mathlib.Data.List.Induction

/-!
# Parsing undoes printing

The parser returns a printed value, in every style of blanks, when no object of the value has two
members of one name and the value keeps the limits of the decoder (`decode_dumps`). A text therefore
determines its value (`dumps_injective`), and the sorted text of a value determines it up to the
insertion order of its keys (`same_of_dumps_sortKeys`).

The induction is on the value. It carries the text that follows: the printed value
must not run into a number character, and the fuel must cover the printed text.
-/

set_option autoImplicit false

namespace LlmGateway.Library
namespace Json

/-! ## Runs of characters -/

/-- The text does not go on with a character of the class. -/
def Stops (class_ : Char → Bool) (text : List Char) : Prop :=
  ∀ c rest, text = c :: rest → class_ c = false

theorem stops_nil (class_ : Char → Bool) : Stops class_ [] := by
  intro c rest equal
  cases equal

theorem stops_cons {class_ : Char → Bool} {c : Char} {rest : List Char}
    (outside : class_ c = false) : Stops class_ (c :: rest) := by
  rintro _ _ ⟨⟩
  exact outside

theorem takeWhile_of_stops {class_ : Char → Bool} {text : List Char} (stops : Stops class_ text) :
    text.takeWhile class_ = [] := by
  cases text with
  | nil => rfl
  | cons c rest => simp [stops c rest rfl]

theorem dropWhile_of_stops {class_ : Char → Bool} {text : List Char} (stops : Stops class_ text) :
    text.dropWhile class_ = text := by
  cases text with
  | nil => rfl
  | cons c rest => simp [stops c rest rfl]

/-- A run of the class in front of a text that stops it is taken exactly. -/
theorem takeWhile_run {class_ : Char → Bool} {run text : List Char}
    (inside : ∀ c ∈ run, class_ c = true) (stops : Stops class_ text) :
    (run ++ text).takeWhile class_ = run := by
  rw [List.takeWhile_append_of_pos inside, takeWhile_of_stops stops, List.append_nil]

theorem dropWhile_run {class_ : Char → Bool} {run text : List Char}
    (inside : ∀ c ∈ run, class_ c = true) (stops : Stops class_ text) :
    (run ++ text).dropWhile class_ = text := by
  rw [List.dropWhile_append_of_pos inside, dropWhile_of_stops stops]

theorem skipBlanks_run {blanks text : List Char} (blank : blanks.all isBlank = true)
    (stops : Stops isBlank text) : skipBlanks (blanks ++ text) = text :=
  dropWhile_run (List.all_eq_true.mp blank) stops

theorem skipBlanks_of_stops {text : List Char} (stops : Stops isBlank text) :
    skipBlanks text = text :=
  dropWhile_of_stops stops

/-! ## Strings -/

theorem hexValue_hexDigit : ∀ n < 16, hexValue (hexDigit n) = some n := by decide

/-- Four hexadecimal digits are read back as the code unit they were written from. -/
theorem takeUnit_escapeUnit {n : ℕ} (bound : n < 65536) (rest : List Char) :
    takeUnit (escapeUnit n ++ rest) = some (n, rest) := by
  have first := hexValue_hexDigit (n / 4096 % 16) (Nat.mod_lt _ (by decide))
  have second := hexValue_hexDigit (n / 256 % 16) (Nat.mod_lt _ (by decide))
  have third := hexValue_hexDigit (n / 16 % 16) (Nat.mod_lt _ (by decide))
  have fourth := hexValue_hexDigit (n % 16) (Nat.mod_lt _ (by decide))
  have value : n / 4096 % 16 * 4096 + n / 256 % 16 * 256 + n / 16 % 16 * 16 + n % 16 = n := by
    omega
  simp only [escapeUnit, List.cons_append, List.nil_append, takeUnit, unitValue, first, second,
    third, fourth, Option.bind_eq_bind, Option.bind_some, Option.pure_def, value, Option.map_some]

/-- A character is never a surrogate. -/
theorem char_not_surrogate (c : Char) :
    isHighSurrogate c.toNat = false ∧ isLowSurrogate c.toNat = false := by
  have valid := c.valid
  simp only [UInt32.isValidChar, Nat.isValidChar] at valid
  have same : c.val.toNat = c.toNat := rfl
  rw [same] at valid
  constructor
  · simp only [isHighSurrogate, Bool.and_eq_false_iff, decide_eq_false_iff_not]
    omega
  · simp only [isLowSurrogate, Bool.and_eq_false_iff, decide_eq_false_iff_not]
    omega

/-- A character of the basic plane is read back from its escape. -/
theorem takePoint_escapeUnit (c : Char) (bound : c.toNat < 65536) (rest : List Char) :
    takePoint (escapeUnit c.toNat ++ rest) = some (.char c, rest) := by
  have unit := takeUnit_escapeUnit bound rest
  obtain ⟨notHigh, notLow⟩ := char_not_surrogate c
  have outside : ¬ (55296 ≤ c.toNat ∧ c.toNat < 57344) := by
    simp only [isHighSurrogate, isLowSurrogate, Bool.and_eq_false_iff, decide_eq_false_iff_not]
      at notHigh notLow
    omega
  simp only [escapeUnit, List.cons_append, List.nil_append] at unit ⊢
  simp only [takePoint, unit, notHigh, Bool.false_eq_true, if_false, unitPoint, dif_neg outside,
    Char.ofNat_toNat]

/-- A character above the basic plane is read back from its two escapes. -/
theorem takePoint_escapePair (c : Char) (above : 65536 ≤ c.toNat) (rest : List Char) :
    takePoint (escapeUnit (55296 + (c.toNat - 65536) / 1024) ++
      escapeUnit (56320 + (c.toNat - 65536) % 1024) ++ rest) = some (.char c, rest) := by
  have valid := c.valid
  simp only [UInt32.isValidChar, Nat.isValidChar] at valid
  have same : c.val.toNat = c.toNat := rfl
  rw [same] at valid
  have high := takeUnit_escapeUnit (n := 55296 + (c.toNat - 65536) / 1024) (by omega)
    (escapeUnit (56320 + (c.toNat - 65536) % 1024) ++ rest)
  have low := takeUnit_escapeUnit (n := 56320 + (c.toNat - 65536) % 1024) (by omega) rest
  have isHigh : isHighSurrogate (55296 + (c.toNat - 65536) / 1024) = true := by
    simp only [isHighSurrogate, Bool.and_eq_true, decide_eq_true_eq]
    omega
  have isLow : isLowSurrogate (56320 + (c.toNat - 65536) % 1024) = true := by
    simp only [isLowSurrogate, Bool.and_eq_true, decide_eq_true_eq]
    omega
  have back : pairChar (55296 + (c.toNat - 65536) / 1024) (56320 + (c.toNat - 65536) % 1024) =
      c := by
    have value : 65536 + (55296 + (c.toNat - 65536) / 1024 - 55296) * 1024 +
        (56320 + (c.toNat - 65536) % 1024 - 56320) = c.toNat := by omega
    rw [pairChar, value, Char.ofNat_toNat]
  rw [List.append_assoc]
  generalize escapeUnit (56320 + (c.toNat - 65536) % 1024) ++ rest = after at high low ⊢
  simp only [escapeUnit, List.cons_append, List.nil_append] at high ⊢
  simp only [takePoint, high, isHigh, if_true, low, isLow, back]

/-- **One escaped character is read back.** -/
theorem takePoint_escapeChar (c : Char) (rest : List Char) :
    takePoint (escapeChar c ++ rest) = some (.char c, rest) := by
  unfold escapeChar
  split_ifs with quote backslash newline return_ tab backspace formFeed printable basic
  · subst quote; rfl
  · subst backslash; rfl
  · subst newline; rfl
  · subst return_; rfl
  · subst tab; rfl
  · subst backspace; rfl
  · subst formFeed; rfl
  · have lower : ¬ c.toNat < 32 := by omega
    rw [List.singleton_append, takePoint.eq_def]
    split
    · simp_all
    · simp_all
    · simp_all
    · rename_i same
      obtain ⟨rfl, rfl⟩ := List.cons.inj same
      simp [quote, backslash, lower]
  · exact takePoint_escapeUnit c basic rest
  · exact takePoint_escapePair c (by omega) rest

/-- The second half of a pair does not follow. -/
def NoLow (text : List Char) : Prop :=
  ∀ low rest, takeUnit text = some (low, rest) → isLowSurrogate low = false

/-- A surrogate is read back, unless the other half of its pair follows. -/
theorem takePoint_surrogate (unit : Fin 2048) {rest : List Char}
    (alone : unit.val < 1024 → NoLow rest) :
    takePoint (escapeUnit (55296 + unit.val) ++ rest) = some (.surrogate unit, rest) := by
  have bound := unit.isLt
  have taken := takeUnit_escapeUnit (n := 55296 + unit.val) (by omega) rest
  have point : unitPoint (55296 + unit.val) = .surrogate unit := by
    have inside : 55296 ≤ 55296 + unit.val ∧ 55296 + unit.val < 57344 := by omega
    simp only [unitPoint, dif_pos inside, Nat.add_sub_cancel_left]
  simp only [escapeUnit, List.cons_append, List.nil_append] at taken ⊢
  simp only [takePoint, taken]
  by_cases half : unit.val < 1024
  · have isHigh : isHighSurrogate (55296 + unit.val) = true := by
      simp only [isHighSurrogate, Bool.and_eq_true, decide_eq_true_eq]
      omega
    rw [if_pos isHigh]
    split
    · rename_i low after more
      rw [alone half low after more, if_neg Bool.false_ne_true, point]
    · rw [point]
  · have notHigh : isHighSurrogate (55296 + unit.val) = false := by
      simp only [isHighSurrogate, Bool.and_eq_false_iff, decide_eq_false_iff_not]
      omega
    rw [notHigh, if_neg Bool.false_ne_true, point]

/-- No text that is read as a low surrogate starts with the escape of another code point. -/
theorem noLow_escapePoint {point : CodePoint} (other : point.isLow = false) (rest : List Char) :
    NoLow (escapePoint point ++ rest) := by
  intro low after taken
  cases point with
  | char c =>
      by_contra isLow
      rw [Bool.not_eq_false] at isLow
      obtain ⟨notHigh, notLow⟩ := char_not_surrogate c
      change takeUnit (escapeChar c ++ rest) = some (low, after) at taken
      unfold escapeChar at taken
      split_ifs at taken with quote backslash newline return_ tab backspace formFeed printable basic
      iterate 7 exact absurd taken (by simp [takeUnit])
      · rw [List.singleton_append, takeUnit.eq_def] at taken
        split at taken
        · rename_i same
          exact absurd (List.cons.inj same).1 backslash
        · cases taken
      · rw [takeUnit_escapeUnit basic] at taken
        cases taken
        rw [isLow] at notLow
        cases notLow
      · have valid := c.valid
        simp only [UInt32.isValidChar, Nat.isValidChar] at valid
        have same : c.val.toNat = c.toNat := rfl
        rw [same] at valid
        rw [List.append_assoc, takeUnit_escapeUnit (by omega)] at taken
        cases taken
        simp only [isLowSurrogate, Bool.and_eq_true, decide_eq_true_eq] at isLow
        omega
  | surrogate unit =>
      have bound := unit.isLt
      rw [escapePoint, takeUnit_escapeUnit (by omega)] at taken
      cases taken
      simp only [CodePoint.isLow, decide_eq_false_iff_not] at other
      simp only [isLowSurrogate, Bool.and_eq_false_iff, decide_eq_false_iff_not]
      omega

theorem parseString_step {fuel : ℕ} {text rest : List Char} {point : CodePoint}
    (taken : takePoint text = some (point, rest)) :
    parseString (fuel + 1) text =
      (parseString fuel rest).map fun body => (point :: body.1, body.2) := by
  rw [parseString.eq_def]
  split
  · rename_i none
    cases none
  · rename_i quote
    cases quote
    simp [takePoint] at taken
  · rename_i more notQuote
    cases more
    simp only [taken]

theorem escapeText_cons (point : CodePoint) (text : List CodePoint) :
    escapeText (point :: text) = escapePoint point ++ escapeText text := by
  simp only [escapeText, List.flatMap_cons, List.append_assoc]

/-- What follows a code point that stands apart. -/
theorem takePoint_escapePoint {point : CodePoint} {text : List CodePoint} (apart : Apart (point :: text))
    (rest : List Char) :
    takePoint (escapePoint point ++ (escapeText text ++ rest)) = some (point, escapeText text ++ rest) := by
  cases point with
  | char c => exact takePoint_escapeChar c _
  | surrogate unit =>
      refine takePoint_surrogate unit fun half => ?_
      cases text with
      | nil =>
          intro low after taken
          exact absurd taken (by simp [escapeText, takeUnit])
      | cons next text =>
          rw [escapeText_cons, List.append_assoc]
          refine noLow_escapePoint (Bool.eq_false_of_not_eq_true fun isLow => ?_) _
          exact apart.1 ⟨decide_eq_true half, isLow⟩

theorem apart_tail {point : CodePoint} {text : List CodePoint} (apart : Apart (point :: text)) :
    Apart text := by
  cases text with
  | nil => trivial
  | cons next text => exact apart.2

/-- The code points of an escaped text are read back up to its closing quote. -/
theorem parseString_escapeText {text : List CodePoint} (apart : Apart text) (rest : List Char) (fuel : ℕ)
    (enough : text.length < fuel) : parseString fuel (escapeText text ++ rest) = some (text, rest) := by
  induction text generalizing fuel with
  | nil =>
      obtain ⟨fuel, rfl⟩ := Nat.exists_eq_succ_of_ne_zero (Nat.ne_of_gt enough)
      rfl
  | cons point text ih =>
      obtain ⟨fuel, rfl⟩ := Nat.exists_eq_succ_of_ne_zero (Nat.ne_zero_of_lt enough)
      rw [escapeText_cons, List.append_assoc, parseString_step (takePoint_escapePoint apart rest),
        ih (apart_tail apart) fuel (by simpa using enough)]
      rfl

theorem escapeChar_ne_nil (c : Char) : escapeChar c ≠ [] := by
  unfold escapeChar
  split_ifs <;> simp [escapeUnit]

theorem escapePoint_ne_nil (point : CodePoint) : escapePoint point ≠ [] := by
  cases point with
  | char c => exact escapeChar_ne_nil c
  | surrogate unit => simp [escapePoint, escapeUnit]

/-- An escaped text is longer than the text. -/
theorem length_lt_escapeText (text : List CodePoint) : text.length < (escapeText text).length := by
  induction text with
  | nil => simp [escapeText]
  | cons point text ih =>
      have positive := List.length_pos_of_ne_nil (escapePoint_ne_nil point)
      rw [escapeText_cons, List.length_append, List.length_cons]
      omega

/-- A printed text is read back, with what follows it. -/
theorem parseString_printText {text : List CodePoint} (apart : Apart text) (rest : List Char) :
    parseString ((escapeText text ++ rest).length + 1) (escapeText text ++ rest) = some (text, rest) := by
  have longer := length_lt_escapeText text
  exact parseString_escapeText apart rest _ (by rw [List.length_append]; omega)

/-- Characters stand apart. -/
theorem apart_codePoints (text : String) : Apart (codePoints text) := by
  unfold codePoints
  generalize text.toList = letters
  induction letters with
  | nil => trivial
  | cons c rest ih =>
      cases rest with
      | nil => trivial
      | cons d rest => exact ⟨fun both => Bool.false_ne_true both.1, ih⟩

/-- A name is shown as it is. -/
theorem shown_codePoints (name : String) :
    String.ofList ((codePoints name).map CodePoint.shown) = name := by
  have same : ∀ letters : List Char, (letters.map CodePoint.char).map CodePoint.shown = letters := by
    intro letters
    rw [List.map_map]
    exact List.map_id _
  rw [codePoints, same, String.ofList_toList]

@[simp] theorem ofText_codePoints (text : String) : ofText (codePoints text) = .str text := by
  rw [ofText, scalarText_codePoints]

/-! ## Numbers -/

theorem isNumberChar_of_isDigit {c : Char} (digit : c.isDigit = true) : isNumberChar c = true := by
  simp [isNumberChar, digit]

theorem digitChar_ne_zero : ∀ n < 10, 0 < n → n.digitChar ≠ '0' := by decide

/-- The digits of a positive number do not start with zero. -/
theorem toDigits_head {n : ℕ} (positive : 0 < n) :
    ∃ c rest, Nat.toDigits 10 n = c :: rest ∧ c ≠ '0' := by
  induction n using Nat.strong_induction_on with
  | _ n ih =>
    by_cases small : n < 10
    · exact ⟨n.digitChar, [], Nat.toDigits_of_lt_base small, digitChar_ne_zero n small positive⟩
    · obtain ⟨c, rest, digits, nonzero⟩ := ih (n / 10) (by omega) (by omega)
      refine ⟨c, rest ++ [(n % 10).digitChar], ?_, nonzero⟩
      rw [Nat.toDigits_of_base_le (by decide) (by omega), digits, List.cons_append]

theorem isWhole_toDigits (n : ℕ) : isWhole (Nat.toDigits 10 n) = true := by
  have digits : ∀ c ∈ Nat.toDigits 10 n, c.isDigit = true := fun c member =>
    Nat.isDigit_of_mem_toDigits (by decide) (by decide) member
  rcases Nat.eq_zero_or_pos n with rfl | positive
  · decide
  · obtain ⟨c, rest, shape, nonzero⟩ := toDigits_head positive
    rw [shape] at digits ⊢
    cases rest with
    | nil => exact digits c (by simp)
    | cons d rest =>
        simp only [isWhole, Bool.and_eq_true, bne_iff_ne, ne_eq, List.all_eq_true]
        exact ⟨⟨nonzero, digits c (by simp)⟩, fun e member => digits e (List.mem_cons_of_mem c member)⟩

theorem toDigits_not_minus (n : ℕ) (rest : List Char) : Nat.toDigits 10 n ≠ '-' :: rest := by
  intro equal
  have digit : ('-' : Char).isDigit = true :=
    Nat.isDigit_of_mem_toDigits (b := 10) (n := n) (by decide) (by decide) (by simp [equal])
  exact absurd digit (by decide)

theorem unsigned_toDigits (n : ℕ) : unsigned (Nat.toDigits 10 n) = Nat.toDigits 10 n := by
  unfold unsigned
  split
  · rename_i rest equal
    exact absurd equal (toDigits_not_minus n rest)
  · rfl

theorem intValue_toDigits (n : ℕ) : intValue (Nat.toDigits 10 n) = n := by
  unfold intValue
  split
  · rename_i rest equal
    exact absurd equal (toDigits_not_minus n rest)
  · rw [Nat.ofDigitChars_ten_toDigits]

theorem printInt_number (value : ℤ) : ∀ c ∈ printInt value, isNumberChar c = true := by
  have digits : ∀ n : ℕ, ∀ c ∈ Nat.toDigits 10 n, isNumberChar c = true := fun n c member =>
    isNumberChar_of_isDigit (Nat.isDigit_of_mem_toDigits (by decide) (by decide) member)
  cases value with
  | ofNat n => exact digits n
  | negSucc n =>
      simp only [printInt, List.forall_mem_cons]
      exact ⟨by decide, digits (n + 1)⟩

theorem isIntLiteral_printInt (value : ℤ) : isIntLiteral (printInt value) = true := by
  cases value with
  | ofNat n => rw [printInt, isIntLiteral, unsigned_toDigits, isWhole_toDigits]
  | negSucc n => rw [printInt, isIntLiteral, unsigned, isWhole_toDigits]

theorem intValue_printInt (value : ℤ) : intValue (printInt value) = value := by
  cases value with
  | ofNat n => rw [printInt, intValue_toDigits]; rfl
  | negSucc n =>
      rw [printInt, intValue, Nat.ofDigitChars_ten_toDigits]
      rfl

/-- How many digits an integer has. -/
def intDigits (value : ℤ) : ℕ := (Nat.toDigits 10 value.natAbs).length

theorem unsigned_printInt (value : ℤ) : (unsigned (printInt value)).length = intDigits value := by
  cases value with
  | ofNat n => rw [printInt, unsigned_toDigits]; rfl
  | negSucc n => rfl

theorem parseNumber_printInt {digits : Option ℕ} {value : ℤ}
    (short : withinLimit digits (intDigits value) = true) {rest : List Char}
    (stops : Stops isNumberChar rest) :
    parseNumber digits (printInt value ++ rest) = some (.int value, rest) := by
  simp only [parseNumber, takeWhile_run (printInt_number value) stops,
    dropWhile_run (printInt_number value) stops, isIntLiteral_printInt, unsigned_printInt, short, if_true,
    intValue_printInt]

theorem isFloatLiteral_number {literal : List Char} (valid : isFloatLiteral literal = true) :
    (∀ c ∈ literal, isNumberChar c = true) ∧ isIntLiteral literal = false := by
  simp only [isFloatLiteral, Bool.and_eq_true, List.all_eq_true, Bool.not_eq_true'] at valid
  exact ⟨valid.1.1.1, valid.1.1.2⟩

theorem parseNumber_literal (digits : Option ℕ) {literal rest : List Char}
    (valid : isFloatLiteral literal = true) (stops : Stops isNumberChar rest) :
    parseNumber digits (literal ++ rest) = some (.float (.finite literal valid), rest) := by
  obtain ⟨number, notInt⟩ := isFloatLiteral_number valid
  simp only [parseNumber, takeWhile_run number stops, dropWhile_run number stops, notInt,
    Bool.false_eq_true, if_false, valid, dite_true]

/-- A text of number characters is read by the number reader. -/
theorem parseScalar_number {digits : Option ℕ} {run rest : List Char} (nonempty : run ≠ [])
    (number : ∀ c ∈ run, isNumberChar c = true) (stops : Stops isNumberChar rest)
    {value : Json × List Char} (parsed : parseNumber digits (run ++ rest) = some value) :
    parseScalar digits (run ++ rest) = some value := by
  cases run with
  | nil => exact absurd rfl nonempty
  | cons c tail =>
      have head := number c (by simp)
      have notWord : c ≠ 'n' ∧ c ≠ 't' ∧ c ≠ 'f' ∧ c ≠ 'N' ∧ c ≠ 'I' := by
        refine ⟨?_, ?_, ?_, ?_, ?_⟩ <;> (rintro rfl; exact absurd head (by decide))
      have notInfinity : ['-', 'I'].isPrefixOf (c :: tail ++ rest) = false := by
        by_contra isPrefix
        simp only [Bool.not_eq_false, List.isPrefixOf_iff_prefix] at isPrefix
        obtain ⟨after, equal⟩ := isPrefix
        have shape : '-' :: 'I' :: after = c :: (tail ++ rest) := equal
        obtain ⟨rfl, second⟩ := List.cons.inj shape
        cases tail with
        | nil =>
            -- a lone minus sign is no number
            have none : parseNumber digits (['-'] ++ rest) = none := by
              simp only [parseNumber, takeWhile_run number stops]
              rw [if_neg (by decide), dif_neg (by decide)]
            rw [none] at parsed
            cases parsed
        | cons d tail =>
            obtain ⟨rfl, -⟩ := List.cons.inj second
            exact absurd (number 'I' (by simp)) (by decide)
      simp only [parseScalar, List.cons_append, List.head?_cons, notWord.1, notWord.2.1,
        notWord.2.2.1, notWord.2.2.2.1, notWord.2.2.2.2, if_false]
      simp only [List.cons_append] at notInfinity parsed
      simp only [notInfinity, Bool.false_eq_true, if_false, parsed]

/-! ## Values -/

/-- A printed value starts with a character that is neither blank nor a closing
bracket. -/
def Opens (text : List Char) : Prop :=
  ∃ c rest, text = c :: rest ∧ isBlank c = false ∧ c ≠ ']' ∧ c ≠ '}'

theorem Opens.stops {text : List Char} (opens : Opens text) (rest : List Char) :
    Stops isBlank (text ++ rest) := by
  obtain ⟨c, tail, rfl, notBlank, -, -⟩ := opens
  exact stops_cons notBlank

theorem opens_of_number {text : List Char} (nonempty : text ≠ [])
    (number : ∀ c ∈ text, isNumberChar c = true) : Opens text := by
  cases text with
  | nil => exact absurd rfl nonempty
  | cons c rest =>
      have head := number c (by simp)
      refine ⟨c, rest, rfl, ?_, ?_, ?_⟩
      · by_contra blank
        simp only [isBlank, Bool.not_eq_false, Bool.or_eq_true, beq_iff_eq] at blank
        rcases blank with ((rfl | rfl) | rfl) | rfl <;> exact absurd head (by decide)
      · rintro rfl
        exact absurd head (by decide)
      · rintro rfl
        exact absurd head (by decide)

theorem printInt_ne_nil (value : ℤ) : printInt value ≠ [] := by
  cases value with
  | ofNat n => exact Nat.toDigits_ne_nil
  | negSucc n => simp [printInt]

theorem isFloatLiteral_ne_nil {literal : List Char} (valid : isFloatLiteral literal = true) :
    literal ≠ [] := by
  rintro rfl
  exact absurd valid (by decide)

theorem opens_print (style : Style) (value : Json) : Opens (print style value) := by
  cases value with
  | null => exact ⟨'n', _, rfl, by decide⟩
  | bool value =>
      cases value with
      | true => exact ⟨'t', _, rfl, by decide⟩
      | false => exact ⟨'f', _, rfl, by decide⟩
  | int value => exact opens_of_number (printInt_ne_nil value) (printInt_number value)
  | float value =>
      cases value with
      | finite literal valid =>
          exact opens_of_number (isFloatLiteral_ne_nil valid) (isFloatLiteral_number valid).1
      | nan => exact ⟨'N', _, rfl, by decide⟩
      | infinity => exact ⟨'I', _, rfl, by decide⟩
      | negInfinity => exact ⟨'-', _, rfl, by decide⟩
  | str value => exact ⟨'"', _, rfl, by decide⟩
  | broken text => exact ⟨'"', _, rfl, by decide⟩
  | arr items => cases items <;> exact ⟨'[', _, rfl, by decide⟩
  | obj members => cases members <;> exact ⟨'{', _, rfl, by decide⟩

/-- A text that starts with no quote and no opening bracket is read as a scalar. -/
theorem parseValue_scalar {digits levels : Option ℕ} {fuel : ℕ} {text : List Char}
    {result : Json × List Char} (scalar : parseScalar digits text = some result)
    (quote : ∀ rest, text ≠ '"' :: rest) (bracket : ∀ rest, text ≠ '[' :: rest)
    (brace : ∀ rest, text ≠ '{' :: rest) :
    parseValue digits (fuel + 1) levels text = .ok result := by
  rw [parseValue.eq_def]
  split
  · rename_i none
    cases none
  · rename_i rest more
    exact absurd rfl (quote rest)
  · rename_i rest more
    exact absurd rfl (bracket rest)
  · rename_i rest more
    exact absurd rfl (brace rest)
  · rw [scalar]
    rfl

/-- A run of number characters is read as a value by the number reader. -/
theorem parseValue_number {digits levels : Option ℕ} {fuel : ℕ} {run rest : List Char}
    (nonempty : run ≠ []) (number : ∀ c ∈ run, isNumberChar c = true) (stops : Stops isNumberChar rest)
    {result : Json × List Char} (parsed : parseNumber digits (run ++ rest) = some result) :
    parseValue digits (fuel + 1) levels (run ++ rest) = .ok result := by
  cases run with
  | nil => exact absurd rfl nonempty
  | cons c tail =>
      have head := number c (by simp)
      refine parseValue_scalar (parseScalar_number nonempty number stops parsed) ?_ ?_ ?_ <;>
        (rintro after equal
         obtain ⟨rfl, -⟩ := List.cons.inj equal
         exact absurd head (by decide))

theorem parseValue_text {digits levels : Option ℕ} (fuel : ℕ) {text : List CodePoint} (apart : Apart text)
    (rest : List Char) :
    parseValue digits (fuel + 1) levels (printText text ++ rest) = .ok (ofText text, rest) := by
  simp only [printText, List.cons_append, parseValue, parseString_printText apart rest]
  rfl

/-! ### Limits -/

mutual
/-- The value keeps the limits of a decoder. -/
def Fits (digits : Option ℕ) : Option ℕ → Json → Prop
  | _, .int value => withinLimit digits (intDigits value) = true
  | levels, .arr items =>
      match deeper levels with
      | none => False
      | some inner => FitsItems digits inner items
  | levels, .obj members =>
      match deeper levels with
      | none => False
      | some inner => FitsMembers digits inner members
  | _, _ => True

def FitsItems (digits : Option ℕ) : Option ℕ → List Json → Prop
  | _, [] => True
  | levels, item :: rest => Fits digits levels item ∧ FitsItems digits levels rest

def FitsMembers (digits : Option ℕ) : Option ℕ → List (String × Json) → Prop
  | _, [] => True
  | levels, member :: rest => Fits digits levels member.2 ∧ FitsMembers digits levels rest
end

theorem fitsItems_iff {digits levels : Option ℕ} (items : List Json) :
    FitsItems digits levels items ↔ ∀ item ∈ items, Fits digits levels item := by
  induction items with
  | nil => simp [FitsItems]
  | cons item rest ih => rw [FitsItems, ih, List.forall_mem_cons]

theorem fitsMembers_iff {digits levels : Option ℕ} (members : List (String × Json)) :
    FitsMembers digits levels members ↔ ∀ member ∈ members, Fits digits levels member.2 := by
  induction members with
  | nil => simp [FitsMembers]
  | cons member rest ih => rw [FitsMembers, ih, List.forall_mem_cons]

/-- An array fits with one level more than its items. -/
theorem fits_arr {digits : Option ℕ} {levels : ℕ} {items : List Json} :
    Fits digits (some (levels + 1)) (.arr items) ↔ ∀ item ∈ items, Fits digits (some levels) item :=
  fitsItems_iff items

theorem fits_obj {digits : Option ℕ} {levels : ℕ} {members : List (String × Json)} :
    Fits digits (some (levels + 1)) (.obj members) ↔
      ∀ member ∈ members, Fits digits (some levels) member.2 :=
  fitsMembers_iff members

theorem fits_lookup {digits : Option ℕ} {levels : ℕ} {name : String} {members : List (String × Json)}
    {value : Json} (fits : (Json.obj members).Fits digits (some (levels + 1)))
    (found : lookup name members = some value) : value.Fits digits (some levels) :=
  fits_obj.mp fits _ (mem_of_lookup found)

/-- With a limit an object has a level. -/
theorem levels_of_fits_obj {digits : Option ℕ} {levels : ℕ} {members : List (String × Json)}
    (fits : Fits digits (some levels) (.obj members)) : ∃ inner, levels = inner + 1 := by
  cases levels with
  | zero => exact fits.elim
  | succ inner => exact ⟨inner, rfl⟩

mutual
/-- A decoder without limits takes everything. -/
theorem fits_unlimited : ∀ value : Json, Fits none none value
  | .arr items => fitsItems_unlimited items
  | .obj members => fitsMembers_unlimited members
  | .int _ => rfl
  | .null | .bool _ | .float _ | .str _ | .broken _ => trivial

theorem fitsItems_unlimited : ∀ items : List Json, FitsItems none none items
  | [] => trivial
  | item :: rest => ⟨fits_unlimited item, fitsItems_unlimited rest⟩

theorem fitsMembers_unlimited : ∀ members : List (String × Json), FitsMembers none none members
  | [] => trivial
  | member :: rest => ⟨fits_unlimited member.2, fitsMembers_unlimited rest⟩
end

/-- Inserting a new name puts the pair at the end. -/
theorem assign_of_notMem {name : String} (value : Json) {members : List (String × Json)}
    (fresh : name ∉ members.map Prod.fst) :
    assign name value members = members ++ [(name, value)] := by
  induction members with
  | nil => rfl
  | cons member rest ih =>
      simp only [List.map_cons, List.mem_cons, not_or] at fresh
      simp only [assign, if_neg (Ne.symm fresh.1), ih fresh.2, List.cons_append]

/-- Pairs with distinct names are a dictionary already. -/
theorem dict_of_nodup {members : List (String × Json)}
    (distinct : (members.map Prod.fst).Nodup) : dict members = members := by
  induction members using List.reverseRecOn with
  | nil => rfl
  | append_singleton init last ih =>
      rw [List.map_append, List.nodup_append] at distinct
      have fresh : last.1 ∉ init.map Prod.fst := fun member =>
        distinct.2.2 last.1 member last.1 (by simp) rfl
      have before : dict init = init := ih distinct.1
      simp only [dict, List.foldl_append, List.foldl_cons, List.foldl_nil] at before ⊢
      rw [before, assign_of_notMem _ fresh]

theorem stops_printItems (style : Style) (items : List Json) (rest : List Char) :
    Stops isNumberChar (printItems style items ++ rest) ∧
      Stops isBlank (printItems style items ++ rest) := by
  cases items <;> exact ⟨stops_cons (by decide), stops_cons (by decide)⟩

theorem stops_printMembers (style : Style) (members : List (String × Json)) (rest : List Char) :
    Stops isNumberChar (printMembers style members ++ rest) ∧
      Stops isBlank (printMembers style members ++ rest) := by
  cases members <;> exact ⟨stops_cons (by decide), stops_cons (by decide)⟩

/-- A printed member is read back when its value is. -/
theorem parseMember_print {digits levels : Option ℕ} (style : Style) (fuel : ℕ) (name : String)
    (value : Json) (rest : List Char)
    (parsed : parseValue digits fuel levels (print style value ++ rest) = .ok (value, rest)) :
    parseMember digits (fuel + 1) levels
      (printString name ++ ':' :: (style.afterColon ++ (print style value ++ rest))) =
        .ok ((name, value), rest) := by
  have colon : ∀ after : List Char, skipBlanks (':' :: after) = ':' :: after := fun _ =>
    skipBlanks_of_stops (stops_cons (by decide))
  have blanks := skipBlanks_run style.colonBlank ((opens_print style value).stops rest)
  simp only [printString, printText, List.cons_append, parseMember,
    parseString_printText (apart_codePoints name), colon, blanks, parsed, Except.map, shown_codePoints]

theorem opens_printString (name : String) : Opens (printString name) :=
  ⟨'"', _, rfl, by decide⟩

mutual
/-- **The parser undoes the printer**, in front of any text that does not continue a
number. -/
theorem parseValue_print (digits : Option ℕ) (style : Style) :
    ∀ (value : Json) (fuel : ℕ) (levels : Option ℕ) (rest : List Char), Keyed value →
      Fits digits levels value → (print style value).length ≤ fuel → Stops isNumberChar rest →
        parseValue digits fuel levels (print style value ++ rest) = .ok (value, rest)
  | .null, fuel + 1, _, rest, _, _, _, _ => by simp [print, parseValue, parseScalar, parseWord, expect]
  | .bool true, fuel + 1, _, rest, _, _, _, _ => by
      simp [print, parseValue, parseScalar, parseWord, expect]
  | .bool false, fuel + 1, _, rest, _, _, _, _ => by
      simp [print, parseValue, parseScalar, parseWord, expect]
  | .int value, fuel + 1, _, rest, _, fits, _, stops => by
      simp only [print]
      exact parseValue_number (printInt_ne_nil value) (printInt_number value) stops
        (parseNumber_printInt fits stops)
  | .float (.finite literal valid), fuel + 1, _, rest, _, _, _, stops => by
      simp only [print, printFloat]
      exact parseValue_number (isFloatLiteral_ne_nil valid) (isFloatLiteral_number valid).1 stops
        (parseNumber_literal digits valid stops)
  | .float .nan, fuel + 1, _, rest, _, _, _, _ => by
      simp [print, printFloat, parseValue, parseScalar, parseWord, expect]
  | .float .infinity, fuel + 1, _, rest, _, _, _, _ => by
      simp [print, printFloat, parseValue, parseScalar, parseWord, expect]
  | .float .negInfinity, fuel + 1, _, rest, _, _, _, _ => by
      simp [print, printFloat, parseValue, parseScalar, parseWord, expect]
  | .str text, fuel + 1, _, rest, _, _, _, _ => by
      simp only [print, printString]
      rw [parseValue_text fuel (apart_codePoints text), ofText_codePoints]
  | .broken text, fuel + 1, _, rest, keyed, _, _, _ => by
      simp only [print]
      rw [parseValue_text fuel keyed.2, ofText, keyed.1]
  | .arr [], fuel + 1, levels, rest, _, fits, _, _ => by
      cases inside : deeper levels with
      | none => simp only [Fits, inside] at fits
      | some inner => simp [print, parseValue, inside, skipBlanks, isBlank]
  | .arr (item :: items), fuel + 1, levels, rest, keyed, fits, enough, _ => by
      simp only [Keyed, KeyedItems] at keyed
      simp only [print, List.length_cons, List.length_append] at enough
      cases inside : deeper levels with
      | none => simp only [Fits, inside] at fits
      | some inner =>
          simp only [Fits, inside, FitsItems] at fits
          obtain ⟨number, blank⟩ := stops_printItems style items rest
          have first := parseValue_print digits style item fuel inner (printItems style items ++ rest)
            keyed.1 fits.1 (by omega) number
          have others := parseItems_print digits style items fuel inner rest keyed.2 fits.2 (by omega)
          obtain ⟨c, tail, shape, notBlank, notBracket, -⟩ := opens_print style item
          have start : skipBlanks (print style item ++ (printItems style items ++ rest)) =
              c :: (tail ++ (printItems style items ++ rest)) := by
            rw [skipBlanks_of_stops ((opens_print style item).stops _), shape, List.cons_append]
          rw [shape, List.cons_append] at first
          simp only [print, List.cons_append, List.append_assoc, parseValue, inside, start]
          split
          · rename_i after equal
            exact absurd (List.cons.inj equal).1 notBracket
          · simp only [first, skipBlanks_of_stops blank, others, Except.map]
  | .obj [], fuel + 1, levels, rest, _, fits, _, _ => by
      cases inside : deeper levels with
      | none => simp only [Fits, inside] at fits
      | some inner => simp [print, parseValue, inside, skipBlanks, isBlank]
  | .obj ((name, value) :: members), fuel + 1, levels, rest, keyed, fits, enough, _ => by
      simp only [Keyed, KeyedMembers] at keyed
      simp only [print, List.length_cons, List.length_append] at enough
      cases inside : deeper levels with
      | none => simp only [Fits, inside] at fits
      | some inner =>
          simp only [Fits, inside, FitsMembers] at fits
          obtain ⟨number, blank⟩ := stops_printMembers style members rest
          have positive : 0 < (printString name).length := by simp [printString, printText]
          obtain ⟨fuel, rfl⟩ : ∃ less, fuel = less + 1 := Nat.exists_eq_add_one.mpr (by omega)
          have first := parseMember_print style fuel name value (printMembers style members ++ rest)
            (parseValue_print digits style value fuel inner (printMembers style members ++ rest) keyed.2.1
              fits.1 (by omega) number)
          have others := parseMembers_print digits style members (fuel + 1) inner rest keyed.2.2 fits.2
            (by omega)
          have start : skipBlanks (printString name ++ ':' ::
              (style.afterColon ++ (print style value ++ (printMembers style members ++ rest)))) =
              printString name ++ ':' ::
                (style.afterColon ++ (print style value ++ (printMembers style members ++ rest))) :=
            skipBlanks_of_stops ((opens_printString name).stops _)
          simp only [print, List.cons_append, List.append_assoc, parseValue, inside, start]
          split
          · rename_i after equal
            exact absurd (List.cons.inj equal).1 (by decide)
          · simp only [first, skipBlanks_of_stops blank, others, Except.map, dict_of_nodup keyed.1]
  | .null, 0, _, _, _, _, enough, _ | .bool true, 0, _, _, _, _, enough, _
  | .bool false, 0, _, _, _, _, enough, _ | .float .nan, 0, _, _, _, _, enough, _
  | .float .infinity, 0, _, _, _, _, enough, _ | .float .negInfinity, 0, _, _, _, _, enough, _
  | .str _, 0, _, _, _, _, enough, _ | .broken _, 0, _, _, _, _, enough, _
  | .arr [], 0, _, _, _, _, enough, _ | .obj [], 0, _, _, _, _, enough, _
  | .arr (_ :: _), 0, _, _, _, _, enough, _ | .obj (_ :: _), 0, _, _, _, _, enough, _ => by
      simp [print, printString, printText, printFloat] at enough
  | .int value, 0, _, _, _, _, enough, _ => by
      exact absurd (List.length_eq_zero_iff.mp (Nat.le_zero.mp enough)) (printInt_ne_nil value)
  | .float (.finite literal valid), 0, _, _, _, _, enough, _ => by
      exact absurd (List.length_eq_zero_iff.mp (Nat.le_zero.mp enough))
        (isFloatLiteral_ne_nil valid)

theorem parseItems_print (digits : Option ℕ) (style : Style) :
    ∀ (items : List Json) (fuel : ℕ) (levels : Option ℕ) (rest : List Char), KeyedItems items →
      FitsItems digits levels items → (printItems style items).length ≤ fuel →
        parseItems digits fuel levels (printItems style items ++ rest) = .ok (items, rest)
  | [], fuel + 1, _, rest, _, _, _ => rfl
  | item :: items, fuel + 1, levels, rest, keyed, fits, enough => by
      simp only [KeyedItems] at keyed
      simp only [FitsItems] at fits
      simp only [printItems, List.length_cons, List.length_append] at enough
      obtain ⟨number, blank⟩ := stops_printItems style items rest
      have first := parseValue_print digits style item fuel levels (printItems style items ++ rest) keyed.1
        fits.1 (by omega) number
      have others := parseItems_print digits style items fuel levels rest keyed.2 fits.2 (by omega)
      have start := skipBlanks_run style.commaBlank
        ((opens_print style item).stops (printItems style items ++ rest))
      simp only [printItems, List.cons_append, List.append_assoc, parseItems, start, first,
        skipBlanks_of_stops blank, others, Except.map]
  | [], 0, _, _, _, _, enough | _ :: _, 0, _, _, _, _, enough => by simp [printItems] at enough

theorem parseMembers_print (digits : Option ℕ) (style : Style) :
    ∀ (members : List (String × Json)) (fuel : ℕ) (levels : Option ℕ) (rest : List Char),
      KeyedMembers members → FitsMembers digits levels members →
        (printMembers style members).length ≤ fuel →
          parseMembers digits fuel levels (printMembers style members ++ rest) = .ok (members, rest)
  | [], fuel + 1, _, rest, _, _, _ => rfl
  | (name, value) :: members, fuel + 1, levels, rest, keyed, fits, enough => by
      simp only [KeyedMembers] at keyed
      simp only [FitsMembers] at fits
      simp only [printMembers, List.length_cons, List.length_append] at enough
      obtain ⟨number, blank⟩ := stops_printMembers style members rest
      have positive : 0 < (printString name).length := by simp [printString, printText]
      obtain ⟨fuel, rfl⟩ : ∃ less, fuel = less + 1 := Nat.exists_eq_add_one.mpr (by omega)
      have first := parseMember_print style fuel name value (printMembers style members ++ rest)
        (parseValue_print digits style value fuel levels (printMembers style members ++ rest) keyed.1
          fits.1 (by omega) number)
      have others := parseMembers_print digits style members (fuel + 1) levels rest keyed.2 fits.2
        (by omega)
      have start := skipBlanks_run style.commaBlank ((opens_printString name).stops
        (':' :: (style.afterColon ++ (print style value ++ (printMembers style members ++ rest)))))
      simp only [printMembers, List.cons_append, List.append_assoc, parseMembers, start, first,
        skipBlanks_of_stops blank, others, Except.map]
  | [], 0, _, _, _, _, enough | _ :: _, 0, _, _, _, _, enough => by simp [printMembers] at enough
end

/-- **A printed value is decoded to itself**, in every style, if it keeps the limits. -/
theorem decode_dumps {digits levels : Option ℕ} (style : Style) {value : Json} (keyed : Keyed value)
    (fits : Fits digits levels value) : decode digits levels (dumps style value) = .ok value := by
  have opens := opens_print style value
  have start : skipBlanks (print style value) = print style value := by
    simpa only [List.append_nil] using skipBlanks_of_stops (opens.stops [])
  have parsed := parseValue_print digits style value ((print style value).length + 1) levels [] keyed fits
    (Nat.le_succ _) (stops_nil _)
  rw [List.append_nil] at parsed
  simp only [decode, dumps, String.toList_ofList, start, parsed]
  rfl

/-- **A printed value stands for itself.** -/
theorem parse_dumps (style : Style) {value : Json} (keyed : Keyed value) :
    parse (dumps style value) = some value := by
  rw [parse, decode_dumps style keyed (fits_unlimited value)]
  rfl

/-- Two values with the same text are equal. -/
theorem dumps_injective (style : Style) {first second : Json} (keyedFirst : Keyed first)
    (keyedSecond : Keyed second) (equal : dumps style first = dumps style second) :
    first = second := by
  have read := parse_dumps style keyedFirst
  rw [equal, parse_dumps style keyedSecond] at read
  exact (Option.some.inj read).symm

/-- Two values whose sorted texts are equal are the same JSON value. -/
theorem same_of_dumps_sortKeys (style : Style) {first second : Json} (keyedFirst : Keyed first)
    (keyedSecond : Keyed second)
    (equal : dumps style first.sortKeys = dumps style second.sortKeys) : Same first second :=
  dumps_injective style (keyed_sortKeys first keyedFirst) (keyed_sortKeys second keyedSecond) equal

end Json
end LlmGateway.Library
