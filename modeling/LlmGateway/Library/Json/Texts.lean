import LlmGateway.Library.Json.RoundTrip

/-!
# The texts that are printed and the values that are read

The printer writes nothing but printable ASCII characters, whatever the strings of a value
contain (`printable_print`). The parser reads nothing but values whose objects have no name
twice (`keyed_parse`). With limits it reads nothing but values that keep them (`fits_decode`), and
what it reads is what the text stands for (`parse_of_decode`).
-/

set_option autoImplicit false

namespace LlmGateway.Library

/-- A character between the blank and the tilde. -/
def IsPrintable (c : Char) : Prop := 32 ≤ c.toNat ∧ c.toNat ≤ 126

instance : DecidablePred IsPrintable := fun c =>
  inferInstanceAs (Decidable (32 ≤ c.toNat ∧ c.toNat ≤ 126))

/-- Every character of a text is printable. -/
def Printable (text : List Char) : Prop := ∀ c ∈ text, IsPrintable c

theorem printable_of_all {text : List Char}
    (all : (text.all fun c => decide (IsPrintable c)) = true) : Printable text :=
  fun c member => of_decide_eq_true (List.all_eq_true.mp all c member)

theorem printable_nil : Printable [] := fun _ member => absurd member List.not_mem_nil

theorem printable_cons {c : Char} {text : List Char} :
    Printable (c :: text) ↔ IsPrintable c ∧ Printable text := List.forall_mem_cons

theorem printable_append {first second : List Char} :
    Printable (first ++ second) ↔ Printable first ∧ Printable second := List.forall_mem_append

namespace Json

/-! ## Printing -/

theorem printable_hexDigit : ∀ n < 16, IsPrintable (hexDigit n) := by decide

theorem printable_escapeUnit (n : ℕ) : Printable (escapeUnit n) := by
  have digit (m : ℕ) : IsPrintable (hexDigit (m % 16)) :=
    printable_hexDigit _ (Nat.mod_lt _ (by decide))
  simp only [escapeUnit, printable_cons]
  exact ⟨by decide, by decide, digit _, digit _, digit _, digit _, printable_nil⟩

/-- The escape of a character, whichever it is. -/
theorem printable_escapeChar (c : Char) : Printable (escapeChar c) := by
  unfold escapeChar
  split_ifs with h₁ h₂ h₃ h₄ h₅ h₆ h₇ printable
  iterate 7 exact printable_cons.mpr ⟨by decide, printable_cons.mpr ⟨by decide, printable_nil⟩⟩
  · exact printable_cons.mpr ⟨printable, printable_nil⟩
  · exact printable_escapeUnit _
  · exact printable_append.mpr ⟨printable_escapeUnit _, printable_escapeUnit _⟩

theorem printable_escapePoint (point : CodePoint) : Printable (escapePoint point) := by
  cases point with
  | char c => exact printable_escapeChar c
  | surrogate unit => exact printable_escapeUnit _

theorem printable_printText (text : List CodePoint) : Printable (printText text) := by
  refine printable_cons.mpr ⟨by decide, printable_append.mpr ⟨?_, ?_⟩⟩
  · intro c member
    obtain ⟨original, -, escaped⟩ := List.mem_flatMap.mp member
    exact printable_escapePoint original c escaped
  · exact printable_cons.mpr ⟨by decide, printable_nil⟩

theorem printable_printString (text : String) : Printable (printString text) :=
  printable_printText (codePoints text)

theorem printable_of_number {c : Char} (number : isNumberChar c = true) : IsPrintable c := by
  simp only [isNumberChar, Bool.or_eq_true, beq_iff_eq, Char.isDigit, Bool.and_eq_true,
    decide_eq_true_eq, UInt32.le_iff_toNat_le] at number
  rcases number with ((((⟨lower, upper⟩ | rfl) | rfl) | rfl) | rfl) | rfl
  · have low : 48 ≤ c.toNat := lower
    have high : c.toNat ≤ 57 := upper
    exact ⟨by omega, by omega⟩
  all_goals decide

theorem printable_printFloat (value : JsonFloat) : Printable (printFloat value) := by
  cases value with
  | finite literal valid =>
      exact fun c member => printable_of_number ((isFloatLiteral_number valid).1 c member)
  | nan | infinity | negInfinity => exact printable_of_all rfl

/-- A style that writes printable blanks. -/
structure Style.OnLine (style : Style) : Prop where
  comma : Printable style.afterComma
  colon : Printable style.afterColon

theorem Style.onLine_spaced : Style.spaced.OnLine where
  comma := printable_of_all rfl
  colon := printable_of_all rfl

section Print

variable {style : Style} (onLine : style.OnLine)
include onLine

mutual
/-- **Every text that is printed is printable.** -/
theorem printable_print : ∀ value : Json, Printable (print style value)
  | .null => printable_of_all rfl
  | .bool true => printable_of_all rfl
  | .bool false => printable_of_all rfl
  | .int value => fun c member => printable_of_number (printInt_number value c member)
  | .float value => printable_printFloat value
  | .str value => printable_printString value
  | .broken text => printable_printText text
  | .arr [] => printable_of_all rfl
  | .arr (item :: rest) =>
      printable_cons.mpr ⟨by decide,
        printable_append.mpr ⟨printable_print item, printable_printItems rest⟩⟩
  | .obj [] => printable_of_all rfl
  | .obj ((name, value) :: rest) =>
      printable_cons.mpr ⟨by decide, printable_append.mpr ⟨printable_append.mpr
        ⟨printable_printString name, printable_cons.mpr ⟨by decide,
          printable_append.mpr ⟨onLine.colon, printable_print value⟩⟩⟩,
        printable_printMembers rest⟩⟩

theorem printable_printItems : ∀ items : List Json, Printable (printItems style items)
  | [] => printable_of_all rfl
  | item :: rest =>
      printable_cons.mpr ⟨by decide, printable_append.mpr ⟨printable_append.mpr
        ⟨onLine.comma, printable_print item⟩, printable_printItems rest⟩⟩

theorem printable_printMembers :
    ∀ members : List (String × Json), Printable (printMembers style members)
  | [] => printable_of_all rfl
  | (name, value) :: rest =>
      printable_cons.mpr ⟨by decide, printable_append.mpr ⟨printable_append.mpr
        ⟨printable_append.mpr ⟨onLine.comma, printable_printString name⟩,
          printable_cons.mpr ⟨by decide,
            printable_append.mpr ⟨onLine.colon, printable_print value⟩⟩⟩,
        printable_printMembers rest⟩⟩
end

end Print

/-! ## Reading -/

theorem assign_names (key : String) (value : Json) (members : List (String × Json)) :
    (assign key value members).map Prod.fst =
      if key ∈ members.map Prod.fst then members.map Prod.fst
      else members.map Prod.fst ++ [key] := by
  induction members with
  | nil => rfl
  | cons member rest ih =>
      obtain ⟨name, old⟩ := member
      by_cases same : name = key
      · simp [assign, same]
      · have apart : key ≠ name := fun equal => same equal.symm
        simp only [assign, same, if_false, List.map_cons, ih, List.mem_cons, apart, false_or]
        split <;> rfl

theorem nodup_assign {key : String} {value : Json} {members : List (String × Json)}
    (nodup : (members.map Prod.fst).Nodup) : ((assign key value members).map Prod.fst).Nodup := by
  rw [assign_names]
  split
  · exact nodup
  · rename_i absent
    exact List.nodup_append.mpr ⟨nodup, List.nodup_singleton _, by
      rintro name member other single rfl
      exact absent (List.mem_singleton.mp single ▸ member)⟩

theorem keyedMembers_assign {key : String} {value : Json} {members : List (String × Json)}
    (keyed : KeyedMembers members) (new : value.Keyed) : KeyedMembers (assign key value members) := by
  induction members with
  | nil => exact ⟨new, trivial⟩
  | cons member rest ih =>
      obtain ⟨name, old⟩ := member
      simp only [assign]
      split
      · exact ⟨new, keyed.2⟩
      · exact ⟨keyed.1, ih keyed.2⟩

/-- A dictionary has no name twice. -/
theorem keyed_dict {pairs : List (String × Json)} (keyed : KeyedMembers pairs) :
    (Json.obj (dict pairs)).Keyed := by
  have grown : ∀ (pairs members : List (String × Json)), KeyedMembers pairs →
      (members.map Prod.fst).Nodup → KeyedMembers members →
        (Json.obj (pairs.foldl (fun members pair => assign pair.1 pair.2 members) members)).Keyed := by
    intro pairs
    induction pairs with
    | nil => exact fun members _ nodup given => ⟨nodup, given⟩
    | cons pair rest ih =>
        intro members keyed nodup given
        exact ih _ keyed.2 (nodup_assign nodup) (keyedMembers_assign given keyed.1)
  exact grown pairs [] keyed List.nodup_nil trivial

section Limits

variable {digits : Option ℕ}

theorem fitsMembers_assign {levels : Option ℕ} {key : String} {value : Json}
    {members : List (String × Json)} (fits : FitsMembers digits levels members)
    (new : value.Fits digits levels) : FitsMembers digits levels (assign key value members) := by
  induction members with
  | nil => exact ⟨new, trivial⟩
  | cons member rest ih =>
      obtain ⟨name, old⟩ := member
      simp only [assign]
      split
      · exact ⟨new, fits.2⟩
      · exact ⟨fits.1, ih fits.2⟩

theorem fitsMembers_dict {levels : Option ℕ} {pairs : List (String × Json)}
    (fits : FitsMembers digits levels pairs) : FitsMembers digits levels (dict pairs) := by
  have grown : ∀ pairs members : List (String × Json), FitsMembers digits levels pairs →
      FitsMembers digits levels members → FitsMembers digits levels
        (pairs.foldl (fun members pair => assign pair.1 pair.2 members) members) := by
    intro pairs
    induction pairs with
    | nil => exact fun members _ given => given
    | cons pair rest ih =>
        exact fun members fits given => ih _ fits.2 (fitsMembers_assign given fits.1)
  exact grown pairs [] fits trivial

theorem ofDigitChars_lt {text : List Char} (all : text.all Char.isDigit = true) (first : ℕ) :
    Nat.ofDigitChars 10 text first < (first + 1) * 10 ^ text.length := by
  induction text generalizing first with
  | nil => simp
  | cons c rest ih =>
      obtain ⟨digit, others⟩ := Bool.and_eq_true_iff.mp (List.all_cons.symm.trans all)
      have small : c.toNat - '0'.toNat ≤ 9 := by
        have upper : c.toNat ≤ 57 := (Char.isDigit_iff_toNat.mp digit).2
        have zero : '0'.toNat = 48 := rfl
        omega
      rw [Nat.ofDigitChars_cons, List.length_cons, Nat.pow_succ]
      calc Nat.ofDigitChars 10 rest (10 * first + (c.toNat - '0'.toNat))
          < (10 * first + (c.toNat - '0'.toNat) + 1) * 10 ^ rest.length := ih others _
        _ ≤ (first + 1) * 10 * 10 ^ rest.length := Nat.mul_le_mul_right _ (by omega)
        _ = (first + 1) * (10 ^ rest.length * 10) := by rw [Nat.mul_assoc, Nat.mul_comm 10]

/-- An integer has no more digits than its literal. -/
theorem intDigits_intValue {text : List Char} (literal : isIntLiteral text = true) :
    intDigits (intValue text) ≤ (unsigned text).length := by
  have digits : (unsigned text).all Char.isDigit = true ∧ 0 < (unsigned text).length := by
    unfold isIntLiteral isWhole at literal
    split at literal
    · cases literal
    · rename_i same
      rw [same]
      simpa using literal
    · rename_i same
      rw [same, List.all_cons, Bool.and_eq_true]
      rw [Bool.and_eq_true, Bool.and_eq_true] at literal
      exact ⟨⟨literal.1.2, literal.2⟩, Nat.succ_pos _⟩
  have value : (intValue text).natAbs = Nat.ofDigitChars 10 (unsigned text) 0 := by
    unfold intValue unsigned
    split <;> simp
  rw [intDigits, value, Nat.length_toDigits_le_iff (by decide) digits.2]
  simpa using ofDigitChars_lt digits.1 0

theorem withinLimit_of_le {limit : Option ℕ} {m n : ℕ} (within : withinLimit limit n = true)
    (less : m ≤ n) : withinLimit limit m = true := by
  cases limit with
  | none => rfl
  | some most => exact decide_eq_true (less.trans (of_decide_eq_true within))

end Limits

/-! ### Texts that stand apart -/

/-- After the first half of a pair the other half does not come. -/
theorem noLow_of_takePoint {text rest : List Char} {point : CodePoint}
    (taken : takePoint text = some (point, rest)) (isHigh : point.isHigh = true) : NoLow rest := by
  unfold takePoint at taken
  split at taken
  · cases taken
  · split at taken
    · cases taken
    · rename_i high after first
      split_ifs at taken with half
      · split at taken
        · rename_i low more second
          split_ifs at taken with other
          · cases taken
            cases isHigh
          · cases taken
            intro found next same
            rw [second] at same
            cases same
            exact Bool.eq_false_of_not_eq_true other
        · rename_i second
          cases taken
          intro found next same
          rw [second] at same
          cases same
      · -- a unit that is no first half gives no first half
        cases taken
        simp only [isHighSurrogate, Bool.and_eq_true, decide_eq_true_eq] at half
        unfold unitPoint at isHigh
        split_ifs at isHigh with inside
        · simp only [CodePoint.isHigh, decide_eq_true_eq] at isHigh
          omega
        · cases isHigh
  · obtain ⟨c, -, same⟩ := Option.map_eq_some_iff.mp taken
    cases same
    cases isHigh
  · split_ifs at taken
    cases taken
    cases isHigh

/-- Where no second half comes, none is read. -/
theorem isLow_of_takePoint {text rest : List Char} {point : CodePoint} (noLow : NoLow text)
    (taken : takePoint text = some (point, rest)) : point.isLow = false := by
  unfold takePoint at taken
  split at taken
  · cases taken
  · split at taken
    · cases taken
    · rename_i high after first
      have notLow := noLow high after first
      have alone : (unitPoint high).isLow = false := by
        simp only [isLowSurrogate, Bool.and_eq_false_iff, decide_eq_false_iff_not] at notLow
        unfold unitPoint
        split_ifs with inside
        · simp only [CodePoint.isLow, decide_eq_false_iff_not]
          omega
        · rfl
      split_ifs at taken with half
      · split at taken
        · split_ifs at taken with other
          · cases taken
            rfl
          · cases taken
            exact alone
        · cases taken
          exact alone
      · cases taken
        exact alone
  · obtain ⟨c, -, same⟩ := Option.map_eq_some_iff.mp taken
    cases same
    rfl
  · split_ifs at taken
    cases taken
    rfl

/-- **What is read stands apart**: the halves of a pair are read as a character. -/
theorem apart_parseString {fuel : ℕ} {text rest : List Char} {body : List CodePoint}
    (parsed : parseString fuel text = some (body, rest)) :
    Apart body ∧ (NoLow text → ∀ point after, body = point :: after → point.isLow = false) := by
  induction fuel generalizing text body rest with
  | zero => cases parsed
  | succ fuel ih =>
      unfold parseString at parsed
      split at parsed
      · rename_i none
        cases none
      · cases parsed
        exact ⟨trivial, fun _ point after same => by cases same⟩
      · rename_i fueled _
        cases fueled
        split at parsed
        · cases parsed
        · rename_i point more taken
          obtain ⟨⟨others, left⟩, later, same⟩ := Option.map_eq_some_iff.mp parsed
          cases same
          obtain ⟨apart, first⟩ := ih later
          refine ⟨?_, fun noLow first' after same => ?_⟩
          · cases others with
            | nil => trivial
            | cons next others =>
                refine ⟨fun both => ?_, apart⟩
                have notLow := first (noLow_of_takePoint taken both.1) next others rfl
                exact Bool.false_ne_true (notLow.symm.trans both.2)
          · obtain ⟨rfl, -⟩ := List.cons.inj same
            exact isLow_of_takePoint noLow taken

theorem fits_ofText {digits levels : Option ℕ} (text : List CodePoint) :
    (ofText text).Fits digits levels := by
  unfold ofText
  split <;> trivial

theorem keyed_ofText {text : List CodePoint} (apart : Apart text) : (ofText text).Keyed := by
  unfold ofText
  split
  · trivial
  · rename_i broken
    exact ⟨broken, apart⟩

/-! ### What is read -/

/-- With so much fuel, a decoder reads what has no name twice and keeps its limits, and it reads
what is there. -/
structure Decodes (digits : Option ℕ) (fuel : ℕ) : Prop where
  value : ∀ levels text value rest, parseValue digits fuel levels text = .ok (value, rest) →
    value.Keyed ∧ value.Fits digits levels ∧ parseValue none fuel none text = .ok (value, rest)
  items : ∀ levels text items rest, parseItems digits fuel levels text = .ok (items, rest) →
    KeyedItems items ∧ FitsItems digits levels items ∧
      parseItems none fuel none text = .ok (items, rest)
  members : ∀ levels text members rest, parseMembers digits fuel levels text = .ok (members, rest) →
    KeyedMembers members ∧ FitsMembers digits levels members ∧
      parseMembers none fuel none text = .ok (members, rest)
  member : ∀ levels text member rest, parseMember digits fuel levels text = .ok (member, rest) →
    member.2.Keyed ∧ member.2.Fits digits levels ∧
      parseMember none fuel none text = .ok (member, rest)

theorem map_eq_ok {α β : Type} {result : Except DecodeError α} {make : α → β} {made : β}
    (mapped : result.map make = .ok made) : ∃ value, result = .ok value ∧ make value = made := by
  cases result with
  | error => cases mapped
  | ok value => exact ⟨value, rfl, Except.ok.inj mapped⟩

theorem expect_eq_ok {α : Type} {result : Option α} {value : α} (read : expect result = .ok value) :
    result = some value := by
  cases result with
  | none => cases read
  | some _ => exact congrArg some (Except.ok.inj read)

theorem parseWord_eq_some {word text rest : List Char} {value result : Json}
    (parsed : parseWord word value text = some (result, rest)) : result = value := by
  unfold parseWord at parsed
  split at parsed
  · cases parsed
    rfl
  · cases parsed

section Digits

variable {digits : Option ℕ}

theorem parseNumber_unlimited {text rest : List Char} {value : Json} (levels : Option ℕ)
    (parsed : parseNumber digits text = some (value, rest)) :
    value.Keyed ∧ value.Fits digits levels ∧ parseNumber none text = some (value, rest) := by
  simp only [parseNumber] at parsed ⊢
  split_ifs at parsed with whole short valid
  · cases parsed
    exact ⟨trivial, withinLimit_of_le short (intDigits_intValue whole), by rw [if_pos whole]; rfl⟩
  · cases parsed
    exact ⟨trivial, trivial, by rw [if_neg whole, dif_pos valid]⟩

theorem parseScalar_unlimited {text rest : List Char} {value : Json} (levels : Option ℕ)
    (parsed : parseScalar digits text = some (value, rest)) :
    value.Keyed ∧ value.Fits digits levels ∧ parseScalar none text = some (value, rest) := by
  unfold parseScalar at parsed ⊢
  split at parsed
  · cases parsed
  · split_ifs at parsed ⊢
    iterate 6
      obtain rfl := parseWord_eq_some parsed
      exact ⟨trivial, trivial, parsed⟩
    exact parseNumber_unlimited levels parsed

section Fuel

variable {fuel : ℕ} (decodes : Decodes digits fuel)
include decodes

theorem decodes_parseValue {levels : Option ℕ} {text rest : List Char} {value : Json}
    (parsed : parseValue digits (fuel + 1) levels text = .ok (value, rest)) :
    value.Keyed ∧ value.Fits digits levels ∧
      parseValue none (fuel + 1) none text = .ok (value, rest) := by
  unfold parseValue at parsed ⊢
  split at parsed
  · cases parsed
  · obtain ⟨⟨body, after⟩, read, same⟩ := map_eq_ok parsed
    cases same
    exact ⟨keyed_ofText (apart_parseString (expect_eq_ok read)).1, fits_ofText _, by rw [read]; rfl⟩
  · rename_i fueled
    cases fueled
    split at parsed
    · cases parsed
    · rename_i inner left
      split at parsed
      · cases parsed
        exact ⟨trivial, by simp only [Fits, left, FitsItems], rfl⟩
      · rename_i start opened
        split at parsed
        · cases parsed
        · rename_i item after first
          obtain ⟨⟨items, end'⟩, others, same⟩ := map_eq_ok parsed
          cases same
          obtain ⟨keyed, fits, head⟩ := decodes.value _ _ _ _ first
          obtain ⟨tail, short, more⟩ := decodes.items _ _ _ _ others
          refine ⟨⟨keyed, tail⟩, ?_, ?_⟩
          · simp only [Fits, left]
            exact ⟨fits, short⟩
          · simp only [deeper, head, more, Except.map]
  · rename_i fueled
    cases fueled
    split at parsed
    · cases parsed
    · rename_i inner left
      split at parsed
      · cases parsed
        exact ⟨⟨List.nodup_nil, trivial⟩, by simp only [Fits, left, FitsMembers], rfl⟩
      · rename_i start opened
        split at parsed
        · cases parsed
        · rename_i member after first
          obtain ⟨⟨members, end'⟩, others, same⟩ := map_eq_ok parsed
          cases same
          obtain ⟨keyed, fits, head⟩ := decodes.member _ _ _ _ first
          obtain ⟨tail, short, more⟩ := decodes.members _ _ _ _ others
          refine ⟨keyed_dict ⟨keyed, tail⟩, ?_, ?_⟩
          · simp only [Fits, left]
            exact fitsMembers_dict ⟨fits, short⟩
          · simp only [deeper, head, more, Except.map]
  · obtain ⟨keyed, fits, same⟩ := parseScalar_unlimited _ (expect_eq_ok parsed)
    exact ⟨keyed, fits, by rw [same]; rfl⟩

theorem decodes_parseItems {levels : Option ℕ} {text rest : List Char} {items : List Json}
    (parsed : parseItems digits (fuel + 1) levels text = .ok (items, rest)) :
    KeyedItems items ∧ FitsItems digits levels items ∧
      parseItems none (fuel + 1) none text = .ok (items, rest) := by
  unfold parseItems at parsed ⊢
  split at parsed
  · cases parsed
  · cases parsed
    exact ⟨trivial, trivial, rfl⟩
  · rename_i fueled
    cases fueled
    split at parsed
    · cases parsed
    · rename_i item after first
      obtain ⟨⟨others, left⟩, later, same⟩ := map_eq_ok parsed
      cases same
      obtain ⟨keyed, fits, head⟩ := decodes.value _ _ _ _ first
      obtain ⟨tail, short, more⟩ := decodes.items _ _ _ _ later
      exact ⟨⟨keyed, tail⟩, ⟨fits, short⟩, by simp only [head, more, Except.map]⟩
  · cases parsed

theorem decodes_parseMembers {levels : Option ℕ} {text rest : List Char} {members : List (String × Json)}
    (parsed : parseMembers digits (fuel + 1) levels text = .ok (members, rest)) :
    KeyedMembers members ∧ FitsMembers digits levels members ∧
      parseMembers none (fuel + 1) none text = .ok (members, rest) := by
  unfold parseMembers at parsed ⊢
  split at parsed
  · cases parsed
  · cases parsed
    exact ⟨trivial, trivial, rfl⟩
  · rename_i fueled
    cases fueled
    split at parsed
    · cases parsed
    · rename_i member after first
      obtain ⟨⟨others, left⟩, later, same⟩ := map_eq_ok parsed
      cases same
      obtain ⟨keyed, fits, head⟩ := decodes.member _ _ _ _ first
      obtain ⟨tail, short, more⟩ := decodes.members _ _ _ _ later
      exact ⟨⟨keyed, tail⟩, ⟨fits, short⟩, by simp only [head, more, Except.map]⟩
  · cases parsed

theorem decodes_parseMember {levels : Option ℕ} {text rest : List Char} {member : String × Json}
    (parsed : parseMember digits (fuel + 1) levels text = .ok (member, rest)) :
    member.2.Keyed ∧ member.2.Fits digits levels ∧
      parseMember none (fuel + 1) none text = .ok (member, rest) := by
  unfold parseMember at parsed ⊢
  split at parsed
  · cases parsed
  · rename_i fueled
    cases fueled
    split at parsed
    · cases parsed
    · rename_i name after named
      split at parsed
      · rename_i start colon
        obtain ⟨⟨value, left⟩, read, same⟩ := map_eq_ok parsed
        cases same
        obtain ⟨keyed, fits, whole⟩ := decodes.value _ _ _ _ read
        exact ⟨keyed, fits, by simp only [whole, Except.map]⟩
      · cases parsed
  · cases parsed

end Fuel

theorem decodes (fuel : ℕ) : Decodes digits fuel := by
  induction fuel with
  | zero =>
      refine ⟨?_, ?_, ?_, ?_⟩ <;> intro levels text result rest parsed <;>
        simp [parseValue, parseItems, parseMembers, parseMember] at parsed
  | succ fuel ih =>
      exact ⟨fun _ _ _ _ => decodes_parseValue ih, fun _ _ _ _ => decodes_parseItems ih,
        fun _ _ _ _ => decodes_parseMembers ih, fun _ _ _ _ => decodes_parseMember ih⟩

theorem decode_cases {levels : Option ℕ} {text : String} {value : Json}
    (read : decode digits levels text = .ok value) :
    value.Keyed ∧ value.Fits digits levels ∧ decode none none text = .ok value := by
  unfold decode at read ⊢
  split at read
  · rename_i parsed
    obtain ⟨keyed, fits, same⟩ := (decodes _).value _ _ _ _ parsed
    rw [same]
    dsimp only
    split_ifs at read ⊢ with ended
    cases read
    exact ⟨keyed, fits, rfl⟩
  · cases read

/-- **What is read is a dictionary at every level.** -/
theorem keyed_decode {levels : Option ℕ} {text : String} {value : Json}
    (read : decode digits levels text = .ok value) : value.Keyed := (decode_cases read).1

/-- What is read keeps the limits. -/
theorem fits_decode {levels : Option ℕ} {text : String} {value : Json}
    (read : decode digits levels text = .ok value) : value.Fits digits levels := (decode_cases read).2.1

/-- **A decoder with limits** reads what the text stands for, if it reads it. -/
theorem parse_of_decode {levels : Option ℕ} {text : String} {value : Json}
    (read : decode digits levels text = .ok value) : parse text = some value := by
  rw [parse, (decode_cases read).2.2]
  rfl

end Digits

end Json

end LlmGateway.Library
