import LlmGateway.Streams.Replay
import LlmGateway.Streams.Usable

/-!
# Token counts

What `capture_usage` and `ChunkAccumulator.feed` make of the counts of a `usage` object. A count is
an integer, or a text that writes one (`statedCount`); every other value leaves the count to its
default.

A line that the interpreter cannot decode, although it is JSON, is passed over (an integer of it is too
long) or raises (it is nested too deeply): no count of it is read.

`_to_int` tests a text by stripping its minus signs and looking for digits, and then converts it as
a whole. The two agree about a text exactly if it is `Straight`: a plus sign fails the test, and
several minus signs, digits without a decimal value and more digits than `int` converts pass it
(`tokens_iff`).
-/

set_option autoImplicit false

namespace LlmGateway

open LlmGateway.Library
open LlmGateway.Library.PythonText

/-! ## The counts that are meant -/

/-- The integer that a text writes: decimal digits after an optional sign. -/
def signedDecimal : List Char → Option ℤ
  | '-' :: digits => if Decimals digits then some (-(decimalNumber digits : ℤ)) else none
  | '+' :: digits => if Decimals digits then some (decimalNumber digits : ℤ) else none
  | digits => if Decimals digits then some (decimalNumber digits : ℤ) else none

/-- The integer that a value states. A boolean is an integer. -/
def statedCount : Json → Option ℤ
  | .int n => some n
  | .bool b => some (if b then 1 else 0)
  | .str text => signedDecimal text.toList
  | _ => none

/-- The counts that a `usage` object states. -/
def statedCounts (members : List (String × Json)) : CountsReading where
  prompt := statedCount (got members "prompt_tokens")
  completion := statedCount (got members "completion_tokens")
  total := statedCount (got members "total_tokens")

/-- `capture_usage` returns the stated counts, whatever the usage was. -/
def Captures (python : Interpreter) (line : String) (counts : CountsReading) : Prop :=
  ∀ current : Usage, captureUsage python line current = .ok (counts.apply current (· + ·))

/-- `feed` returns and leaves the stated counts, whatever the accumulator was. -/
def Feeds (python : Interpreter) (line : String) (counts : CountsReading) : Prop :=
  ∀ accumulator : ChunkAccumulator, ∃ after,
    ChunkAccumulator.feed python line accumulator = .ok () after ∧
      after.usage = counts.apply accumulator.usage fun _ _ => accumulator.usage.totalTokens

/-! ## Straight texts -/

/-- A text about which the test of `_to_int` and `int` agree. -/
structure StraightText (text : List Char) : Prop where
  unsigned : ∀ digits, text = '+' :: digits → ¬ Decimals digits
  readable : allDigits (lstrip '-' text) = true →
    ∃ digits, (text = digits ∨ text = '-' :: digits) ∧ Decimals digits ∧
      digits.length ≤ maxStrDigits

/-- A count that is no text, or a straight one. -/
def Straight (value : Json) : Prop := ∀ text, value = .str text → StraightText text.toList

/-- The counts of a `usage` object are straight. -/
structure StraightCounts (members : List (String × Json)) : Prop where
  prompt : Straight (got members "prompt_tokens")
  completion : Straight (got members "completion_tokens")
  total : Straight (got members "total_tokens")

/-! ## One count -/

section Texts

variable {digits : List Char}

theorem isDigit_of_decimals (decimals : Decimals digits) : ∀ c ∈ digits, isDigit c = true := by
  intro c member
  rw [isDigit, List.all_eq_true.mp decimals.2 c member, Bool.true_or]

/-- Digits begin with no sign. -/
theorem notSign_of_digits (given : ∀ c ∈ digits, isDigit c = true) (rest : List Char) :
    digits ≠ '-' :: rest ∧ digits ≠ '+' :: rest := by
  constructor <;> rintro rfl
  · exact (notSign_of_isDigit (given '-' List.mem_cons_self)).1 rfl
  · exact (notSign_of_isDigit (given '+' List.mem_cons_self)).2 rfl

theorem lstrip_digits (given : ∀ c ∈ digits, isDigit c = true) : lstrip '-' digits = digits := by
  cases digits with
  | nil => rfl
  | cons c rest =>
      have notMinus := (notSign_of_isDigit (given c List.mem_cons_self)).1
      rw [lstrip, List.dropWhile_cons_of_neg (by simpa using notMinus)]

/-- Decimals pass the test of `_to_int`, with a minus sign or without. -/
theorem allDigits_of_decimals (decimals : Decimals digits) :
    allDigits (lstrip '-' digits) = true ∧ allDigits (lstrip '-' ('-' :: digits)) = true := by
  have given := isDigit_of_decimals decimals
  have minus : lstrip '-' ('-' :: digits) = lstrip '-' digits := rfl
  rw [minus, lstrip_digits given, and_self, allDigits, Bool.and_eq_true, List.all_eq_true]
  exact ⟨by simpa using decimals.1, given⟩

theorem signedDecimal_digits (decimals : Decimals digits) :
    signedDecimal digits = some (decimalNumber digits : ℤ) := by
  have unsigned := notSign_of_digits (isDigit_of_decimals decimals)
  rw [signedDecimal]
  · exact if_pos decimals
  · exact fun rest => (unsigned rest).1
  · exact fun rest => (unsigned rest).2

/-- The texts that write an integer. -/
theorem signedDecimal_cases {text : List Char} {n : ℤ} (written : signedDecimal text = some n) :
    (∃ digits, (text = digits ∨ text = '-' :: digits) ∧ Decimals digits) ∨
      ∃ digits, text = '+' :: digits ∧ Decimals digits ∧ 0 ≤ n := by
  unfold signedDecimal at written
  split at written
  · rename_i digits
    split_ifs at written with decimals
    exact .inl ⟨digits, .inr rfl, decimals⟩
  · rename_i digits
    split_ifs at written with decimals
    exact .inr ⟨digits, rfl, decimals, Option.some.inj written ▸ Int.natCast_nonneg _⟩
  · split_ifs at written with decimals
    exact .inl ⟨_, .inl rfl, decimals⟩

/-- A straight text that passes the test is converted to what it writes. -/
theorem intOfText_straight {text : List Char} (straight : StraightText text)
    (passes : allDigits (lstrip '-' text) = true) :
    ∃ n, intOfText text = some n ∧ signedDecimal text = some n := by
  obtain ⟨digits, form, decimals, few⟩ := straight.readable passes
  have given := isDigit_of_decimals decimals
  rcases form with rfl | rfl
  · refine ⟨decimalNumber text, ?_, signedDecimal_digits decimals⟩
    have read := intOfText_minuses 0 decimals.1 given
    rwa [if_pos ⟨by decide, decimals, few⟩] at read
  · refine ⟨-decimalNumber digits, ?_, if_pos decimals⟩
    have read := intOfText_minuses 1 decimals.1 given
    rwa [if_pos ⟨by decide, decimals, few⟩] at read

/-- A text that passes the test and is converted is straight. -/
theorem straight_of_intOfText {text : List Char} (passes : allDigits (lstrip '-' text) = true)
    (read : intOfText text ≠ none) : StraightText text := by
  obtain ⟨count, rest, rfl, nonempty, given⟩ := minuses_of_allDigits passes
  rw [intOfText_minuses count nonempty given] at read
  obtain ⟨few, decimals, short⟩ := Classical.not_not.mp fun long => read (if_neg long)
  refine ⟨fun digits same => ?_, fun _ => ⟨rest, ?_, decimals, short⟩⟩
  · have sign : '+' ∈ List.replicate count '-' ++ rest := same ▸ List.mem_cons_self
    rcases List.mem_append.mp sign with minus | digit
    · exact absurd (List.eq_of_mem_replicate minus) (by decide)
    · exact absurd rfl (notSign_of_isDigit (given '+' digit)).2
  · obtain rfl | rfl : count = 0 ∨ count = 1 := by omega
    · exact .inl rfl
    · exact .inr rfl

end Texts

/-- **A straight count** is read as it is meant. -/
theorem countReading_straight {value : Json} (straight : Straight value) :
    countReading value = some (statedCount value) := by
  cases value with
  | str text =>
      have here := straight text rfl
      simp only [countReading, statedCount]
      split_ifs with passes
      · obtain ⟨n, read, written⟩ := intOfText_straight here passes
        rw [read, written]
        rfl
      · cases written : signedDecimal text.toList with
        | none => rfl
        | some n =>
            rcases signedDecimal_cases written with ⟨digits, rfl | form, decimals⟩ |
              ⟨digits, form, decimals, -⟩
            · exact absurd (allDigits_of_decimals decimals).1 passes
            · exact absurd (form ▸ (allDigits_of_decimals decimals).2) passes
            · exact absurd decimals (here.unsigned digits form)
  | null | bool | int | float | broken | arr | obj => rfl

/-- A count that is read, and gives what is meant whatever its default is, is straight. -/
theorem straight_of_reading {value : Json} {given : Option ℤ}
    (read : countReading value = some given)
    (agrees : ∀ default : ℤ, max (given.getD default) 0 = max ((statedCount value).getD default) 0) :
    Straight value := by
  rintro text rfl
  simp only [countReading] at read
  split_ifs at read with passes
  · obtain ⟨n, converted, -⟩ := Option.map_eq_some_iff.mp read
    exact straight_of_intOfText passes (by simp [converted])
  · obtain rfl := Option.some.inj read
    refine ⟨fun digits form decimals => ?_, fun passed => absurd passed passes⟩
    -- a default that is larger than the number behind the plus sign
    have written : statedCount (.str text) = some (decimalNumber digits : ℤ) := by
      rw [statedCount, form]
      exact if_pos decimals
    have differs := agrees (decimalNumber digits + 1)
    rw [written] at differs
    simp only [Option.getD_none, Option.getD_some] at differs
    omega

/-! ## One line -/

section Line

variable {python : Interpreter} {line : String} {members usage : List (String × Json)}

theorem countsReading_straight (straight : StraightCounts usage) :
    countsReading usage = some (statedCounts usage) := by
  simp only [countsReading, countReading_straight straight.prompt,
    countReading_straight straight.completion, countReading_straight straight.total,
    bind, Option.bind]
  rfl

/-- Counts that are read, and give what is meant in every accumulator. -/
theorem straight_of_countsReading {counts : CountsReading} (read : countsReading usage = some counts)
    (agrees : ∀ current : Usage, counts.apply current (fun _ _ => current.totalTokens) =
      (statedCounts usage).apply current fun _ _ => current.totalTokens) : StraightCounts usage := by
  simp only [countsReading, bind, Option.bind_eq_some_iff] at read
  obtain ⟨prompt, readPrompt, completion, readCompletion, total, readTotal, same⟩ := read
  obtain rfl := Option.some.inj same
  refine ⟨straight_of_reading readPrompt fun default => ?_,
    straight_of_reading readCompletion fun default => ?_,
    straight_of_reading readTotal fun default => ?_⟩
  · exact congrArg Usage.promptTokens (agrees ⟨default, 0, 0⟩)
  · exact congrArg Usage.completionTokens (agrees ⟨0, default, 0⟩)
  · exact congrArg Usage.totalTokens (agrees ⟨0, 0, default⟩)

theorem captures_of_reading (chunk : lineChunk python line = .ok (some (.obj members)))
    (stated : got members "usage" = .obj usage) {counts : CountsReading}
    (read : countsReading usage = some counts) : Captures python line counts := by
  intro current
  have captured := captureUsage_reading python line current
  rw [chunk] at captured
  simpa only [usageOfChunk, stated, usageReading, read, Option.map_some, Usage.absorb] using captured

/-- Counts are captured from a chunk only: some current usage would be kept if the line were passed
over, and would change if it were not. -/
theorem chunk_of_captures {counts : CountsReading} (captures : Captures python line counts) :
    ∃ chunk, lineChunk python line = .ok (some chunk) := by
  have captured (total : ℤ) := captures ⟨0, 0, total⟩
  simp only [captureUsage] at captured
  match chunk : lineChunk python line with
  | .error exception =>
      simp only [chunk] at captured
      cases captured 0
  | .ok none =>
      simp only [chunk, Except.ok.injEq] at captured
      have kept (total : ℤ) : total =
          max (counts.total.getD (counts.prompt.getD 0 + counts.completion.getD 0)) 0 :=
        congrArg Usage.totalTokens (captured total)
      exact absurd ((kept 0).trans (kept 1).symm) zero_ne_one
  | .ok (some value) => exact ⟨value, rfl⟩

theorem feeds_of_reading (chunk : lineChunk python line = .ok (some (.obj members)))
    (stated : got members "usage" = .obj usage) (choices : UsableChoices (got members "choices"))
    {counts : CountsReading} (read : countsReading usage = some counts) :
    Feeds python line counts := by
  intro accumulator
  obtain ⟨choice, readChoice⟩ :=
    Option.isSome_iff_exists.mp ((choicesReading_isSome _).mpr choices)
  have ends := @feed_reading accumulator python line
  rw [chunk] at ends
  simp only [chunkReading_obj, stated, usageReading, readChoice, read, Option.bind_some,
    Option.map_some] at ends
  exact ⟨_, ends.ok_of_some rfl, rfl⟩

/-- What `feed` leaves is determined by the line. -/
theorem Feeds.agree {first second : CountsReading} (one : Feeds python line first)
    (other : Feeds python line second) (current : Usage) :
    first.apply current (fun _ _ => current.totalTokens) =
      second.apply current fun _ _ => current.totalTokens := by
  obtain ⟨after, fed, left⟩ := one { usage := current }
  obtain ⟨later, also, right⟩ := other { usage := current }
  rw [fed] at also
  cases also
  exact left.symm.trans right

/-- **When the counts of a chunk are read as they are meant**: the interpreter can decode the chunk,
its choices can be used, and its counts are straight. -/
theorem tokens_iff (object : lineValue line = some (.obj members))
    (stated : got members "usage" = .obj usage) :
    Captures python line (statedCounts usage) ∧ Feeds python line (statedCounts usage) ↔
      lineChunk python line = .ok (some (.obj members)) ∧
        UsableChoices (got members "choices") ∧ StraightCounts usage := by
  constructor
  · rintro ⟨captures, feeds⟩
    obtain ⟨value, chunk⟩ := chunk_of_captures captures
    obtain rfl : value = .obj members :=
      Option.some.inj ((lineValue_of_lineChunk chunk).symm.trans object)
    obtain ⟨after, fed, -⟩ := feeds {}
    obtain ⟨read, there, usable⟩ := usable_of_fed fed
    obtain rfl := Except.ok.inj (chunk.symm.trans there)
    obtain ⟨_, same, choices, counted⟩ := usable (.obj members) rfl
    cases same
    refine ⟨chunk, choices, ?_⟩
    rw [← usageReading_isSome, stated, usageReading, Option.isSome_map] at counted
    obtain ⟨counts, read⟩ := Option.isSome_iff_exists.mp counted
    exact straight_of_countsReading read
      ((feeds_of_reading chunk stated choices read).agree feeds)
  · rintro ⟨chunk, choices, straight⟩
    have read := countsReading_straight straight
    exact ⟨captures_of_reading chunk stated read, feeds_of_reading chunk stated choices read⟩

end Line

/-- A chunk with a text as a count, and its line. -/
def textUsage (text : String) : List (String × Json) := [("prompt_tokens", .str text)]

def textLine (text : String) : String :=
  eventLine (Json.dumps .spaced (.obj [("usage", .obj (textUsage text))]))

theorem lineChunk_textLine (text : String) :
    lineChunk .standard (textLine text) = .ok (some (.obj [("usage", .obj (textUsage text))])) := by
  refine lineChunk_eventLine (by simp [textUsage, Json.Keyed, Json.KeyedMembers]) ?_
  simp [Interpreter.Takes, Interpreter.standard, textUsage, Json.Fits, Json.FitsMembers, Json.deeper]

theorem lineValue_textLine (text : String) :
    lineValue (textLine text) = some (.obj [("usage", .obj (textUsage text))]) :=
  lineValue_of_lineChunk (lineChunk_textLine text)

/-- Both readers raise on two minus signs. -/
theorem two_minus_raises :
    ¬ ∀ (line : String) (members usage : List (String × Json)),
      lineValue line = some (.obj members) → got members "usage" = .obj usage →
        Captures .standard line (statedCounts usage) ∧ Feeds .standard line (statedCounts usage) := by
  intro reads
  have captures := (reads (textLine "--5") _ (textUsage "--5") (lineValue_textLine "--5") rfl).1 {}
  have raised : chunkUsage (.obj [("usage", .obj (textUsage "--5"))]) {} = .error .valueError := by
    decide +kernel
  rw [captureUsage, lineChunk_textLine] at captures
  cases raised.symm.trans captures

/-- A minus sign and a digit are straight. -/
theorem straightCounts_oneMinus : StraightCounts (textUsage "-5") where
  prompt := by
    rintro text same
    cases same
    have decimals : Decimals ['5'] := ⟨by simp, by decide +kernel⟩
    refine ⟨fun digits plus => ?_, fun _ => ⟨['5'], .inr rfl, decimals, by decide⟩⟩
    cases plus
  completion := fun _ same => by cases same
  total := fun _ same => by cases same

/-- Both readers count one minus sign as zero. -/
theorem tokens_iff_oneMinus :
    Captures .standard (textLine "-5") ⟨some (-5), none, none⟩ ∧
      Feeds .standard (textLine "-5") ⟨some (-5), none, none⟩ := by
  have stated : statedCounts (textUsage "-5") = ⟨some (-5), none, none⟩ := by decide +kernel
  rw [← stated]
  exact (tokens_iff (lineValue_textLine "-5") rfl).mpr
    ⟨lineChunk_textLine "-5", fun none => absurd none (by decide), straightCounts_oneMinus⟩

end LlmGateway
