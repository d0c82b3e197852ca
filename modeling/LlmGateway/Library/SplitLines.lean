import LlmGateway.Library.PythonText

/-!
# Lines of a text

`str.splitlines` breaks a text at more characters than CR and LF (`isLineBreak`). A line has no
such character (`unbroken_of_mem_splitlines`), and an unbroken line comes back if it is ended
(`splitlines_line`).
-/

set_option autoImplicit false

namespace LlmGateway.Library.PythonText

/-- The characters at which `str.splitlines` breaks: LF, VT, FF, CR, FS, GS, RS, NEL, LS and PS. -/
def lineBreaks : List ℕ := [10, 11, 12, 13, 28, 29, 30, 133, 8232, 8233]

def isLineBreak (c : Char) : Bool := lineBreaks.contains c.toNat

/-- A text that is part of one line. -/
def Unbroken (text : List Char) : Prop := ∀ c ∈ text, isLineBreak c = false

instance (text : List Char) : Decidable (Unbroken text) :=
  inferInstanceAs (Decidable (∀ c ∈ text, isLineBreak c = false))

/-- A character in front of the first line. -/
def extendLine (c : Char) : List (List Char) → List (List Char)
  | [] => [[c]]
  | line :: others => (c :: line) :: others

/-- `str.splitlines()`. CR and LF together are one break, and nothing follows the last break. -/
def splitlines : List Char → List (List Char)
  | [] => []
  | '\r' :: '\n' :: rest => [] :: splitlines rest
  | c :: rest => if isLineBreak c then [] :: splitlines rest else extendLine c (splitlines rest)

/-- **No line has a break.** -/
theorem unbroken_of_mem_splitlines {text line : List Char} (member : line ∈ splitlines text) :
    Unbroken line := by
  fun_induction splitlines text generalizing line with
  | case1 => cases member
  | case2 rest ih =>
      rcases List.mem_cons.mp member with rfl | later
      · exact List.forall_mem_nil _
      · exact ih later
  | case3 c rest _ broken ih =>
      rcases List.mem_cons.mp member with rfl | later
      · exact List.forall_mem_nil _
      · exact ih later
  | case4 c rest _ whole ih =>
      have plain : isLineBreak c = false := Bool.eq_false_iff.mpr whole
      cases lines : splitlines rest with
      | nil =>
          rw [lines] at member
          cases List.mem_singleton.mp member
          exact List.forall_mem_singleton.mpr plain
      | cons first others =>
          rw [lines] at member ih
          rcases List.mem_cons.mp member with rfl | later
          · exact List.forall_mem_cons.mpr ⟨plain, ih (List.mem_cons_self ..)⟩
          · exact ih (List.mem_cons_of_mem _ later)

/-- A character that does not break the text. -/
theorem splitlines_cons {c : Char} (plain : isLineBreak c = false) (rest : List Char) :
    splitlines (c :: rest) = extendLine c (splitlines rest) := by
  rw [splitlines.eq_def]
  split
  · rename_i empty
    cases empty
  · rename_i same
    cases (List.cons.inj same).1
    cases plain
  · rename_i same
    obtain ⟨rfl, rfl⟩ := List.cons.inj same
    rw [plain]
    rfl

/-- **An unbroken line** in front of a text that starts with a break. -/
theorem splitlines_line {line text : List Char} {later : List (List Char)} (whole : Unbroken line)
    (breaks : splitlines text = [] :: later) : splitlines (line ++ text) = line :: later := by
  induction line with
  | nil => exact breaks
  | cons c line ih =>
      obtain ⟨plain, others⟩ := List.forall_mem_cons.mp whole
      rw [List.cons_append, splitlines_cons plain, ih others]
      rfl

/-- The ways to end a line of an event stream. -/
inductive LineEnd where
  | lf
  | cr
  | crlf
deriving DecidableEq

def LineEnd.chars : LineEnd → List Char
  | lf => ['\n']
  | cr => ['\r']
  | crlf => ['\r', '\n']

/-- The end of a line breaks the text before what follows; after CR that must not be LF. -/
theorem splitlines_lineEnd (lineEnd : LineEnd) {rest : List Char}
    (apart : lineEnd = .cr → rest.head? ≠ some '\n') :
    splitlines (lineEnd.chars ++ rest) = [] :: splitlines rest := by
  cases lineEnd with
  | lf => rfl
  | crlf => rfl
  | cr =>
      cases rest with
      | nil => rfl
      | cons c rest =>
          have other : c ≠ '\n' := fun same => apart rfl (congrArg some same)
          rw [LineEnd.chars, List.singleton_append, splitlines.eq_def]
          split
          · rename_i empty
            cases empty
          · rename_i same
            exact absurd (List.cons.inj (List.cons.inj same).2).1 other
          · rename_i same
            obtain ⟨rfl, rfl⟩ := List.cons.inj same
            rfl

end LlmGateway.Library.PythonText
