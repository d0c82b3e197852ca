import LlmGateway.Library.Json.Texts

/-!
# Event streams

A stream of events, each of which is one data line and a blank line. A client splits what it
receives at the blank lines and takes the payload of each piece (`received`). Payloads without
line breaks come back one for one, however many there are (`received_stream`).
-/

set_option autoImplicit false

namespace LlmGateway.Library

/-- A text without CR and LF. -/
def OneLine (text : List Char) : Prop := '\r' ∉ text ∧ '\n' ∉ text

instance (text : List Char) : Decidable (OneLine text) :=
  inferInstanceAs (Decidable ('\r' ∉ text ∧ '\n' ∉ text))

theorem Printable.oneLine {text : List Char} (printable : Printable text) : OneLine text :=
  ⟨fun member => absurd (printable _ member).1 (by decide),
    fun member => absurd (printable _ member).1 (by decide)⟩

theorem OneLine.append {first second : List Char} (left : OneLine first) (right : OneLine second) :
    OneLine (first ++ second) := by
  constructor <;> rw [List.mem_append]
  · exact fun member => member.elim left.1 right.1
  · exact fun member => member.elim left.2 right.2

/-- A part of a text. -/
theorem OneLine.of_append {first second : List Char} (line : OneLine (first ++ second)) :
    OneLine second :=
  ⟨fun member => line.1 (List.mem_append_right _ member),
    fun member => line.2 (List.mem_append_right _ member)⟩

namespace EventStream

/-- What a data line starts with. -/
def mark : List Char := ['d', 'a', 't', 'a', ':', ' ']

/-- The event of a payload: a data line and a blank line. -/
def event (payload : List Char) : List Char := mark ++ payload ++ ['\n', '\n']

/-- The pieces of a text between its blank lines. -/
def pieces : List Char → List (List Char)
  | [] => [[]]
  | '\n' :: '\n' :: rest => [] :: pieces rest
  | c :: rest =>
      match pieces rest with
      | [] => [[c]]
      | piece :: others => (c :: piece) :: others

/-- The payload of a piece that is a data line. -/
def payload? (piece : List Char) : Option (List Char) :=
  if mark.isPrefixOf piece then some (piece.drop mark.length) else none

/-- The payloads that a client receives. -/
def received (stream : List Char) : List (List Char) := (pieces stream).filterMap payload?

theorem pieces_cons {c : Char} {rest piece : List Char} {others : List (List Char)}
    (other : c ≠ '\n') (split : pieces rest = piece :: others) :
    pieces (c :: rest) = (c :: piece) :: others := by
  rw [pieces.eq_def]
  split
  · rename_i empty
    cases empty
  · rename_i broken
    exact absurd (List.cons.inj broken).1 other
  · rename_i same
    obtain ⟨rfl, rfl⟩ := List.cons.inj same
    rw [split]

/-- The first piece ends at the first blank line. -/
theorem pieces_line {line : List Char} (unbroken : '\n' ∉ line) (rest : List Char) :
    pieces (line ++ '\n' :: '\n' :: rest) = line :: pieces rest := by
  induction line with
  | nil => rfl
  | cons c line ih =>
      rw [List.mem_cons, not_or] at unbroken
      obtain ⟨other, later⟩ := unbroken
      exact pieces_cons (Ne.symm other) (ih later)

theorem payload?_mark (payload : List Char) : payload? (mark ++ payload) = some payload := by
  simp [payload?, mark, List.isPrefixOf]

/-- **The payloads come back one for one.** -/
theorem received_stream {payloads : List (List Char)} (lines : ∀ payload ∈ payloads, OneLine payload) :
    received (payloads.flatMap event) = payloads := by
  induction payloads with
  | nil => rfl
  | cons payload rest ih =>
      obtain ⟨line, others⟩ := List.forall_mem_cons.mp lines
      have unbroken : '\n' ∉ mark ++ payload := by
        rw [List.mem_append]
        exact fun member => member.elim (by decide) line.2
      have joined : (payload :: rest).flatMap event =
          (mark ++ payload) ++ '\n' :: '\n' :: rest.flatMap event := by
        simp [event]
      rw [received, joined, pieces_line unbroken, List.filterMap_cons_some (payload?_mark payload)]
      exact congrArg (payload :: ·) (ih others)

end EventStream

end LlmGateway.Library
