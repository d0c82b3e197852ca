import LlmGateway.Library.Json.Texts
import LlmGateway.Library.PythonText

/-!
# The JSON decoder of an interpreter

`json.loads` of a Python interpreter is the decoder of `LlmGateway.Library.Json.Parse` with two
limits: an integer has at most `maxStrDigits` digits, and arrays and objects stand inside one another
only as deep as the stack allows.

What it decodes is what the text stands for (`Interpreter.parse_of_loads`), and it decodes what an
encoder writes of a value that keeps the limits (`Interpreter.loads_dumps`).
-/

set_option autoImplicit false

namespace LlmGateway.Library

open PythonText (maxStrDigits)

/-- An interpreter, as far as JSON depends on it: so many levels fit on its stack, when it reads and
when it writes. -/
structure Interpreter where
  nesting : ℕ
  deep : 8 ≤ nesting

namespace Interpreter

/-- An interpreter with the usual limit. -/
def standard : Interpreter := ⟨1000, by decide⟩

variable (python : Interpreter)

/-- `json.loads(text)`: a text that is no JSON is a `ValueError`, and so is an integer that is too
long; too many levels are a `RecursionError`. -/
def loads (text : String) : Except Json.DecodeError Json :=
  Json.decode (some maxStrDigits) (some python.nesting) text

/-- A value that keeps the limits. -/
def Takes (value : Json) : Prop := value.Fits (some maxStrDigits) (some python.nesting)

variable {python}

/-- There is room for eight levels. -/
theorem eight_levels (python : Interpreter) : ∃ rest, python.nesting = rest + 8 :=
  ⟨python.nesting - 8, (Nat.sub_add_cancel python.deep).symm⟩

theorem loads_dumps (style : Json.Style) {value : Json} (keyed : value.Keyed)
    (takes : python.Takes value) : python.loads (Json.dumps style value) = .ok value :=
  Json.decode_dumps style keyed takes

theorem parse_of_loads {text : String} {value : Json} (loaded : python.loads text = .ok value) :
    Json.parse text = some value :=
  Json.parse_of_decode loaded

/-- What is decoded keeps the limits. -/
theorem takes_of_loads {text : String} {value : Json} (loaded : python.loads text = .ok value) :
    python.Takes value :=
  Json.fits_decode loaded

theorem keyed_loads {text : String} {value : Json} (loaded : python.loads text = .ok value) :
    value.Keyed :=
  Json.keyed_decode loaded

end Interpreter

/-! ## Depth -/

namespace Json

mutual
/-- How many arrays and objects stand inside one another. -/
def depth : Json → ℕ
  | .arr items => depthItems items + 1
  | .obj members => depthMembers members + 1
  | _ => 0

def depthItems : List Json → ℕ
  | [] => 0
  | item :: rest => max (depth item) (depthItems rest)

def depthMembers : List (String × Json) → ℕ
  | [] => 0
  | member :: rest => max (depth member.2) (depthMembers rest)
end

@[simp] theorem depth_str (text : String) : depth (.str text) = 0 := by simp [depth]

theorem depth_ofText (text : List CodePoint) : depth (.ofText text) = 0 := by
  unfold ofText
  split <;> simp [depth]

end Json

/-! ## Values that fit at any depth -/

/-- An integer that is not too long for an interpreter. -/
def Short (n : ℤ) : Prop := Json.intDigits n ≤ maxStrDigits

theorem short_iff {n : ℤ} : Short n ↔ n.natAbs < 10 ^ maxStrDigits :=
  Nat.length_toDigits_le_iff (by decide) (by decide)

instance : DecidablePred Short := fun n => inferInstanceAs (Decidable (Json.intDigits n ≤ maxStrDigits))

namespace Json

/-- A value that is taken at any depth: no array, no object and no long integer. -/
def Flat (value : Json) : Prop := ∀ levels, value.Fits (some maxStrDigits) levels

theorem flat_null : Json.null.Flat := fun _ => trivial

theorem flat_str (text : String) : (Json.str text).Flat := fun _ => trivial

theorem flat_ofText (text : List CodePoint) : (Json.ofText text).Flat := fun _ => fits_ofText text

theorem flat_int {n : ℤ} (short : Short n) : (Json.int n).Flat := fun _ => decide_eq_true short

theorem short_of_fits {n : ℤ} {levels : Option ℕ} (fits : (Json.int n).Fits (some maxStrDigits) levels) :
    Short n := of_decide_eq_true fits

end Json

end LlmGateway.Library
