import LlmGateway.Library.PythonText

/-!
# Integer fields of a validated model

A model that validates its input reads each field from a Python object. In lax mode an integer
field also takes objects of other types. What it reads from a text or a float is a parameter
here (`IntField`); that an integer is taken as it is and a boolean as zero or one is not.
-/

set_option autoImplicit false

namespace LlmGateway.Library

/-- A Python object, as far as a number can be read from it. Of a text with a lone surrogate
nothing is known but that it is one. -/
inductive PyValue where
  | none
  | bool (value : Bool)
  | int (value : ℤ)
  | float (value : Double)
  | str (value : String)
  | broken
  | list
  | dict
deriving DecidableEq

namespace PyValue

/-- The object that a JSON value is decoded to. -/
def ofJson : Json → PyValue
  | .null => .none
  | .bool value => .bool value
  | .int value => .int value
  | .float value => .float value.toDouble
  | .str value => .str value
  | .broken _ => .broken
  | .arr _ => .list
  | .obj _ => .dict

/-- An integer, or a boolean as one. -/
def integer : PyValue → Option ℤ
  | .int value => some value
  | .bool value => some (if value then 1 else 0)
  | _ => Option.none

end PyValue

/-- An integer field in lax mode: what it reads from an object, unless it refuses it. -/
structure IntField where
  read : PyValue → Option ℤ
  read_integer : ∀ value n, PyValue.integer value = some n → read value = some n

/-- The value of an optional minus sign and decimal digits. -/
def decimalText : List Char → Option ℤ
  | '-' :: digits =>
      if !digits.isEmpty && digits.all Char.isDigit then some (-(PythonText.asciiValue digits : ℤ))
      else none
  | digits =>
      if !digits.isEmpty && digits.all Char.isDigit then some (PythonText.asciiValue digits : ℤ)
      else none

/-- Lax mode: a float without a fraction and the text of an integer are integers. -/
def laxInt : PyValue → Option ℤ
  | .int value => some value
  | .bool value => some (if value then 1 else 0)
  | .float (.finite value) => if value.den = 1 ∧ |value| < 2 ^ 63 then some value.num else none
  | .str text => decimalText text.toList
  | _ => none

/-- A field that reads integers, floats and texts. -/
def IntField.lax : IntField where
  read := laxInt
  read_integer value n given := by
    cases value <;> first | exact given | cases given

end LlmGateway.Library
