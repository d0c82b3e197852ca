import LlmGateway.Library.Json.Value

/-!
# Parsing JSON text

The parser of a lenient reader: the three float names `NaN`, `Infinity` and
`-Infinity` are accepted, control characters inside a string are not, and of two
members with one name the later value wins. It is total: the fuel is the length of the
text, and every nested value consumes a character.

A decoder of a program has limits (`decode`): it takes integers of so many digits, and opens so
many arrays and objects inside one another. What a text stands for is what a decoder without
limits makes of it (`parse`).
-/

set_option autoImplicit false

namespace LlmGateway.Library
namespace Json

/-- The text after the blanks in front of it. -/
def skipBlanks (text : List Char) : List Char := text.dropWhile isBlank

/-- The value of a hexadecimal digit of either case. -/
def hexValue (c : Char) : Option ℕ :=
  if c.isDigit then some (c.toNat - 48)
  else if 'a' ≤ c ∧ c ≤ 'f' then some (c.toNat - 87)
  else if 'A' ≤ c ∧ c ≤ 'F' then some (c.toNat - 55)
  else none

/-- The code unit of four hexadecimal digits. -/
def unitValue (a b c d : Char) : Option ℕ := do
  let a ← hexValue a
  let b ← hexValue b
  let c ← hexValue c
  let d ← hexValue d
  pure (a * 4096 + b * 256 + c * 16 + d)

def isHighSurrogate (n : ℕ) : Bool := 55296 ≤ n && n ≤ 56319

def isLowSurrogate (n : ℕ) : Bool := 56320 ≤ n && n ≤ 57343

/-- The code point of a code unit that stands alone. -/
def unitPoint (n : ℕ) : CodePoint :=
  if unit : 55296 ≤ n ∧ n < 57344 then .surrogate ⟨n - 55296, by omega⟩ else .char (Char.ofNat n)

/-- The character of a surrogate pair. -/
def pairChar (high low : ℕ) : Char :=
  Char.ofNat (65536 + (high - 55296) * 1024 + (low - 56320))

/-- The character of a one-letter escape. -/
def simpleEscape (c : Char) : Option Char :=
  if c = '"' then some '"'
  else if c = '\\' then some '\\'
  else if c = '/' then some '/'
  else if c = 'b' then some '\x08'
  else if c = 'f' then some '\x0c'
  else if c = 'n' then some '\n'
  else if c = 'r' then some '\r'
  else if c = 't' then some '\t'
  else none

/-- The code unit of the escape a text starts with, and the text after it. -/
def takeUnit : List Char → Option (ℕ × List Char)
  | '\\' :: 'u' :: a :: b :: c :: d :: rest => (unitValue a b c d).map fun n => (n, rest)
  | _ => none

/-- The first code point of a string body and the text after it; `none` is an error. The
closing quote is not a character of the body. -/
def takePoint : List Char → Option (CodePoint × List Char)
  | [] => none
  | '\\' :: 'u' :: rest =>
      match takeUnit ('\\' :: 'u' :: rest) with
      | none => none
      | some (high, after) =>
          if isHighSurrogate high then
            match takeUnit after with
            | some (low, rest') =>
                if isLowSurrogate low then some (.char (pairChar high low), rest')
                else some (unitPoint high, after)
            | none => some (unitPoint high, after)
          else some (unitPoint high, after)
  | '\\' :: c :: rest => (simpleEscape c).map fun char => (.char char, rest)
  | c :: rest => if c = '"' ∨ c = '\\' ∨ c.toNat < 32 then none else some (.char c, rest)

/-- The code points up to the closing quote, and the text after the quote. -/
def parseString : ℕ → List Char → Option (List CodePoint × List Char)
  | 0, _ => none
  | _ + 1, '"' :: rest => some ([], rest)
  | fuel + 1, text =>
      match takePoint text with
      | none => none
      | some (point, rest) => (parseString fuel rest).map fun body => (point :: body.1, body.2)

/-- The integer of an integer literal. -/
def intValue : List Char → ℤ
  | '-' :: digits => -(Nat.ofDigitChars 10 digits 0 : ℤ)
  | digits => (Nat.ofDigitChars 10 digits 0 : ℤ)

/-! ## Limits -/

/-- Why a text is not decoded. -/
inductive DecodeError where
  | invalid
  | tooDeep
deriving DecidableEq

/-- A number stays within a limit, if there is one. -/
def withinLimit (limit : Option ℕ) (n : ℕ) : Bool :=
  match limit with
  | none => true
  | some most => n ≤ most

/-- The levels that are left one level further in; nothing when no level is left. -/
def deeper : Option ℕ → Option (Option ℕ)
  | none => some none
  | some 0 => none
  | some (levels + 1) => some (some levels)

/-- What is read, or an error. -/
def expect {α : Type} : Option α → Except DecodeError α
  | some result => .ok result
  | none => .error .invalid

/-! ## Values -/

section Digits

variable (digits : Option ℕ)

/-- A number: the whole run of number characters must be one literal. -/
def parseNumber (text : List Char) : Option (Json × List Char) :=
  let literal := text.takeWhile isNumberChar
  let rest := text.dropWhile isNumberChar
  if isIntLiteral literal then
    if withinLimit digits (unsigned literal).length then some (.int (intValue literal), rest) else none
  else if valid : isFloatLiteral literal = true then some (.float (.finite literal valid), rest)
  else none

/-- A fixed word in front of the text stands for a value. -/
def parseWord (word : List Char) (value : Json) (text : List Char) : Option (Json × List Char) :=
  if word.isPrefixOf text then some (value, text.drop word.length) else none

/-- A value without parts that is not a string. -/
def parseScalar (text : List Char) : Option (Json × List Char) :=
  match text.head? with
  | none => none
  | some c =>
      if c = 'n' then parseWord ['n', 'u', 'l', 'l'] .null text
      else if c = 't' then parseWord ['t', 'r', 'u', 'e'] (.bool true) text
      else if c = 'f' then parseWord ['f', 'a', 'l', 's', 'e'] (.bool false) text
      else if c = 'N' then parseWord ['N', 'a', 'N'] (.float .nan) text
      else if c = 'I' then parseWord ['I', 'n', 'f', 'i', 'n', 'i', 't', 'y'] (.float .infinity) text
      else if ['-', 'I'].isPrefixOf text then
        parseWord ['-', 'I', 'n', 'f', 'i', 'n', 'i', 't', 'y'] (.float .negInfinity) text
      else parseNumber digits text

mutual
/-- The value a text starts with, and the text after it. -/
def parseValue : ℕ → Option ℕ → List Char → Except DecodeError (Json × List Char)
  | 0, _, _ => .error .invalid
  | _ + 1, _, '"' :: rest =>
      (expect (parseString (rest.length + 1) rest)).map fun body => (ofText body.1, body.2)
  | fuel + 1, levels, '[' :: rest =>
      match deeper levels with
      | none => .error .tooDeep
      | some inner =>
          match skipBlanks rest with
          | ']' :: after => .ok (.arr [], after)
          | start =>
              match parseValue fuel inner start with
              | .error error => .error error
              | .ok (item, after) =>
                  (parseItems fuel inner (skipBlanks after)).map fun items =>
                    (.arr (item :: items.1), items.2)
  | fuel + 1, levels, '{' :: rest =>
      match deeper levels with
      | none => .error .tooDeep
      | some inner =>
          match skipBlanks rest with
          | '}' :: after => .ok (.obj [], after)
          | start =>
              match parseMember fuel inner start with
              | .error error => .error error
              | .ok (member, after) =>
                  (parseMembers fuel inner (skipBlanks after)).map fun members =>
                    (.obj (dict (member :: members.1)), members.2)
  | _ + 1, _, text => expect (parseScalar digits text)

/-- The items after the first one, up to the closing bracket. -/
def parseItems : ℕ → Option ℕ → List Char → Except DecodeError (List Json × List Char)
  | 0, _, _ => .error .invalid
  | _ + 1, _, ']' :: rest => .ok ([], rest)
  | fuel + 1, levels, ',' :: rest =>
      match parseValue fuel levels (skipBlanks rest) with
      | .error error => .error error
      | .ok (item, after) =>
          (parseItems fuel levels (skipBlanks after)).map fun items => (item :: items.1, items.2)
  | _ + 1, _, _ => .error .invalid

/-- The members after the first one, up to the closing brace. -/
def parseMembers : ℕ → Option ℕ → List Char → Except DecodeError (List (String × Json) × List Char)
  | 0, _, _ => .error .invalid
  | _ + 1, _, '}' :: rest => .ok ([], rest)
  | fuel + 1, levels, ',' :: rest =>
      match parseMember fuel levels (skipBlanks rest) with
      | .error error => .error error
      | .ok (member, after) =>
          (parseMembers fuel levels (skipBlanks after)).map fun members =>
            (member :: members.1, members.2)
  | _ + 1, _, _ => .error .invalid

/-- A name, a colon and a value. -/
def parseMember : ℕ → Option ℕ → List Char → Except DecodeError ((String × Json) × List Char)
  | 0, _, _ => .error .invalid
  | fuel + 1, levels, '"' :: rest =>
      match parseString (rest.length + 1) rest with
      | none => .error .invalid
      | some (name, after) =>
          match skipBlanks after with
          | ':' :: start =>
              (parseValue fuel levels (skipBlanks start)).map fun value =>
                ((String.ofList (name.map CodePoint.shown), value.1), value.2)
          | _ => .error .invalid
  | _ + 1, _, _ => .error .invalid
end

/-- The value of a whole text, for a decoder with limits. -/
def decode (levels : Option ℕ) (text : String) : Except DecodeError Json :=
  match parseValue digits (text.toList.length + 1) levels (skipBlanks text.toList) with
  | .ok (value, rest) => if (skipBlanks rest).isEmpty then .ok value else .error .invalid
  | .error error => .error error

end Digits

/-- The value that a text stands for, unless it is no JSON. -/
def parse (text : String) : Option Json := (decode none none text).toOption

end Json
end LlmGateway.Library
