import Mathlib.Data.List.Sort
import Mathlib.Data.String.Basic

/-!
# JSON values and the text that prints them

A JSON value keeps the members of an object in insertion order, as a dictionary
does. Two values are the same JSON value when they agree after every object is
sorted by its keys (`Json.Same`).

The printer is that of an encoder that escapes everything outside the printable
ASCII range. It is parameterized by the blank space written after a comma and after
a colon (`Style`), so that the compact and the spaced format are two of its instances.

A float is named by its literal. A text is a string, unless it has a surrogate that stands alone:
then it is a list of code points (`Json.broken`). Such a surrogate in the name of a member is
shown as the replacement character.
-/

set_option autoImplicit false

namespace LlmGateway.Library

/-! ## Number literals -/

/-- The characters that can stand in a number literal. -/
def isNumberChar (c : Char) : Bool :=
  c.isDigit || c == '.' || c == 'e' || c == 'E' || c == '+' || c == '-'

/-- A literal without its minus sign. -/
def unsigned : List Char → List Char
  | '-' :: rest => rest
  | text => text

/-- One digit, or several of which the first is not zero. -/
def isWhole : List Char → Bool
  | [] => false
  | [c] => c.isDigit
  | c :: rest => c != '0' && c.isDigit && rest.all Char.isDigit

/-- The literal of an integer. -/
def isIntLiteral (text : List Char) : Bool := isWhole (unsigned text)

/-- The digits of an exponent, after an optional sign. -/
def isExponent : List Char → Bool
  | '+' :: digits => !digits.isEmpty && digits.all Char.isDigit
  | '-' :: digits => !digits.isEmpty && digits.all Char.isDigit
  | digits => !digits.isEmpty && digits.all Char.isDigit

/-- What may follow the digits before the point: nothing, or an exponent. -/
def isScale : List Char → Bool
  | [] => true
  | 'e' :: rest => isExponent rest
  | 'E' :: rest => isExponent rest
  | _ => false

/-- What may follow the whole part of a float. -/
def isFraction : List Char → Bool
  | '.' :: rest =>
      !(rest.takeWhile Char.isDigit).isEmpty && isScale (rest.dropWhile Char.isDigit)
  | rest => !rest.isEmpty && isScale rest

/-- The literal of a float: a whole part, then a fraction or an exponent or both. -/
def isFloatLiteral (text : List Char) : Bool :=
  text.all isNumberChar && !isIntLiteral text &&
    isWhole ((unsigned text).takeWhile Char.isDigit) &&
      isFraction ((unsigned text).dropWhile Char.isDigit)

/-- A float, named by its literal, or one of the three values that have none. -/
inductive JsonFloat where
  | finite (literal : List Char) (valid : isFloatLiteral literal = true)
  | nan
  | infinity
  | negInfinity
deriving DecidableEq

/-! ## Texts -/

/-- A code point: a character, or one of the surrogates, which are no characters. -/
inductive CodePoint where
  | char (c : Char)
  | surrogate (unit : Fin 2048)
deriving DecidableEq

namespace CodePoint

/-- The first half of a pair. -/
def isHigh : CodePoint → Bool
  | .char _ => false
  | .surrogate unit => unit.val < 1024

/-- The second half of a pair. -/
def isLow : CodePoint → Bool
  | .char _ => false
  | .surrogate unit => 1024 ≤ unit.val

def char? : CodePoint → Option Char
  | .char c => some c
  | .surrogate _ => none

/-- The character that is shown for a code point. -/
def shown : CodePoint → Char
  | .char c => c
  | .surrogate _ => '\uFFFD'

end CodePoint

/-- The code points of a string. -/
def codePoints (text : String) : List CodePoint := text.toList.map .char

/-- The string of a text without surrogates. -/
def scalarText (text : List CodePoint) : Option String :=
  (text.mapM CodePoint.char?).map String.ofList

/-- No half of a pair stands before the other half. -/
def Apart : List CodePoint → Prop
  | first :: second :: rest => ¬ (first.isHigh = true ∧ second.isLow = true) ∧ Apart (second :: rest)
  | _ => True

/-- A text with a surrogate, and none that is part of a pair. -/
def Broken (text : List CodePoint) : Prop := scalarText text = none ∧ Apart text

@[simp] theorem codePoints_empty : codePoints "" = [] := rfl

@[simp] theorem length_codePoints (text : String) : (codePoints text).length = text.length := by
  rw [codePoints, List.length_map, String.length_toList]

@[simp] theorem scalarText_codePoints (text : String) : scalarText (codePoints text) = some text := by
  have each : ∀ letters : List Char, (letters.map CodePoint.char).mapM CodePoint.char? = some letters := by
    intro letters
    induction letters with
    | nil => rfl
    | cons c rest ih => simp [List.mapM_cons, ih, CodePoint.char?]
  rw [scalarText, codePoints, each, Option.map_some, String.ofList_toList]

/-- A text without surrogates is that of a string. -/
theorem codePoints_of_scalarText {points : List CodePoint} {text : String}
    (scalar : scalarText points = some text) : points = codePoints text := by
  have each : ∀ (points : List CodePoint) (letters : List Char),
      points.mapM CodePoint.char? = some letters → points = letters.map .char := by
    intro points
    induction points with
    | nil =>
        rintro letters same
        cases same
        rfl
    | cons point rest ih =>
        intro letters same
        rw [List.mapM_cons] at same
        obtain ⟨c, here, same⟩ := Option.bind_eq_some_iff.mp same
        obtain ⟨others, later, same⟩ := Option.bind_eq_some_iff.mp same
        cases same
        cases point with
        | char d =>
            cases here
            rw [ih others later, List.map_cons]
        | surrogate => cases here
  obtain ⟨letters, read, rfl⟩ := Option.map_eq_some_iff.mp scalar
  rw [each points letters read, codePoints, String.toList_ofList]

theorem codePoints_injective : Function.Injective codePoints := by
  intro first second same
  have read := scalarText_codePoints first
  rw [same, scalarText_codePoints] at read
  exact (Option.some.inj read).symm

@[simp] theorem codePoints_eq_nil {text : String} : codePoints text = [] ↔ text = "" :=
  ⟨fun nothing => codePoints_injective (nothing.trans codePoints_empty.symm), fun same => by rw [same]; rfl⟩

@[simp] theorem isEmpty_codePoints (text : String) : (codePoints text).isEmpty = (text == "") := by
  rw [Bool.eq_iff_iff, List.isEmpty_iff, codePoints_eq_nil, beq_iff_eq]

/-! ## Values -/

/-- A JSON value. The members of an object stand in insertion order. A text is `str`, or `broken`
when a surrogate stands alone in it. -/
inductive Json where
  | null
  | bool (value : Bool)
  | int (value : ℤ)
  | float (value : JsonFloat)
  | str (value : String)
  | broken (text : List CodePoint)
  | arr (items : List Json)
  | obj (members : List (String × Json))

namespace Json

/-- The value of a text. -/
def ofText (text : List CodePoint) : Json :=
  match scalarText text with
  | some value => .str value
  | none => .broken text

/-- The value under a key of a dictionary. -/
def lookup (key : String) : List (String × Json) → Option Json
  | [] => none
  | (name, value) :: rest => if name = key then some value else lookup key rest

/-- Assigning to a key of a dictionary: an old key keeps its place. -/
def assign (key : String) (value : Json) : List (String × Json) → List (String × Json)
  | [] => [(key, value)]
  | (name, old) :: rest =>
      if name = key then (name, value) :: rest else (name, old) :: assign key value rest

/-- The dictionary built from a list of pairs, later pairs last. -/
def dict (pairs : List (String × Json)) : List (String × Json) :=
  pairs.foldl (fun members pair => assign pair.1 pair.2 members) []

mutual
/-- The value is one that a text can stand for: no object of it has two members of one name, and
what is broken is broken. -/
def Keyed : Json → Prop
  | .broken text => Broken text
  | .arr items => KeyedItems items
  | .obj members => (members.map Prod.fst).Nodup ∧ KeyedMembers members
  | _ => True

def KeyedItems : List Json → Prop
  | [] => True
  | item :: rest => Keyed item ∧ KeyedItems rest

def KeyedMembers : List (String × Json) → Prop
  | [] => True
  | member :: rest => Keyed member.2 ∧ KeyedMembers rest
end

/-- Members are ordered by their names alone. -/
def byName (first second : String × Json) : Prop := first.1 ≤ second.1

instance : DecidableRel byName := fun first second =>
  inferInstanceAs (Decidable (first.1 ≤ second.1))

mutual
/-- Every object of the value with its members sorted by name. -/
def sortKeys : Json → Json
  | .arr items => .arr (sortItems items)
  | .obj members => .obj ((sortMembers members).insertionSort byName)
  | value => value

def sortItems : List Json → List Json
  | [] => []
  | item :: rest => sortKeys item :: sortItems rest

def sortMembers : List (String × Json) → List (String × Json)
  | [] => []
  | (name, value) :: rest => (name, sortKeys value) :: sortMembers rest
end

/-- The same JSON value, whatever the insertion order of the keys. -/
def Same (first second : Json) : Prop := first.sortKeys = second.sortKeys

theorem Same.refl (value : Json) : Same value value := Eq.refl (sortKeys value)

theorem Same.symm {first second : Json} (same : Same first second) : Same second first :=
  Eq.symm same

theorem Same.trans {first second third : Json} (left : Same first second)
    (right : Same second third) : Same first third :=
  Eq.trans left right

/-! ### Sorting keeps the keys apart -/

theorem keyedMembers_iff (members : List (String × Json)) :
    KeyedMembers members ↔ ∀ member ∈ members, Keyed member.2 := by
  induction members with
  | nil => simp [KeyedMembers]
  | cons member rest ih => simp only [KeyedMembers, ih, List.forall_mem_cons]

theorem mem_of_lookup {name : String} {members : List (String × Json)} {value : Json}
    (found : lookup name members = some value) : (name, value) ∈ members := by
  induction members with
  | nil => cases found
  | cons member rest ih =>
      obtain ⟨other, held⟩ := member
      simp only [lookup] at found
      split_ifs at found with same
      · cases found
        exact same ▸ List.mem_cons_self
      · exact List.mem_cons_of_mem _ (ih found)

theorem keyed_lookup {name : String} {members : List (String × Json)} {value : Json}
    (keyed : KeyedMembers members) (found : lookup name members = some value) : value.Keyed :=
  (keyedMembers_iff members).mp keyed _ (mem_of_lookup found)

theorem sortMembers_names (members : List (String × Json)) :
    (sortMembers members).map Prod.fst = members.map Prod.fst := by
  induction members with
  | nil => rfl
  | cons member rest ih => simp only [sortMembers, List.map_cons, ih]

mutual
theorem keyed_sortKeys : ∀ value : Json, Keyed value → Keyed value.sortKeys
  | .null, _ => trivial
  | .bool _, _ => trivial
  | .int _, _ => trivial
  | .float _, _ => trivial
  | .str _, _ => trivial
  | .broken _, given => given
  | .arr items, keyed => by
      simp only [sortKeys, Keyed]
      exact keyedItems_sortItems items (by simpa only [Keyed] using keyed)
  | .obj members, keyed => by
      simp only [Keyed] at keyed
      have perm := List.perm_insertionSort byName (sortMembers members)
      have names : ((sortMembers members).insertionSort byName).map Prod.fst |>.Nodup := by
        rw [(perm.map Prod.fst).nodup_iff, sortMembers_names]
        exact keyed.1
      refine ⟨names, (keyedMembers_iff _).mpr fun member inSorted => ?_⟩
      exact (keyedMembers_iff _).mp (keyedMembers_sortMembers members keyed.2) member
        (perm.mem_iff.mp inSorted)

theorem keyedItems_sortItems : ∀ items : List Json, KeyedItems items → KeyedItems (sortItems items)
  | [], _ => trivial
  | item :: rest, keyed => by
      simp only [KeyedItems] at keyed
      exact ⟨keyed_sortKeys item keyed.1, keyedItems_sortItems rest keyed.2⟩

theorem keyedMembers_sortMembers : ∀ members : List (String × Json),
    KeyedMembers members → KeyedMembers (sortMembers members)
  | [], _ => trivial
  | (_, value) :: rest, keyed => by
      simp only [KeyedMembers] at keyed
      exact ⟨keyed_sortKeys value keyed.1, keyedMembers_sortMembers rest keyed.2⟩
end

/-- The members of an object with sorted keys. -/
theorem mem_sortMembers {members : List (String × Json)} {name : String} {value : Json} :
    (name, value) ∈ sortMembers members ↔ ∃ old, (name, old) ∈ members ∧ old.sortKeys = value := by
  induction members with
  | nil => simp [sortMembers]
  | cons member rest ih =>
      obtain ⟨other, old⟩ := member
      simp only [sortMembers, List.mem_cons, ih, Prod.mk.injEq]
      constructor
      · rintro (⟨rfl, rfl⟩ | ⟨found, there, same⟩)
        · exact ⟨old, .inl ⟨rfl, rfl⟩, rfl⟩
        · exact ⟨found, .inr there, same⟩
      · rintro ⟨found, ⟨rfl, rfl⟩ | there, same⟩
        · exact .inl ⟨rfl, same.symm⟩
        · exact .inr ⟨found, there, same⟩

/-- The same object has the same value under each name. -/
theorem Same.member {first second : List (String × Json)} (same : Same (.obj first) (.obj second))
    {name : String} {value : Json} (member : (name, value) ∈ first) :
    ∃ other, (name, other) ∈ second ∧ Same value other := by
  simp only [Same, sortKeys, Json.obj.injEq] at same
  have sorted : (name, value.sortKeys) ∈ (sortMembers second).insertionSort byName := by
    rw [← same, List.mem_insertionSort]
    exact mem_sortMembers.mpr ⟨value, member, rfl⟩
  obtain ⟨other, there, equal⟩ := mem_sortMembers.mp ((List.mem_insertionSort byName).mp sorted)
  exact ⟨other, there, equal.symm⟩

/-! ## Printing -/

/-- The character of a hexadecimal digit. -/
def hexDigit (n : ℕ) : Char :=
  if n < 10 then Char.ofNat (48 + n) else Char.ofNat (87 + n)

/-- A `\uXXXX` escape of a code unit. -/
def escapeUnit (n : ℕ) : List Char :=
  ['\\', 'u', hexDigit (n / 4096 % 16), hexDigit (n / 256 % 16), hexDigit (n / 16 % 16),
    hexDigit (n % 16)]

/-- One character inside a string. Characters above the basic plane take two
code units. -/
def escapeChar (c : Char) : List Char :=
  if c = '"' then ['\\', '"']
  else if c = '\\' then ['\\', '\\']
  else if c = '\n' then ['\\', 'n']
  else if c = '\r' then ['\\', 'r']
  else if c = '\t' then ['\\', 't']
  else if c = '\x08' then ['\\', 'b']
  else if c = '\x0c' then ['\\', 'f']
  else if 32 ≤ c.toNat ∧ c.toNat ≤ 126 then [c]
  else if c.toNat < 65536 then escapeUnit c.toNat
  else
    escapeUnit (55296 + (c.toNat - 65536) / 1024) ++
      escapeUnit (56320 + (c.toNat - 65536) % 1024)

/-- One code point inside a string. -/
def escapePoint : CodePoint → List Char
  | .char c => escapeChar c
  | .surrogate unit => escapeUnit (55296 + unit.val)

/-- The code points of a string, then the closing quote. -/
def escapeText (text : List CodePoint) : List Char := text.flatMap escapePoint ++ ['"']

def printText (text : List CodePoint) : List Char := '"' :: escapeText text

def printString (text : String) : List Char := printText (codePoints text)

def printInt : ℤ → List Char
  | .ofNat n => Nat.toDigits 10 n
  | .negSucc n => '-' :: Nat.toDigits 10 (n + 1)

def printFloat : JsonFloat → List Char
  | .finite literal _ => literal
  | .nan => ['N', 'a', 'N']
  | .infinity => ['I', 'n', 'f', 'i', 'n', 'i', 't', 'y']
  | .negInfinity => ['-', 'I', 'n', 'f', 'i', 'n', 'i', 't', 'y']

/-- The blanks JSON allows between tokens. -/
def isBlank (c : Char) : Bool := c == ' ' || c == '\t' || c == '\n' || c == '\r'

/-- The blanks written after a comma and after a colon. -/
structure Style where
  afterComma : List Char
  afterColon : List Char
  commaBlank : afterComma.all isBlank = true
  colonBlank : afterColon.all isBlank = true

/-- No blanks at all. -/
def Style.compact : Style := ⟨[], [], rfl, rfl⟩

/-- One blank after each comma and each colon. -/
def Style.spaced : Style := ⟨[' '], [' '], rfl, rfl⟩

mutual
def print (style : Style) : Json → List Char
  | .null => ['n', 'u', 'l', 'l']
  | .bool true => ['t', 'r', 'u', 'e']
  | .bool false => ['f', 'a', 'l', 's', 'e']
  | .int value => printInt value
  | .float value => printFloat value
  | .str value => printString value
  | .broken text => printText text
  | .arr [] => ['[', ']']
  | .arr (item :: rest) => '[' :: (print style item ++ printItems style rest)
  | .obj [] => ['{', '}']
  | .obj ((name, value) :: rest) =>
      '{' :: (printString name ++ ':' :: (style.afterColon ++ print style value) ++
        printMembers style rest)

/-- The items after the first, up to the closing bracket. -/
def printItems (style : Style) : List Json → List Char
  | [] => [']']
  | item :: rest =>
      ',' :: (style.afterComma ++ print style item ++ printItems style rest)

/-- The members after the first, up to the closing brace. -/
def printMembers (style : Style) : List (String × Json) → List Char
  | [] => ['}']
  | (name, value) :: rest =>
      ',' :: (style.afterComma ++ printString name ++
        ':' :: (style.afterColon ++ print style value) ++ printMembers style rest)
end

/-- The text of a value. -/
def dumps (style : Style) (value : Json) : String := String.ofList (print style value)

end Json

end LlmGateway.Library
