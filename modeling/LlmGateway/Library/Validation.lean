import Mathlib.Data.List.Forall2
import Mathlib.Data.Nat.Notation

/-!
# Validation that collects errors

A model reads its fields one after the other. A field that refuses its value gives an error with a
location, and the errors of all fields are collected (`Validated.seq`). A validator that is written
by hand may raise: a `ValueError` or an `AssertionError` becomes an error of the field, and any other
exception ends the validation at once, whatever the other fields say (`Validated.after`).

Three questions are asked of a validation, and they are answered part by part: what it accepts
(`map_eq_accepted`, `seq_eq_accepted`, `after_eq_accepted`), whether an exception escapes from it
(`escapes_map`, `escapes_seq`, `escapes_after`), and where its errors are (`mem_errors_seq`,
`mem_errors_within`).
-/

set_option autoImplicit false

namespace LlmGateway.Library

/-! ## Errors -/

/-- A part of a location. -/
inductive LocPart where
  | name (text : String)
  | index (position : ℕ)
deriving DecidableEq

/-- An error of one field. -/
structure LineError where
  loc : List LocPart
  msg : String
deriving DecidableEq

/-- The error as one of what contains the field. -/
def LineError.within (part : LocPart) (error : LineError) : LineError :=
  { error with loc := part :: error.loc }

/-- How a validation ends. Who refuses has an error to show. -/
inductive Validated (ε α : Type) where
  | accepted (value : α)
  | refused (first : LineError) (rest : List LineError)
  | escaped (exception : ε)

/-- What a validator raises. -/
inductive Raised (ε : Type) where
  | valueError (text : String)
  | assertionError (text : String)
  | other (exception : ε)

namespace Validated

variable {ε α β : Type}

/-! ## Parts -/

/-- A refusal of the value as a whole. -/
def refuse (msg : String) : Validated ε α := refused ⟨[], msg⟩ []

def map (f : α → β) : Validated ε α → Validated ε β
  | accepted value => accepted (f value)
  | refused first rest => refused first rest
  | escaped exception => escaped exception

/-- One field and then another: the errors of both. -/
def seq : Validated ε (α → β) → Validated ε α → Validated ε β
  | accepted f, value => value.map f
  | refused first rest, accepted _ => refused first rest
  | refused first rest, refused other more => refused first (rest ++ other :: more)
  | refused _ _, escaped exception => escaped exception
  | escaped exception, _ => escaped exception

instance : Applicative (Validated ε) where
  pure := accepted
  map := map
  seq f value := f.seq (value ())

/-- The validation of a field as one of what contains it. -/
def within (part : LocPart) : Validated ε α → Validated ε α
  | accepted value => accepted value
  | refused first rest => refused (first.within part) (rest.map (LineError.within part))
  | escaped exception => escaped exception

/-- A validator that runs after the field has been read. -/
def after (validator : α → Except (Raised ε) β) : Validated ε α → Validated ε β
  | accepted value =>
      match validator value with
      | .ok checked => accepted checked
      | .error (.valueError text) => refuse ("Value error, " ++ text)
      | .error (.assertionError text) => refuse ("Assertion failed, " ++ text)
      | .error (.other exception) => escaped exception
  | refused first rest => refused first rest
  | escaped exception => escaped exception

/-- The first of two readings that accepts, each with its errors under its own name. -/
def either (name other : String) : Validated ε α → Validated ε α → Validated ε α
  | accepted value, _ => accepted value
  | escaped exception, _ => escaped exception
  | refused _ _, accepted value => accepted value
  | refused _ _, escaped exception => escaped exception
  | refused first rest, refused first' rest' =>
      refused (first.within (.name name))
        (rest.map (LineError.within (.name name)) ++
          (first' :: rest').map (LineError.within (.name other)))

/-- The items of a list, from a position on. -/
def items (read : α → Validated ε β) : ℕ → List α → Validated ε (List β)
  | _, [] => accepted []
  | position, value :: rest =>
      List.cons <$> (read value).within (.index position) <*> items read (position + 1) rest

/-- So many items. -/
def itemCount (count : ℕ) : String :=
  toString count ++ (if count = 1 then " item" else " items")

/-- A list with a least and a greatest length. One that is too long is refused when its first item
too many has been read. -/
def sized (least most : ℕ) (read : α → Validated ε β) (values : List α) : Validated ε (List β) :=
  if most < values.length then
    match items read 0 (values.take (most + 1)) with
    | escaped exception => escaped exception
    | _ =>
        refuse ("List should have at most " ++ itemCount most ++ " after validation, not " ++
          toString values.length)
  else if values.length < least then
    match items read 0 values with
    | accepted _ =>
        refuse ("List should have at least " ++ itemCount least ++ " after validation, not " ++
          toString values.length)
    | other => other
  else items read 0 values

/-! ## What is accepted -/

@[simp] theorem map_eq_accepted {f : α → β} {value : Validated ε α} {b : β} :
    f <$> value = accepted b ↔ ∃ a, value = accepted a ∧ f a = b := by
  change map f value = accepted b ↔ _
  cases value <;> simp [map]

@[simp] theorem seq_eq_accepted {f : Validated ε (α → β)} {value : Validated ε α} {b : β} :
    f <*> value = accepted b ↔ ∃ g a, f = accepted g ∧ value = accepted a ∧ g a = b := by
  change seq f value = accepted b ↔ _
  cases f <;> cases value <;> simp [seq, map]

@[simp] theorem within_eq_accepted {part : LocPart} {value : Validated ε α} {a : α} :
    value.within part = accepted a ↔ value = accepted a := by
  cases value <;> simp [within]

@[simp] theorem after_eq_accepted {validator : α → Except (Raised ε) β} {value : Validated ε α}
    {b : β} : value.after validator = accepted b ↔ ∃ a, value = accepted a ∧ validator a = .ok b := by
  cases value with
  | accepted a =>
      rcases checked : validator a with (_ | _ | _) | _ <;> simp [after, refuse, checked]
  | refused | escaped => simp [after]

/-- An accepted list has as many items as were given. -/
theorem length_of_items {read : α → Validated ε β} {values : List α} {position : ℕ}
    {results : List β} (all : items read position values = accepted results) :
    results.length = values.length := by
  induction values generalizing position results with
  | nil =>
      cases all
      rfl
  | cons value rest ih =>
      simp only [items, seq_eq_accepted, map_eq_accepted] at all
      obtain ⟨_, tail, ⟨head, -, rfl⟩, later, rfl⟩ := all
      rw [List.length_cons, List.length_cons, ih later]

/-- An accepted list is neither too short nor too long. -/
theorem sized_eq_accepted {least most : ℕ} {read : α → Validated ε β} {values : List α}
    {results : List β} (all : sized least most read values = accepted results) :
    least ≤ results.length ∧ results.length ≤ most := by
  unfold sized at all
  split_ifs at all with long short
  · split at all <;> cases all
  · split at all
    · cases all
    · rename_i other unaccepted
      exact absurd all (unaccepted results)
  · rw [length_of_items all]
    exact ⟨Nat.not_lt.mp short, Nat.not_lt.mp long⟩

/-- A list is accepted item by item. -/
theorem items_of_forall₂ {read : α → Validated ε β} {values : List α} {results : List β}
    (each : List.Forall₂ (fun value result => read value = accepted result) values results) :
    ∀ position, items read position values = accepted results := by
  induction each with
  | nil =>
      intro position
      rfl
  | cons head _ ih =>
      intro position
      simp only [items, seq_eq_accepted, map_eq_accepted, within_eq_accepted]
      exact ⟨_, _, ⟨_, head, rfl⟩, ih (position + 1), rfl⟩

/-- So is one of a length that is allowed. -/
theorem sized_of_forall₂ {least most : ℕ} {read : α → Validated ε β} {values : List α}
    {results : List β} (short : least ≤ results.length) (long : results.length ≤ most)
    (each : List.Forall₂ (fun value result => read value = accepted result) values results) :
    sized least most read values = accepted results := by
  have count : values.length = results.length := each.length_eq
  unfold sized
  rw [if_neg (by omega), if_neg (by omega)]
  exact items_of_forall₂ each 0

/-! ## What escapes -/

/-- An exception ends the validation. -/
def Escapes (value : Validated ε α) : Prop := ∃ exception, value = escaped exception

@[simp] theorem not_escapes_accepted (a : α) : ¬ (accepted a : Validated ε α).Escapes := by
  simp [Escapes]

@[simp] theorem not_escapes_refused (first : LineError) (rest : List LineError) :
    ¬ (refused first rest : Validated ε α).Escapes := by
  simp [Escapes]

@[simp] theorem not_escapes_refuse (msg : String) : ¬ (refuse msg : Validated ε α).Escapes :=
  not_escapes_refused _ _

@[simp] theorem escapes_escaped (exception : ε) : (escaped exception : Validated ε α).Escapes :=
  ⟨exception, rfl⟩

@[simp] theorem escapes_map {f : α → β} {value : Validated ε α} :
    (f <$> value).Escapes ↔ value.Escapes := by
  change (map f value).Escapes ↔ _
  cases value <;> simp [map]

/-- **An exception of any field escapes**, whatever the others say. -/
@[simp] theorem escapes_seq {f : Validated ε (α → β)} {value : Validated ε α} :
    (f <*> value).Escapes ↔ f.Escapes ∨ value.Escapes := by
  change (seq f value).Escapes ↔ _
  cases f <;> cases value <;> simp [seq, map]

@[simp] theorem escapes_within {part : LocPart} {value : Validated ε α} :
    (value.within part).Escapes ↔ value.Escapes := by
  cases value <;> simp [within]

@[simp] theorem escapes_after {validator : α → Except (Raised ε) β} {value : Validated ε α} :
    (value.after validator).Escapes ↔
      value.Escapes ∨ ∃ a exception, value = accepted a ∧ validator a = .error (.other exception) := by
  cases value with
  | accepted a =>
      rcases checked : validator a with (_ | _ | _) | _ <;> simp [after, checked]
  | refused | escaped => simp [after]

theorem not_escapes_either {name other : String} {first second : Validated ε α}
    (quiet : ¬ first.Escapes) (silent : ¬ second.Escapes) :
    ¬ (either name other first second).Escapes := by
  cases first <;> cases second <;> simp_all [either]

theorem not_escapes_items {read : α → Validated ε β} (quiet : ∀ value, ¬ (read value).Escapes)
    (position : ℕ) (values : List α) : ¬ (items read position values).Escapes := by
  induction values generalizing position with
  | nil => simp [items]
  | cons value rest ih => simp [items, quiet, ih]

theorem not_escapes_sized {least most : ℕ} {read : α → Validated ε β}
    (quiet : ∀ value, ¬ (read value).Escapes) (values : List α) :
    ¬ (sized least most read values).Escapes := by
  have all := not_escapes_items quiet 0
  unfold sized
  split_ifs
  · split
    · rename_i exception ended
      exact absurd ⟨exception, ended⟩ (all _)
    · simp
  · split
    · simp
    · exact all _
  · exact all _

/-! ## Where the errors are -/

/-- The errors of a validation. -/
def errors : Validated ε α → List LineError
  | refused first rest => first :: rest
  | _ => []

@[simp] theorem errors_map (f : α → β) (value : Validated ε α) : (f <$> value).errors = value.errors := by
  cases value <;> rfl

theorem mem_errors_seq {f : Validated ε (α → β)} {value : Validated ε α} {error : LineError}
    (member : error ∈ (f <*> value).errors) : error ∈ f.errors ∨ error ∈ value.errors := by
  change error ∈ (seq f value).errors at member
  cases f <;> cases value <;> simp_all [seq, map, errors, or_assoc]

/-- The errors of a field name it. -/
theorem mem_errors_within {part : LocPart} {value : Validated ε α} {error : LineError}
    (member : error ∈ (value.within part).errors) : error.loc.head? = some part := by
  cases value with
  | accepted | escaped => cases member
  | refused first rest =>
      rcases List.mem_cons.mp member with rfl | later
      · rfl
      · obtain ⟨inner, -, rfl⟩ := List.mem_map.mp later
        rfl

/-- A validator adds errors of the value as a whole only. -/
theorem mem_errors_after {validator : α → Except (Raised ε) β} {value : Validated ε α}
    {error : LineError} (member : error ∈ (value.after validator).errors) :
    error ∈ value.errors ∨ error.loc = [] := by
  cases value with
  | accepted a =>
      right
      rcases checked : validator a with (_ | _ | _) | _ <;>
        simp only [after, checked, refuse, errors, List.mem_singleton, List.not_mem_nil] at member
      · rw [member]
      · rw [member]
  | refused => exact .inl member
  | escaped => cases member

end Validated

end LlmGateway.Library
