import LlmGateway.Library.Runs
import Mathlib.Logic.Function.Basic
import Mathlib.Data.List.Basic

/-!
# Tables and changes of their schema

The tables of a database with the changes that its schema may go through: tables, columns and indexes
come and go. A change is refused when it contradicts the catalog, as when a column is added twice or a
table is dropped that another one refers to. What a change adds can be taken back (`Change.undo`), and
a list of additions is undone in the reverse order (`run_undo`).

A row gives a value to each of its columns; a column without a value holds `NULL`.
-/

set_option autoImplicit false

namespace LlmGateway.Library

/-! ## Catalogs -/

structure Column where
  name : String
  nullable : Bool := false
deriving DecidableEq

structure Index where
  name : String
  columns : List String
  unique : Bool := false
deriving DecidableEq

/-- A table without its rows, with the tables that it refers to. -/
structure TableShape where
  name : String
  columns : List Column
  references : List String := []
  indexes : List Index := []
deriving DecidableEq

namespace TableShape

variable (table : TableShape)

def columnNames : List String := table.columns.map Column.name

/-- A new column. Unless it may be `NULL`, the rows that are there need a value for it. -/
def addColumn (column : Column) (filled : Bool) : Option TableShape :=
  if column.name ∉ table.columnNames ∧ (column.nullable || filled) = true then
    some { table with columns := table.columns ++ [column] }
  else none

/-- A column that no index is on can be dropped. -/
def dropColumn (column : String) : Option TableShape :=
  if column ∈ table.columnNames ∧ ∀ index ∈ table.indexes, column ∉ index.columns then
    some { table with columns := table.columns.filter fun other => other.name ≠ column }
  else none

def addIndex (index : Index) : Option TableShape :=
  if index.columns ⊆ table.columnNames then some { table with indexes := table.indexes ++ [index] }
  else none

def dropIndex (name : String) : Option TableShape :=
  if name ∈ table.indexes.map Index.name then
    some { table with indexes := table.indexes.filter fun other => other.name ≠ name }
  else none

/-- The name of a table and the tables that it refers to stay. -/
def Keeps (change : TableShape → Option TableShape) : Prop :=
  ∀ old new, change old = some new → new.name = old.name ∧ new.references = old.references

variable {table} {new : TableShape}

theorem addColumn_eq_some {column : Column} {filled : Bool} :
    table.addColumn column filled = some new ↔
      (column.name ∉ table.columnNames ∧ (column.nullable || filled) = true) ∧
        { table with columns := table.columns ++ [column] } = new := by
  simp only [addColumn, Option.ite_none_right_eq_some, Option.some.injEq]

theorem dropColumn_eq_some {column : String} : table.dropColumn column = some new ↔
    (column ∈ table.columnNames ∧ ∀ index ∈ table.indexes, column ∉ index.columns) ∧
      { table with columns := table.columns.filter fun other => other.name ≠ column } = new := by
  simp only [dropColumn, Option.ite_none_right_eq_some, Option.some.injEq]

theorem addIndex_eq_some {index : Index} : table.addIndex index = some new ↔
    index.columns ⊆ table.columnNames ∧ { table with indexes := table.indexes ++ [index] } = new := by
  simp only [addIndex, Option.ite_none_right_eq_some, Option.some.injEq]

theorem dropIndex_eq_some {name : String} : table.dropIndex name = some new ↔
    name ∈ table.indexes.map Index.name ∧
      { table with indexes := table.indexes.filter fun other => other.name ≠ name } = new := by
  simp only [dropIndex, Option.ite_none_right_eq_some, Option.some.injEq]

theorem keeps_addColumn (column : Column) (filled : Bool) :
    Keeps fun table => table.addColumn column filled := by
  intro old new made
  obtain ⟨-, rfl⟩ := addColumn_eq_some.mp made
  exact ⟨rfl, rfl⟩

theorem keeps_dropColumn (column : String) : Keeps fun table => table.dropColumn column := by
  intro old new made
  obtain ⟨-, rfl⟩ := dropColumn_eq_some.mp made
  exact ⟨rfl, rfl⟩

theorem keeps_addIndex (index : Index) : Keeps fun table => table.addIndex index := by
  intro old new made
  obtain ⟨-, rfl⟩ := addIndex_eq_some.mp made
  exact ⟨rfl, rfl⟩

theorem keeps_dropIndex (name : String) : Keeps fun table => table.dropIndex name := by
  intro old new made
  obtain ⟨-, rfl⟩ := dropIndex_eq_some.mp made
  exact ⟨rfl, rfl⟩

end TableShape

abbrev Catalog := List TableShape

namespace Catalog

def names (catalog : Catalog) : List String := catalog.map TableShape.name

def indexNames (catalog : Catalog) : List String :=
  catalog.flatMap fun table => table.indexes.map Index.name

/-- The columns of a table. -/
def columnsOf (name : String) : Catalog → List String
  | [] => []
  | table :: rest => if table.name = name then table.columnNames else columnsOf name rest

/-- A change of one table. -/
def alter (name : String) (change : TableShape → Option TableShape) : Catalog → Option Catalog
  | [] => none
  | table :: rest =>
      if table.name = name then (change table).map fun changed => changed :: rest
      else (alter name change rest).map fun altered => table :: altered

end Catalog

/-! ## Schemas and changes -/

variable {V : Type}

abbrev Row (V : Type) := String → Option V

/-- A catalog with the rows of each table. -/
structure Schema (V : Type) where
  catalog : Catalog
  rows : String → List (Row V)

/-- A change of the schema. The rows that are there when a column is added hold `fill` in it. -/
inductive Change (V : Type) where
  | createTable (name : String) (columns : List Column) (references : List String)
  | dropTable (name : String)
  | addColumn (table : String) (column : Column) (fill : Option V)
  | dropColumn (table column : String)
  | createIndex (table : String) (index : Index)
  | dropIndex (table name : String)

namespace Change

/-- The catalog after a change. -/
def reshape (catalog : Catalog) : Change V → Option Catalog
  | .createTable name columns references =>
      if name ∈ catalog.names ∨ ¬ references ⊆ catalog.names then none
      else some (catalog ++ [{ name, columns, references }])
  | .dropTable name =>
      if name ∉ catalog.names ∨ ∃ table ∈ catalog, name ∈ table.references then none
      else some (catalog.filter fun table => table.name ≠ name)
  | .addColumn table column fill =>
      catalog.alter table fun shape => shape.addColumn column fill.isSome
  | .dropColumn table column => catalog.alter table fun shape => shape.dropColumn column
  | .createIndex table index =>
      if index.name ∈ catalog.indexNames then none
      else catalog.alter table fun shape => shape.addIndex index
  | .dropIndex table name => catalog.alter table fun shape => shape.dropIndex name

/-- The rows after a change. -/
def refill (rows : String → List (Row V)) : Change V → String → List (Row V)
  | .createTable name _ _ | .dropTable name => Function.update rows name []
  | .addColumn table column fill =>
      Function.update rows table ((rows table).map fun row => Function.update row column.name fill)
  | .dropColumn table column =>
      Function.update rows table ((rows table).map fun row => Function.update row column none)
  | .createIndex _ _ | .dropIndex _ _ => rows

/-- The rows for which an index is unique: no two of them hold the same values, `NULL` apart. -/
def Permits [DecidableEq V] (rows : String → List (Row V)) : Change V → Prop
  | .createIndex table index =>
      index.unique = true →
        (((rows table).map fun row => index.columns.map row).filter fun values =>
          values.all Option.isSome).Nodup
  | _ => True

instance [DecidableEq V] (rows : String → List (Row V)) :
    (change : Change V) → Decidable (change.Permits rows)
  | .createIndex _ _ => inferInstanceAs (Decidable (_ → _))
  | .createTable _ _ _ | .dropTable _ | .addColumn _ _ _ | .dropColumn _ _ | .dropIndex _ _ =>
      .isTrue trivial

/-- An addition that gives the rows no value. -/
def Blank : Change V → Prop
  | .createTable _ _ _ | .createIndex _ _ => True
  | .addColumn _ _ fill => fill = none
  | .dropTable _ | .dropColumn _ _ | .dropIndex _ _ => False

/-- What takes an addition back. -/
def undo : Change V → Option (Change V)
  | .createTable name _ _ => some (.dropTable name)
  | .addColumn table column _ => some (.dropColumn table column.name)
  | .createIndex table index => some (.dropIndex table index.name)
  | .dropTable _ | .dropColumn _ _ | .dropIndex _ _ => none

end Change

/-- **One change.** -/
def Schema.change [DecidableEq V] (schema : Schema V) (change : Change V) : Option (Schema V) :=
  if change.Permits schema.rows then
    (change.reshape schema.catalog).map fun catalog => ⟨catalog, change.refill schema.rows⟩
  else none

/-! ## Altered catalogs -/

namespace Catalog

section Alter

variable {name : String} {change : TableShape → Option TableShape} {catalog altered : Catalog}

/-- An altered catalog consists of tables of the old one and of a changed one. -/
theorem mem_of_alter (changed : catalog.alter name change = some altered) {table : TableShape}
    (member : table ∈ altered) : table ∈ catalog ∨ ∃ old ∈ catalog, change old = some table := by
  induction catalog generalizing altered with
  | nil => cases changed
  | cons first rest ih =>
      unfold alter at changed
      split at changed
      · obtain ⟨new, made, rfl⟩ := Option.map_eq_some_iff.mp changed
        rcases List.mem_cons.mp member with rfl | later
        · exact .inr ⟨first, List.mem_cons_self, made⟩
        · exact .inl (List.mem_cons_of_mem _ later)
      · obtain ⟨others, made, rfl⟩ := Option.map_eq_some_iff.mp changed
        rcases List.mem_cons.mp member with rfl | later
        · exact .inl List.mem_cons_self
        · rcases ih made later with old | ⟨old, there, made⟩
          · exact .inl (List.mem_cons_of_mem _ old)
          · exact .inr ⟨old, List.mem_cons_of_mem _ there, made⟩

theorem names_alter (changed : catalog.alter name change = some altered)
    (same : TableShape.Keeps change) : altered.names = catalog.names := by
  induction catalog generalizing altered with
  | nil => cases changed
  | cons first rest ih =>
      unfold alter at changed
      split at changed
      · obtain ⟨new, made, rfl⟩ := Option.map_eq_some_iff.mp changed
        simp only [names, List.map_cons, (same first new made).1]
      · obtain ⟨others, made, rfl⟩ := Option.map_eq_some_iff.mp changed
        have equal := ih made
        simp only [names, List.map_cons] at equal ⊢
        rw [equal]

/-- The columns of the other tables stay. -/
theorem columnsOf_alter (changed : catalog.alter name change = some altered)
    (same : TableShape.Keeps change) {other : String}
    (apart : other ≠ name) : altered.columnsOf other = catalog.columnsOf other := by
  induction catalog generalizing altered with
  | nil => cases changed
  | cons first rest ih =>
      unfold alter at changed
      split at changed
      · rename_i named
        obtain ⟨new, made, rfl⟩ := Option.map_eq_some_iff.mp changed
        have unmatched : first.name ≠ other := fun equal => apart (equal.symm.trans named)
        simp only [columnsOf, (same first new made).1, unmatched, if_false]
      · obtain ⟨others, made, rfl⟩ := Option.map_eq_some_iff.mp changed
        simp only [columnsOf, ih made]

/-- The columns of the table itself. -/
theorem columnsOf_altered (changed : catalog.alter name change = some altered)
    (same : TableShape.Keeps change) :
    ∃ old ∈ catalog, ∃ new, change old = some new ∧ catalog.columnsOf name = old.columnNames ∧
      altered.columnsOf name = new.columnNames := by
  induction catalog generalizing altered with
  | nil => cases changed
  | cons first rest ih =>
      unfold alter at changed
      split at changed
      · rename_i named
        obtain ⟨new, made, rfl⟩ := Option.map_eq_some_iff.mp changed
        refine ⟨first, List.mem_cons_self, new, made, ?_, ?_⟩
        · simp only [columnsOf, named, if_true]
        · simp only [columnsOf, (same first new made).1, named, if_true]
      · rename_i named
        obtain ⟨others, made, rfl⟩ := Option.map_eq_some_iff.mp changed
        obtain ⟨old, there, new, made, before, after⟩ := ih made
        refine ⟨old, List.mem_cons_of_mem _ there, new, made, ?_, ?_⟩
        · simp only [columnsOf, named, if_false, before]
        · simp only [columnsOf, named, if_false, after]

/-- A change of one table that can be taken back. -/
theorem alter_undo {back : TableShape → Option TableShape}
    (changed : catalog.alter name change = some altered)
    (undone : ∀ old ∈ catalog, ∀ new, change old = some new → new.name = old.name ∧ back new = some old) :
    altered.alter name back = some catalog := by
  induction catalog generalizing altered with
  | nil => cases changed
  | cons first rest ih =>
      unfold alter at changed
      split at changed
      · rename_i named
        obtain ⟨new, made, rfl⟩ := Option.map_eq_some_iff.mp changed
        obtain ⟨same, restored⟩ := undone first List.mem_cons_self new made
        simp only [alter, same, named, if_true, restored, Option.map_some]
      · rename_i named
        obtain ⟨others, made, rfl⟩ := Option.map_eq_some_iff.mp changed
        have restored := ih made fun old member => undone old (List.mem_cons_of_mem _ member)
        simp only [alter, named, if_false, restored, Option.map_some]

end Alter

/-- The tables that others refer to and the columns of the indexes are there. -/
structure Sound (catalog : Catalog) : Prop where
  referenced : ∀ table ∈ catalog, table.references ⊆ catalog.names
  indexed : ∀ table ∈ catalog, ∀ index ∈ table.indexes, index.columns ⊆ table.columnNames

theorem sound_alter {name : String} {change : TableShape → Option TableShape} {catalog altered : Catalog}
    (sound : catalog.Sound) (changed : catalog.alter name change = some altered)
    (same : TableShape.Keeps change)
    (indexed : ∀ old ∈ catalog, ∀ new, change old = some new →
      ∀ index ∈ new.indexes, index.columns ⊆ new.columnNames) : altered.Sound where
  referenced table member := by
    rw [names_alter changed same]
    rcases mem_of_alter changed member with old | ⟨old, there, made⟩
    · exact sound.referenced table old
    · rw [(same old table made).2]
      exact sound.referenced old there
  indexed table member := by
    rcases mem_of_alter changed member with old | ⟨old, there, made⟩
    · exact sound.indexed table old
    · exact indexed old there table made

/-- The columns of a table that is not there. -/
theorem columnsOf_append {first second : Catalog} {name : String} :
    (first ++ second).columnsOf name =
      if name ∈ first.names then first.columnsOf name else second.columnsOf name := by
  induction first with
  | nil => rfl
  | cons table rest ih =>
      simp only [List.cons_append, columnsOf, names, List.map_cons, List.mem_cons] at ih ⊢
      by_cases named : table.name = name
      · simp [named]
      · simp [named, ih, Ne.symm named]

theorem columnsOf_filter {catalog : Catalog} {name other : String} (apart : other ≠ name) :
    columnsOf other (catalog.filter fun table => table.name ≠ name) = catalog.columnsOf other := by
  induction catalog with
  | nil => rfl
  | cons table rest ih =>
      by_cases named : table.name = name
      · have unmatched : table.name ≠ other := fun equal => apart (equal.symm.trans named)
        rw [List.filter_cons_of_neg (by simpa using named), ih]
        simp only [columnsOf, unmatched, if_false]
      · rw [List.filter_cons_of_pos (by simpa using named)]
        simp only [columnsOf, ih]

end Catalog

/-- What has been added under a new name is taken out by that name. -/
theorem filter_added {α : Type} (name : α → String) (members : List α) (added : α)
    (fresh : ∀ member ∈ members, name member ≠ name added) :
    (members ++ [added]).filter (fun member => name member ≠ name added) = members := by
  have kept : members.filter (fun member => name member ≠ name added) = members :=
    List.filter_eq_self.mpr fun member there => by simpa using fresh member there
  rw [List.filter_append, kept]
  simp

/-- The catalog without what has been added. -/
theorem Change.reshape_undo {change back : Change V} {catalog reshaped : Catalog} (sound : catalog.Sound)
    (made : change.reshape catalog = some reshaped) (undone : change.undo = some back) :
    back.reshape reshaped = some catalog := by
  cases change with
  | createTable name columns references =>
      cases undone
      simp only [Change.reshape, Option.ite_none_left_eq_some, Option.some.injEq, not_or, not_not] at made
      obtain ⟨⟨fresh, there⟩, rfl⟩ := made
      have kept := filter_added TableShape.name catalog ⟨name, columns, references, []⟩
        fun table member same => fresh (List.mem_map.mpr ⟨table, member, same⟩)
      have named : name ∈ Catalog.names (catalog ++ [⟨name, columns, references, []⟩]) := by
        simp [Catalog.names]
      have free : ¬ ∃ table ∈ catalog ++ [(⟨name, columns, references, []⟩ : TableShape)],
          name ∈ table.references := by
        rintro ⟨table, member, refers⟩
        rcases List.mem_append.mp member with old | new
        · exact fresh (sound.referenced table old refers)
        · cases List.mem_singleton.mp new
          exact fresh (there refers)
      simp only [Change.reshape, named, not_true, false_or, free, if_false]
      exact congrArg some kept
  | addColumn table column fill =>
      cases undone
      refine Catalog.alter_undo made fun old member new made =>
        ⟨(TableShape.keeps_addColumn _ _ _ _ made).1, ?_⟩
      obtain ⟨⟨fresh, -⟩, rfl⟩ := TableShape.addColumn_eq_some.mp made
      refine TableShape.dropColumn_eq_some.mpr ⟨⟨?_, ?_⟩, ?_⟩
      · simp [TableShape.columnNames]
      · exact fun index there own => fresh (sound.indexed old member index there own)
      · have kept := filter_added Column.name old.columns column fun other there same =>
          fresh (List.mem_map.mpr ⟨other, there, same⟩)
        rw [kept]
  | createIndex table index =>
      cases undone
      simp only [Change.reshape, Option.ite_none_left_eq_some] at made
      obtain ⟨fresh, made⟩ := made
      refine Catalog.alter_undo made fun old member new made =>
        ⟨(TableShape.keeps_addIndex _ _ _ made).1, ?_⟩
      obtain ⟨-, rfl⟩ := TableShape.addIndex_eq_some.mp made
      refine TableShape.dropIndex_eq_some.mpr ⟨by simp, ?_⟩
      have kept := filter_added Index.name old.indexes index fun other there same =>
        fresh (List.mem_flatMap.mpr ⟨old, member, List.mem_map.mpr ⟨other, there, same⟩⟩)
      rw [kept]
  | dropTable | dropColumn | dropIndex => cases undone

/-! ## Sound schemas -/

/-- The rows are rows of the tables that are there, with values in their columns. -/
structure Schema.Sound (schema : Schema V) : Prop where
  catalog : schema.catalog.Sound
  homeless : ∀ table, table ∉ schema.catalog.names → schema.rows table = []
  within : ∀ table, ∀ row ∈ schema.rows table, ∀ column, row column ≠ none →
    column ∈ schema.catalog.columnsOf table

namespace Schema

/-- A column that is not there holds nothing. -/
theorem Sound.null {schema : Schema V} (sound : schema.Sound) {table column : String}
    (absent : column ∉ schema.catalog.columnsOf table) {row : Row V} (member : row ∈ schema.rows table) :
    row column = none := by
  by_contra held
  exact absent (sound.within table row member column held)

/-- A column that is emptied again. -/
theorem Sound.map_update {schema : Schema V} (sound : schema.Sound) {table column : String}
    (absent : column ∉ schema.catalog.columnsOf table) (fill : Option V) :
    ((schema.rows table).map fun row => Function.update row column fill).map
      (fun row => Function.update row column none) = schema.rows table := by
  rw [List.map_map]
  refine (List.map_congr_left fun row member => ?_).trans (List.map_id _)
  rw [Function.comp_apply, Function.update_idem, ← sound.null absent member, Function.update_eq_self]
  rfl

/-- What a change of one table has to keep. -/
theorem Sound.alter {schema next : Schema V} (sound : schema.Sound) {name : String}
    {change : TableShape → Option TableShape}
    (changed : schema.catalog.alter name change = some next.catalog) (same : TableShape.Keeps change)
    (indexed : ∀ old ∈ schema.catalog, ∀ new, change old = some new →
      ∀ index ∈ new.indexes, index.columns ⊆ new.columnNames)
    (others : ∀ other, other ≠ name → next.rows other = schema.rows other)
    (empty : schema.rows name = [] → next.rows name = [])
    (held : ∀ old new, change old = some new →
      (∀ row ∈ schema.rows name, ∀ column, row column ≠ none → column ∈ old.columnNames) →
        ∀ row ∈ next.rows name, ∀ column, row column ≠ none → column ∈ new.columnNames) : next.Sound where
  catalog := Catalog.sound_alter sound.catalog changed same indexed
  homeless table absent := by
    rw [Catalog.names_alter changed same] at absent
    by_cases named : table = name
    · subst named
      exact empty (sound.homeless table absent)
    · rw [others table named]
      exact sound.homeless table absent
  within table row member column value := by
    by_cases named : table = name
    · subst named
      obtain ⟨old, -, new, made, before, after⟩ := Catalog.columnsOf_altered changed same
      rw [after]
      exact held old new made
        (fun row there column held => before ▸ sound.within table row there column held)
        row member column value
    · rw [Catalog.columnsOf_alter changed same named]
      rw [others table named] at member
      exact sound.within table row member column value

section Changes

variable [DecidableEq V] {schema next : Schema V} {change back : Change V}

theorem change_eq_some : schema.change change = some next ↔
    change.Permits schema.rows ∧ change.reshape schema.catalog = some next.catalog ∧
      next.rows = change.refill schema.rows := by
  unfold Schema.change
  split_ifs with permitted
  · rw [Option.map_eq_some_iff]
    constructor
    · rintro ⟨catalog, reshaped, rfl⟩
      exact ⟨permitted, reshaped, rfl⟩
    · rintro ⟨-, reshaped, refilled⟩
      exact ⟨next.catalog, reshaped, by rw [← refilled]⟩
  · simp [permitted]

theorem sound_createTable (sound : schema.Sound) {name : String} {columns : List Column}
    {references : List String}
    (changed : schema.change (.createTable name columns references) = some next) : next.Sound := by
  obtain ⟨-, reshaped, refilled⟩ := change_eq_some.mp changed
  simp only [Change.reshape, Option.ite_none_left_eq_some, Option.some.injEq, not_or, not_not] at reshaped
  obtain ⟨⟨fresh, there⟩, reshaped⟩ := reshaped
  simp only [Change.refill] at refilled
  have names : next.catalog.names = schema.catalog.names ++ [name] := by
    rw [← reshaped, Catalog.names, List.map_append]
    rfl
  refine ⟨⟨fun table member => ?_, fun table member => ?_⟩, fun table absent => ?_,
    fun table row member column value => ?_⟩
  · rw [names]
    rw [← reshaped] at member
    rcases List.mem_append.mp member with old | new
    · exact List.Subset.trans (sound.catalog.referenced table old) (List.subset_append_left _ _)
    · cases List.mem_singleton.mp new
      exact List.Subset.trans there (List.subset_append_left _ _)
  · rw [← reshaped] at member
    rcases List.mem_append.mp member with old | new
    · exact sound.catalog.indexed table old
    · cases List.mem_singleton.mp new
      exact fun index none => absurd none List.not_mem_nil
  · rw [names, List.mem_append, not_or] at absent
    rw [refilled, Function.update_of_ne fun same => absent.2 (by rw [same]; exact List.mem_singleton_self _)]
    exact sound.homeless table absent.1
  · rw [refilled] at member
    by_cases named : table = name
    · subst named
      rw [Function.update_self] at member
      cases member
    · rw [Function.update_of_ne named] at member
      have known : table ∈ schema.catalog.names := by
        by_contra unknown
        rw [sound.homeless table unknown] at member
        cases member
      rw [← reshaped, Catalog.columnsOf_append, if_pos known]
      exact sound.within table row member column value

theorem sound_dropTable (sound : schema.Sound) {name : String}
    (changed : schema.change (.dropTable name) = some next) : next.Sound := by
  obtain ⟨-, reshaped, refilled⟩ := change_eq_some.mp changed
  simp only [Change.reshape, Option.ite_none_left_eq_some, Option.some.injEq, not_or, not_not, not_exists,
    not_and] at reshaped
  obtain ⟨⟨there, free⟩, reshaped⟩ := reshaped
  simp only [Change.refill] at refilled
  have names : ∀ table, table ∈ next.catalog.names ↔ table ∈ schema.catalog.names ∧ table ≠ name := by
    intro table
    simp only [← reshaped, Catalog.names, List.mem_map, List.mem_filter, decide_eq_true_eq]
    constructor
    · rintro ⟨shape, ⟨member, apart⟩, rfl⟩
      exact ⟨⟨shape, member, rfl⟩, apart⟩
    · rintro ⟨⟨shape, member, rfl⟩, apart⟩
      exact ⟨shape, ⟨member, apart⟩, rfl⟩
  refine ⟨⟨fun table member reference refers => ?_, fun table member => ?_⟩, fun table absent => ?_,
    fun table row member column value => ?_⟩
  · rw [← reshaped] at member
    have old := List.mem_of_mem_filter member
    refine (names reference).mpr ⟨sound.catalog.referenced table old refers, ?_⟩
    rintro rfl
    exact free table old refers
  · rw [← reshaped] at member
    exact sound.catalog.indexed table (List.mem_of_mem_filter member)
  · rw [refilled]
    by_cases named : table = name
    · rw [named, Function.update_self]
    · rw [Function.update_of_ne named]
      exact sound.homeless table fun there => absent ((names table).mpr ⟨there, named⟩)
  · rw [refilled] at member
    by_cases named : table = name
    · subst named
      rw [Function.update_self] at member
      cases member
    · rw [Function.update_of_ne named] at member
      rw [← reshaped, Catalog.columnsOf_filter named]
      exact sound.within table row member column value

theorem sound_addColumn (sound : schema.Sound) {table : String} {column : Column} {fill : Option V}
    (changed : schema.change (.addColumn table column fill) = some next) : next.Sound := by
  obtain ⟨-, reshaped, refilled⟩ := change_eq_some.mp changed
  simp only [Change.refill] at refilled
  refine sound.alter reshaped (TableShape.keeps_addColumn column _) ?_ ?_ ?_ ?_
  · intro old member new made index there
    obtain ⟨-, rfl⟩ := TableShape.addColumn_eq_some.mp made
    refine List.Subset.trans (sound.catalog.indexed old member index there) ?_
    simp [TableShape.columnNames]
  · intro other apart
    rw [refilled, Function.update_of_ne apart]
  · intro none
    rw [refilled, Function.update_self, none]
    rfl
  · intro old new made within row member name value
    obtain ⟨-, rfl⟩ := TableShape.addColumn_eq_some.mp made
    rw [refilled, Function.update_self] at member
    obtain ⟨before, there, rfl⟩ := List.mem_map.mp member
    rw [TableShape.columnNames, List.map_append, List.mem_append]
    by_cases named : name = column.name
    · exact .inr (List.mem_singleton.mpr named)
    · rw [Function.update_of_ne named] at value
      exact .inl (within before there name value)

theorem sound_dropColumn (sound : schema.Sound) {table column : String}
    (changed : schema.change (.dropColumn table column) = some next) : next.Sound := by
  obtain ⟨-, reshaped, refilled⟩ := change_eq_some.mp changed
  simp only [Change.refill] at refilled
  have remains {old : TableShape} {name : String} (there : name ∈ old.columnNames) (apart : name ≠ column) :
      name ∈ (old.columns.filter fun other => other.name ≠ column).map Column.name := by
    obtain ⟨other, member, rfl⟩ := List.mem_map.mp there
    exact List.mem_map.mpr ⟨other, List.mem_filter.mpr ⟨member, by simpa using apart⟩, rfl⟩
  refine sound.alter reshaped (TableShape.keeps_dropColumn column) ?_ ?_ ?_ ?_
  · intro old member new made index there name own
    obtain ⟨⟨-, free⟩, rfl⟩ := TableShape.dropColumn_eq_some.mp made
    refine remains (sound.catalog.indexed old member index there own) ?_
    rintro rfl
    exact free index there own
  · intro other apart
    rw [refilled, Function.update_of_ne apart]
  · intro none
    rw [refilled, Function.update_self, none]
    rfl
  · intro old new made within row member name value
    obtain ⟨-, rfl⟩ := TableShape.dropColumn_eq_some.mp made
    rw [refilled, Function.update_self] at member
    obtain ⟨before, there, rfl⟩ := List.mem_map.mp member
    by_cases named : name = column
    · subst named
      rw [Function.update_self] at value
      exact absurd rfl value
    · rw [Function.update_of_ne named] at value
      exact remains (within before there name value) named

theorem sound_createIndex (sound : schema.Sound) {table : String} {index : Index}
    (changed : schema.change (.createIndex table index) = some next) : next.Sound := by
  obtain ⟨-, reshaped, refilled⟩ := change_eq_some.mp changed
  simp only [Change.reshape, Option.ite_none_left_eq_some] at reshaped
  refine sound.alter reshaped.2 (TableShape.keeps_addIndex index) ?_ ?_ ?_ ?_
  · intro old member new made other there
    obtain ⟨own, rfl⟩ := TableShape.addIndex_eq_some.mp made
    rcases List.mem_append.mp there with before | added
    · exact sound.catalog.indexed old member other before
    · cases List.mem_singleton.mp added
      exact own
  · exact fun other _ => congrFun refilled other
  · exact fun none => (congrFun refilled table).trans none
  · intro old new made within row member name value
    obtain ⟨-, rfl⟩ := TableShape.addIndex_eq_some.mp made
    rw [refilled] at member
    exact within row member name value

theorem sound_dropIndex (sound : schema.Sound) {table name : String}
    (changed : schema.change (.dropIndex table name) = some next) : next.Sound := by
  obtain ⟨-, reshaped, refilled⟩ := change_eq_some.mp changed
  refine sound.alter reshaped (TableShape.keeps_dropIndex name) ?_ ?_ ?_ ?_
  · intro old member new made other there
    obtain ⟨-, rfl⟩ := TableShape.dropIndex_eq_some.mp made
    exact sound.catalog.indexed old member other (List.mem_of_mem_filter there)
  · exact fun other _ => congrFun refilled other
  · exact fun none => (congrFun refilled table).trans none
  · intro old new made within row member column value
    obtain ⟨-, rfl⟩ := TableShape.dropIndex_eq_some.mp made
    rw [refilled] at member
    exact within row member column value

/-- **A change** keeps a schema sound. -/
theorem sound_change (sound : schema.Sound) (changed : schema.change change = some next) : next.Sound := by
  cases change with
  | createTable => exact sound_createTable sound changed
  | dropTable => exact sound_dropTable sound changed
  | addColumn => exact sound_addColumn sound changed
  | dropColumn => exact sound_dropColumn sound changed
  | createIndex => exact sound_createIndex sound changed
  | dropIndex => exact sound_dropIndex sound changed

/-! ## Taking additions back -/

/-- A column that is added was not there. -/
theorem absent_of_addColumn {table : String} {column : Column} {fill : Option V}
    (changed : schema.change (.addColumn table column fill) = some next) :
    column.name ∉ schema.catalog.columnsOf table := by
  obtain ⟨-, reshaped, -⟩ := change_eq_some.mp changed
  obtain ⟨old, -, new, made, before, -⟩ :=
    Catalog.columnsOf_altered reshaped (TableShape.keeps_addColumn column _)
  rw [before]
  exact (TableShape.addColumn_eq_some.mp made).1.1

/-- A table that is created had no rows. -/
theorem homeless_of_createTable (sound : schema.Sound) {name : String} {columns : List Column}
    {references : List String}
    (changed : schema.change (.createTable name columns references) = some next) :
    schema.rows name = [] := by
  obtain ⟨-, reshaped, -⟩ := change_eq_some.mp changed
  simp only [Change.reshape, Option.ite_none_left_eq_some, not_or] at reshaped
  exact sound.homeless name reshaped.1.1

/-- The rows without what has been added. -/
theorem refill_undo (sound : schema.Sound) (changed : schema.change change = some next)
    (undone : change.undo = some back) : back.refill (change.refill schema.rows) = schema.rows := by
  cases change with
  | createTable name columns references =>
      cases undone
      rw [Change.refill, Change.refill, Function.update_idem, ← homeless_of_createTable sound changed,
        Function.update_eq_self]
  | addColumn table column fill =>
      cases undone
      rw [Change.refill, Change.refill, Function.update_self, sound.map_update (absent_of_addColumn changed),
        Function.update_idem, Function.update_eq_self]
  | createIndex table index =>
      cases undone
      rfl
  | dropTable | dropColumn | dropIndex => cases undone

/-- A blank addition leaves the rows as they are. -/
theorem rows_of_blank (sound : schema.Sound) (changed : schema.change change = some next)
    (blank : change.Blank) : next.rows = schema.rows := by
  obtain ⟨-, -, refilled⟩ := change_eq_some.mp changed
  cases change with
  | createTable name columns references =>
      rw [refilled, Change.refill, ← homeless_of_createTable sound changed, Function.update_eq_self]
  | addColumn table column fill =>
      obtain rfl : fill = none := blank
      have same : ((schema.rows table).map fun row => Function.update row column.name none) =
          schema.rows table := by
        refine (List.map_congr_left fun row member => ?_).trans (List.map_id _)
        rw [← sound.null (absent_of_addColumn changed) member, Function.update_eq_self]
        rfl
      rw [refilled, Change.refill, same, Function.update_eq_self]
  | createIndex table index => exact refilled
  | dropTable | dropColumn | dropIndex => exact absurd blank not_false

/-- **What has been added** can be taken back. -/
theorem change_undo (sound : schema.Sound) (changed : schema.change change = some next)
    (undone : change.undo = some back) : next.change back = some schema := by
  obtain ⟨-, reshaped, refilled⟩ := change_eq_some.mp changed
  refine change_eq_some.mpr ⟨?_, Change.reshape_undo sound.catalog reshaped undone, ?_⟩
  · cases change <;> cases undone <;> trivial
  · rw [refilled, refill_undo sound changed undone]

theorem sound_run (sound : schema.Sound) {changes : List (Change V)}
    (changed : run Schema.change schema changes = some next) : next.Sound :=
  invariant_of_step sound (fun _ _ _ sound changed => sound_change sound changed) changed

/-- The rows after a list of changes. -/
theorem rows_run {changes : List (Change V)} (changed : run Schema.change schema changes = some next) :
    next.rows = changes.foldl Change.refill schema.rows :=
  run_induction_of_step (P := fun changes next => next.rows = changes.foldl Change.refill schema.rows) rfl
    (fun changes state change next _ same made => by
      rw [List.foldl_append, ← same]
      exact (change_eq_some.mp made).2.2) changed

theorem rows_run_of_blank (sound : schema.Sound) {changes : List (Change V)}
    (blank : ∀ change ∈ changes, change.Blank) (changed : run Schema.change schema changes = some next) :
    next.rows = schema.rows := by
  induction changes generalizing schema with
  | nil =>
      cases changed
      rfl
  | cons first rest ih =>
      obtain ⟨middle, made, later⟩ := Option.bind_eq_some_iff.mp changed
      rw [ih (sound_change sound made)
        (fun change member => blank change (List.mem_cons_of_mem _ member)) later]
      exact rows_of_blank sound made (blank first List.mem_cons_self)

/-- Changes that their catalog allows can be made, if the rows never stand in the way of a unique
index. -/
theorem run_of_reshape {P : (String → List (Row V)) → Prop} {changes : List (Change V)}
    (allowed : ∀ change ∈ changes, ∀ rows, P rows → change.Permits rows ∧ P (change.refill rows))
    (holds : P schema.rows) {catalog : Catalog}
    (reshaped : run (fun catalog (change : Change V) => change.reshape catalog) schema.catalog changes =
      some catalog) :
    ∃ next, run Schema.change schema changes = some next ∧ next.catalog = catalog := by
  induction changes generalizing schema with
  | nil =>
      cases reshaped
      exact ⟨schema, rfl, rfl⟩
  | cons first rest ih =>
      obtain ⟨middle, made, later⟩ := Option.bind_eq_some_iff.mp reshaped
      obtain ⟨permitted, still⟩ := allowed first List.mem_cons_self schema.rows holds
      have changed : schema.change first = some ⟨middle, first.refill schema.rows⟩ :=
        change_eq_some.mpr ⟨permitted, made, rfl⟩
      obtain ⟨next, done, same⟩ := @ih ⟨middle, first.refill schema.rows⟩
        (fun change member => allowed change (List.mem_cons_of_mem _ member)) still later
      exact ⟨next, Option.bind_eq_some_iff.mpr ⟨_, changed, done⟩, same⟩

/-- **Additions** are taken back in the reverse order. -/
theorem run_undo (sound : schema.Sound) {changes backs : List (Change V)}
    (changed : run Schema.change schema changes = some next)
    (undone : changes.mapM Change.undo = some backs) :
    run Schema.change next backs.reverse = some schema := by
  induction changes generalizing schema backs with
  | nil =>
      cases changed
      cases undone
      rfl
  | cons first rest ih =>
      obtain ⟨middle, made, later⟩ := Option.bind_eq_some_iff.mp changed
      rw [List.mapM_cons] at undone
      obtain ⟨back, taken, undone⟩ := Option.bind_eq_some_iff.mp undone
      obtain ⟨others, takenLater, same⟩ := Option.bind_eq_some_iff.mp undone
      cases same
      rw [List.reverse_cons]
      exact run_snoc_eq_some.mpr ⟨middle, ih (sound_change sound made) later takenLater,
        change_undo sound made taken⟩

end Changes

end Schema

end LlmGateway.Library
