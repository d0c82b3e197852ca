import LlmGateway.Library.Schema
import LlmGateway.Library.Simulation
import LlmGateway.Library.Walks
import Mathlib.Data.Rat.Defs

/-!
# Migrations

The revisions under `alembic/versions`, each as the operations of its `upgrade` and of its `downgrade`.
A versioned database goes from one revision to the next and back again, in any order
(`Versioned.migrate`). A migration applies to every database of its revision (`migrations_apply`), and
a downgrade takes back what the upgrade has done (`migrations_reversible`).

Types, lengths and primary keys of the columns are left out; so are the server defaults of the columns
that come with their table, which has no rows by then.
-/

set_option autoImplicit false

namespace LlmGateway

open LlmGateway.Library

/-! ## Revisions -/

/-- A value in a cell. -/
inductive Cell where
  | integer (value : ℤ)
  | text (value : String)
  | boolean (value : Bool)
  | numeric (value : ℚ)
  | instant (value : ℚ)
deriving DecidableEq

structure Revision where
  revision : String
  downRevision : Option String
  upgrade : List (Change Cell)
  downgrade : List (Change Cell)

/-- Columns that are not `NULL`. -/
def notNull (names : List String) : List Column := names.map fun name => { name }

def initialSchema : Revision where
  revision := "3d3b4bb0fa31"
  downRevision := none
  upgrade :=
    [.createTable "api_keys" (notNull ["id", "hashed_key", "client_name", "is_active", "created_at"]) [],
      .createIndex "api_keys" ⟨"ix_api_keys_hashed_key", ["hashed_key"], true⟩,
      .createTable "usage_logs"
        (notNull ["id", "virtual_key_id", "provider", "model", "input_tokens", "output_tokens", "latency_ms",
          "estimated_cost", "timestamp"]) ["api_keys"],
      .createIndex "usage_logs" ⟨"ix_usage_logs_timestamp", ["timestamp"], false⟩,
      .createIndex "usage_logs" ⟨"ix_usage_logs_virtual_key_id", ["virtual_key_id"], false⟩]
  downgrade :=
    [.dropIndex "usage_logs" "ix_usage_logs_virtual_key_id",
      .dropIndex "usage_logs" "ix_usage_logs_timestamp",
      .dropTable "usage_logs", .dropIndex "api_keys" "ix_api_keys_hashed_key", .dropTable "api_keys"]

def addKeyExpiryAndAuditLog : Revision where
  revision := "c1b13c0c82d4"
  downRevision := some "3d3b4bb0fa31"
  upgrade :=
    [.createTable "audit_logs"
        (notNull ["id", "action", "virtual_key_id", "client_name"] ++
          [{ name := "detail", nullable := true }, { name := "created_at" }]) ["api_keys"],
      .createIndex "audit_logs" ⟨"ix_audit_logs_action", ["action"], false⟩,
      .createIndex "audit_logs" ⟨"ix_audit_logs_created_at", ["created_at"], false⟩,
      .createIndex "audit_logs" ⟨"ix_audit_logs_virtual_key_id", ["virtual_key_id"], false⟩,
      .addColumn "api_keys" { name := "expires_at", nullable := true } none]
  downgrade :=
    [.dropColumn "api_keys" "expires_at", .dropIndex "audit_logs" "ix_audit_logs_virtual_key_id",
      .dropIndex "audit_logs" "ix_audit_logs_created_at", .dropIndex "audit_logs" "ix_audit_logs_action",
      .dropTable "audit_logs"]

def addStatusToUsageLogs : Revision where
  revision := "b2c4d6e8f0a2"
  downRevision := some "c1b13c0c82d4"
  upgrade :=
    [.addColumn "usage_logs" { name := "status" } (some (.text "ok")),
      .addColumn "usage_logs" { name := "error_type", nullable := true } none]
  downgrade := [.dropColumn "usage_logs" "error_type", .dropColumn "usage_logs" "status"]

def addSpendLimitToApiKeys : Revision where
  revision := "d4e6f8a0b2c4"
  downRevision := some "b2c4d6e8f0a2"
  upgrade := [.addColumn "api_keys" { name := "spend_limit_usd", nullable := true } none]
  downgrade := [.dropColumn "api_keys" "spend_limit_usd"]

def revisions : List Revision :=
  [initialSchema, addKeyExpiryAndAuditLog, addStatusToUsageLogs, addSpendLimitToApiKeys]

/-! ## Walks -/

/-- A database with its entry in `alembic_version`. -/
structure Versioned where
  version : Option String
  schema : Schema Cell

namespace Versioned

variable (s : Versioned)

/-- The upgrade to the revision that comes after the version. -/
def upgrade : Option Versioned :=
  (revisions.find? fun revision => revision.downRevision = s.version).bind fun revision =>
    (run Schema.change s.schema revision.upgrade).map fun schema => ⟨some revision.revision, schema⟩

/-- The downgrade from the revision of the version. -/
def downgrade : Option Versioned :=
  (revisions.find? fun revision => some revision.revision = s.version).bind fun revision =>
    (run Schema.change s.schema revision.downgrade).map fun schema => ⟨revision.downRevision, schema⟩

/-- **The migrations**: up and down in any order. -/
def migrate : Move → Option Versioned := walk upgrade downgrade s

end Versioned

section Walks

variable {s t : Versioned}

theorem upgrade_eq_some (upgraded : s.upgrade = some t) : ∃ revision ∈ revisions,
    revision.downRevision = s.version ∧ t.version = some revision.revision ∧
      run Schema.change s.schema revision.upgrade = some t.schema := by
  obtain ⟨revision, found, upgraded⟩ := Option.bind_eq_some_iff.mp upgraded
  obtain ⟨schema, made, rfl⟩ := Option.map_eq_some_iff.mp upgraded
  exact ⟨revision, List.mem_of_find?_eq_some found, by simpa using List.find?_some found, rfl, made⟩

theorem downgrade_eq_some (downgraded : s.downgrade = some t) : ∃ revision ∈ revisions,
    some revision.revision = s.version ∧ t.version = revision.downRevision ∧
      run Schema.change s.schema revision.downgrade = some t.schema := by
  obtain ⟨revision, found, downgraded⟩ := Option.bind_eq_some_iff.mp downgraded
  obtain ⟨schema, made, rfl⟩ := Option.map_eq_some_iff.mp downgraded
  exact ⟨revision, List.mem_of_find?_eq_some found, by simpa using List.find?_some found, rfl, made⟩

/-- Each revision takes back what it has added, in the reverse order. -/
theorem downgrade_undoes {revision : Revision} (member : revision ∈ revisions) :
    revision.upgrade.mapM Change.undo = some revision.downgrade.reverse := by
  simp only [revisions, List.mem_cons, List.not_mem_nil, or_false] at member
  rcases member with rfl | rfl | rfl | rfl <;> rfl

/-- A revision is found by its name. -/
theorem find_revision {revision : Revision} (member : revision ∈ revisions) :
    revisions.find? (fun other => some other.revision = some revision.revision) = some revision := by
  simp only [revisions, List.mem_cons, List.not_mem_nil, or_false] at member
  rcases member with rfl | rfl | rfl | rfl <;> rfl

/-- A revision is the one of its name. -/
theorem eq_of_revision {first second : Revision} (member : first ∈ revisions) (other : second ∈ revisions)
    (same : some first.revision = some second.revision) : first = second := by
  have found := find_revision member
  rw [same, find_revision other] at found
  exact (Option.some.inj found).symm

theorem sound_migrate {move : Move} (sound : s.schema.Sound) (migrated : s.migrate move = some t) :
    t.schema.Sound := by
  cases move with
  | up =>
      obtain ⟨revision, -, -, -, made⟩ := upgrade_eq_some migrated
      exact Schema.sound_run sound made
  | down =>
      obtain ⟨revision, -, -, -, made⟩ := downgrade_eq_some migrated
      exact Schema.sound_run sound made

/-- **A downgrade** undoes the upgrade before it. -/
theorem downgrade_upgrade (sound : s.schema.Sound) (upgraded : s.upgrade = some t) :
    t.downgrade = some s := by
  obtain ⟨revision, member, below, named, made⟩ := upgrade_eq_some upgraded
  have back := Schema.run_undo sound made (downgrade_undoes member)
  rw [List.reverse_reverse] at back
  rw [Versioned.downgrade, named, find_revision member, Option.bind_some, back, Option.map_some, below]

end Walks

/-! ## Databases of a revision -/

/-- The revision that far below the last one. -/
def versionBelow : ℕ → Option String
  | 0 => some "d4e6f8a0b2c4"
  | 1 => some "b2c4d6e8f0a2"
  | 2 => some "c1b13c0c82d4"
  | 3 => some "3d3b4bb0fa31"
  | _ => none

/-- The catalog that far below the last revision. -/
def catalogBelow (depth : ℕ) : Catalog :=
  (run (fun catalog (change : Change Cell) => change.reshape catalog) []
    ((revisions.take (4 - depth)).flatMap Revision.upgrade)).getD []

/-- A database as the migrations leave it. -/
structure Versioned.At (s : Versioned) (depth : ℕ) : Prop where
  version : s.version = versionBelow depth
  catalog : s.schema.catalog = catalogBelow depth
  sound : s.schema.Sound
  based : depth ≤ 4

/-- A row of some cells. -/
def rowOf (cells : List (String × Cell)) : Row Cell := fun column => cells.lookup column

def expiredCells : List (String × Cell) :=
  [("id", .integer 1),
    ("hashed_key", .text "e3b0c44298fc1c149afbf4c8996fb92427ae41e4649b934ca495991b7852b855"),
    ("client_name", .text "demo"), ("is_active", .boolean true), ("spend_limit_usd", .numeric (1 / 4)),
    ("expires_at", .instant 100), ("created_at", .instant 0)]

def spentCells : List (String × Cell) :=
  [("id", .integer 1), ("virtual_key_id", .integer 1), ("provider", .text "openai"),
    ("model", .text "gpt-4o"),
    ("input_tokens", .integer 0), ("output_tokens", .integer 0), ("latency_ms", .integer 0),
    ("estimated_cost", .numeric (3 / 10)), ("status", .text "ok"), ("timestamp", .instant 50)]

/-- A database of the last revision, with a key that has expired and has spent more than it may. -/
def expiredStart : Versioned where
  version := some "d4e6f8a0b2c4"
  schema :=
    { catalog := catalogBelow 0
      rows := fun table =>
        if table = "api_keys" then [rowOf expiredCells]
        else if table = "usage_logs" then [rowOf spentCells]
        else [] }

theorem within_rowOf {cells : List (String × Cell)} {columns : List String}
    (named : ∀ cell ∈ cells, cell.1 ∈ columns) {column : String} (held : rowOf cells column ≠ none) :
    column ∈ columns := by
  obtain ⟨value, found⟩ := Option.ne_none_iff_exists'.mp held
  obtain ⟨before, after, rfl, -⟩ := List.lookup_eq_some_iff.mp found
  exact named (column, value) (by simp)

theorem sound_expiredStart : expiredStart.schema.Sound where
  catalog := ⟨by decide +kernel, by decide +kernel⟩
  homeless table absent := by
    have keys : table ≠ "api_keys" := by
      rintro rfl
      exact absent (by decide +kernel)
    have logs : table ≠ "usage_logs" := by
      rintro rfl
      exact absent (by decide +kernel)
    simp only [expiredStart, keys, logs, if_false]
  within table row member column value := by
    simp only [expiredStart] at member ⊢
    split_ifs at member with keys logs
    · subst keys
      cases List.mem_singleton.mp member
      exact within_rowOf (show ∀ cell ∈ expiredCells, cell.1 ∈ (catalogBelow 0).columnsOf "api_keys" by
        decide +kernel) value
    · subst logs
      cases List.mem_singleton.mp member
      exact within_rowOf (show ∀ cell ∈ spentCells, cell.1 ∈ (catalogBelow 0).columnsOf "usage_logs" by
        decide +kernel) value
    · cases member

theorem at_expiredStart : expiredStart.At 0 where
  version := rfl
  catalog := rfl
  sound := sound_expiredStart
  based := by decide

/-! ## There and back -/

/-- **The migrations are reversible.** Whatever upgrades and downgrades a database goes through, it
ends as if it had gone down to the lowest of the revisions at once and up again from there. A walk that
comes back without having gone below its start leaves every row and every index as it was. -/
theorem migrations_reversible (start state : Versioned) (sound : start.schema.Sound) (moves : List Move)
    (reached : run Versioned.migrate start moves = some state) :
    (∃ lowest, climb Versioned.downgrade (profile moves).depth start = some lowest ∧
      climb Versioned.upgrade (profile moves).height lowest = some state) ∧
        (profile moves = {} → state = start) := by
  have kept : ∀ s move t, Schema.Sound (Versioned.schema s) →
      walk Versioned.upgrade Versioned.downgrade s move = some t → Schema.Sound (Versioned.schema t) :=
    fun s move t sound migrated => sound_migrate sound migrated
  have undone : ∀ s t, Schema.Sound (Versioned.schema s) → s.upgrade = some t → t.downgrade = some s :=
    fun s t sound upgraded => downgrade_upgrade sound upgraded
  exact ⟨run_walk kept undone sound reached, run_walk_balanced kept undone sound reached⟩

/-- The theorem about a database that goes down to the first revision and comes back. -/
theorem migrations_reversible_expired :
    ∃ state, run Versioned.migrate expiredStart [.down, .down, .up, .down, .up, .up] = some state ∧
      (∃ lowest, climb Versioned.downgrade 2 expiredStart = some lowest ∧
        climb Versioned.upgrade 2 lowest = some state) := by
  have performed : (run Versioned.migrate expiredStart [.down, .down, .up, .down, .up, .up]).isSome =
      true := by decide +kernel
  obtain ⟨state, reached⟩ := Option.isSome_iff_exists.mp performed
  exact ⟨state, reached,
    (migrations_reversible expiredStart state sound_expiredStart _ reached).1⟩

/-! ## From any database of a revision -/

/-- The place of a database between the last revision and none. -/
def position (depth : ℕ) : Move → Option ℕ
  | .up => if depth = 0 then none else some (depth - 1)
  | .down => if 4 ≤ depth then none else some (depth + 1)

section Applying

variable {s : Versioned} {depth : ℕ}

/-- An upgrade applies if its catalog allows it and its rows permit its indexes. -/
theorem upgrade_of_reshape {P : (String → List (Row Cell)) → Prop} (here : s.At (depth + 1))
    {revision : Revision}
    (found : revisions.find? (fun other => other.downRevision = versionBelow (depth + 1)) = some revision)
    (named : some revision.revision = versionBelow depth)
    (allowed : ∀ change ∈ revision.upgrade, ∀ rows, P rows → change.Permits rows ∧ P (change.refill rows))
    (holds : P s.schema.rows)
    (reshaped : run (fun catalog (change : Change Cell) => change.reshape catalog)
      (catalogBelow (depth + 1)) revision.upgrade = some (catalogBelow depth)) :
    ∃ t, s.upgrade = some t ∧ t.At depth := by
  obtain ⟨next, made, catalog⟩ := Schema.run_of_reshape allowed holds (here.catalog ▸ reshaped)
  have based := here.based
  refine ⟨⟨some revision.revision, next⟩, ?_, named, catalog, Schema.sound_run here.sound made, by omega⟩
  rw [Versioned.upgrade, here.version, found, Option.bind_some, made]
  rfl

theorem upgrade_applies (here : s.At (depth + 1)) : ∃ t, s.upgrade = some t ∧ t.At depth := by
  have free {revision : Revision} (plain : ∀ change ∈ revision.upgrade, ∀ rows, change.Permits rows) :
      ∀ change ∈ revision.upgrade, ∀ rows, True → change.Permits rows ∧ True :=
    fun change member rows _ => ⟨plain change member rows, trivial⟩
  match depth with
  | 0 =>
      exact @upgrade_of_reshape s 0 _ here addSpendLimitToApiKeys rfl rfl
        (free (by simp [addSpendLimitToApiKeys, Change.Permits])) trivial (by decide +kernel)
  | 1 =>
      exact @upgrade_of_reshape s 1 _ here addStatusToUsageLogs rfl rfl
        (free (by simp [addStatusToUsageLogs, Change.Permits])) trivial (by decide +kernel)
  | 2 =>
      exact @upgrade_of_reshape s 2 _ here addKeyExpiryAndAuditLog rfl rfl
        (free (by simp [addKeyExpiryAndAuditLog, Change.Permits])) trivial (by decide +kernel)
  | 3 =>
      -- The digests are unique: there is no key yet when their index is created.
      have empty : s.schema.rows "api_keys" = [] :=
        here.sound.homeless "api_keys" (by rw [here.catalog]; decide +kernel)
      refine @upgrade_of_reshape s 3 (fun rows => rows "api_keys" = []) here initialSchema rfl rfl ?_ empty
        (by decide +kernel)
      simp only [initialSchema, List.forall_mem_cons]
      refine ⟨?_, ?_, ?_, ?_, ?_, fun _ impossible => absurd impossible List.not_mem_nil⟩
      all_goals
        intro rows none
        simp [Change.Permits, Change.refill, none]
  | depth + 4 =>
      have based := here.based
      omega

theorem downgrade_applies (here : s.At depth) (above : depth < 4) :
    ∃ t, s.downgrade = some t ∧ t.At (depth + 1) := by
  have free : ∀ revision ∈ revisions, ∀ change ∈ revision.downgrade, ∀ rows : String → List (Row Cell),
      True → change.Permits rows ∧ True := by
    simp [revisions, initialSchema, addKeyExpiryAndAuditLog, addStatusToUsageLogs, addSpendLimitToApiKeys,
      Change.Permits]
  have found (revision : Revision) (member : revision ∈ revisions)
      (named : some revision.revision = versionBelow depth)
      (below : revision.downRevision = versionBelow (depth + 1))
      (reshaped : run (fun catalog (change : Change Cell) => change.reshape catalog) (catalogBelow depth)
        revision.downgrade = some (catalogBelow (depth + 1))) :
      ∃ t, s.downgrade = some t ∧ t.At (depth + 1) := by
    obtain ⟨next, made, catalog⟩ := Schema.run_of_reshape (free revision member) trivial
      (here.catalog ▸ reshaped)
    refine ⟨⟨revision.downRevision, next⟩, ?_, below, catalog, Schema.sound_run here.sound made, above⟩
    rw [Versioned.downgrade, here.version, ← named, find_revision member, Option.bind_some, made]
    rfl
  obtain rfl | rfl | rfl | rfl : depth = 0 ∨ depth = 1 ∨ depth = 2 ∨ depth = 3 := by omega
  · exact found addSpendLimitToApiKeys (by simp [revisions]) rfl rfl (by decide +kernel)
  · exact found addStatusToUsageLogs (by simp [revisions]) rfl rfl (by decide +kernel)
  · exact found addKeyExpiryAndAuditLog (by simp [revisions]) rfl rfl (by decide +kernel)
  · exact found initialSchema (by simp [revisions]) rfl rfl (by decide +kernel)

/-- **A migration** applies exactly if there is a revision to go to. -/
theorem migrate_position (here : s.At depth) (move : Move) :
    Option.Rel Versioned.At (s.migrate move) (position depth move) := by
  cases move with
  | up =>
      change Option.Rel Versioned.At s.upgrade _
      cases depth with
      | zero =>
          rw [Versioned.upgrade, here.version]
          exact .none
      | succ depth =>
          obtain ⟨t, upgraded, there⟩ := upgrade_applies here
          simpa only [position, Nat.add_one_ne_zero, if_false, Nat.add_sub_cancel, upgraded] using
            Option.Rel.some there
  | down =>
      change Option.Rel Versioned.At s.downgrade _
      by_cases above : depth < 4
      · obtain ⟨t, downgraded, there⟩ := downgrade_applies here above
        simpa only [position, not_le.mpr above, if_false, downgraded] using Option.Rel.some there
      · obtain rfl : depth = 4 := by
          have based := here.based
          omega
        rw [Versioned.downgrade, here.version]
        exact .none

end Applying

/-- **The migrations apply** to every database of their revision, whatever its rows: a walk goes
through exactly if it stays between the empty schema and the last revision, and it leaves the schema of
the revision where it ends. -/
theorem migrations_apply (start : Versioned) (depth : ℕ) (here : start.At depth) (moves : List Move) :
    match run position depth moves with
    | some last => ∃ state, run Versioned.migrate start moves = some state ∧ state.At last
    | none => run Versioned.migrate start moves = none := by
  have tracked := run_tracked (fun _ _ move there => migrate_position there move) here moves
  generalize run Versioned.migrate start moves = ended at tracked ⊢
  generalize run position depth moves = place at tracked ⊢
  cases tracked with
  | some there => exact ⟨_, rfl, there⟩
  | none => rfl

/-- The theorem about the walks of that database: one that goes through, and one that does not. -/
theorem migrations_apply_expired :
    (∃ state, run Versioned.migrate expiredStart [.down, .down, .up] = some state ∧ state.At 1) ∧
      run Versioned.migrate expiredStart [.down, .up, .up] = none :=
  ⟨migrations_apply expiredStart 0 at_expiredStart [.down, .down, .up],
    migrations_apply expiredStart 0 at_expiredStart [.down, .up, .up]⟩

end LlmGateway
