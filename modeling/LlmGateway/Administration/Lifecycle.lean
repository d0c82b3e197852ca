import LlmGateway.Administration.Audit

/-!
# The life of a key

Which keys authenticate, told from the history of the administration alone: a raw key authenticates
exactly when a creation has been committed for its digest, no revocation of that key has been
committed, and the expiry that its creation has set has not passed (`authenticates_iff`). What a
transaction has committed counts, even if its operation failed afterwards; what none has committed does
not, whatever its caller was told.
-/

set_option autoImplicit false

namespace LlmGateway

open LlmGateway.Library

/-! ## What an operation commits -/

/-- A change of the table of the keys. -/
inductive KeyChange where
  | created (key : ApiKey)
  | revoked (keyId : ℤ)

/-- The table after a change. -/
def KeyChange.apply (change : KeyChange) (keys : List ApiKey) : List ApiKey :=
  match change with
  | .created key => keys ++ [key]
  | .revoked keyId => keys.map fun key => key.deactivated keyId

/-- **An operation commits a change**: it is let through if it comes over HTTP, its write is spared,
and the database can make the change. -/
inductive AdminAction.Commits (env : Environment) (db : Database) : AdminAction → KeyChange → Prop
  | createKey {header : Option String} {payload : KeyCreate} {draw : Draw} {now : ℚ}
      {lapse : Option (Lapse AdminTransaction)} {virtualKeyId : ℤ}
      (heard : Spares lapse .authenticate)
      (admitted : authenticateRequest env db now header = .ok virtualKeyId)
      (written : Spares lapse .write)
      (free : (db.insertKey (newKey env payload draw now)).isSome = true) :
      Commits env db ⟨.createKey header payload, draw, now, lapse⟩
        (.created (newKey env payload draw now))
  | revokeKey {header : Option String} {keyId : ℤ} {draw : Draw} {now : ℚ}
      {lapse : Option (Lapse AdminTransaction)} {virtualKeyId : ℤ}
      (heard : Spares lapse .authenticate)
      (admitted : authenticateRequest env db now header = .ok virtualKeyId)
      (written : Spares lapse .write) (known : (db.getKeyById keyId).isSome = true) :
      Commits env db ⟨.revokeKey header keyId, draw, now, lapse⟩ (.revoked keyId)
  | commandCreateKey {clientName : String} {noExpiry : Bool} {expiresInDays : Option ℤ}
      {expiresAt spendLimitUsd : Option ℚ} {draw : Draw} {now : ℚ} {lapse : Option (Lapse AdminTransaction)}
      (chosen : commandExpiry noExpiry expiresInDays now = .ok expiresAt)
      (written : Spares lapse .write)
      (free : (db.insertKey (commandKey env clientName expiresAt spendLimitUsd draw now)).isSome = true) :
      Commits env db ⟨.commandCreateKey clientName noExpiry expiresInDays spendLimitUsd, draw, now, lapse⟩
        (.created (commandKey env clientName expiresAt spendLimitUsd draw now))
  | commandRevokeKey {keyId : ℤ} {draw : Draw} {now : ℚ} {lapse : Option (Lapse AdminTransaction)}
      (written : Spares lapse .write) (known : (db.getKeyById keyId).isSome = true) :
      Commits env db ⟨.commandRevokeKey keyId, draw, now, lapse⟩ (.revoked keyId)

/-- The change was committed in the course of these operations. -/
def Committed (env : Environment) (actions : List AdminAction) (change : KeyChange) : Prop :=
  ∃ before action after s, actions = before ++ action :: after ∧
    run (Administration.step env) {} before = some s ∧ action.Commits env s.db change

/-! ## The keys after an operation -/

section Keys

variable {env : Environment} {db next : Database} {lapse : Option (Lapse AdminTransaction)} {key : ApiKey}
  {keyId : ℤ} {keys : List ApiKey}

theorem keeps_refreshKey : Keeps (fun db => db.apiKeys = keys) (refreshKey lapse keyId) := by
  refine keeps_transaction fun state result next same read => ?_
  split at read
  · cases read
  · cases read
    exact same

theorem keeps_commitAudit (entry : AuditLog) :
    Keeps (fun db => db.apiKeys = keys) (commitAudit lapse entry) := by
  refine keeps_transaction fun state result next same committed => ?_
  cases committed
  exact same

/-- The row is committed, whatever becomes of the rest. -/
theorem keys_storeKey (detail : ApiKey → AuditDetail) (written : Spares lapse .write)
    (free : (db.insertKey key).isSome = true) :
    (stateAfter (storeKey lapse key detail db)).apiKeys = db.apiKeys ++ [key] := by
  obtain ⟨next, inserted⟩ := Option.isSome_iff_exists.mp free
  have committed : commitKey lapse key db = .ok () next := by
    rw [commitKey, transaction_apply written, inserted]
  obtain ⟨rfl, -⟩ := insertKey_eq_some inserted
  rw [storeKey, bind_of_ok committed]
  exact keeps_refreshKey.bind (fun _ => (keeps_commitAudit _).bind fun _ => keeps_pure _) _ rfl

/-- Without its write an operation leaves the keys. -/
theorem keys_storeKey_unwritten (detail : ApiKey → AuditDetail)
    (unwritten : ¬ (Spares lapse .write ∧ (db.insertKey key).isSome = true)) :
    stateAfter (storeKey lapse key detail db) = db := by
  cases committed : commitKey lapse key db with
  | error trouble next =>
      obtain rfl := transaction_error committed
      rw [storeKey, bind_of_error committed]
      rfl
  | ok _ next =>
      obtain ⟨spared, given⟩ := transaction_ok committed
      split at given
      · cases given
      · rename_i inserted
        exact absurd ⟨spared, by rw [inserted]; rfl⟩ unwritten

/-- The revocation is committed, whatever becomes of the rest. -/
theorem keys_withdrawKey {missing : AdminError} (written : Spares lapse .write)
    (known : (db.getKeyById keyId).isSome = true) :
    (stateAfter (withdrawKey lapse keyId missing db)).apiKeys =
      db.apiKeys.map fun key => key.deactivated keyId := by
  obtain ⟨found, there⟩ := Option.isSome_iff_exists.mp known
  unfold withdrawKey commitRevocation
  rw [bind_assoc, bind_of_ok ((transaction_apply written).trans
    (by rw [Database.deactivateKey, there]; rfl))]
  refine Keeps.bind (P := fun after : Database =>
    after.apiKeys = db.apiKeys.map fun key => key.deactivated keyId) ?_ ?_ _ rfl
  · rw [if_pos rfl, map_eq_pure_bind]
    exact keeps_refreshKey.bind fun _ => keeps_pure _
  · intro key
    cases key with
    | none => exact keeps_throw _
    | some key => exact keeps_commitAudit _

theorem keys_withdrawKey_unwritten {missing : AdminError}
    (unwritten : ¬ (Spares lapse .write ∧ (db.getKeyById keyId).isSome = true)) :
    stateAfter (withdrawKey lapse keyId missing db) = db := by
  by_cases written : Spares lapse .write
  · have absent : db.getKeyById keyId = none :=
      Option.not_isSome_iff_eq_none.mp fun known => unwritten ⟨written, known⟩
    rcases @commitRevocation_cases db lapse keyId with
      ⟨trouble, failed, -⟩ | ⟨committed, -⟩ | ⟨key, next, revoked, -⟩
    · rw [withdrawKey, bind_of_error failed]
      rfl
    · rw [withdrawKey, bind_of_ok committed]
      rfl
    · rw [Database.deactivateKey, absent] at revoked
      cases revoked
  · unfold withdrawKey commitRevocation
    rw [bind_assoc, bind_of_error (transaction_unspared written).choose_spec]
    rfl

/-- A request that is heard and admitted goes on. -/
theorem authenticated_apply {header : Option String} {now : ℚ} {virtualKeyId : ℤ}
    (heard : Spares lapse .authenticate)
    (admitted : authenticateRequest env db now header = .ok virtualKeyId) :
    authenticated env lapse header now db = .ok virtualKeyId db := by
  rw [authenticated, transaction_apply heard, admitted]

/-- Any other one does nothing. -/
theorem authenticated_refused {header : Option String} {now : ℚ}
    (refused : ¬ (Spares lapse .authenticate ∧
      ∃ virtualKeyId, authenticateRequest env db now header = .ok virtualKeyId)) :
    ∃ trouble, authenticated env lapse header now db = .error trouble db := by
  by_cases heard : Spares lapse .authenticate
  · cases checked : authenticateRequest env db now header with
    | error exception =>
        exact ⟨_, by rw [authenticated, transaction_apply heard, checked]⟩
    | ok virtualKeyId => exact absurd ⟨heard, virtualKeyId, checked⟩ refused
  · exact transaction_unspared heard

/-- **What an operation leaves in the table**: the change that it commits, or nothing new. -/
theorem keys_perform (env : Environment) (db : Database) (action : AdminAction) :
    (∃ change, action.Commits env db change ∧
      (stateAfter (action.perform env db)).apiKeys = change.apply db.apiKeys) ∨
    (∀ change, ¬ action.Commits env db change) ∧
      (stateAfter (action.perform env db)).apiKeys = db.apiKeys := by
  obtain ⟨operation, draw, now, lapse⟩ := action
  cases operation with
  | createKey header payload =>
      by_cases passed : Spares lapse .authenticate ∧
        ∃ virtualKeyId, authenticateRequest env db now header = .ok virtualKeyId
      · obtain ⟨heard, virtualKeyId, admitted⟩ := passed
        have entered : stateAfter
            (AdminAction.perform env ⟨.createKey header payload, draw, now, lapse⟩ db) =
              stateAfter (storeKey lapse (newKey env payload draw now) routeDetail db) := by
          simp only [AdminAction.perform, routeCreateKey]
          rw [stateAfter_bind_pure, bind_of_ok (authenticated_apply heard admitted), stateAfter_bind_pure]
        by_cases stored : Spares lapse .write ∧
          (db.insertKey (newKey env payload draw now)).isSome = true
        · refine .inl ⟨_, .createKey heard admitted stored.1 stored.2, ?_⟩
          rw [entered, keys_storeKey _ stored.1 stored.2]
          rfl
        · refine .inr ⟨fun change commits => ?_, ?_⟩
          · cases commits with
            | createKey _ _ written free => exact stored ⟨written, free⟩
          · rw [entered, keys_storeKey_unwritten _ stored]
      · refine .inr ⟨fun change commits => ?_, ?_⟩
        · cases commits with
          | createKey heard admitted => exact passed ⟨heard, _, admitted⟩
        · obtain ⟨trouble, failed⟩ := authenticated_refused passed
          simp only [AdminAction.perform, routeCreateKey]
          rw [stateAfter_bind_pure, bind_of_error failed]
          rfl
  | revokeKey header keyId =>
      by_cases passed : Spares lapse .authenticate ∧
        ∃ virtualKeyId, authenticateRequest env db now header = .ok virtualKeyId
      · obtain ⟨heard, virtualKeyId, admitted⟩ := passed
        have entered : stateAfter
            (AdminAction.perform env ⟨.revokeKey header keyId, draw, now, lapse⟩ db) =
              stateAfter (withdrawKey lapse keyId (.http ⟨404, .str "chave não encontrada"⟩) db) := by
          simp only [AdminAction.perform, routeRevokeKey]
          rw [stateAfter_bind_pure, bind_of_ok (authenticated_apply heard admitted)]
        by_cases withdrawn : Spares lapse .write ∧ (db.getKeyById keyId).isSome = true
        · refine .inl ⟨_, .revokeKey heard admitted withdrawn.1 withdrawn.2, ?_⟩
          rw [entered, keys_withdrawKey withdrawn.1 withdrawn.2]
          rfl
        · refine .inr ⟨fun change commits => ?_, ?_⟩
          · cases commits with
            | revokeKey _ _ written known => exact withdrawn ⟨written, known⟩
          · rw [entered, keys_withdrawKey_unwritten withdrawn]
      · refine .inr ⟨fun change commits => ?_, ?_⟩
        · cases commits with
          | revokeKey heard admitted => exact passed ⟨heard, _, admitted⟩
        · obtain ⟨trouble, failed⟩ := authenticated_refused passed
          simp only [AdminAction.perform, routeRevokeKey]
          rw [stateAfter_bind_pure, bind_of_error failed]
          rfl
  | commandCreateKey clientName noExpiry expiresInDays spendLimitUsd =>
      cases chosen : commandExpiry noExpiry expiresInDays now with
      | error error =>
          refine .inr ⟨fun change commits => ?_, ?_⟩
          · cases commits with
            | commandCreateKey own =>
                rw [chosen] at own
                cases own
          · simp only [AdminAction.perform, commandCreateKey, chosen]
            rfl
      | ok expiresAt =>
          have entered : stateAfter (AdminAction.perform env
              ⟨.commandCreateKey clientName noExpiry expiresInDays spendLimitUsd, draw, now, lapse⟩ db) =
                stateAfter (storeKey lapse (commandKey env clientName expiresAt spendLimitUsd draw now)
                  commandDetail db) := by
            simp only [AdminAction.perform, commandCreateKey, chosen]
            rw [stateAfter_bind_pure, stateAfter_bind_pure]
          by_cases stored : Spares lapse .write ∧
            (db.insertKey (commandKey env clientName expiresAt spendLimitUsd draw now)).isSome = true
          · refine .inl ⟨_, .commandCreateKey chosen stored.1 stored.2, ?_⟩
            rw [entered, keys_storeKey _ stored.1 stored.2]
            rfl
          · refine .inr ⟨fun change commits => ?_, ?_⟩
            · cases commits with
              | commandCreateKey own written free =>
                  cases own.symm.trans chosen
                  exact stored ⟨written, free⟩
            · rw [entered, keys_storeKey_unwritten _ stored]
  | commandRevokeKey keyId =>
      have entered : stateAfter
          (AdminAction.perform env ⟨.commandRevokeKey keyId, draw, now, lapse⟩ db) =
            stateAfter (withdrawKey lapse keyId (.systemExit 1) db) := by
        simp only [AdminAction.perform, commandRevokeKey]
        rw [stateAfter_bind_pure]
      by_cases withdrawn : Spares lapse .write ∧ (db.getKeyById keyId).isSome = true
      · refine .inl ⟨_, .commandRevokeKey withdrawn.1 withdrawn.2, ?_⟩
        rw [entered, keys_withdrawKey withdrawn.1 withdrawn.2]
        rfl
      · refine .inr ⟨fun change commits => ?_, ?_⟩
        · cases commits with
          | commandRevokeKey written known => exact withdrawn ⟨written, known⟩
        · rw [entered, keys_withdrawKey_unwritten withdrawn]

end Keys

/-! ## The table and the history -/

/-- A row of the table for a key that was created: as it was created, and active as long as no revocation
of it was committed. -/
structure Stands (env : Environment) (actions : List AdminAction) (key row : ApiKey) : Prop where
  same : row = { key with isActive := row.isActive }
  active : row.isActive = true ↔ ¬ Committed env actions (.revoked key.id)

/-- **The table tells the history**: its rows are those of the keys that were created, and no two of them
have one digest. -/
structure Registered (env : Environment) (actions : List AdminAction) (s : Administration) : Prop where
  rows : ∀ row ∈ s.db.apiKeys, ∃ key, Committed env actions (.created key) ∧ Stands env actions key row
  created : ∀ key, Committed env actions (.created key) → ∃ row ∈ s.db.apiKeys, Stands env actions key row
  revoked : ∀ keyId, Committed env actions (.revoked keyId) → ∃ row ∈ s.db.apiKeys, row.id = keyId
  digests : (s.db.apiKeys.map ApiKey.hashedKey).Nodup

section History

variable {env : Environment} {s next : Administration} {db : Database} {action : AdminAction}
  {actions : List AdminAction} {change : KeyChange} {key row : ApiKey} {keyId : ℤ}

theorem AdminAction.Commits.unique {other : KeyChange} (first : action.Commits env db change)
    (second : action.Commits env db other) : other = change := by
  cases first with
  | createKey | revokeKey | commandRevokeKey =>
      cases second
      rfl
  | commandCreateKey chosen =>
      cases second with
      | commandCreateKey own =>
          cases own.symm.trans chosen
          rfl

/-- A key that is created is active, and its id and its digest are new. -/
theorem AdminAction.Commits.fresh (commits : action.Commits env db (.created key)) :
    key.isActive = true ∧ (∀ row ∈ db.apiKeys, row.id ≠ key.id) ∧
      ∀ row ∈ db.apiKeys, row.hashedKey ≠ key.hashedKey := by
  have inserted : (db.insertKey key).isSome = true ∧ key.isActive = true := by
    cases commits with
    | createKey _ _ _ free => exact ⟨free, rfl⟩
    | commandCreateKey _ _ free => exact ⟨free, rfl⟩
  obtain ⟨⟨after, inserted⟩, active⟩ := inserted.imp_left Option.isSome_iff_exists.mp
  refine ⟨active, (insertKey_eq_some inserted).2, fun row member same => ?_⟩
  unfold Database.insertKey at inserted
  split_ifs at inserted with taken
  exact taken (.inl (List.find?_isSome.mpr ⟨row, member, by simpa using same⟩))

/-- A key that is revoked is in the table. -/
theorem AdminAction.Commits.known (commits : action.Commits env db (.revoked keyId)) :
    ∃ row ∈ db.apiKeys, row.id = keyId := by
  have found : (db.getKeyById keyId).isSome = true := by
    cases commits with
    | revokeKey _ _ _ known => exact known
    | commandRevokeKey _ known => exact known
  obtain ⟨row, member, named⟩ := List.find?_isSome.mp found
  exact ⟨row, member, by simpa using named⟩

theorem db_of_step (moved : s.step env action = some next) :
    next.db = stateAfter (action.perform env s.db) := by
  unfold Administration.step at moved
  split at moved
  · rename_i ended
    cases moved
    rw [ended]
    rfl
  · rename_i ended
    cases moved
    rw [ended]
    rfl

/-- What has been committed after one more operation. -/
theorem committed_snoc (reached : run (Administration.step env) {} actions = some s) :
    Committed env (actions ++ [action]) change ↔
      Committed env actions change ∨ action.Commits env s.db change := by
  constructor
  · rintro ⟨before, other, after, state, split, there, commits⟩
    rcases List.eq_nil_or_concat after with rfl | ⟨middle, last, rfl⟩
    · obtain ⟨rfl, own⟩ := List.append_inj' split rfl
      obtain rfl := List.singleton_inj.mp own
      cases reached.symm.trans there
      exact .inr commits
    · rw [List.concat_eq_append, ← List.cons_append, ← List.append_assoc] at split
      exact .inl ⟨before, other, middle, state, (List.append_inj' split rfl).1, there, commits⟩
  · rintro (⟨before, other, after, state, rfl, there, commits⟩ | commits)
    · exact ⟨before, other, after ++ [action], state, by simp, there, commits⟩
    · exact ⟨actions, action, [], s, rfl, reached, commits⟩

/-- A row stands while nothing is committed about its key. -/
theorem Stands.later {more : List AdminAction} (stands : Stands env actions key row)
    (unchanged : Committed env more (.revoked key.id) ↔ Committed env actions (.revoked key.id)) :
    Stands env more key row :=
  ⟨stands.same, stands.active.trans (not_congr unchanged.symm)⟩

theorem registered_created (registered : Registered env actions s)
    (reached : run (Administration.step env) {} actions = some s)
    (commits : action.Commits env s.db (.created key))
    (same : next.db.apiKeys = s.db.apiKeys ++ [key]) : Registered env (actions ++ [action]) next := by
  obtain ⟨active, ids, digests⟩ := commits.fresh
  have created {other : ApiKey} : Committed env (actions ++ [action]) (.created other) ↔
      Committed env actions (.created other) ∨ other = key := by
    rw [committed_snoc reached]
    refine or_congr_right ⟨fun again => ?_, fun own => own ▸ commits⟩
    cases commits.unique again
    rfl
  have revoked {keyId : ℤ} : Committed env (actions ++ [action]) (.revoked keyId) ↔
      Committed env actions (.revoked keyId) := by
    rw [committed_snoc reached, or_iff_left]
    intro again
    cases commits.unique again
  have own : Stands env (actions ++ [action]) key key := by
    refine ⟨rfl, iff_of_true active fun gone => ?_⟩
    obtain ⟨row, member, named⟩ := registered.revoked key.id (revoked.mp gone)
    exact ids row member named
  refine ⟨fun row member => ?_, fun other made => ?_, fun keyId gone => ?_, ?_⟩
  · rw [same] at member
    rcases List.mem_append.mp member with old | new
    · obtain ⟨other, made, stands⟩ := registered.rows row old
      exact ⟨other, created.mpr (.inl made), stands.later revoked⟩
    · obtain rfl := List.mem_singleton.mp new
      exact ⟨row, created.mpr (.inr rfl), own⟩
  · rw [same]
    rcases created.mp made with old | rfl
    · obtain ⟨row, member, stands⟩ := registered.created other old
      exact ⟨row, List.mem_append_left _ member, stands.later revoked⟩
    · exact ⟨other, List.mem_append_right _ List.mem_cons_self, own⟩
  · rw [same]
    obtain ⟨row, member, named⟩ := registered.revoked keyId (revoked.mp gone)
    exact ⟨row, List.mem_append_left _ member, named⟩
  · rw [same, List.map_append, List.nodup_append]
    refine ⟨registered.digests, List.nodup_singleton _, ?_⟩
    intro digest old other new
    obtain ⟨row, member, rfl⟩ := List.mem_map.mp old
    rw [List.mem_singleton.mp new]
    exact digests row member

/-- A row after a revocation. -/
theorem Stands.deactivated {more : List AdminAction} (stands : Stands env actions key row)
    (revoked : ∀ other, Committed env more (.revoked other) ↔
      Committed env actions (.revoked other) ∨ other = keyId) :
    Stands env more key (row.deactivated keyId) := by
  have named : row.id = key.id := by rw [stands.same]
  unfold ApiKey.deactivated
  split_ifs with hit
  · refine ⟨by rw [stands.same], iff_of_false Bool.false_ne_true fun spared => ?_⟩
    exact spared ((revoked _).mpr (.inr (named.symm.trans hit)))
  · refine stands.later ((revoked _).trans (or_iff_left fun own => ?_))
    exact hit (named.trans own)

theorem registered_revoked (registered : Registered env actions s)
    (reached : run (Administration.step env) {} actions = some s)
    (commits : action.Commits env s.db (.revoked keyId))
    (same : next.db.apiKeys = s.db.apiKeys.map fun key => key.deactivated keyId) :
    Registered env (actions ++ [action]) next := by
  have created {other : ApiKey} : Committed env (actions ++ [action]) (.created other) ↔
      Committed env actions (.created other) := by
    rw [committed_snoc reached, or_iff_left]
    intro again
    cases commits.unique again
  have revoked (other : ℤ) : Committed env (actions ++ [action]) (.revoked other) ↔
      Committed env actions (.revoked other) ∨ other = keyId := by
    rw [committed_snoc reached]
    refine or_congr_right ⟨fun again => ?_, fun own => own ▸ commits⟩
    cases commits.unique again
    rfl
  refine ⟨fun row member => ?_, fun other made => ?_, fun other gone => ?_, ?_⟩
  · rw [same] at member
    obtain ⟨old, there, rfl⟩ := List.mem_map.mp member
    obtain ⟨key, made, stands⟩ := registered.rows old there
    exact ⟨key, created.mpr made, stands.deactivated revoked⟩
  · rw [same]
    obtain ⟨row, member, stands⟩ := registered.created other (created.mp made)
    exact ⟨_, List.mem_map_of_mem member, stands.deactivated revoked⟩
  · rw [same]
    have there : ∃ row ∈ s.db.apiKeys, row.id = other := by
      rcases (revoked other).mp gone with old | rfl
      · exact registered.revoked other old
      · exact commits.known
    obtain ⟨row, member, named⟩ := there
    exact ⟨_, List.mem_map_of_mem member, (row.deactivated_id keyId).trans named⟩
  · have kept : (s.db.apiKeys.map fun key => key.deactivated keyId).map ApiKey.hashedKey =
        s.db.apiKeys.map ApiKey.hashedKey := by
      rw [List.map_map]
      refine List.map_congr_left fun row _ => ?_
      simp only [Function.comp_apply, ApiKey.deactivated]
      split_ifs <;> rfl
    rw [same, kept]
    exact registered.digests

/-- **One operation** keeps the table true to the history. -/
theorem registered_step (registered : Registered env actions s)
    (reached : run (Administration.step env) {} actions = some s)
    (moved : s.step env action = some next) : Registered env (actions ++ [action]) next := by
  have after := db_of_step moved
  rcases keys_perform env s.db action with ⟨change, commits, same⟩ | ⟨silent, same⟩
  · rw [← after] at same
    cases change with
    | created key => exact registered_created registered reached commits same
    | revoked keyId => exact registered_revoked registered reached commits same
  · rw [← after] at same
    have unchanged {change : KeyChange} : Committed env (actions ++ [action]) change ↔
        Committed env actions change := by
      rw [committed_snoc reached, or_iff_left (silent change)]
    refine ⟨fun row member => ?_, fun key made => ?_, fun keyId gone => ?_, same ▸ registered.digests⟩
    · obtain ⟨key, made, stands⟩ := registered.rows row (same ▸ member)
      exact ⟨key, unchanged.mpr made, stands.later unchanged⟩
    · obtain ⟨row, member, stands⟩ := registered.created key (unchanged.mp made)
      exact ⟨row, same ▸ member, stands.later unchanged⟩
    · exact same ▸ registered.revoked keyId (unchanged.mp gone)

theorem not_committed_nil : ¬ Committed env [] change := by
  rintro ⟨before, action, after, s, split, -⟩
  simp at split

theorem registered_run (reached : run (Administration.step env) {} actions = some s) :
    Registered env actions s := by
  refine run_induction_of_step (P := fun actions s => Registered env actions s) ?_
    (fun _ _ _ _ earlier registered moved => registered_step registered earlier moved) reached
  exact ⟨fun _ member => absurd member List.not_mem_nil, fun _ made => absurd made not_committed_nil,
    fun _ gone => absurd gone not_committed_nil, List.nodup_nil⟩

end History

/-- **A key authenticates exactly** if its creation has been committed, its revocation has not, and its
expiry has not passed: after every sequence of operations, whatever went wrong in them. -/
theorem authenticates_iff (env : Environment) (actions : List AdminAction) (s : Administration)
    (reached : run (Administration.step env) {} actions = some s) (header : Option String) (now : ℚ)
    (virtualKeyId : ℤ) :
    authenticateRequest env s.db now header = .ok virtualKeyId ↔
      ∃ rawKey key, bearerKey header = some rawKey ∧ Committed env actions (.created key) ∧
        key.hashedKey = hashKey env rawKey ∧ key.id = virtualKeyId ∧
          isExpired key.expiresAt now = false ∧ ¬ Committed env actions (.revoked virtualKeyId) := by
  have registered := registered_run reached
  rw [authenticateRequest_eq_ok]
  constructor
  · rintro ⟨rawKey, row, carried, found, active, current, rfl⟩
    have digest : row.hashedKey = hashKey env rawKey := by simpa using List.find?_some found
    obtain ⟨key, made, stands⟩ := registered.rows row (List.mem_of_find?_eq_some found)
    rw [stands.same] at digest current ⊢
    exact ⟨rawKey, key, carried, made, digest, rfl, current, stands.active.mp active⟩
  · rintro ⟨rawKey, key, carried, made, digest, rfl, current, spared⟩
    obtain ⟨row, member, stands⟩ := registered.created key made
    have named : row.hashedKey = hashKey env rawKey := by rw [stands.same, ← digest]
    have found : s.db.getKeyByHash (hashKey env rawKey) = some row := by
      have there : (s.db.getKeyByHash (hashKey env rawKey)).isSome = true :=
        List.find?_isSome.mpr ⟨row, member, by simpa using named⟩
      obtain ⟨other, read⟩ := Option.isSome_iff_exists.mp there
      have same : other.hashedKey = row.hashedKey := by
        rw [named]
        simpa using List.find?_some read
      rw [read, List.inj_on_of_nodup_map registered.digests (List.mem_of_find?_eq_some read) member same]
    refine ⟨rawKey, row, carried, found, stands.active.mpr spared, ?_, by rw [stands.same]⟩
    rw [stands.same]
    exact current

/-- SHA-256 on the raw keys of two draws. -/
def rotationSha256 (text : String) : HexDigest :=
  if text = "sk-CCCCCCCCCCCCCCCCCCCCCCCCCCCCCCCCCCCCCCCCCCC" then
    ⟨"01538255a76fbbf9a30ba7f242009a0720fcbf3443d0830f70a0289f1d6f88bf", by decide +kernel⟩
  else ⟨"fbf61cdf0dfcd12d4aad8045870bb332698840c621e619ecf2b543824bae49d1", by decide +kernel⟩

def rotationEnvironment : Environment := { demoEnvironment with sha256 := rotationSha256 }

def firstDraw : Draw := ⟨1, ⟨"CCCCCCCCCCCCCCCCCCCCCCCCCCCCCCCCCCCCCCCCCCC", by decide +kernel⟩⟩

def secondDraw : Draw := ⟨2, ⟨"DDDDDDDDDDDDDDDDDDDDDDDDDDDDDDDDDDDDDDDDDDD", by decide +kernel⟩⟩

def rotationHeader (draw : Draw) : Option String := some ("Bearer " ++ draw.rawKey)

/-- A key for thirty days and twenty dollars. -/
def rotationPayload : KeyCreate where
  clientName := "app"
  expiresInDays := some 30
  spendLimitUsd := some 20
  named := by decide
  notBlank := by decide +kernel
  days := by simp
  limit := by simp

/-- A key of the command line creates another one over HTTP, whose audit entry is refused, and is
revoked with itself. -/
def rotation : List AdminAction :=
  [⟨.commandCreateKey "ops" true none none, firstDraw, 0, none⟩,
    ⟨.createKey (rotationHeader firstDraw) rotationPayload, secondDraw, 10, some (.refused .audit)⟩,
    ⟨.revokeKey (rotationHeader firstDraw) 1, secondDraw, 20, none⟩]

/-- The theorem about these operations: the second key authenticates for thirty days, though its creation
was answered with an error, and the first one no longer does. -/
theorem authenticates_iff_rotation :
    ∃ s, run (Administration.step rotationEnvironment) {} rotation = some s ∧
      (∃ rawKey key, bearerKey (rotationHeader secondDraw) = some rawKey ∧
        Committed rotationEnvironment rotation (.created key) ∧
          key.hashedKey = hashKey rotationEnvironment rawKey ∧ key.id = 2 ∧
            isExpired key.expiresAt 100 = false ∧ ¬ Committed rotationEnvironment rotation (.revoked 2)) ∧
      ¬ ∃ rawKey key, bearerKey (rotationHeader firstDraw) = some rawKey ∧
        Committed rotationEnvironment rotation (.created key) ∧
          key.hashedKey = hashKey rotationEnvironment rawKey ∧ key.id = 1 ∧
            isExpired key.expiresAt 100 = false ∧ ¬ Committed rotationEnvironment rotation (.revoked 1) := by
  have performed : (run (Administration.step rotationEnvironment) {} rotation).map (fun s =>
      ((authenticateRequest rotationEnvironment s.db 100 (rotationHeader secondDraw)).toOption,
        (authenticateRequest rotationEnvironment s.db 100 (rotationHeader firstDraw)).toOption)) =
          some (some 2, none) := by decide +kernel
  obtain ⟨s, reached, same⟩ := Option.map_eq_some_iff.mp performed
  obtain ⟨second, first⟩ := Prod.mk.inj same
  refine ⟨s, reached, ?_, ?_⟩
  · refine (authenticates_iff rotationEnvironment rotation s reached _ 100 2).mp ?_
    cases checked : authenticateRequest rotationEnvironment s.db 100 (rotationHeader secondDraw) with
    | ok virtualKeyId =>
        rw [checked] at second
        exact congrArg _ (Option.some.inj second)
    | error exception =>
        rw [checked] at second
        cases second
  · rw [← authenticates_iff rotationEnvironment rotation s reached _ 100 1]
    intro checked
    rw [checked] at first
    cases first

end LlmGateway
