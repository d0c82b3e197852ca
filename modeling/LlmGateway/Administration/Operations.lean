import LlmGateway.Library.Runs
import LlmGateway.Library.Transactions
import LlmGateway.Routers.Keys

/-!
# Creating and revoking keys, transaction by transaction

`create_key` and `revoke_key` of `routers/keys.py`, `_create_key` and `_revoke_key` of `cli.py`.
Each of them commits its change of `api_keys` in one session and its audit entry in another
one, and reads the row back in between. Any of these transactions may be refused, and the process
may stop before any of them.
-/

set_option autoImplicit false

namespace LlmGateway

open LlmGateway.Library

/-- The transactions of an operation. -/
inductive AdminTransaction where
  | authenticate
  | write
  | refresh
  | audit
deriving DecidableEq

/-- How an operation fails: with the answer of its endpoint, with an exception of the
database, with the exit status of the command, or with an `OverflowError`. -/
inductive AdminError where
  | http (exception : HttpException)
  | database
  | systemExit (code : ℤ)
  | overflow

/-- An operation: it returns, or it ends in trouble and leaves what it has committed. -/
abbrev Administers (α : Type) := EStateM (Trouble AdminError) Database α

section Operations

variable (env : Environment) (lapse : Option (Lapse AdminTransaction))

/-! ## Steps of the operations -/

/-- `Depends(authenticate_request)`. -/
def authenticated (header : Option String) (now : ℚ) : Administers ℤ :=
  transaction lapse .authenticate .database fun db =>
    match authenticateRequest env db now header with
    | .error exception => .error (.http exception)
    | .ok virtualKeyId => .ok (virtualKeyId, db)

/-- `session.add(key)` and `session.commit()`. -/
def commitKey (key : ApiKey) : Administers Unit :=
  transaction lapse .write .database fun db =>
    match db.insertKey key with
    | none => .error .database
    | some next => .ok ((), next)

/-- `session.refresh(key)`: the row as it is in the table. -/
def refreshKey (keyId : ℤ) : Administers ApiKey :=
  transaction lapse .refresh .database fun db =>
    match db.getKeyById keyId with
    | none => .error .database
    | some key => .ok (key, db)

/-- `create_audit_log`. -/
def commitAudit (entry : AuditLog) : Administers Unit :=
  transaction lapse .audit .database fun db => .ok ((), db.createAuditLog entry)

/-- `deactivate_key`: without such a key nothing is committed. -/
def commitRevocation (keyId : ℤ) : Administers (Option ApiKey) := do
  let found ← transaction lapse .write .database fun db =>
    match db.deactivateKey keyId with
    | none => .ok (false, db)
    | some (_, next) => .ok (true, next)
  if found then some <$> refreshKey lapse keyId else pure none

/-- A row is stored and its creation is audited, with a detail of the row; it is given back. -/
def storeKey (key : ApiKey) (detail : ApiKey → AuditDetail) : Administers ApiKey := do
  commitKey lapse key
  let stored ← refreshKey lapse key.id
  commitAudit lapse ⟨.keyCreated, stored.id, stored.clientName, detail stored⟩
  pure stored

/-- A key is revoked and its revocation is audited. -/
def withdrawKey (keyId : ℤ) (missing : AdminError) : Administers Unit := do
  match ← commitRevocation lapse keyId with
  | none => throw (.raised missing)
  | some key => commitAudit lapse ⟨.keyRevoked, key.id, key.clientName, {}⟩

/-! ## The endpoints -/

/-- The `detail` of the router: the expiry. -/
def routeDetail (key : ApiKey) : AuditDetail where
  expiresAt := key.expiresAt

/-- `create_key` of the router. -/
def routeCreateKey (header : Option String) (payload : KeyCreate) (draw : Draw) (now : ℚ) :
    Administers KeyCreated := do
  let _ ← authenticated env lapse header now
  let key ← storeKey lapse (newKey env payload draw now) routeDetail
  pure ⟨key.id, key.clientName, draw.rawKey, key.spendLimitUsd, key.createdAt, key.expiresAt⟩

/-- `revoke_key` of the router. -/
def routeRevokeKey (header : Option String) (keyId : ℤ) (now : ℚ) : Administers Unit := do
  let _ ← authenticated env lapse header now
  withdrawKey lapse keyId (.http ⟨404, .str "chave não encontrada"⟩)

/-! ## The commands -/

/-- `DEFAULT_KEY_EXPIRY_DAYS`. -/
def defaultKeyExpiryDays : ℤ := 90

/-- The days that `main` gives to `_create_key`; the two options exclude each other. -/
def expiryDays (noExpiry : Bool) (expiresInDays : Option ℤ) : Except AdminError (Option ℤ) :=
  match noExpiry, expiresInDays with
  | true, some _ => .error (.systemExit 2)
  | true, none => .ok none
  | false, none => .ok (some defaultKeyExpiryDays)
  | false, some days => .ok (some (if days = 0 then defaultKeyExpiryDays else days))

/-- The moments that a `datetime` can have: the years 1 to 9999. -/
def minDatetime : ℚ := -62135596800

def maxDatetime : ℚ := 253402300799 + 999999 / 1000000

/-- `datetime.now(UTC) + timedelta(days=days)`: the span and the moment have their limits. -/
def daysAfter (now : ℚ) (days : ℤ) : Except AdminError ℚ :=
  let moment := now + days * 86400
  if |days| ≤ 999999999 ∧ minDatetime ≤ moment ∧ moment ≤ maxDatetime then .ok moment
  else .error .overflow

/-- The `expires_at` of `create-key`. -/
def commandExpiry (noExpiry : Bool) (expiresInDays : Option ℤ) (now : ℚ) :
    Except AdminError (Option ℚ) :=
  match expiryDays noExpiry expiresInDays with
  | .error error => .error error
  | .ok none => .ok none
  | .ok (some days) => (daysAfter now days).map some

/-- The row of a key of the command line: its client name is taken as it is. -/
def commandKey (clientName : String) (expiresAt : Option ℚ) (spendLimitUsd : Option ℚ)
    (draw : Draw) (now : ℚ) : ApiKey where
  id := draw.id
  hashedKey := hashKey env draw.rawKey
  clientName := clientName
  isActive := true
  spendLimitUsd := spendLimitUsd.map (Decimal.column 2)
  expiresAt := expiresAt
  createdAt := now

/-- The `detail` of the command: the expiry and the limit. -/
def commandDetail (key : ApiKey) : AuditDetail where
  expiresAt := key.expiresAt
  spendLimitUsd := key.spendLimitUsd

/-- `create-key`: the raw key that is printed. -/
def commandCreateKey (clientName : String) (noExpiry : Bool) (expiresInDays : Option ℤ)
    (spendLimitUsd : Option ℚ) (draw : Draw) (now : ℚ) : Administers String := do
  match commandExpiry noExpiry expiresInDays now with
  | .error error => throw (.raised error)
  | .ok expiresAt =>
      let _ ← storeKey lapse (commandKey env clientName expiresAt spendLimitUsd draw now)
        commandDetail
      pure draw.rawKey

/-- `revoke-key`. -/
def commandRevokeKey (keyId : ℤ) : Administers Unit := withdrawKey lapse keyId (.systemExit 1)

end Operations

/-! ## The administration of the keys -/

/-- An operation, with what its caller gives it. -/
inductive AdminOperation where
  | createKey (header : Option String) (payload : KeyCreate)
  | revokeKey (header : Option String) (keyId : ℤ)
  | commandCreateKey (clientName : String) (noExpiry : Bool) (expiresInDays : Option ℤ)
      (spendLimitUsd : Option ℚ)
  | commandRevokeKey (keyId : ℤ)

/-- An operation with its moment, the draw of a new key and what goes wrong. -/
structure AdminAction where
  operation : AdminOperation
  draw : Draw
  now : ℚ
  lapse : Option (Lapse AdminTransaction) := none

/-- The operation of an action, and the raw keys that its caller is given. -/
def AdminAction.perform (env : Environment) (action : AdminAction) : Administers (List String) :=
  match action.operation with
  | .createKey header payload => do
      let created ← routeCreateKey env action.lapse header payload action.draw action.now
      pure [created.apiKey]
  | .revokeKey header keyId => do
      routeRevokeKey env action.lapse header keyId action.now
      pure []
  | .commandCreateKey clientName noExpiry expiresInDays spendLimitUsd => do
      let rawKey ← commandCreateKey env action.lapse clientName noExpiry expiresInDays spendLimitUsd
        action.draw action.now
      pure [rawKey]
  | .commandRevokeKey keyId => do
      commandRevokeKey action.lapse keyId
      pure []

/-- The database, and the raw keys that were given to anyone. -/
structure Administration where
  db : Database := {}
  handed : List String := []

/-- **One step**: an operation, to its end. -/
def Administration.step (env : Environment) (s : Administration) (action : AdminAction) :
    Option Administration :=
  match action.perform env s.db with
  | .ok rawKeys db => some ⟨db, s.handed ++ rawKeys⟩
  | .error _ db => some ⟨db, s.handed⟩

/-! ## What the operations do -/

/-- A lapse between the transaction that changes a key and the one that audits the change. -/
def tears : Option (Lapse AdminTransaction) → Bool
  | some (.refused .refresh) | some (.stopped .refresh) => true
  | some (.refused .audit) | some (.stopped .audit) => true
  | _ => false

/-- How storing a key can end: without a row, with the row and its audit entry, or torn. -/
inductive Stores (db : Database) (lapse : Option (Lapse AdminTransaction)) (key : ApiKey)
    (detail : ApiKey → AuditDetail) : EStateM.Result (Trouble AdminError) Database ApiKey → Prop
  | unwritten {trouble : Trouble AdminError}
      (spared : db.insertKey key = none ∨ tears lapse = false) :
      Stores db lapse key detail (.error trouble db)
  | stored {next : Database} (inserted : db.insertKey key = some next) (whole : tears lapse = false) :
      Stores db lapse key detail
        (.ok key (next.createAuditLog ⟨.keyCreated, key.id, key.clientName, detail key⟩))
  | torn {trouble : Trouble AdminError} {next : Database} (inserted : db.insertKey key = some next)
      (torn : tears lapse = true) : Stores db lapse key detail (.error trouble next)

/-- How revoking a key can end. -/
inductive Withdraws (db : Database) (lapse : Option (Lapse AdminTransaction)) (keyId : ℤ) :
    EStateM.Result (Trouble AdminError) Database Unit → Prop
  | unwritten {trouble : Trouble AdminError}
      (spared : db.deactivateKey keyId = none ∨ tears lapse = false) :
      Withdraws db lapse keyId (.error trouble db)
  | withdrawn {key : ApiKey} {next : Database} (revoked : db.deactivateKey keyId = some (key, next))
      (whole : tears lapse = false) :
      Withdraws db lapse keyId (.ok () (next.createAuditLog ⟨.keyRevoked, key.id, key.clientName, {}⟩))
  | torn {trouble : Trouble AdminError} {key : ApiKey} {next : Database}
      (revoked : db.deactivateKey keyId = some (key, next)) (torn : tears lapse = true) :
      Withdraws db lapse keyId (.error trouble next)

section Spec

variable {db next : Database} {lapse : Option (Lapse AdminTransaction)} {key : ApiKey}
  {detail : ApiKey → AuditDetail} {keyId : ℤ}

/-- A new row is read back under its id. -/
theorem getKeyById_inserted (inserted : db.insertKey key = some next) :
    next.getKeyById key.id = some key := by
  unfold Database.insertKey at inserted
  split_ifs at inserted with taken
  cases inserted
  have free : db.apiKeys.find? (fun other => other.id == key.id) = none :=
    Option.not_isSome_iff_eq_none.mp (not_or.mp taken).2
  rw [Database.getKeyById, List.find?_append, free]
  simp

/-- A revoked row is read back as it was returned. -/
theorem getKeyById_deactivated (revoked : db.deactivateKey keyId = some (key, next)) :
    next.getKeyById keyId = some key := by
  rw [getKeyById_deactivateKey revoked]
  obtain ⟨found, there, same⟩ := Option.map_eq_some_iff.mp revoked
  cases same
  have named : found.id = keyId := by simpa using List.find?_some there
  rw [there, Option.map_some, ApiKey.deactivated, if_pos named]

/-- The row is read back after the write. -/
theorem refreshKey_cases (there : db.getKeyById keyId = some key) :
    (∃ trouble, refreshKey lapse keyId db = .error trouble db ∧ tears lapse = true) ∨
      refreshKey lapse keyId db = .ok key db ∧ Spares lapse .refresh := by
  cases refreshed : refreshKey lapse keyId db with
  | error trouble next =>
      obtain rfl := transaction_error refreshed
      refine .inl ⟨trouble, rfl, ?_⟩
      by_contra whole
      have spared : Spares lapse .refresh := by
        constructor <;> rintro rfl <;> exact whole rfl
      rw [refreshKey, transaction_apply spared, there] at refreshed
      cases refreshed
  | ok stored next =>
      obtain ⟨spared, given⟩ := transaction_ok refreshed
      rw [there] at given
      cases given
      exact .inr ⟨rfl, spared⟩

/-- The entry is appended. -/
theorem commitAudit_cases (entry : AuditLog) :
    (∃ trouble, commitAudit lapse entry db = .error trouble db ∧ tears lapse = true) ∨
      commitAudit lapse entry db = .ok () (db.createAuditLog entry) ∧ Spares lapse .audit := by
  cases committed : commitAudit lapse entry db with
  | error trouble next =>
      obtain rfl := transaction_error committed
      refine .inl ⟨trouble, rfl, ?_⟩
      by_contra whole
      have spared : Spares lapse .audit := by
        constructor <;> rintro rfl <;> exact whole rfl
      rw [commitAudit, transaction_apply spared] at committed
      cases committed
  | ok _ next =>
      obtain ⟨spared, given⟩ := transaction_ok committed
      cases given
      exact .inr ⟨rfl, spared⟩

theorem tears_of_spares (refreshed : Spares lapse .refresh) (audited : Spares lapse .audit) :
    tears lapse = false := by
  unfold tears
  split
  · exact absurd rfl refreshed.2
  · exact absurd rfl refreshed.1
  · exact absurd rfl audited.2
  · exact absurd rfl audited.1
  · rfl

/-- A lapse before or at the write leaves nothing torn. -/
theorem tears_write {lapse : Option (Lapse AdminTransaction)} {name : AdminTransaction}
    (earlier : name = .authenticate ∨ name = .write)
    (named : lapse = some (.stopped name) ∨ lapse = some (.refused name)) :
    tears lapse = false ∧ lapse ≠ none := by
  rcases earlier with rfl | rfl <;> rcases named with rfl | rfl <;> exact ⟨rfl, by simp⟩

/-- A transaction before the audit that ends in trouble: its body failed, or nothing is torn. -/
theorem spared_of_error {α : Type} {name : AdminTransaction}
    {body : Database → Except AdminError (α × Database)} {trouble : Trouble AdminError}
    (earlier : name = .authenticate ∨ name = .write)
    (failed : transaction lapse name .database body db = .error trouble next) :
    (∃ error, body db = .error error) ∨ tears lapse = false ∧ lapse ≠ none := by
  by_cases named : lapse = some (.stopped name) ∨ lapse = some (.refused name)
  · exact .inr (tears_write earlier named)
  · rw [transaction_apply (not_or.mp named)] at failed
    cases given : body db with
    | error error => exact .inl ⟨error, rfl⟩
    | ok result =>
        rw [given] at failed
        cases failed

theorem storeKey_stores : Stores db lapse key detail (storeKey lapse key detail db) := by
  unfold storeKey
  cases committed : commitKey lapse key db with
  | error trouble next =>
      rw [bind_of_error committed]
      obtain rfl := transaction_error committed
      refine .unwritten ((spared_of_error (.inr rfl) committed).imp ?_ And.left)
      rintro ⟨error, failed⟩
      split at failed
      · assumption
      · cases failed
  | ok _ next =>
      rw [bind_of_ok committed]
      obtain ⟨-, given⟩ := transaction_ok committed
      split at given
      · cases given
      · rename_i inserted
        cases given
        rcases @refreshKey_cases _ lapse _ _ (getKeyById_inserted inserted) with
          ⟨trouble, failed, torn⟩ | ⟨refreshed, spared⟩
        · rw [bind_of_error failed]
          exact .torn inserted torn
        · rw [bind_of_ok refreshed]
          rcases @commitAudit_cases next lapse ⟨.keyCreated, key.id, key.clientName, detail key⟩
            with ⟨trouble, failed, torn⟩ | ⟨audited, heard⟩
          · rw [bind_of_error failed]
            exact .torn inserted torn
          · rw [bind_of_ok audited]
            exact .stored inserted (tears_of_spares spared heard)

/-- The row is deactivated and read back. -/
theorem commitRevocation_cases :
    (∃ trouble, commitRevocation lapse keyId db = .error trouble db ∧ tears lapse = false ∧
        lapse ≠ none) ∨
      (commitRevocation lapse keyId db = .ok none db ∧ db.deactivateKey keyId = none) ∨
        ∃ key next, db.deactivateKey keyId = some (key, next) ∧
          ((∃ trouble, commitRevocation lapse keyId db = .error trouble next ∧ tears lapse = true) ∨
            commitRevocation lapse keyId db = .ok (some key) next ∧ Spares lapse .refresh) := by
  unfold commitRevocation
  cases committed : transaction lapse AdminTransaction.write AdminError.database
      (fun db : Database =>
        match db.deactivateKey keyId with
        | none => Except.ok (false, db)
        | some (_, next) => Except.ok (true, next)) db with
  | error trouble next =>
      rw [bind_of_error committed]
      obtain rfl := transaction_error committed
      rcases spared_of_error (.inr rfl) committed with ⟨error, failed⟩ | whole
      · split at failed <;> cases failed
      · exact .inl ⟨trouble, rfl, whole⟩
  | ok found next =>
      rw [bind_of_ok committed]
      obtain ⟨-, given⟩ := transaction_ok committed
      split at given
      · rename_i missing
        cases given
        exact .inr (.inl ⟨rfl, missing⟩)
      · rename_i key deactivated revoked
        cases given
        refine .inr (.inr ⟨key, next, revoked, ?_⟩)
        rw [if_pos rfl, map_eq_pure_bind]
        rcases @refreshKey_cases _ lapse _ _ (getKeyById_deactivated revoked) with
          ⟨trouble, failed, torn⟩ | ⟨refreshed, spared⟩
        · rw [bind_of_error failed]
          exact .inl ⟨trouble, rfl, torn⟩
        · rw [bind_of_ok refreshed]
          exact .inr ⟨rfl, spared⟩

theorem withdrawKey_withdraws {missing : AdminError} :
    Withdraws db lapse keyId (withdrawKey lapse keyId missing db) := by
  unfold withdrawKey
  rcases @commitRevocation_cases db lapse keyId with
    ⟨trouble, failed, whole, -⟩ | ⟨committed, absent⟩ | ⟨key, next, revoked, ⟨trouble, failed, torn⟩ |
      ⟨committed, spared⟩⟩
  · rw [bind_of_error failed]
    exact .unwritten (.inr whole)
  · rw [bind_of_ok committed]
    exact .unwritten (.inl absent)
  · rw [bind_of_error failed]
    exact .torn revoked torn
  · rw [bind_of_ok committed]
    rcases @commitAudit_cases next lapse ⟨.keyRevoked, key.id, key.clientName, {}⟩ with
      ⟨trouble, failed, torn⟩ | ⟨audited, heard⟩
    · change Withdraws db lapse keyId (commitAudit lapse _ next)
      rw [failed]
      exact .torn revoked torn
    · change Withdraws db lapse keyId (commitAudit lapse _ next)
      rw [audited]
      exact .withdrawn revoked (tears_of_spares spared heard)

/-- The request is let through, or the operation ends as it began. -/
theorem authenticated_cases {env : Environment} {header : Option String} {now : ℚ} :
    (∃ trouble, authenticated env lapse header now db = .error trouble db ∧
        ((∀ virtualKeyId, authenticateRequest env db now header ≠ .ok virtualKeyId) ∨
          tears lapse = false)) ∨
      ∃ virtualKeyId, authenticateRequest env db now header = .ok virtualKeyId ∧
        authenticated env lapse header now db = .ok virtualKeyId db := by
  cases checked : authenticated env lapse header now db with
  | error trouble next =>
      obtain rfl := transaction_error checked
      refine .inl ⟨trouble, rfl, (spared_of_error (.inl rfl) checked).imp ?_ And.left⟩
      rintro ⟨error, failed⟩ virtualKeyId same
      rw [same] at failed
      cases failed
  | ok virtualKeyId next =>
      obtain ⟨-, given⟩ := transaction_ok checked
      split at given
      · cases given
      · rename_i admitted
        cases given
        exact .inr ⟨virtualKeyId, admitted, rfl⟩

end Spec

/-! ## Without a lapse -/

section Whole

variable {env : Environment} {db : Database} {header : Option String} {now : ℚ} {virtualKeyId : ℤ}

/-- An authenticated request to create a key, with nothing going wrong, is `createKey`. -/
theorem routeCreateKey_whole (payload : KeyCreate) (draw : Draw)
    (admitted : authenticateRequest env db now header = .ok virtualKeyId) :
    routeCreateKey env none header payload draw now db =
      match createKey env db payload draw now with
      | none => .error (.raised .database) db
      | some (next, created) => .ok created next := by
  have passed : authenticated env none header now db = .ok virtualKeyId db := by
    rw [authenticated, transaction_apply spares_none, admitted]
  rw [routeCreateKey, bind_of_ok passed, createKey]
  cases inserted : db.insertKey (newKey env payload draw now) with
  | none =>
      have failed : commitKey none (newKey env payload draw now) db =
          .error (.raised .database) db := by
        rw [commitKey, transaction_apply spares_none, inserted]
      simp only [storeKey, bind, EStateM.bind, failed, Option.map_none]
  | some next =>
      have committed : commitKey none (newKey env payload draw now) db = .ok () next := by
        rw [commitKey, transaction_apply spares_none, inserted]
      have refreshed : refreshKey none (newKey env payload draw now).id next =
          .ok (newKey env payload draw now) next := by
        rw [refreshKey, transaction_apply spares_none, getKeyById_inserted inserted]
      have audited (entry : AuditLog) :
          commitAudit none entry next = .ok () (next.createAuditLog entry) := by
        rw [commitAudit, transaction_apply spares_none]
      simp only [storeKey, bind, EStateM.bind, committed, refreshed, audited, pure, EStateM.pure,
        Option.map_some, routeDetail]

/-- An authenticated request to revoke a key, with nothing going wrong, is `revokeKey`. -/
theorem routeRevokeKey_whole (keyId : ℤ)
    (admitted : authenticateRequest env db now header = .ok virtualKeyId) :
    routeRevokeKey env none header keyId now db =
      match revokeKey db keyId with
      | .error exception => .error (.raised (.http exception)) db
      | .ok next => .ok () next := by
  have passed : authenticated env none header now db = .ok virtualKeyId db := by
    rw [authenticated, transaction_apply spares_none, admitted]
  rw [routeRevokeKey, bind_of_ok passed, revokeKey, withdrawKey]
  rcases @commitRevocation_cases db none keyId with
    ⟨trouble, -, -, lapsed⟩ | ⟨committed, absent⟩ | ⟨key, next, revoked, ⟨trouble, -, torn⟩ |
      ⟨committed, -⟩⟩
  · exact absurd rfl lapsed
  · rw [bind_of_ok committed, absent]
    rfl
  · cases torn
  · have audited (entry : AuditLog) :
        commitAudit none entry next = .ok () (next.createAuditLog entry) := by
      rw [commitAudit, transaction_apply spares_none]
    rw [bind_of_ok committed, revoked]
    exact audited _

end Whole

end LlmGateway
