import LlmGateway.Administration.Operations

/-!
# The audit trail of the keys

After every operation each key has an entry of its creation and each revoked key one of its
revocation, each active key was given to somebody, and an operation that ended in an error has
left both tables as they were. All of this holds in a run if and only if no operation is torn:
none loses its audit entry after it has changed a key (`audited_iff`).
-/

set_option autoImplicit false

namespace LlmGateway

open LlmGateway.Library

/-! ## What is promised -/

/-- **The trail is complete.** -/
structure Administration.Audited (env : Environment) (s : Administration) : Prop where
  created : ∀ key ∈ s.db.apiKeys, ∃ entry ∈ s.db.auditLogs,
    entry.action = .keyCreated ∧ entry.virtualKeyId = key.id
  revoked : ∀ key ∈ s.db.apiKeys, key.isActive = false → ∃ entry ∈ s.db.auditLogs,
    entry.action = .keyRevoked ∧ entry.virtualKeyId = key.id
  handed : ∀ key ∈ s.db.apiKeys, key.isActive = true → ∃ rawKey ∈ s.handed,
    key.hashedKey = hashKey env rawKey

/-- An operation that ends in an error leaves the keys and the trail as they were. -/
def UnchangedOnError (env : Environment) (s : Administration) (action : AdminAction)
    (next : Administration) : Prop :=
  ∀ error db, action.perform env s.db = .error (.raised error) db →
    next.db.apiKeys = s.db.apiKeys ∧ next.db.auditLogs = s.db.auditLogs

/-- Where nothing goes wrong, the operation changes a key: it is allowed to, and it stores a row
or revokes an active one. -/
def AdminAction.Changes (env : Environment) (db : Database) (action : AdminAction) : Prop :=
  match action.operation with
  | .createKey header payload =>
      (∃ virtualKeyId, authenticateRequest env db action.now header = .ok virtualKeyId) ∧
        (db.insertKey (newKey env payload action.draw action.now)).isSome = true
  | .revokeKey header keyId =>
      (∃ virtualKeyId, authenticateRequest env db action.now header = .ok virtualKeyId) ∧
        ∃ key, db.getKeyById keyId = some key ∧ key.isActive = true
  | .commandCreateKey clientName noExpiry expiresInDays spendLimitUsd =>
      ∃ expiresAt, commandExpiry noExpiry expiresInDays action.now = .ok expiresAt ∧
        (db.insertKey (commandKey env clientName expiresAt spendLimitUsd action.draw
          action.now)).isSome = true
  | .commandRevokeKey keyId => ∃ key, db.getKeyById keyId = some key ∧ key.isActive = true

/-- An operation that would change a key is not cut off before its audit entry. -/
def Whole (env : Environment) (s : Administration) (action : AdminAction) (_ : Administration) :
    Prop :=
  tears action.lapse = true → ¬ action.Changes env s.db

/-! ## What an operation does -/

/-- **How an operation can end**: as it began, with a key and its entry, with a revocation and its
entry, or torn. -/
inductive Performs (env : Environment) (db : Database) (action : AdminAction) :
    EStateM.Result (Trouble AdminError) Database (List String) → Prop
  | quiet {trouble : Trouble AdminError}
      (spared : ¬ (tears action.lapse = true ∧ action.Changes env db)) :
      Performs env db action (.error trouble db)
  | created {key : ApiKey} {detail : AuditDetail} {rawKey : String} {next : Database}
      (digest : key.hashedKey = hashKey env rawKey) (active : key.isActive = true)
      (inserted : db.insertKey key = some next) (whole : tears action.lapse = false) :
      Performs env db action
        (.ok [rawKey] (next.createAuditLog ⟨.keyCreated, key.id, key.clientName, detail⟩))
  | revoked {keyId : ℤ} {key : ApiKey} {next : Database}
      (revoked : db.deactivateKey keyId = some (key, next)) (whole : tears action.lapse = false) :
      Performs env db action
        (.ok [] (next.createAuditLog ⟨.keyRevoked, key.id, key.clientName, {}⟩))
  | tornCreation {trouble : Trouble AdminError} {key : ApiKey} {next : Database}
      (torn : tears action.lapse = true) (changes : action.Changes env db)
      (active : key.isActive = true) (inserted : db.insertKey key = some next) :
      Performs env db action (.error trouble next)
  | tornRevocation {trouble : Trouble AdminError} {keyId : ℤ} {key : ApiKey} {next : Database}
      (torn : tears action.lapse = true)
      (changes : action.Changes env db ↔
        ∃ found, db.getKeyById keyId = some found ∧ found.isActive = true)
      (revoked : db.deactivateKey keyId = some (key, next)) :
      Performs env db action (.error trouble next)

section Spec

variable {env : Environment} {db : Database} {action : AdminAction}

/-- Storing a key, as the whole of an operation that is allowed to. -/
theorem performs_storeKey {key : ApiKey} {detail : ApiKey → AuditDetail} {rawKey : String}
    (digest : key.hashedKey = hashKey env rawKey) (active : key.isActive = true)
    (changes : action.Changes env db ↔ (db.insertKey key).isSome = true) :
    Performs env db action
      ((storeKey action.lapse key detail >>= fun _ => pure [rawKey] : Administers (List String)) db) := by
  have stores := @storeKey_stores db action.lapse key detail
  cases result : storeKey action.lapse key detail db with
  | error trouble next =>
      rw [bind_of_error result]
      rw [result] at stores
      cases stores with
      | unwritten spared =>
          refine .quiet fun ⟨torn, changed⟩ => ?_
          rcases spared with refused | whole
          · rw [changes, refused] at changed
            cases changed
          · rw [whole] at torn
            cases torn
      | torn inserted torn =>
          exact .tornCreation torn (changes.mpr (by rw [inserted]; rfl)) active inserted
  | ok stored next =>
      rw [bind_of_ok result]
      rw [result] at stores
      cases stores with
      | stored inserted whole => exact .created digest active inserted whole

/-- Revoking a key, as the whole of an operation that is allowed to. -/
theorem performs_withdrawKey {keyId : ℤ} {missing : AdminError}
    (changes : action.Changes env db ↔
      ∃ found, db.getKeyById keyId = some found ∧ found.isActive = true) :
    Performs env db action
      ((withdrawKey action.lapse keyId missing >>= fun _ => pure [] :
        Administers (List String)) db) := by
  have withdraws := @withdrawKey_withdraws db action.lapse keyId missing
  cases result : withdrawKey action.lapse keyId missing db with
  | error trouble next =>
      rw [bind_of_error result]
      rw [result] at withdraws
      cases withdraws with
      | unwritten spared =>
          refine .quiet fun ⟨torn, changed⟩ => ?_
          rcases spared with absent | whole
          · obtain ⟨found, there, -⟩ := changes.mp changed
            rw [Database.deactivateKey, there] at absent
            cases absent
          · rw [whole] at torn
            cases torn
      | torn revoked torn => exact .tornRevocation torn changes revoked
  | ok _ next =>
      rw [bind_of_ok result]
      rw [result] at withdraws
      cases withdraws with
      | withdrawn revoked whole => exact .revoked revoked whole

/-- An operation that is not let through ends as it began. -/
theorem performs_authenticated {α : Type} {header : Option String}
    {later : ℤ → Administers α} {finish : α → Administers (List String)}
    (needed : action.Changes env db →
      ∃ virtualKeyId, authenticateRequest env db action.now header = .ok virtualKeyId)
    (rest : ∀ virtualKeyId, authenticateRequest env db action.now header = .ok virtualKeyId →
      Performs env db action ((later virtualKeyId >>= finish) db)) :
    Performs env db action
      (((authenticated env action.lapse header action.now >>= later) >>= finish) db) := by
  rw [bind_assoc]
  rcases @authenticated_cases db action.lapse env header action.now with
    ⟨trouble, failed, unmet⟩ | ⟨virtualKeyId, admitted, passed⟩
  · rw [bind_of_error failed]
    refine .quiet fun ⟨torn, changed⟩ => ?_
    rcases unmet with rejected | whole
    · obtain ⟨virtualKeyId, admitted⟩ := needed changed
      exact rejected virtualKeyId admitted
    · rw [whole] at torn
      cases torn
  · rw [bind_of_ok passed]
    exact rest virtualKeyId admitted

theorem performs_perform (env : Environment) (db : Database) (action : AdminAction) :
    Performs env db action (action.perform env db) := by
  obtain ⟨operation, draw, now, lapse⟩ := action
  cases operation with
  | createKey header payload =>
      refine performs_authenticated And.left fun virtualKeyId admitted => ?_
      rw [bind_assoc]
      exact performs_storeKey rfl rfl (and_iff_right ⟨virtualKeyId, admitted⟩)
  | revokeKey header keyId =>
      exact performs_authenticated And.left fun virtualKeyId admitted =>
        performs_withdrawKey (and_iff_right ⟨virtualKeyId, admitted⟩)
  | commandCreateKey clientName noExpiry expiresInDays spendLimitUsd =>
      cases chosen : commandExpiry noExpiry expiresInDays now with
      | error error =>
          simp only [AdminAction.perform, commandCreateKey, chosen]
          refine .quiet fun ⟨_, changed⟩ => ?_
          obtain ⟨expiresAt, same, -⟩ := changed
          rw [chosen] at same
          cases same
      | ok expiresAt =>
          simp only [AdminAction.perform, commandCreateKey, chosen]
          rw [bind_assoc]
          refine performs_storeKey rfl rfl ?_
          simp only [AdminAction.Changes, chosen, Except.ok.injEq, exists_eq_left']
  | commandRevokeKey keyId => exact performs_withdrawKey Iff.rfl

/-- An operation that returns is not torn. -/
theorem Performs.whole {rawKeys : List String} {after : Database}
    (performs : Performs env db action (.ok rawKeys after)) : tears action.lapse = false := by
  cases performs with
  | created digest active inserted whole => exact whole
  | revoked revoked whole => exact whole

end Spec

/-! ## The trail tells no lies -/

/-- No two keys have one id, and every entry is about a key it is true of. -/
structure Database.Truthful (db : Database) : Prop where
  unique : ∀ first ∈ db.apiKeys, ∀ second ∈ db.apiKeys, first.id = second.id → first = second
  created : ∀ entry ∈ db.auditLogs, entry.action = .keyCreated →
    ∃ key ∈ db.apiKeys, key.id = entry.virtualKeyId
  revoked : ∀ entry ∈ db.auditLogs, entry.action = .keyRevoked →
    ∃ key ∈ db.apiKeys, key.id = entry.virtualKeyId ∧ key.isActive = false

section Truthful

variable {db next : Database} {key : ApiKey} {keyId : ℤ}

theorem insertKey_eq_some (inserted : db.insertKey key = some next) :
    next = { db with apiKeys := db.apiKeys ++ [key] } ∧ ∀ other ∈ db.apiKeys, other.id ≠ key.id := by
  unfold Database.insertKey at inserted
  split_ifs at inserted with taken
  cases inserted
  refine ⟨rfl, fun other member same => taken (.inr ?_)⟩
  exact List.find?_isSome.mpr ⟨other, member, by simpa using same⟩

theorem deactivateKey_eq_some (revoked : db.deactivateKey keyId = some (key, next)) :
    next = { db with apiKeys := db.apiKeys.map fun other => other.deactivated keyId } ∧
      key.id = keyId ∧ ∃ found ∈ db.apiKeys, db.getKeyById keyId = some found ∧ found.id = keyId := by
  obtain ⟨found, there, same⟩ := Option.map_eq_some_iff.mp revoked
  cases same
  have named : found.id = keyId := by simpa using List.find?_some there
  exact ⟨rfl, named, found, List.mem_of_find?_eq_some there, there, named⟩

theorem ApiKey.deactivated_id (key : ApiKey) (keyId : ℤ) : (key.deactivated keyId).id = key.id := by
  unfold ApiKey.deactivated
  split_ifs <;> rfl

theorem ApiKey.deactivated_inactive {key : ApiKey} (inactive : key.isActive = false) (keyId : ℤ) :
    (key.deactivated keyId).isActive = false := by
  unfold ApiKey.deactivated
  split_ifs
  · rfl
  · exact inactive

theorem truthful_init : ({} : Database).Truthful where
  unique := by simp
  created := by simp
  revoked := by simp

theorem Database.Truthful.insert (truthful : db.Truthful) (inserted : db.insertKey key = some next) :
    next.Truthful := by
  obtain ⟨rfl, fresh⟩ := insertKey_eq_some inserted
  refine ⟨?_, ?_, ?_⟩
  · intro first one second two same
    rcases List.mem_append.mp one with old | new
    · rcases List.mem_append.mp two with old' | new'
      · exact truthful.unique first old second old' same
      · obtain rfl := List.mem_singleton.mp new'
        exact absurd same (fresh first old)
    · obtain rfl := List.mem_singleton.mp new
      rcases List.mem_append.mp two with old' | new'
      · exact absurd same.symm (fresh second old')
      · exact (List.mem_singleton.mp new').symm
  · intro entry member said
    obtain ⟨other, there, same⟩ := truthful.created entry member said
    exact ⟨other, List.mem_append_left _ there, same⟩
  · intro entry member said
    obtain ⟨other, there, same⟩ := truthful.revoked entry member said
    exact ⟨other, List.mem_append_left _ there, same⟩

theorem Database.Truthful.deactivate (truthful : db.Truthful)
    (revoked : db.deactivateKey keyId = some (key, next)) : next.Truthful := by
  obtain ⟨rfl, -⟩ := deactivateKey_eq_some revoked
  refine ⟨?_, ?_, ?_⟩
  · intro first one second two same
    obtain ⟨first, old, rfl⟩ := List.mem_map.mp one
    obtain ⟨second, old', rfl⟩ := List.mem_map.mp two
    rw [ApiKey.deactivated_id, ApiKey.deactivated_id] at same
    rw [truthful.unique first old second old' same]
  · intro entry member said
    obtain ⟨other, there, same⟩ := truthful.created entry member said
    exact ⟨_, List.mem_map_of_mem there, (other.deactivated_id keyId).trans same⟩
  · intro entry member said
    obtain ⟨other, there, same, inactive⟩ := truthful.revoked entry member said
    exact ⟨_, List.mem_map_of_mem there, (other.deactivated_id keyId).trans same,
      ApiKey.deactivated_inactive inactive keyId⟩

/-- An entry that is true can be appended. -/
theorem Database.Truthful.audit (truthful : db.Truthful) (entry : AuditLog)
    (about : ∃ key ∈ db.apiKeys, key.id = entry.virtualKeyId ∧
      (entry.action = .keyRevoked → key.isActive = false)) :
    (db.createAuditLog entry).Truthful := by
  obtain ⟨key, there, same, inactive⟩ := about
  refine ⟨truthful.unique, ?_, ?_⟩
  · intro other member said
    rcases List.mem_append.mp member with old | new
    · exact truthful.created other old said
    · obtain rfl := List.mem_singleton.mp new
      exact ⟨key, there, same⟩
  · intro other member said
    rcases List.mem_append.mp member with old | new
    · exact truthful.revoked other old said
    · obtain rfl := List.mem_singleton.mp new
      exact ⟨key, there, same, inactive said⟩

/-- The row of a revoked key is in the table, and it is inactive. -/
theorem mem_deactivated (revoked : db.deactivateKey keyId = some (key, next)) :
    ∃ row ∈ next.apiKeys, row.id = key.id ∧ row.isActive = false := by
  obtain ⟨rfl, named, found, there, -, same⟩ := deactivateKey_eq_some revoked
  refine ⟨_, List.mem_map_of_mem there, (found.deactivated_id keyId).trans (same.trans named.symm), ?_⟩
  rw [ApiKey.deactivated, if_pos same]

theorem mem_inserted (inserted : db.insertKey key = some next) : key ∈ next.apiKeys := by
  obtain ⟨rfl, -⟩ := insertKey_eq_some inserted
  exact List.mem_append_right _ List.mem_cons_self

end Truthful

/-! ## Runs -/

section Runs

variable {env : Environment} {s next : Administration} {action : AdminAction}

/-- The database and the raw keys after a step. -/
theorem administration_step (moved : s.step env action = some next) :
    (∃ rawKeys, action.perform env s.db = .ok rawKeys next.db ∧ next.handed = s.handed ++ rawKeys) ∨
      ∃ trouble, action.perform env s.db = .error trouble next.db ∧ next.handed = s.handed := by
  unfold Administration.step at moved
  split at moved
  · rename_i rawKeys db returned
    cases moved
    exact .inl ⟨rawKeys, returned, rfl⟩
  · rename_i trouble db failed
    cases moved
    exact .inr ⟨trouble, failed, rfl⟩

/-- The trail tells no lies, whatever goes wrong. -/
theorem truthful_step (truthful : s.db.Truthful) (moved : s.step env action = some next) :
    next.db.Truthful := by
  have performs := performs_perform env s.db action
  rcases administration_step moved with ⟨rawKeys, returned, -⟩ | ⟨trouble, failed, -⟩
  · rw [returned] at performs
    generalize next.db = db at performs
    cases performs with
    | created digest active inserted =>
        exact (truthful.insert inserted).audit _
          ⟨_, mem_inserted inserted, rfl, fun said => by cases said⟩
    | revoked revoked =>
        obtain ⟨row, there, same, inactive⟩ := mem_deactivated revoked
        exact (truthful.deactivate revoked).audit _ ⟨row, there, same, fun _ => inactive⟩
  · rw [failed] at performs
    generalize next.db = db at performs
    cases performs with
    | quiet => exact truthful
    | tornCreation torn changes active inserted => exact truthful.insert inserted
    | tornRevocation torn changes revoked => exact truthful.deactivate revoked

/-- Revoking a key that is inactive already changes nothing. -/
theorem deactivateKey_inactive {db after : Database} {keyId : ℤ} {key : ApiKey}
    (truthful : db.Truthful) (revoked : db.deactivateKey keyId = some (key, after))
    (inactive : ¬ ∃ found, db.getKeyById keyId = some found ∧ found.isActive = true) : after = db := by
  obtain ⟨rfl, -, found, there, read, named⟩ := deactivateKey_eq_some revoked
  have resting : found.isActive = false := by
    by_contra active
    exact inactive ⟨found, read, by simpa using active⟩
  have same : db.apiKeys.map (fun other => other.deactivated keyId) = db.apiKeys := by
    refine (List.map_congr_left fun other member => ?_).trans (List.map_id db.apiKeys)
    unfold ApiKey.deactivated
    split_ifs with hit
    · obtain rfl := truthful.unique other member found there (hit.trans named.symm)
      rw [← resting]
      rfl
    · rfl
  rw [same]

/-- The trail stays complete when an operation is not torn. -/
theorem audited_step (truthful : s.db.Truthful) (audited : s.Audited env)
    (moved : s.step env action = some next) (whole : Whole env s action next) :
    next.Audited env := by
  have performs := performs_perform env s.db action
  rcases administration_step moved with ⟨rawKeys, returned, given⟩ | ⟨trouble, failed, given⟩
  · rw [returned] at performs
    obtain ⟨db, handed⟩ := next
    cases given
    cases performs with
    | @created key detail rawKey after digest active inserted =>
        obtain ⟨rfl, fresh⟩ := insertKey_eq_some inserted
        refine ⟨fun other member => ?_, fun other member inactive => ?_, fun other member live => ?_⟩
        · rcases List.mem_append.mp member with old | new
          · obtain ⟨entry, there, said⟩ := audited.created other old
            exact ⟨entry, List.mem_append_left _ there, said⟩
          · obtain rfl := List.mem_singleton.mp new
            exact ⟨_, List.mem_append_right _ List.mem_cons_self, rfl, rfl⟩
        · rcases List.mem_append.mp member with old | new
          · obtain ⟨entry, there, said⟩ := audited.revoked other old inactive
            exact ⟨entry, List.mem_append_left _ there, said⟩
          · obtain rfl := List.mem_singleton.mp new
            rw [active] at inactive
            cases inactive
        · rcases List.mem_append.mp member with old | new
          · obtain ⟨own, there, same⟩ := audited.handed other old live
            exact ⟨own, List.mem_append_left _ there, same⟩
          · obtain rfl := List.mem_singleton.mp new
            exact ⟨rawKey, List.mem_append_right _ List.mem_cons_self, digest⟩
    | @revoked keyId key after revoked =>
        obtain ⟨rfl, named, -⟩ := deactivateKey_eq_some revoked
        refine ⟨fun row member => ?_, fun row member inactive => ?_, fun row member live => ?_⟩ <;>
          obtain ⟨other, old, rfl⟩ := List.mem_map.mp member
        · obtain ⟨entry, there, said, about⟩ := audited.created other old
          exact ⟨entry, List.mem_append_left _ there, said, about.trans (other.deactivated_id keyId).symm⟩
        · by_cases hit : other.id = keyId
          · exact ⟨_, List.mem_append_right _ List.mem_cons_self, rfl,
              named.trans (hit.symm.trans (other.deactivated_id keyId).symm)⟩
          · rw [ApiKey.deactivated, if_neg hit] at inactive ⊢
            obtain ⟨entry, there, said⟩ := audited.revoked other old inactive
            exact ⟨entry, List.mem_append_left _ there, said⟩
        · by_cases hit : other.id = keyId
          · rw [ApiKey.deactivated, if_pos hit] at live
            cases live
          · rw [ApiKey.deactivated, if_neg hit] at live ⊢
            obtain ⟨own, there, same⟩ := audited.handed other old live
            exact ⟨own, List.mem_append_left _ there, same⟩
  · rw [failed] at performs
    obtain ⟨db, handed⟩ := next
    cases given
    cases performs with
    | quiet => exact audited
    | tornCreation torn changes => exact absurd changes (whole torn)
    | tornRevocation torn changes revoked =>
        obtain rfl := deactivateKey_inactive truthful revoked (changes.not.mp (whole torn))
        exact audited

/-- An error leaves the tables when the operation is not torn. -/
theorem unchanged_step (truthful : s.db.Truthful) (moved : s.step env action = some next)
    (whole : Whole env s action next) : UnchangedOnError env s action next := by
  intro error db raised
  have performs := performs_perform env s.db action
  have same : next.db = db := by
    rw [Administration.step, raised] at moved
    cases moved
    rfl
  rw [raised] at performs
  rw [same]
  cases performs with
  | quiet => exact ⟨rfl, rfl⟩
  | tornCreation torn changes => exact absurd changes (whole torn)
  | tornRevocation torn changes revoked =>
      obtain rfl := deactivateKey_inactive truthful revoked (changes.not.mp (whole torn))
      exact ⟨rfl, rfl⟩

/-- **A torn operation leaves a gap in the trail.** -/
theorem whole_of_audited (truthful : s.db.Truthful) (moved : s.step env action = some next)
    (audited : next.Audited env) : Whole env s action next := by
  intro torn changed
  have performs := performs_perform env s.db action
  rcases administration_step moved with ⟨rawKeys, returned, -⟩ | ⟨trouble, failed, -⟩
  · rw [returned] at performs
    rw [performs.whole] at torn
    cases torn
  · rw [failed] at performs
    obtain ⟨db, handed⟩ := next
    cases performs with
    | quiet spared => exact spared ⟨torn, changed⟩
    | @tornCreation _ key _ _ _ active inserted =>
        obtain ⟨rfl, fresh⟩ := insertKey_eq_some inserted
        obtain ⟨entry, there, said, about⟩ :=
          audited.created key (List.mem_append_right _ List.mem_cons_self)
        obtain ⟨other, member, same⟩ := truthful.created entry there said
        exact fresh other member (same.trans about)
    | @tornRevocation _ keyId key _ _ changes revoked =>
        obtain ⟨found, read, active⟩ := changes.mp changed
        obtain ⟨row, there, same, inactive⟩ := mem_deactivated revoked
        obtain ⟨entry, listed, said, about⟩ := audited.revoked row there inactive
        obtain ⟨rfl, named, -⟩ := deactivateKey_eq_some revoked
        obtain ⟨other, member, own, resting⟩ := truthful.revoked entry listed said
        have found_id : found.id = keyId := by simpa using List.find?_some read
        obtain rfl := truthful.unique other member found (List.mem_of_find?_eq_some read)
          (own.trans (about.trans (same.trans (named.trans found_id.symm))))
        rw [active] at resting
        cases resting

/-- **The audit trail, exactly**: in a run of operations, each of which may lose any transaction,
the trail is complete in every state and every error leaves the tables as they were if and only if
no operation is cut off between changing a key and auditing the change. -/
theorem audited_iff (env : Environment) (actions : List AdminAction) :
    (Always (Administration.step env) (Administration.Audited env) {} actions ∧
        Throughout (Administration.step env) (UnchangedOnError env) {} actions) ↔
      Throughout (Administration.step env) (Whole env) {} actions := by
  have truthful : ∀ before after s, actions = before ++ after →
      run (Administration.step env) {} before = some s → s.db.Truthful := by
    intro before after s split reached
    refine invariant_of_step (P := fun s => s.db.Truthful) truthful_init ?_ reached
    exact fun _ _ _ truthful moved => truthful_step truthful moved
  constructor
  · rintro ⟨always, -⟩ before action after s next split reached moved
    exact whole_of_audited (truthful before _ s split reached) moved
      (always.after_step split reached moved)
  · intro whole
    constructor
    · intro before after s split reached
      have both : s.db.Truthful ∧ s.Audited env := by
        refine invariant (P := fun s => s.db.Truthful ∧ s.Audited env) ⟨truthful_init, ?_⟩ ?_
          (whole.of_split split) reached
        · exact ⟨by simp, by simp, by simp⟩
        · exact fun _ _ _ sound moved met =>
            ⟨truthful_step sound.1 moved, audited_step sound.1 sound.2 moved met⟩
      exact both.2
    · intro before action after s next split reached moved
      exact unchanged_step (truthful before _ s split reached) moved
        (whole before action after s next split reached moved)

end Runs

/-- A key is created on the command line, and its audit entry is refused. -/
def refusedAudit : AdminAction where
  operation := .commandCreateKey "client" false none none
  draw := ⟨1, ⟨"AAAAAAAAAAAAAAAAAAAAAAAAAAAAAAAAAAAAAAAAAAA", by decide +kernel⟩⟩
  now := 0
  lapse := some (.refused .audit)

/-- A key is in the table that nobody was given. -/
def unowned (s : Administration) : Bool :=
  s.handed.isEmpty && s.db.auditLogs.isEmpty && s.db.apiKeys.any fun key => key.isActive

/-- **A key that nobody has**: the command ends with an error, and an active key stays behind
without an audit entry. -/
theorem unowned_key :
    ¬ (Always (Administration.step demoEnvironment) (Administration.Audited demoEnvironment) {}
          [refusedAudit] ∧
        Throughout (Administration.step demoEnvironment) (UnchangedOnError demoEnvironment) {}
          [refusedAudit]) := by
  rintro ⟨always, -⟩
  refine not_always_of_last unowned ?_ (by decide +kernel) always
  intro s orphan audited
  simp only [unowned, Bool.and_eq_true, List.isEmpty_iff] at orphan
  obtain ⟨key, member, -⟩ := List.any_eq_true.mp orphan.2
  obtain ⟨entry, there, -⟩ := audited.created key member
  rw [orphan.1.2] at there
  cases there

end LlmGateway
