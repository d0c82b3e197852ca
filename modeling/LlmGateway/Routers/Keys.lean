import LlmGateway.Routers.Guards

/-!
# Key administration

The endpoints of `routers/keys.py` behind their authentication, each as a function of the
database of its moment. Creating a key draws an id and a token; the raw key is in the response
of its creation and nowhere else.
-/

set_option autoImplicit false

namespace LlmGateway

open LlmGateway.Library

/-! ## Bodies -/

/-- A client name after `_client_name_not_blank`. -/
def stripped (text : String) : String := String.ofList (PythonText.strip text.toList)

/-- `KeyCreate`, a body that has passed its validation. -/
structure KeyCreate where
  clientName : String
  expiresInDays : Option ℕ := some 90
  spendLimitUsd : Option ℚ := none
  named : 1 ≤ clientName.length ∧ clientName.length ≤ 120
  notBlank : stripped clientName ≠ ""
  days : ∀ days ∈ expiresInDays, 1 ≤ days ∧ days ≤ 3650
  limit : ∀ limit ∈ spendLimitUsd, 0 ≤ limit

/-- `secrets.token_urlsafe(32)`: characters of a URL. -/
structure Token where
  text : String
  urlSafe : (text.toList.all fun c => c.isAlphanum || c == '-' || c == '_') = true

/-- What the database and the random source give to a new key. -/
structure Draw where
  id : ℤ
  token : Token

/-- The raw key of a draw. -/
def Draw.rawKey (draw : Draw) : String := "sk-" ++ draw.token.text

/-- `KeyCreated`. -/
structure KeyCreated where
  id : ℤ
  clientName : String
  apiKey : String
  spendLimitUsd : Option ℚ
  createdAt : ℚ
  expiresAt : Option ℚ
deriving DecidableEq

/-- `KeySummary`. -/
structure KeySummary where
  id : ℤ
  clientName : String
  isActive : Bool
  spendLimitUsd : Option ℚ
  createdAt : ℚ
  expiresAt : Option ℚ
deriving DecidableEq

/-! ## Endpoints -/

/-- `get_keys`. -/
def getKeys (db : Database) : List KeySummary :=
  db.listKeys.map fun key =>
    ⟨key.id, key.clientName, key.isActive, key.spendLimitUsd, key.createdAt, key.expiresAt⟩

/-- The row of a new key. -/
def newKey (env : Environment) (payload : KeyCreate) (draw : Draw) (now : ℚ) : ApiKey where
  id := draw.id
  hashedKey := hashKey env draw.rawKey
  clientName := stripped payload.clientName
  isActive := true
  spendLimitUsd := payload.spendLimitUsd.map (Decimal.column 2)
  expiresAt := payload.expiresInDays.map fun days => now + days * 86400
  createdAt := now

/-- `create_key`: nothing when the database refuses the row. -/
def createKey (env : Environment) (db : Database) (payload : KeyCreate) (draw : Draw) (now : ℚ) :
    Option (Database × KeyCreated) :=
  let key := newKey env payload draw now
  (db.insertKey key).map fun inserted =>
    (inserted.createAuditLog ⟨.keyCreated, key.id, key.clientName, { expiresAt := key.expiresAt }⟩,
      ⟨key.id, key.clientName, draw.rawKey, key.spendLimitUsd, key.createdAt, key.expiresAt⟩)

/-- `revoke_key`. -/
def revokeKey (db : Database) (keyId : ℤ) : Except HttpException Database :=
  match db.deactivateKey keyId with
  | none => .error ⟨404, .str "chave não encontrada"⟩
  | some (key, deactivated) =>
      .ok (deactivated.createAuditLog ⟨.keyRevoked, key.id, key.clientName, {}⟩)

/-! ## Lookups after an operation -/

section Lookup

variable {db next : Database}

/-- A row with the changes of `deactivate_key`. -/
def ApiKey.deactivated (key : ApiKey) (keyId : ℤ) : ApiKey :=
  if key.id = keyId then { key with isActive := false } else key

theorem find_map_deactivated (keys : List ApiKey) (keyId : ℤ) (test : ApiKey → Bool)
    (same : ∀ key : ApiKey, test (key.deactivated keyId) = test key) :
    (keys.map fun key => key.deactivated keyId).find? test =
      (keys.find? test).map fun key => key.deactivated keyId := by
  rw [List.find?_map]
  congr 2
  funext key
  exact same key

theorem getKeyByHash_deactivateKey {keyId : ℤ} {key : ApiKey}
    (deactivated : db.deactivateKey keyId = some (key, next)) (keyHash : String) :
    next.getKeyByHash keyHash = (db.getKeyByHash keyHash).map fun key => key.deactivated keyId := by
  obtain ⟨found, -, same⟩ := Option.map_eq_some_iff.mp deactivated
  cases same
  refine find_map_deactivated db.apiKeys keyId _ fun key => ?_
  unfold ApiKey.deactivated
  split_ifs <;> rfl

theorem getKeyById_deactivateKey {keyId : ℤ} {key : ApiKey}
    (deactivated : db.deactivateKey keyId = some (key, next)) (other : ℤ) :
    next.getKeyById other = (db.getKeyById other).map fun key => key.deactivated keyId := by
  obtain ⟨found, -, same⟩ := Option.map_eq_some_iff.mp deactivated
  cases same
  refine find_map_deactivated db.apiKeys keyId _ fun key => ?_
  unfold ApiKey.deactivated
  split_ifs <;> rfl

/-- The lookups after a revocation. -/
theorem lookups_revokeKey {keyId : ℤ} (revokes : revokeKey db keyId = .ok next) :
    (∀ keyHash, next.getKeyByHash keyHash =
      (db.getKeyByHash keyHash).map fun key => key.deactivated keyId) ∧
    ∀ other, next.getKeyById other = (db.getKeyById other).map fun key => key.deactivated keyId := by
  unfold revokeKey at revokes
  split at revokes
  · cases revokes
  · rename_i deactivated
    cases revokes
    exact ⟨fun keyHash => getKeyByHash_deactivateKey deactivated keyHash,
      fun other => getKeyById_deactivateKey deactivated other⟩

/-- A key that exists can be revoked. -/
theorem revokeKey_of_found {keyId : ℤ} {key : ApiKey} (found : db.getKeyById keyId = some key) :
    ∃ next, revokeKey db keyId = .ok next := by
  unfold revokeKey Database.deactivateKey
  rw [found]
  exact ⟨_, rfl⟩

/-- Inserting a row hides no other. -/
theorem getKeyByHash_insertKey {key found : ApiKey} (inserted : db.insertKey key = some next)
    {keyHash : String} (there : db.getKeyByHash keyHash = some found) :
    next.getKeyByHash keyHash = some found := by
  unfold Database.insertKey at inserted
  split_ifs at inserted
  cases inserted
  rw [Database.getKeyByHash, List.find?_append]
  unfold Database.getKeyByHash at there
  rw [there]
  rfl

theorem getKeyById_insertKey {key found : ApiKey} (inserted : db.insertKey key = some next)
    {keyId : ℤ} (there : db.getKeyById keyId = some found) :
    next.getKeyById keyId = some found := by
  unfold Database.insertKey at inserted
  split_ifs at inserted
  cases inserted
  rw [Database.getKeyById, List.find?_append]
  unfold Database.getKeyById at there
  rw [there]
  rfl

/-- A new row is found under its digest, and its id was free. -/
theorem getKeyByHash_inserted {key : ApiKey} (inserted : db.insertKey key = some next) :
    next.getKeyByHash key.hashedKey = some key ∧ db.getKeyById key.id = none := by
  unfold Database.insertKey at inserted
  split_ifs at inserted with taken
  cases inserted
  obtain ⟨unhashed, unnamed⟩ := not_or.mp taken
  refine ⟨?_, Option.not_isSome_iff_eq_none.mp unnamed⟩
  have free : db.apiKeys.find? (fun other => other.hashedKey == key.hashedKey) = none :=
    Option.not_isSome_iff_eq_none.mp unhashed
  rw [Database.getKeyByHash, List.find?_append, free]
  simp

/-- A created key is stored under its digest, its id was free, and the response carries it. -/
theorem createKey_created {env : Environment} {payload : KeyCreate} {draw : Draw} {now : ℚ}
    {created : KeyCreated} (creates : createKey env db payload draw now = some (next, created)) :
    created.apiKey = draw.rawKey ∧
      next.getKeyByHash (hashKey env draw.rawKey) = some (newKey env payload draw now) ∧
        db.getKeyById draw.id = none := by
  obtain ⟨inserted, inserts, same⟩ := Option.map_eq_some_iff.mp creates
  cases same
  obtain ⟨there, free⟩ := getKeyByHash_inserted inserts
  exact ⟨rfl, there, free⟩

end Lookup

end LlmGateway
