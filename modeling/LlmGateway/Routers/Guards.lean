import LlmGateway.Core.Config
import LlmGateway.Core.Security
import LlmGateway.Library.PythonText

/-!
# The guards of the endpoints

`authenticate_request` and `enforce_spend_cap` of `routers/chat.py`. The spend cap reads the
database three times: the key, what the key has spent, and what all keys have spent. Each
read is a definition of its own (`keyLimit`, `checkKeySpend`, `checkGlobalSpend`), since the
database may change in between.
-/

set_option autoImplicit false

namespace LlmGateway

open LlmGateway.Library

/-- An `HTTPException`: its status and its detail. -/
structure HttpException where
  status : ℕ
  detail : Json

/-- A detail with a message and a type. -/
def errorDetail (message errorType : String) : Json :=
  .obj [("error", .obj [("message", .str message), ("type", .str errorType)])]

/-! ## Authentication -/

/-- The raw key of an `Authorization` header, if it carries one. -/
def bearerKey (header : Option String) : Option String :=
  match header with
  | none => none
  | some text =>
      if "Bearer ".toList.isPrefixOf text.toList then
        let rawKey := PythonText.strip (text.toList.drop "Bearer ".length)
        if rawKey.isEmpty then none else some (String.ofList rawKey)
      else none

/-- `authenticate_request`. -/
def authenticateRequest (env : Environment) (db : Database) (now : ℚ) (header : Option String) :
    Except HttpException ℤ :=
  match bearerKey header with
  | none => .error ⟨401, .str "Missing or invalid API key"⟩
  | some rawKey =>
      match authenticateVirtualKey env rawKey db.getKeyByHash now with
      | .error _ => .error ⟨401, .str "Invalid API key"⟩
      | .ok key => .ok key.id

/-- A request is authenticated by the raw key of an active record that has not expired. -/
theorem authenticateRequest_eq_ok {env : Environment} {db : Database} {now : ℚ}
    {header : Option String} {virtualKeyId : ℤ} :
    authenticateRequest env db now header = .ok virtualKeyId ↔
      ∃ rawKey key, bearerKey header = some rawKey ∧
        db.getKeyByHash (hashKey env rawKey) = some key ∧ key.isActive = true ∧
          isExpired key.expiresAt now = false ∧ key.id = virtualKeyId := by
  unfold authenticateRequest
  cases bearerKey header with
  | none => simp
  | some rawKey =>
      simp only [Option.some.injEq, exists_and_left, exists_eq_left']
      cases authenticated : authenticateVirtualKey env rawKey db.getKeyByHash now with
      | error failure =>
          constructor
          · intro failed
            cases failed
          · rintro ⟨key, found, active, current, -⟩
            rw [authenticateVirtualKey_eq_ok.mpr ⟨found, active, current⟩] at authenticated
            cases authenticated
      | ok key =>
          obtain ⟨found, active, current⟩ := authenticateVirtualKey_eq_ok.mp authenticated
          constructor
          · intro same
            exact ⟨key, found, active, current, Except.ok.inj same⟩
          · rintro ⟨other, there, -, -, rfl⟩
            cases found.symm.trans there
            rfl

/-! ## The spend cap -/

/-- The spend limit of a key that has been looked up. -/
def keyLimit (key : Option ApiKey) : Option ℚ := key.bind ApiKey.spendLimitUsd

/-- The rejection of a key that has spent its limit. -/
def keySpendExceeded (limit spent : ℚ) : HttpException where
  status := 429
  detail := errorDetail ("Spend limit exceeded ($" ++ Decimal.text 6 spent ++ " >= $" ++
    Decimal.text 2 limit ++ ")") "insufficient_quota"

/-- The rejection once all keys together have spent the global limit. -/
def globalSpendExceeded : HttpException where
  status := 429
  detail := errorDetail "Global spend limit exceeded" "insufficient_quota"

/-- The comparison of `enforce_spend_cap` with the limit of the key. -/
def checkKeySpend (limit spent : ℚ) : Except HttpException Unit :=
  if limit ≤ spent then .error (keySpendExceeded limit spent) else .ok ()

/-- The comparison of `enforce_spend_cap` with the global limit. -/
def checkGlobalSpend (limit spent : ℚ) : Except HttpException Unit :=
  if limit ≤ spent then .error globalSpendExceeded else .ok ()

/-- The first half of `enforce_spend_cap`. -/
def enforceKeyCap (db : Database) (virtualKeyId : ℤ) : Except HttpException Unit :=
  match keyLimit (db.getKeyById virtualKeyId) with
  | none => .ok ()
  | some limit => checkKeySpend limit (db.getKeySpendUsd virtualKeyId)

/-- The second half of `enforce_spend_cap`. -/
def enforceGlobalCap (settings : Settings) (db : Database) : Except HttpException Unit :=
  match settings.globalSpendLimitUsd with
  | none => .ok ()
  | some limit => checkGlobalSpend limit db.getGlobalSpendUsd

/-- `enforce_spend_cap` on a database that stays as it is meanwhile. -/
def enforceSpendCap (settings : Settings) (db : Database) (virtualKeyId : ℤ) :
    Except HttpException ℤ := do
  enforceKeyCap db virtualKeyId
  enforceGlobalCap settings db
  pure virtualKeyId

/-- A key that has spent its limit is not admitted. -/
theorem enforceSpendCap_rejects (settings : Settings) {db : Database} {key : ApiKey} {limit : ℚ}
    (found : db.getKeyById key.id = some key) (limited : key.spendLimitUsd = some limit)
    (reached : limit ≤ db.getKeySpendUsd key.id) (admitted : ℤ) :
    enforceSpendCap settings db key.id ≠ .ok admitted := by
  have capped : keyLimit (some key) = some limit := limited
  have rejected : enforceKeyCap db key.id =
      .error (keySpendExceeded limit (db.getKeySpendUsd key.id)) := by
    rw [enforceKeyCap, found, capped]
    exact if_pos reached
  intro same
  rw [enforceSpendCap, rejected] at same
  cases same

/-! ## The ceiling on `max_tokens` -/

/-- The rejection of a request that asks for more than the ceiling. -/
def maxTokensExceeded (count limit : ℤ) : HttpException where
  status := 400
  detail := errorDetail ("max_tokens (" ++ String.ofList (Json.printInt count) ++
    ") exceeds the configured limit (" ++ String.ofList (Json.printInt limit) ++ ")")
    "invalid_request_error"

/-- `_enforce_max_tokens`, where the setting is `limit`. -/
def enforceMaxTokens (limit : ℤ) (body : ChatRequest) : Except HttpException ChatRequest :=
  match body.maxTokens with
  | some count => if limit < count then .error (maxTokensExceeded count limit) else .ok body
  | none => .ok { body with maxTokens := some limit }

theorem enforceMaxTokens_eq_ok {limit : ℤ} {body sent : ChatRequest} :
    enforceMaxTokens limit body = .ok sent ↔
      (∃ count, body.maxTokens = some count ∧ count ≤ limit ∧ sent = body) ∨
        body.maxTokens = none ∧ sent = { body with maxTokens := some limit } := by
  unfold enforceMaxTokens
  cases given : body.maxTokens with
  | none => simp [eq_comm]
  | some count =>
      by_cases above : limit < count
      · simp [above]
      · simp [above, not_lt.mp above, eq_comm]

/-- A request that is let through asks for no more than the ceiling. -/
theorem enforceMaxTokens_bounded {limit : ℤ} {body sent : ChatRequest}
    (enforced : enforceMaxTokens limit body = .ok sent) :
    ∃ count, sent.maxTokens = some count ∧ count ≤ limit := by
  rcases enforceMaxTokens_eq_ok.mp enforced with ⟨count, given, low, rfl⟩ | ⟨-, rfl⟩
  · exact ⟨count, given, low⟩
  · exact ⟨limit, rfl, le_rfl⟩

end LlmGateway
