import LlmGateway.Library.Runs
import LlmGateway.Routers.Keys

/-!
# The holder of a leaked key

Somebody who knows one raw key sends requests to the gateway. An endpoint authenticates its
request at one moment and does its work at a later one, and anything may happen in between:
the operator and other clients create and revoke keys, usage is committed, time passes. The
holder sends only credentials that it knows, and it learns those that a response carries.
-/

set_option autoImplicit false

namespace LlmGateway

open LlmGateway.Library

/-- A request to one of the endpoints. -/
inductive ApiRequest where
  | getKeys
  | createKey (payload : KeyCreate)
  | revokeKey (keyId : ℤ)
  | chat

/-- A response. That of a chat request stands for its admission by the spend cap. -/
inductive ApiResponse where
  | keys (summaries : List KeySummary)
  | created (key : KeyCreated)
  | revoked
  | admitted
  | failed (exception : HttpException)
  | serverError

/-- The raw keys in a response. -/
def ApiResponse.credentials : ApiResponse → List String
  | .created key => [key.apiKey]
  | _ => []

/-- The work of an endpoint for an authenticated request. -/
def respond (env : Environment) (db : Database) (now : ℚ) (virtualKeyId : ℤ) (draw : Draw) :
    ApiRequest → Database × ApiResponse
  | .getKeys => (db, .keys (getKeys db))
  | .createKey payload =>
      match createKey env db payload draw now with
      | none => (db, .serverError)
      | some (next, key) => (next, .created key)
  | .revokeKey keyId =>
      match revokeKey db keyId with
      | .error exception => (db, .failed exception)
      | .ok next => (next, .revoked)
  | .chat =>
      match enforceSpendCap env.settings db virtualKeyId with
      | .error exception => (db, .failed exception)
      | .ok _ => (db, .admitted)

/-- The gateway and the holder: its credentials, and its requests that are authenticated. -/
structure Leak where
  db : Database
  clock : ℚ
  credentials : List String
  pending : List (ApiRequest × ℤ) := []

inductive LeakAction where
  | send (header : Option String) (request : ApiRequest)
  | handle (position : ℕ) (draw : Draw)
  | other (request : ApiRequest) (virtualKeyId : ℤ) (draw : Draw)
  | commit (task : UsageTask)
  | wait (now : ℚ)

namespace Leak

variable (env : Environment) (s : Leak)

/-- A header that the holder can form. -/
def Forms (header : Option String) : Prop :=
  ∀ rawKey, bearerKey header = some rawKey → rawKey ∈ s.credentials

instance (header : Option String) : Decidable (s.Forms header) :=
  match found : bearerKey header with
  | none => isTrue fun rawKey same => by rw [found] at same; cases same
  | some own =>
      if known : own ∈ s.credentials then
        isTrue fun rawKey same => by rw [found] at same; cases same; exact known
      else isFalse fun forms => known (forms own found)

/-- **One step.** -/
def step : LeakAction → Option Leak
  | .send header request =>
      if s.Forms header then
        match authenticateRequest env s.db s.clock header with
        | .error _ => some s
        | .ok virtualKeyId => some { s with pending := s.pending ++ [(request, virtualKeyId)] }
      else none
  | .handle position draw =>
      match s.pending[position]? with
      | none => none
      | some (request, virtualKeyId) =>
          let (db, response) := respond env s.db s.clock virtualKeyId draw request
          some { s with
            db
            credentials := s.credentials ++ response.credentials
            pending := s.pending.eraseIdx position }
  | .other request virtualKeyId draw =>
      some { s with db := (respond env s.db s.clock virtualKeyId draw request).1 }
  | .commit task => some { s with db := s.db.perform task }
  | .wait now => if s.clock ≤ now then some { s with clock := now } else none

/-- The leaked key has expired or is revoked. -/
def Over (leaked : String) : Prop :=
  ∃ key, s.db.getKeyByHash (hashKey env leaked) = some key ∧
    (key.isActive = false ∨ isExpired key.expiresAt s.clock = true)

/-- The leaked key has spent its limit. -/
def LimitReached (leaked : String) : Prop :=
  ∃ key limit, s.db.getKeyByHash (hashKey env leaked) = some key ∧
    key.spendLimitUsd = some limit ∧ limit ≤ s.db.getKeySpendUsd key.id

/-- No credential of the holder authenticates. -/
def Silenced : Prop :=
  ∀ header, s.Forms header → ∀ virtualKeyId,
    authenticateRequest env s.db s.clock header ≠ .ok virtualKeyId

/-- No chat request of the holder is admitted, whether it is authenticated now or before. -/
def Capped : Prop :=
  (∀ header, s.Forms header → ∀ virtualKeyId,
    authenticateRequest env s.db s.clock header = .ok virtualKeyId →
      ∀ admitted, enforceSpendCap env.settings s.db virtualKeyId ≠ .ok admitted) ∧
    ∀ virtualKeyId, (ApiRequest.chat, virtualKeyId) ∈ s.pending →
      ∀ admitted, enforceSpendCap env.settings s.db virtualKeyId ≠ .ok admitted

end Leak

/-- **A leaked key stays contained** in a run: once it is over, no credential of the holder
authenticates any more, and while its limit is reached no chat request of the holder is
admitted. -/
structure Contained (env : Environment) (leaked : String) (start : Leak)
    (actions : List LeakAction) : Prop where
  silenced : ∀ before middle after earlier later, actions = before ++ middle ++ after →
    run (Leak.step env) start before = some earlier →
      run (Leak.step env) earlier middle = some later →
        earlier.Over env leaked → later.Silenced env
  capped : Always (Leak.step env) (fun s => s.LimitReached env leaked → s.Capped env) start actions

/-- A step in which the holder is given a key. -/
def GivesKey (env : Environment) (s : Leak) (action : LeakAction) : Prop :=
  ∃ position draw payload virtualKeyId, action = .handle position draw ∧
    s.pending[position]? = some (.createKey payload, virtualKeyId) ∧
      (createKey env s.db payload draw s.clock).isSome = true

end LlmGateway
