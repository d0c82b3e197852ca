import LlmGateway.Services.Cache
import LlmGateway.Storage.Repositories

/-!
# Virtual keys

The digest of a raw key and the authentication of a virtual key, after `core/security.py`.
-/

set_option autoImplicit false

namespace LlmGateway

/-- `hash_key`. -/
def hashKey (env : Environment) (rawKey : String) : String := (env.sha256 rawKey).text

/-- `_is_expired`. -/
def isExpired (expiresAt : Option ℚ) (now : ℚ) : Bool :=
  match expiresAt with
  | none => false
  | some expiry => decide (expiry ≤ now)

/-- `authenticate_virtual_key`. -/
def authenticateVirtualKey (env : Environment) (rawKey : String)
    (lookup : String → Option ApiKey) (now : ℚ) : Except InvalidVirtualKeyError ApiKey :=
  match lookup (hashKey env rawKey) with
  | none => .error ⟨"Virtual API key not found or inactive."⟩
  | some key =>
      if !key.isActive then .error ⟨"Virtual API key not found or inactive."⟩
      else if isExpired key.expiresAt now then .error ⟨"Virtual API key has expired."⟩
      else .ok key

/-- A key authenticates exactly when its record is active and has not expired. -/
theorem authenticateVirtualKey_eq_ok {env : Environment} {rawKey : String}
    {lookup : String → Option ApiKey} {now : ℚ} {key : ApiKey} :
    authenticateVirtualKey env rawKey lookup now = .ok key ↔
      lookup (hashKey env rawKey) = some key ∧ key.isActive = true ∧
        isExpired key.expiresAt now = false := by
  unfold authenticateVirtualKey
  cases found : lookup (hashKey env rawKey) with
  | none => simp
  | some other =>
      simp only [Option.some.injEq]
      split_ifs with inactive expired
      · constructor
        · intro failed
          cases failed
        · rintro ⟨rfl, active, -⟩
          simp [active] at inactive
      · constructor
        · intro failed
          cases failed
        · rintro ⟨rfl, -, current⟩
          simp [current] at expired
      · constructor
        · intro same
          cases same
          exact ⟨rfl, by simpa using inactive, by simpa using expired⟩
        · rintro ⟨rfl, -, -⟩
          rfl

end LlmGateway
