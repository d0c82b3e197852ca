import LlmGateway.Library.Interpreter
import LlmGateway.Library.Json.Equal
import LlmGateway.Library.Redis
import LlmGateway.Services.Usage
import Mathlib.Algebra.BigOperators.Group.List.Basic

/-!
# The response cache

Cache keys, the commands sent to Redis, and the decoding of an entry, after
`services/cache.py`.

A cache key is a hexadecimal digest. It is therefore never the key of a lock or of a rate
limit (`digest_ne_lockKey`, `digest_ne_rateLimitKey`). If the digest does not collide on
two bodies, equal keys come from one virtual key and from requests with the same
dump (`same_of_buildCacheKey`).
-/

set_option autoImplicit false

namespace LlmGateway

open LlmGateway.Library (Interpreter Json)
open LlmGateway.Library.Redis (Command)

/-! ## What the gateway gets from outside -/

/-- A character of a hexadecimal digest. -/
def isHexDigit (c : Char) : Bool := c.isDigit || (decide ('a' ≤ c) && decide (c ≤ 'f'))

/-- The text of a hexadecimal digest. -/
@[ext]
structure HexDigest where
  text : String
  hexadecimal : text.toList.all isHexDigit = true

/-- Pydantic's `model_dump_json` and `model_validate_json` of a `ChatResponse`. -/
structure Codec where
  modelDumpJson : ChatResponse → String
  modelValidateJson : String → Option ChatResponse

/-- Validation reads back what was dumped. -/
def Codec.Inverse (codec : Codec) : Prop :=
  ∀ response, codec.modelValidateJson (codec.modelDumpJson response) = some response

/-- Whatever is dumped validates. -/
def Codec.Readable (codec : Codec) : Prop :=
  ∀ response, (codec.modelValidateJson (codec.modelDumpJson response)).isSome = true

theorem Codec.Inverse.readable {codec : Codec} (inverse : codec.Inverse) : codec.Readable :=
  fun response => by rw [inverse response]; rfl

/-- A call of one of the two endpoints, named by its number. -/
abbrev CallId := ℕ

/-- What the gateway is given: its settings, the interpreter that it runs on, SHA-256 of an ASCII
text, pydantic's JSON codec, and the release token that each call would draw. -/
structure Environment where
  settings : Settings
  python : Interpreter
  sha256 : String → HexDigest
  codec : Codec
  token : CallId → String

/-- The codec that writes the compact JSON form and accepts nothing else. -/
def jsonCodec : Codec where
  modelDumpJson response := Json.dumps .compact response.toJson
  modelValidateJson text := (Json.parse text).bind ChatResponse.ofJson

theorem jsonCodec_inverse : jsonCodec.Inverse := fun response => by
  simp only [jsonCodec, Json.parse_dumps _ response.keyed_toJson, Option.bind_some,
    ChatResponse.ofJson_toJson]

/-! ## Keys -/

/-- The `namespace` of a cache key. -/
inductive Namespace where
  | int (id : ℤ)
  | str (text : String)
deriving DecidableEq

def Namespace.toJson : Namespace → Json
  | .int id => .int id
  | .str text => .str text

/-- The text that `build_cache_key` hashes. -/
def cacheKeyBody (request : ChatRequest) (space : Option Namespace) : String :=
  Json.dumps .compact
    (Json.arr (request.modelDump :: (space.map Namespace.toJson).toList)).sortKeys

/-- `build_cache_key`. -/
def buildCacheKey (env : Environment) (request : ChatRequest) (space : Option Namespace) : String :=
  (env.sha256 (cacheKeyBody request space)).text

/-- `_lock_key`. -/
def lockKey (cacheKey : String) : String := "lock:" ++ cacheKey

/-- The key of a virtual key's rate limit. -/
def rateLimitKey (virtualKeyId : ℤ) : String :=
  "ratelimit:" ++ String.ofList (Json.printInt virtualKeyId)

/-! ## Entries and commands -/

/-- `_parse_entry`: nothing when the entry does not validate. -/
def parseEntry (env : Environment) (raw : String) : Option ChatResponse :=
  env.codec.modelValidateJson raw

/-- The command of `cache.set`. -/
def storeCommand (env : Environment) (cacheKey : String) (response : ChatResponse) : Command :=
  .set cacheKey (env.codec.modelDumpJson response) false env.settings.cacheTtlSeconds

/-- The grace added to the worst case of the chain. -/
def lockTtlGraceSeconds : ℚ := 5

/-- The time to live that `handle_chat_completion` asks for. -/
def lockTtlSeconds (providers : List BaseProvider) : ℚ :=
  (providers.map fun provider => provider.config.timeout).sum + lockTtlGraceSeconds

/-- The command of `acquire_lock`. -/
def acquireCommand (cacheKey token : String) (ttlSeconds : ℚ) : Command :=
  .set (lockKey cacheKey) token true ⌈ttlSeconds⌉

/-- The command of `release_lock`. -/
def releaseCommand (cacheKey token : String) : Command :=
  .compareAndDelete (lockKey cacheKey) token

/-! ## The three families of keys -/

theorem not_hexDigit_l : isHexDigit 'l' = false := by decide

theorem not_hexDigit_r : isHexDigit 'r' = false := by decide

/-- A digest does not start with a character that is no hexadecimal digit. -/
theorem digest_ne_of_head (digest : HexDigest) {text : String} {c : Char} {rest : List Char}
    (start : text.toList = c :: rest) (foreign : isHexDigit c = false) : digest.text ≠ text := by
  intro same
  have all := digest.hexadecimal
  rw [same, start, List.all_cons, foreign] at all
  cases all

theorem digest_ne_lockKey (digest : HexDigest) (cacheKey : String) :
    digest.text ≠ lockKey cacheKey :=
  digest_ne_of_head digest (by rw [lockKey, String.toList_append]; rfl) not_hexDigit_l

theorem digest_ne_rateLimitKey (digest : HexDigest) (virtualKeyId : ℤ) :
    digest.text ≠ rateLimitKey virtualKeyId :=
  digest_ne_of_head digest (by rw [rateLimitKey, String.toList_append]; rfl) not_hexDigit_r

/-- A lock key is no rate limit key. -/
theorem lockKey_ne_rateLimitKey (cacheKey : String) (virtualKeyId : ℤ) :
    lockKey cacheKey ≠ rateLimitKey virtualKeyId := fun same => by
  have texts := congrArg String.toList same
  rw [lockKey, rateLimitKey, String.toList_append, String.toList_append] at texts
  exact absurd (List.head_eq_of_cons_eq texts) (by decide)

theorem lockKey_injective : Function.Injective lockKey := fun first second same => by
  have texts := congrArg String.toList same
  rw [lockKey, lockKey, String.toList_append, String.toList_append] at texts
  exact String.toList_inj.mp (List.append_cancel_left texts)

theorem rateLimitKey_injective : Function.Injective rateLimitKey := fun first second same => by
  have texts := congrArg String.toList same
  rw [rateLimitKey, rateLimitKey, String.toList_append, String.toList_append] at texts
  have digits := List.append_cancel_left texts
  rw [String.toList_ofList, String.toList_ofList] at digits
  rw [← Json.intValue_printInt first, digits, Json.intValue_printInt]

/-! ## What a cache key identifies -/

theorem Namespace.keyed_toJson (space : Namespace) : space.toJson.Keyed := by
  cases space <;> trivial

theorem keyed_cacheKeyBody (request : ChatRequest) (space : Option Namespace) :
    (Json.arr (request.modelDump :: (space.map Namespace.toJson).toList)).Keyed := by
  cases space with
  | none => exact ⟨request.keyed_modelDump, trivial⟩
  | some space => exact ⟨request.keyed_modelDump, space.keyed_toJson, trivial⟩

theorem Namespace.toJson_sortKeys (space : Namespace) : space.toJson.sortKeys = space.toJson := by
  cases space <;> rfl

theorem Namespace.toJson_injective : Function.Injective Namespace.toJson := by
  intro first second same
  cases first <;> cases second <;> cases same <;> rfl

/-- Equal bodies come from one namespace and from requests with the same dump. -/
theorem same_of_cacheKeyBody {first second : ChatRequest} {space other : Option Namespace}
    (equal : cacheKeyBody first space = cacheKeyBody second other) :
    space = other ∧ Json.Same first.modelDump second.modelDump := by
  have same := Json.same_of_dumps_sortKeys .compact (keyed_cacheKeyBody first space)
    (keyed_cacheKeyBody second other) equal
  simp only [Json.Same, Json.sortKeys, Json.sortItems, Json.arr.injEq, List.cons.injEq] at same
  refine ⟨?_, same.1⟩
  rcases space with _ | space <;> rcases other with _ | other
  · rfl
  · simp [Json.sortItems] at same
  · simp [Json.sortItems] at same
  · have texts := same.2
    simp only [Option.map_some, Option.toList_some, Json.sortItems, Namespace.toJson_sortKeys,
      List.cons.injEq, and_true] at texts
    rw [Namespace.toJson_injective texts]

/-- **What a cache key identifies.** Where the digest does not collide, requests with one
key have one virtual key and the same dump. -/
theorem same_of_buildCacheKey {env : Environment} {first second : ChatRequest}
    {space other : Option Namespace}
    (collisionFree : env.sha256 (cacheKeyBody first space) = env.sha256 (cacheKeyBody second other) →
      cacheKeyBody first space = cacheKeyBody second other)
    (equal : buildCacheKey env first space = buildCacheKey env second other) :
    space = other ∧ Json.Same first.modelDump second.modelDump := by
  exact same_of_cacheKeyBody (collisionFree (HexDigest.ext equal))

/-- The body depends on the dump only up to the order of its members. -/
theorem cacheKeyBody_of_same {first second : ChatRequest} (space : Option Namespace)
    (same : Json.Same first.modelDump second.modelDump) :
    cacheKeyBody first space = cacheKeyBody second space := by
  simp only [cacheKeyBody, Json.sortKeys, Json.sortItems]
  rw [show first.modelDump.sortKeys = second.modelDump.sortKeys from same]

/-- **Exactness of the cache key.** Where SHA-256 does not collide on their bodies, two requests
have one key if and only if their namespaces are the same and their dumps are equal as JSON
values. -/
theorem cache_key_exact (env : Environment) (first second : ChatRequest)
    (space other : Option Namespace)
    (collisionFree : env.sha256 (cacheKeyBody first space) = env.sha256 (cacheKeyBody second other) →
      cacheKeyBody first space = cacheKeyBody second other) :
    buildCacheKey env first space = buildCacheKey env second other ↔
      space = other ∧ Json.Equal first.modelDump second.modelDump := by
  rw [Json.equal_iff_same _ _ first.keyed_modelDump second.keyed_modelDump]
  constructor
  · exact same_of_buildCacheKey collisionFree
  · rintro ⟨rfl, same⟩
    rw [buildCacheKey, buildCacheKey, cacheKeyBody_of_same space same]

/-! ## An environment for concrete runs -/

/-- A request of one user message. -/
def demoRequest (stream : Bool) : ChatRequest :=
  { model := "gpt-4o"
    messages := [⟨.user, "hi", by decide⟩]
    temperature := .finite ['1', '.', '0'] (by decide)
    maxTokens := some 4096
    stream }

/-- The text that is hashed for `demoRequest`. -/
def demoBody (stream virtualKeyId : String) : String :=
  "[\x7b\"max_tokens\":4096,\"messages\":[\x7b\"content\":\"hi\",\"role\":\"user\"\x7d]," ++
    "\"model\":\"gpt-4o\",\"stream\":" ++ stream ++ ",\"temperature\":1.0\x7d," ++
    virtualKeyId ++ "]"

/-- SHA-256 on three texts; any other one has the digest of the empty text here. -/
def demoSha256 (body : String) : HexDigest :=
  if body = demoBody "false" "1" then
    ⟨"44389770e88e7df2cf7d5491db6c0f19d8bab179081332afa3b1507172b8d41d", by decide +kernel⟩
  else if body = demoBody "false" "2" then
    ⟨"4d9d63ba7bf0f23cb0f579649e8a4f387366e41f351afb52c1807f6a198cea60", by decide +kernel⟩
  else if body = demoBody "true" "1" then
    ⟨"e7213fbe572c81ba7ff143395fea66e469806e525321ef0a9f36b792b675bf20", by decide +kernel⟩
  else ⟨"e3b0c44298fc1c149afbf4c8996fb92427ae41e4649b934ca495991b7852b855", by decide +kernel⟩

/-- The release tokens of the concrete runs. -/
def demoToken (id : CallId) : String := String.ofList (Nat.toDigits 10 (10 ^ 15 + id))

def demoEnvironment : Environment :=
  { settings := {}, python := .standard, sha256 := demoSha256, codec := jsonCodec, token := demoToken }

/-- The theorem about one request of two virtual keys. -/
theorem cache_key_exact_tenants :
    buildCacheKey demoEnvironment (demoRequest false) (some (.int 1)) =
        buildCacheKey demoEnvironment (demoRequest false) (some (.int 2)) ↔
      some (Namespace.int 1) = some (.int 2) ∧
        Json.Equal (demoRequest false).modelDump (demoRequest false).modelDump :=
  cache_key_exact demoEnvironment (demoRequest false) (demoRequest false) (some (.int 1))
    (some (.int 2)) fun same => absurd (congrArg HexDigest.text same) (by decide +kernel)

end LlmGateway
