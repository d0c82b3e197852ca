import LlmGateway.Leak.Machine

/-!
# How far a leaked key reaches

A holder who is never given a key stays contained (`contained_of_withheld`): its only
credential is the leaked key, whose record is never reactivated and never gets another limit
or another expiry.

Every valid key may create keys, also without an expiry and without a limit. A key that the
holder is given outlives the revocation of the leaked one (`escapes_of_given`).
-/

set_option autoImplicit false

namespace LlmGateway

open LlmGateway.Library

variable {env : Environment} {leaked : String} {key record : ApiKey} {db next : Database}
  {s later : Leak} {action : LeakAction}

/-! ## The record of a key -/

/-- The row of a raw key is found under its digest and under its id. -/
structure Recorded (env : Environment) (rawKey : String) (db : Database) (record : ApiKey) :
    Prop where
  byHash : db.getKeyByHash (hashKey env rawKey) = some record
  byId : db.getKeyById record.id = some record

/-- What may become of the row of a key: it is deactivated. -/
structure Ages (earlier later : ApiKey) : Prop where
  id : later.id = earlier.id
  limit : later.spendLimitUsd = earlier.spendLimitUsd
  expiry : later.expiresAt = earlier.expiresAt
  inactive : earlier.isActive = false → later.isActive = false

theorem Ages.refl (key : ApiKey) : Ages key key := ⟨rfl, rfl, rfl, fun inactive => inactive⟩

theorem Ages.trans {first second third : ApiKey} (one : Ages first second)
    (two : Ages second third) : Ages first third where
  id := two.id.trans one.id
  limit := two.limit.trans one.limit
  expiry := two.expiry.trans one.expiry
  inactive := fun inactive => two.inactive (one.inactive inactive)

theorem ages_deactivated (key : ApiKey) (keyId : ℤ) : Ages key (key.deactivated keyId) := by
  unfold ApiKey.deactivated
  split_ifs
  · exact ⟨rfl, rfl, rfl, fun _ => rfl⟩
  · exact .refl key

theorem recorded_congr (recorded : Recorded env leaked db record)
    (same : next.apiKeys = db.apiKeys) : Recorded env leaked next record where
  byHash := by rw [Database.getKeyByHash, same]; exact recorded.byHash
  byId := by rw [Database.getKeyById, same]; exact recorded.byId

theorem recorded_createKey {payload : KeyCreate} {draw : Draw} {now : ℚ} {created : KeyCreated}
    (recorded : Recorded env leaked db record)
    (creates : createKey env db payload draw now = some (next, created)) :
    Recorded env leaked next record := by
  obtain ⟨inserted, there, same⟩ := Option.map_eq_some_iff.mp creates
  cases same
  exact recorded_congr ⟨getKeyByHash_insertKey there recorded.byHash,
    getKeyById_insertKey there recorded.byId⟩ rfl

theorem recorded_revokeKey {keyId : ℤ} (recorded : Recorded env leaked db record)
    (revokes : revokeKey db keyId = .ok next) :
    Recorded env leaked next (record.deactivated keyId) := by
  obtain ⟨byHash, byId⟩ := lookups_revokeKey revokes
  constructor
  · rw [byHash, recorded.byHash, Option.map_some]
  · rw [byId, (ages_deactivated record keyId).id, recorded.byId, Option.map_some]

/-- Whatever an endpoint does, the record of a key is still there. -/
theorem recorded_respond (recorded : Recorded env leaked db record) (now : ℚ) (virtualKeyId : ℤ)
    (draw : Draw) (request : ApiRequest) :
    ∃ aged, Recorded env leaked (respond env db now virtualKeyId draw request).1 aged ∧
      Ages record aged := by
  cases request with
  | getKeys => exact ⟨record, recorded, .refl record⟩
  | createKey payload =>
      simp only [respond]
      split
      · exact ⟨record, recorded, .refl record⟩
      · rename_i creates
        exact ⟨record, recorded_createKey recorded creates, .refl record⟩
  | revokeKey keyId =>
      simp only [respond]
      split
      · exact ⟨record, recorded, .refl record⟩
      · rename_i revokes
        exact ⟨_, recorded_revokeKey recorded revokes, ages_deactivated record keyId⟩
  | chat =>
      simp only [respond]
      split
      · exact ⟨record, recorded, .refl record⟩
      · exact ⟨record, recorded, .refl record⟩

/-- A step keeps the record of a key and does not turn back the clock. -/
theorem recorded_step (recorded : Recorded env leaked s.db record)
    (moved : s.step env action = some later) :
    (∃ aged, Recorded env leaked later.db aged ∧ Ages record aged) ∧ s.clock ≤ later.clock := by
  have still : (∃ aged, Recorded env leaked s.db aged ∧ Ages record aged) :=
    ⟨record, recorded, .refl record⟩
  cases action with
  | send header request =>
      simp only [Leak.step] at moved
      split_ifs at moved
      split at moved
      · cases moved
        exact ⟨still, le_refl _⟩
      · cases moved
        exact ⟨still, le_refl _⟩
  | handle position draw =>
      simp only [Leak.step] at moved
      split at moved
      · cases moved
      · cases moved
        exact ⟨recorded_respond recorded _ _ _ _, le_refl _⟩
  | other request virtualKeyId draw =>
      cases moved
      exact ⟨recorded_respond recorded _ _ _ _, le_refl _⟩
  | commit task =>
      cases moved
      refine ⟨⟨record, recorded_congr recorded ?_, .refl record⟩, le_refl _⟩
      cases task with
      | persistUsage record => rfl
      | createFailedUsageLog virtualKeyId provider model latencyMs errorType => rfl
  | wait now =>
      simp only [Leak.step] at moved
      split_ifs at moved with order
      cases moved
      exact ⟨still, order⟩

/-! ## A holder who is given nothing -/

/-- What holds as long as the holder is given no key. -/
structure Withheld (env : Environment) (leaked : String) (key : ApiKey) (s : Leak) : Prop where
  credentials : s.credentials = [leaked]
  pending : ∀ request ∈ s.pending, request.2 = key.id
  record : ∃ aged, Recorded env leaked s.db aged ∧ Ages key aged

/-- An endpoint that gives no key returns no credential. -/
theorem credentials_respond (env : Environment) (db : Database) (now : ℚ) (virtualKeyId : ℤ)
    (draw : Draw) (request : ApiRequest)
    (withheld : ∀ payload, request = .createKey payload →
      (createKey env db payload draw now).isSome = false) :
    (respond env db now virtualKeyId draw request).2.credentials = [] := by
  cases request with
  | getKeys => rfl
  | createKey payload =>
      have refused := Option.not_isSome_iff_eq_none.mp
        (Bool.not_eq_true _ ▸ withheld payload rfl)
      simp only [respond, refused]
      rfl
  | revokeKey keyId =>
      simp only [respond]
      split
      · rfl
      · rfl
  | chat =>
      simp only [respond]
      split
      · rfl
      · rfl

theorem withheld_step (withheld : Withheld env leaked key s) (moved : s.step env action = some later)
    (gives : ¬ GivesKey env s action) : Withheld env leaked key later := by
  obtain ⟨record, recorded, ages⟩ := withheld.record
  obtain ⟨⟨aged, kept, aging⟩, -⟩ := recorded_step recorded moved
  have known : ∃ aged, Recorded env leaked later.db aged ∧ Ages key aged :=
    ⟨aged, kept, ages.trans aging⟩
  cases action with
  | send header request =>
      simp only [Leak.step] at moved
      split_ifs at moved with forms
      split at moved
      · cases moved
        exact withheld
      · rename_i virtualKeyId authenticated
        cases moved
        refine ⟨withheld.credentials, fun pending member => ?_, known⟩
        rcases List.mem_append.mp member with before | new
        · exact withheld.pending pending before
        · -- the only credential is the leaked key, and it authenticates as its own record
          obtain ⟨rawKey, found, carried, there, -, -, same⟩ :=
            authenticateRequest_eq_ok.mp authenticated
          have own : rawKey = leaked := by
            have member := forms rawKey carried
            rw [withheld.credentials] at member
            exact List.mem_singleton.mp member
          rw [own, recorded.byHash] at there
          cases there
          rw [List.mem_singleton.mp new, ← same]
          exact ages.id
  | handle position draw =>
      simp only [Leak.step] at moved
      split at moved
      · cases moved
      · rename_i request virtualKeyId there
        cases moved
        refine ⟨?_, fun pending member => ?_, known⟩
        · have empty := credentials_respond env s.db s.clock virtualKeyId draw request fun payload same => ?_
          · rw [empty, List.append_nil]
            exact withheld.credentials
          · by_contra given
            exact gives ⟨position, draw, payload, virtualKeyId, rfl, same ▸ there,
              Bool.not_eq_false _ ▸ given⟩
        · exact withheld.pending pending (List.mem_of_mem_eraseIdx member)
  | other request virtualKeyId draw =>
      cases moved
      exact ⟨withheld.credentials, withheld.pending, known⟩
  | commit task =>
      cases moved
      exact ⟨withheld.credentials, withheld.pending, known⟩
  | wait now =>
      simp only [Leak.step] at moved
      split_ifs at moved
      cases moved
      exact ⟨withheld.credentials, withheld.pending, known⟩

/-! ## Containment -/

/-- A key that is over stays over. -/
theorem over_step (record : ∃ aged, Recorded env leaked s.db aged) (closed : s.Over env leaked)
    (moved : s.step env action = some later) : later.Over env leaked := by
  obtain ⟨aged, recorded⟩ := record
  obtain ⟨key, found, ended⟩ := closed
  cases found.symm.trans recorded.byHash
  obtain ⟨⟨next, kept, ages⟩, order⟩ := recorded_step recorded moved
  refine ⟨next, kept.byHash, ?_⟩
  rcases ended with inactive | expired
  · exact .inl (ages.inactive inactive)
  · right
    rw [ages.expiry]
    cases expiry : aged.expiresAt with
    | none =>
        rw [expiry] at expired
        cases expired
    | some time =>
        rw [expiry] at expired
        exact decide_eq_true ((of_decide_eq_true expired).trans order)

/-- A holder with nothing but a key that is over has no credential that authenticates. -/
theorem silenced_of_over (withheld : Withheld env leaked key s) (closed : s.Over env leaked) :
    s.Silenced env := by
  intro header forms virtualKeyId authenticated
  obtain ⟨rawKey, found, carried, there, active, current, -⟩ :=
    authenticateRequest_eq_ok.mp authenticated
  have member := forms rawKey carried
  rw [withheld.credentials, List.mem_singleton] at member
  obtain ⟨own, same, ended⟩ := closed
  rw [member, same] at there
  cases there
  rcases ended with inactive | expired
  · rw [inactive] at active
    cases active
  · rw [expired] at current
    cases current

/-- A holder with nothing but a key that has spent its limit is not admitted. -/
theorem capped_of_limitReached (withheld : Withheld env leaked key s)
    (reached : s.LimitReached env leaked) : s.Capped env := by
  obtain ⟨record, recorded, ages⟩ := withheld.record
  obtain ⟨own, limit, found, limited, spent⟩ := reached
  cases found.symm.trans recorded.byHash
  have rejected := enforceSpendCap_rejects env.settings recorded.byId limited spent
  refine ⟨fun header forms virtualKeyId authenticated => ?_, fun virtualKeyId waits => ?_⟩
  · obtain ⟨rawKey, other, carried, there, -, -, rfl⟩ := authenticateRequest_eq_ok.mp authenticated
    have member := forms rawKey carried
    rw [withheld.credentials, List.mem_singleton] at member
    rw [member, found] at there
    cases there
    exact rejected
  · have own : virtualKeyId = key.id := withheld.pending _ waits
    rw [own, ← ages.id]
    exact rejected

section Run

variable {clock : ℚ} {actions : List LeakAction}

/-- At first the holder knows the leaked key and nothing else. -/
def Leak.init (db : Database) (clock : ℚ) (leaked : String) : Leak := ⟨db, clock, [leaked], []⟩

theorem withheld_run (recorded : Recorded env leaked db key)
    (quiet : Throughout (Leak.step env) (fun s action _ => ¬ GivesKey env s action)
      (.init db clock leaked) actions)
    (reached : run (Leak.step env) (.init db clock leaked) actions = some s) :
    Withheld env leaked key s :=
  invariant ⟨rfl, fun _ member => absurd member List.not_mem_nil, key, recorded,
    .refl key⟩
    (fun _ _ _ withheld moved gives => withheld_step withheld moved gives) quiet reached

theorem over_run {start : Leak} (record : ∃ aged, Recorded env leaked start.db aged)
    (closed : start.Over env leaked) (reached : run (Leak.step env) start actions = some later) :
    later.Over env leaked := by
  refine (invariant_of_step
    (P := fun s => (∃ aged, Recorded env leaked s.db aged) ∧ s.Over env leaked)
    ⟨record, closed⟩ ?_ reached).2
  intro state action next holds moved
  obtain ⟨⟨aged, recorded⟩, closed⟩ := holds
  obtain ⟨⟨older, kept, -⟩, -⟩ := recorded_step recorded moved
  exact ⟨⟨older, kept⟩, over_step ⟨aged, recorded⟩ closed moved⟩

/-- **A holder who is never given a key stays contained.** -/
theorem contained_of_withheld (env : Environment) (leaked : String) (key : ApiKey) (db : Database)
    (clock : ℚ) (actions : List LeakAction) (recorded : Recorded env leaked db key)
    (quiet : Throughout (Leak.step env) (fun s action _ => ¬ GivesKey env s action)
      (.init db clock leaked) actions) :
    Contained env leaked (.init db clock leaked) actions := by
  constructor
  · intro before middle after earlier later split ran rest closed
    have inner : actions = before ++ (middle ++ after) := by simp [split]
    obtain ⟨aged, record, -⟩ := (withheld_run recorded (quiet.of_split inner) ran).record
    have whole : run (Leak.step env) (.init db clock leaked) (before ++ middle) = some later := by
      rw [run_append, ran]
      exact rest
    exact silenced_of_over (withheld_run recorded (quiet.of_split split) whole)
      (over_run ⟨aged, record⟩ closed rest)
  · intro before after state split ran reached
    exact capped_of_limitReached (withheld_run recorded (quiet.of_split split) ran) reached

end Run

/-! ## A holder who is given a key -/

/-- No character of a token is white space. -/
theorem not_space_of_urlSafe {c : Char} (safe : (c.isAlphanum || c == '-' || c == '_') = true) :
    PythonText.isSpace c = false := by
  have code : c.toNat = 45 ∨ 48 ≤ c.toNat ∧ c.toNat ≤ 122 := by
    have spelled : c.isAlphanum = (decide (c.val ≥ 65 ∧ c.val ≤ 90) ||
        (c.val ≥ 97 && c.val ≤ 122) || (c.val ≥ 48 && c.val ≤ 57)) := rfl
    simp only [spelled, Bool.or_eq_true, beq_iff_eq, Bool.and_eq_true, decide_eq_true_eq,
      UInt32.le_iff_toNat_le, ge_iff_le] at safe
    rcases safe with (((⟨low, high⟩ | ⟨low, high⟩) | ⟨low, high⟩) | rfl) | rfl
    · exact .inr ⟨le_trans (by decide) low, le_trans high (by decide)⟩
    · exact .inr ⟨le_trans (by decide) low, le_trans high (by decide)⟩
    · exact .inr ⟨le_trans (by decide) low, le_trans high (by decide)⟩
    · exact .inl rfl
    · exact .inr ⟨by decide, by decide⟩
  simp only [PythonText.isSpace, PythonText.inRanges, PythonText.spaceRanges, List.any_cons,
    List.any_nil, Bool.or_false, Bool.or_eq_false_iff, Bool.and_eq_false_iff,
    decide_eq_false_iff_not]
  omega

/-- A created key can be sent as it is. -/
theorem bearerKey_rawKey (draw : Draw) :
    bearerKey (some ("Bearer " ++ draw.rawKey)) = some draw.rawKey := by
  have start : ("sk-".toList.all fun c => !PythonText.isSpace c) = true := by decide +kernel
  have plain : ∀ c ∈ draw.rawKey.toList, PythonText.isSpace c = false := by
    intro c member
    rw [Draw.rawKey, String.toList_append] at member
    rcases List.mem_append.mp member with head | tail
    · simpa using List.all_eq_true.mp start c head
    · exact not_space_of_urlSafe (List.all_eq_true.mp draw.token.urlSafe c tail)
  have nonempty : draw.rawKey.toList.isEmpty = false := by
    simp [Draw.rawKey]
  have carried : "Bearer ".toList.isPrefixOf ("Bearer " ++ draw.rawKey).toList = true := by
    rw [String.toList_append]
    exact List.isPrefixOf_iff_prefix.mpr (List.prefix_append _ _)
  have rest : ("Bearer " ++ draw.rawKey).toList.drop "Bearer ".length = draw.rawKey.toList := by
    rw [String.toList_append]
    exact List.drop_left' rfl
  simp only [bearerKey, carried, rest, PythonText.strip, PythonText.trim_of_noBlank plain, nonempty, if_true]
  simp

/-- The end of a run in which the leaked key is over and some credential authenticates. -/
theorem not_contained_of_last {start : Leak} {actions : List LeakAction} {header : Option String}
    {virtualKeyId : ℤ} (reached : run (Leak.step env) start actions = some s)
    (closed : s.Over env leaked) (forms : s.Forms header)
    (authenticated : authenticateRequest env s.db s.clock header = .ok virtualKeyId) :
    ¬ Contained env leaked start actions := by
  intro contained
  exact contained.silenced actions [] [] s s (by simp) reached rfl closed header forms virtualKeyId
    authenticated

/-- A new key authenticates at the time of its creation. -/
theorem current_newKey (env : Environment) (payload : KeyCreate) (draw : Draw) (now : ℚ) :
    isExpired (newKey env payload draw now).expiresAt now = false := by
  unfold newKey
  cases lifetime : payload.expiresInDays with
  | none => rfl
  | some days =>
      have least : 1 ≤ days := (payload.days days lifetime).1
      have positive : (0 : ℚ) < days * 86400 := by
        have cast : (1 : ℚ) ≤ days := by exact_mod_cast least
        linarith
      exact decide_eq_false (not_le.mpr (lt_add_of_pos_right now positive))

/-- **A key that the holder is given escapes**: when the leaked key is revoked right afterwards,
the run is not contained. -/
theorem escapes_of_given {clock : ℚ} {actions : List LeakAction}
    (recorded : Recorded env leaked db key)
    (reached : run (Leak.step env) (.init db clock leaked) actions = some s)
    (gives : GivesKey env s action) (draw : Draw) :
    ¬ Contained env leaked (.init db clock leaked)
      (actions ++ [action, .other (.revokeKey key.id) key.id draw]) := by
  obtain ⟨position, fresh, payload, virtualKeyId, rfl, waits, given⟩ := gives
  obtain ⟨⟨createdDb, created⟩, creates⟩ := Option.isSome_iff_exists.mp given
  obtain ⟨carries, there, free⟩ := createKey_created creates
  -- the record of the leaked key, before and after its revocation
  obtain ⟨aged, record, ages⟩ : ∃ aged, Recorded env leaked s.db aged ∧ Ages key aged := by
    refine invariant_of_step (P := fun s => ∃ aged, Recorded env leaked s.db aged ∧ Ages key aged)
      ⟨key, recorded, .refl key⟩ ?_ reached
    intro state action next holds moved
    obtain ⟨aged, record, ages⟩ := holds
    obtain ⟨⟨older, kept, aging⟩, -⟩ := recorded_step record moved
    exact ⟨older, kept, ages.trans aging⟩
  have kept := recorded_createKey record creates
  obtain ⟨revokedDb, revokes⟩ := revokeKey_of_found (ages.id ▸ kept.byId)
  have revoked := recorded_revokeKey kept revokes
  -- the record of the new key is another row
  have apart : fresh.id ≠ key.id := by
    intro same
    have taken := record.byId
    rw [ages.id, ← same] at taken
    cases free.symm.trans taken
  have alive : revokedDb.getKeyByHash (hashKey env fresh.rawKey) =
      some (newKey env payload fresh s.clock) := by
    have untouched : (newKey env payload fresh s.clock).deactivated key.id =
        newKey env payload fresh s.clock := if_neg apart
    rw [(lookups_revokeKey revokes).1, there, Option.map_some, untouched]
  refine not_contained_of_last (s := ⟨revokedDb, s.clock, s.credentials ++ [fresh.rawKey],
    s.pending.eraseIdx position⟩) ?_ ⟨_, revoked.byHash, .inl ?_⟩ (fun rawKey carried => ?_)
    (authenticateRequest_eq_ok.mpr ⟨fresh.rawKey, _, bearerKey_rawKey fresh, alive, rfl,
      current_newKey env payload fresh s.clock, rfl⟩)
  · rw [run_append, reached]
    simp only [Option.bind_some, run, Leak.step, waits, respond, creates, revokes,
      ApiResponse.credentials, carries]
  · rw [ApiKey.deactivated, if_pos ages.id]
  · rw [bearerKey_rawKey fresh] at carried
    cases carried
    exact List.mem_append_right _ (List.mem_singleton_self _)

/-! ## A key that creates another one -/

theorem hexDigest_empty :
    "e3b0c44298fc1c149afbf4c8996fb92427ae41e4649b934ca495991b7852b855".toList.all isHexDigit =
      true := by decide +kernel

/-- SHA-256 on two raw keys; any other text has the digest of the empty text here. -/
def leakSha256 (text : String) : HexDigest :=
  if text = "sk-AAAAAAAAAAAAAAAAAAAAAAAAAAAAAAAAAAAAAAAAAAA" then
    ⟨"d40a82f736e89291055c8dcbddec74ad06f26425073957cce3a31c553758e683", by decide +kernel⟩
  else if text = "sk-BBBBBBBBBBBBBBBBBBBBBBBBBBBBBBBBBBBBBBBBBBB" then
    ⟨"7a287dab1cb2e5f41345d18a406842206f33281fba31f9440994336117ff3aa6", by decide +kernel⟩
  else ⟨"e3b0c44298fc1c149afbf4c8996fb92427ae41e4649b934ca495991b7852b855", hexDigest_empty⟩

def leakEnvironment : Environment := { demoEnvironment with sha256 := leakSha256 }

def leakedKey : String := "sk-AAAAAAAAAAAAAAAAAAAAAAAAAAAAAAAAAAAAAAAAAAA"

def leakedHeader : Option String := some ("Bearer " ++ leakedKey)

/-- The row of the leaked key: a limit of five dollars, and ten seconds to live. -/
def leakedRow : ApiKey where
  id := 1
  hashedKey := hashKey leakEnvironment leakedKey
  clientName := "client"
  spendLimitUsd := some 5
  expiresAt := some 10
  createdAt := 0

def leakedDatabase : Database := { apiKeys := [leakedRow] }

def demoDraw : Draw where
  id := 2
  token := ⟨"BBBBBBBBBBBBBBBBBBBBBBBBBBBBBBBBBBBBBBBBBBB", by decide +kernel⟩

/-- A body that asks for a key without an expiry and without a limit. -/
def permanentKey : KeyCreate where
  clientName := "mallory"
  expiresInDays := none
  named := by decide
  notBlank := by decide +kernel
  days := by simp
  limit := by simp

theorem recorded_leakedRow : Recorded leakEnvironment leakedKey leakedDatabase leakedRow :=
  ⟨by decide +kernel, by decide +kernel⟩

/-- The holder chats, lists the keys and outlives its key. -/
def chatting : List LeakAction :=
  [.send leakedHeader .chat, .handle 0 demoDraw, .send leakedHeader .getKeys, .handle 0 demoDraw,
    .wait 20, .send leakedHeader .chat]

/-- No request to create a key is handled. -/
def withholds (s : Leak) : LeakAction → Bool
  | .handle position _ =>
      match s.pending[position]? with
      | some (.createKey _, _) => false
      | _ => true
  | _ => true

theorem not_givesKey_of_withholds (state : Leak) (action : LeakAction)
    (passed : withholds state action = true) : ¬ GivesKey env state action := by
  rintro ⟨position, draw, payload, virtualKeyId, rfl, waits, -⟩
  rw [withholds, waits] at passed
  cases passed

theorem contained_chatting :
    Contained leakEnvironment leakedKey (.init leakedDatabase 0 leakedKey) chatting := by
  have passed : passes (Leak.step leakEnvironment) withholds (.init leakedDatabase 0 leakedKey)
      chatting = true := by decide +kernel
  exact contained_of_withheld leakEnvironment leakedKey leakedRow leakedDatabase 0 chatting
    recorded_leakedRow
    (throughout_of_passes (fun state action _ test => not_givesKey_of_withholds state action test)
      passed)

/-- The leaked key creates a permanent one before it expires. -/
def minting : List LeakAction :=
  [.send leakedHeader (.createKey permanentKey), .handle 0 demoDraw, .wait 10]

/-- The created key authenticates although the leaked one is over. -/
def escapes (s : Leak) : Bool :=
  (s.db.getKeyByHash (hashKey leakEnvironment leakedKey)).any
      (fun key => isExpired key.expiresAt s.clock) &&
    decide (demoDraw.rawKey ∈ s.credentials) &&
    (authenticateRequest leakEnvironment s.db s.clock (some ("Bearer " ++ demoDraw.rawKey))).toBool

theorem minting_escapes :
    ¬ Contained leakEnvironment leakedKey (.init leakedDatabase 0 leakedKey) minting := by
  have last : (run (Leak.step leakEnvironment) (.init leakedDatabase 0 leakedKey) minting).any
      escapes = true := by decide +kernel
  obtain ⟨s, reached, escaped⟩ := (Option.any_eq_true _ _).mp last
  simp only [escapes, Bool.and_eq_true, Option.any_eq_true, decide_eq_true_eq] at escaped
  obtain ⟨⟨⟨key, found, expired⟩, known⟩, accepted⟩ := escaped
  cases authenticated : authenticateRequest leakEnvironment s.db s.clock
      (some ("Bearer " ++ demoDraw.rawKey)) with
  | error exception =>
      rw [authenticated] at accepted
      cases accepted
  | ok virtualKeyId =>
      refine not_contained_of_last reached ⟨key, found, .inr expired⟩ (fun rawKey carried => ?_)
        authenticated
      rw [bearerKey_rawKey demoDraw] at carried
      cases carried
      exact known

end LlmGateway
