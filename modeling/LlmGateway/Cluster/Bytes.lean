import LlmGateway.Cluster.Machine

/-!
# Entries as bytes

Redis holds bytes, and the client decodes them before `services/cache.py` sees them, since its pool is
built with `decode_responses=True` (`storage/redis.py`). What `_parse_entry` does about bytes that are
no UTF-8 comes too late for such a client: the exception is raised by the read itself, next to which
only `RedisError` is caught. Reading is safe exactly for the bytes of a text (`reads_safely_iff`); for
a client that hands the bytes on it would be safe for all of them (`reads_safely_undecoded`).

Where all the bytes are texts, the two reads here are the commands of the replicas
(`redisGet_texts`, `cacheGet_texts`).
-/

set_option autoImplicit false

namespace LlmGateway

open LlmGateway.Library
open LlmGateway.Library.Redis (Command Reply Store)

variable {env : Environment}

/-! ## The client -/

/-- The keys of the server that hold a text, with its bytes. -/
abbrev ByteStore := String → Option ByteArray

/-- `decode_responses` of `redis_pool`. -/
def decodeResponses : Bool := true

/-- What `redis_client` raises. `UnicodeDecodeError` is a `ValueError`, but no `RedisError`. -/
inductive ClientError where
  | redisError
  | unicodeDecodeError
deriving DecidableEq

/-- `str | bytes`. -/
inductive Raw where
  | str (text : String)
  | bytes (data : ByteArray)

/-- `raw.decode("utf-8")`. -/
def decodeUtf8 (data : ByteArray) : Except ClientError String :=
  match String.fromUTF8? data with
  | some text => .ok text
  | none => .error .unicodeDecodeError

/-- What the client makes of the bytes of a reply. -/
def clientReply (decoding : Bool) (data : ByteArray) : Except ClientError Raw :=
  if decoding then (decodeUtf8 data).map .str else .ok (.bytes data)

/-- `redis_client.get`. -/
def redisGet (decoding : Bool) (store : ByteStore) (delivery : Delivery) (key : String) :
    Except ClientError (Option Raw) :=
  match delivery with
  | .answered =>
      match store key with
      | none => .ok none
      | some data => (clientReply decoding data).map some
  | .lost | .refused => .error .redisError

/-- The store without a key. -/
def ByteStore.erase (store : ByteStore) (key : String) : ByteStore := Function.update store key none

/-- `redis_client.delete`: the store after it, and what it raises. The reply is a number, which needs
no decoding. -/
def redisDelete (store : ByteStore) (delivery : Delivery) (key : String) :
    ByteStore × Except ClientError Unit :=
  match delivery with
  | .answered => (store.erase key, .ok ())
  | .lost => (store.erase key, .error .redisError)
  | .refused => (store, .error .redisError)

/-! ## `services/cache.py` -/

/-- The `result` of `record_cache_event`. -/
inductive CacheEvent where
  | hit
  | miss
  | error
deriving DecidableEq

/-- `_parse_entry`: the events that it records, and the response. Both exceptions that it meets are a
`ValueError`. -/
def parseRaw (env : Environment) (raw : Raw) (recordEvent : Bool) :
    List CacheEvent × Option ChatResponse :=
  let text : Except ClientError String :=
    match raw with
    | .str text => .ok text
    | .bytes data => decodeUtf8 data
  match text.toOption.bind (parseEntry env) with
  | some response => ([], some response)
  | none => (if recordEvent then [.error] else [], none)

/-- `_discard_entry`. -/
def discardEntry (store : ByteStore) (delivery : Delivery) (key : String) :
    ByteStore × Except ClientError Unit :=
  match redisDelete store delivery key with
  | (after, .error .redisError) => (after, .ok ())
  | other => other

/-- What a call of `cache.get` leaves behind. -/
structure CacheRead where
  store : ByteStore
  events : List CacheEvent
  outcome : Except ClientError (Option ChatResponse)

/-- `cache.get`. The two deliveries are those of its read and of its deletion. -/
def cacheGet (env : Environment) (decoding : Bool) (store : ByteStore)
    (reading discarding : Delivery) (key : String) : CacheRead :=
  match redisGet decoding store reading key with
  | .error .redisError => ⟨store, [.error], .ok none⟩
  | .error exception => ⟨store, [], .error exception⟩
  | .ok none => ⟨store, [.miss], .ok none⟩
  | .ok (some raw) =>
      match parseRaw env raw true with
      | (events, some cached) => ⟨store, events ++ [.hit], .ok (some cached)⟩
      | (events, none) =>
          let (after, discarded) := discardEntry store discarding key
          ⟨after, events, discarded.map fun _ => none⟩

/-- A round of `wait_for_result`: what the server holds then, and what becomes of the read. -/
structure Poll where
  store : ByteStore
  delivery : Delivery

/-- `wait_for_result`, with the rounds that begin before its deadline. -/
def waitForResult (env : Environment) (decoding : Bool) (key : String) :
    List Poll → Except ClientError (Option ChatResponse)
  | [] => .ok none
  | poll :: rest =>
      match redisGet decoding poll.store poll.delivery key with
      | .error .redisError => .ok none
      | .error exception => .error exception
      | .ok (some raw) => .ok (parseRaw env raw false).2
      | .ok none => waitForResult env decoding key rest

/-! ## Decoding -/

/-- Bytes are decoded to the text that they encode. -/
theorem decodeUtf8_eq_ok {data : ByteArray} {text : String} :
    decodeUtf8 data = .ok text ↔ text.toUTF8 = data := by
  unfold decodeUtf8 String.fromUTF8?
  constructor
  · intro decoded
    split_ifs at decoded
    cases decoded
    rfl
  · rintro rfl
    have valid : text.toUTF8.IsValidUTF8 := text.isValidUTF8
    rw [dif_pos valid]
    rfl

/-- Other bytes are refused. -/
theorem decodeUtf8_of_not_valid {data : ByteArray} (invalid : ¬ data.IsValidUTF8) :
    decodeUtf8 data = .error .unicodeDecodeError := by
  unfold decodeUtf8 String.fromUTF8?
  rw [dif_neg invalid]

theorem decodeUtf8_of_valid {data : ByteArray} (valid : data.IsValidUTF8) :
    ∃ text : String, text.toUTF8 = data ∧ decodeUtf8 data = .ok text :=
  ⟨String.fromUTF8 data valid, rfl, decodeUtf8_eq_ok.mpr rfl⟩

/-- Bytes are the UTF-8 JSON of a response. -/
def EncodesResponse (env : Environment) (data : ByteArray) (response : ChatResponse) : Prop :=
  ∃ text : String, text.toUTF8 = data ∧ parseEntry env text = some response

/-- The entry that bytes are. -/
def entryOf (env : Environment) (data : ByteArray) : Option ChatResponse :=
  (decodeUtf8 data).toOption.bind (parseEntry env)

theorem entryOf_eq_some {data : ByteArray} {response : ChatResponse} :
    entryOf env data = some response ↔ EncodesResponse env data response := by
  unfold entryOf EncodesResponse
  constructor
  · intro found
    obtain ⟨text, decoded, parsed⟩ := Option.bind_eq_some_iff.mp found
    cases result : decodeUtf8 data with
    | error exception =>
        rw [result] at decoded
        cases decoded
    | ok other =>
        rw [result] at decoded
        cases decoded
        exact ⟨text, decodeUtf8_eq_ok.mp result, parsed⟩
  · rintro ⟨text, same, parsed⟩
    rw [decodeUtf8_eq_ok.mpr same]
    exact parsed

/-! ## Hits and misses -/

/-- **Bytes are a hit or a discarded miss**, wherever they are stored: reading them never raises,
whatever becomes of the two commands; it returns a response, and changes nothing, exactly if they
encode it; otherwise the key becomes vacant and no other does; and who waits for them gets the
response that they encode, or nothing. -/
structure ReadsSafely (env : Environment) (decoding : Bool) (data : ByteArray) : Prop where
  total : ∀ (store : ByteStore) (key : String), store key = some data →
    ∀ reading discarding, ∃ found,
      (cacheGet env decoding store reading discarding key).outcome = .ok found
  hit : ∀ (store : ByteStore) (key : String), store key = some data → ∀ response,
    (cacheGet env decoding store .answered .answered key).outcome = .ok (some response) ∧
        (cacheGet env decoding store .answered .answered key).store = store ↔
      EncodesResponse env data response
  miss : (∀ response, ¬ EncodesResponse env data response) →
    ∀ (store : ByteStore) (key : String), store key = some data →
      (cacheGet env decoding store .answered .answered key).outcome = .ok none ∧
        (cacheGet env decoding store .answered .answered key).store = store.erase key
  waits : ∀ (key : String) (polls : List Poll), (∀ poll ∈ polls, poll.store key = some data) →
    ∃ found, waitForResult env decoding key polls = .ok found ∧
      ∀ response, found = some response → EncodesResponse env data response

section Replied

variable {decoding : Bool} {data : ByteArray} {raw : Raw}

/-- What the client hands on is parsed to the entry that the bytes are. -/
theorem parseRaw_of_reply (replied : clientReply decoding data = .ok raw) (recordEvent : Bool) :
    parseRaw env raw recordEvent =
      match entryOf env data with
      | some response => ([], some response)
      | none => (if recordEvent then [.error] else [], none) := by
  unfold clientReply at replied
  split_ifs at replied with decodes
  · cases decoded : decodeUtf8 data with
    | error exception =>
        rw [decoded] at replied
        cases replied
    | ok text =>
        rw [decoded] at replied
        cases replied
        simp only [parseRaw, entryOf, decoded]
  · cases replied
    rfl

/-- The read of a key whose bytes the client hands on. -/
theorem redisGet_of_reply (replied : clientReply decoding data = .ok raw) {store : ByteStore}
    {key : String} (stored : store key = some data) (delivery : Delivery) :
    redisGet decoding store delivery key =
      if delivery = .answered then .ok (some raw) else .error .redisError := by
  cases delivery with
  | answered =>
      simp only [redisGet, stored, replied]
      rfl
  | lost | refused => rfl

/-- A deletion lets nothing through. -/
theorem discardEntry_ok (store : ByteStore) (delivery : Delivery) (key : String) :
    (discardEntry store delivery key).2 = .ok () := by
  cases delivery <;> rfl

/-- A read of bytes that the client hands on, case by case. -/
theorem cacheGet_of_reply (replied : clientReply decoding data = .ok raw) {store : ByteStore}
    {key : String} (stored : store key = some data) (reading discarding : Delivery) :
    cacheGet env decoding store reading discarding key =
      if reading = .answered then
        match entryOf env data with
        | some response => ⟨store, [.hit], .ok (some response)⟩
        | none => ⟨(discardEntry store discarding key).1, [.error], .ok none⟩
      else ⟨store, [.error], .ok none⟩ := by
  unfold cacheGet
  rw [redisGet_of_reply replied stored]
  split_ifs with answered
  · simp only [parseRaw_of_reply replied]
    cases entryOf env data with
    | some response => rfl
    | none =>
        simp only [discardEntry_ok, if_true]
        rfl
  · rfl

/-- **Bytes that the client hands on** are read safely. -/
theorem readsSafely_of_reply (replied : clientReply decoding data = .ok raw) :
    ReadsSafely env decoding data where
  total store key stored reading discarding := by
    rw [cacheGet_of_reply replied stored]
    split_ifs
    · cases entryOf env data with
      | some response => exact ⟨some response, rfl⟩
      | none => exact ⟨none, rfl⟩
    · exact ⟨none, rfl⟩
  hit store key stored response := by
    rw [cacheGet_of_reply replied stored, if_pos rfl, ← entryOf_eq_some]
    cases entryOf env data <;> simp
  miss foreign store key stored := by
    have absent : entryOf env data = none :=
      Option.eq_none_iff_forall_ne_some.mpr fun response found =>
        foreign response (entryOf_eq_some.mp found)
    rw [cacheGet_of_reply replied stored, if_pos rfl, absent]
    exact ⟨rfl, rfl⟩
  waits key polls stored := by
    cases polls with
    | nil => exact ⟨none, rfl, by simp⟩
    | cons poll rest =>
        unfold waitForResult
        rw [redisGet_of_reply replied (stored poll List.mem_cons_self)]
        by_cases answered : poll.delivery = .answered
        · rw [if_pos answered]
          refine ⟨(parseRaw env raw false).2, rfl, fun response found => ?_⟩
          rw [parseRaw_of_reply replied] at found
          refine entryOf_eq_some.mp ?_
          cases entry : entryOf env data with
          | none =>
              rw [entry] at found
              cases found
          | some other =>
              rw [entry] at found
              exact found
        · rw [if_neg answered]
          exact ⟨none, rfl, by simp⟩

end Replied

/-- **Undecoded bytes** would be safe to read, all of them. -/
theorem reads_safely_undecoded (env : Environment) (data : ByteArray) : ReadsSafely env false data :=
  readsSafely_of_reply (show clientReply false data = .ok (.bytes data) from rfl)

/-- **Bytes under a cache key are a hit or a discarded miss, exactly** if they are UTF-8, whether or
not they are an entry: the client decodes them before anything may be caught. -/
theorem reads_safely_iff (env : Environment) (data : ByteArray) :
    ReadsSafely env decodeResponses data ↔ data.IsValidUTF8 := by
  constructor
  · intro safe
    by_contra invalid
    obtain ⟨found, outcome⟩ := safe.total (fun _ => some data) "" rfl .answered .answered
    simp only [cacheGet, redisGet, clientReply, decodeResponses, decodeUtf8_of_not_valid invalid]
      at outcome
    cases outcome
  · intro valid
    obtain ⟨text, -, decoded⟩ := decodeUtf8_of_valid valid
    have replied : clientReply decodeResponses data = .ok (.str text) := by
      simp only [clientReply, decodeResponses, decoded]
      rfl
    exact readsSafely_of_reply replied

/-- The bytes of the test. -/
def binaryEntry : ByteArray := ⟨#[0xff, 0xfe, 0x00]⟩

/-- **Binary garbage raises**: the read lets `UnicodeDecodeError` through. -/
theorem binary_entry_raises : ¬ ReadsSafely demoEnvironment decodeResponses binaryEntry := by
  intro safe
  obtain ⟨found, outcome⟩ := safe.total (fun _ => some binaryEntry) "" rfl .answered .answered
  have invalid : ¬ binaryEntry.IsValidUTF8 := by decide +kernel
  simp only [cacheGet, redisGet, clientReply, decodeResponses, decodeUtf8_of_not_valid invalid]
    at outcome
  cases outcome

/-! ## The commands of the replicas -/

/-- The texts that the bytes of a server encode. -/
def ByteStore.texts (store : ByteStore) : Store := fun key =>
  ((store key).bind fun data => (decodeUtf8 data).toOption).map .text

/-- What the client hands on of a reply to a read. -/
def handed : Reply → Except ClientError (Option Raw)
  | .nil => .ok none
  | .bulk text => .ok (some (.str text))
  | _ => .error .redisError

/-- The response in a reply to a read. -/
def cachedIn (env : Environment) : Reply → Option ChatResponse
  | .bulk raw => parseEntry env raw
  | _ => none

section Texts

variable {store : ByteStore} {key : String}

theorem ByteStore.texts_of_none (vacant : store key = none) : store.texts key = none := by
  simp only [ByteStore.texts, vacant, Option.bind_none, Option.map_none]

theorem ByteStore.texts_of_some {data : ByteArray} {text : String} (stored : store key = some data)
    (decoded : decodeUtf8 data = .ok text) : store.texts key = some (.text text) := by
  simp only [ByteStore.texts, stored, decoded, Option.bind_some, Except.toOption, Option.map_some]

/-- A key is deleted from the texts when it is from the bytes. -/
theorem ByteStore.texts_erase (store : ByteStore) (key : String) :
    (store.erase key).texts = (Redis.execute store.texts (.delete key)).1 := by
  funext other
  by_cases same : other = key
  · subst same
    rw [Redis.execute_delete_self]
    exact ByteStore.texts_of_none (Function.update_self _ _ _)
  · rw [Redis.execute_other _ _ same]
    simp only [ByteStore.texts, ByteStore.erase, Function.update_of_ne same]

/-- **A read of texts** is the command of the replicas. -/
theorem redisGet_texts (valid : ∀ data, store key = some data → data.IsValidUTF8) :
    redisGet decodeResponses store .answered key =
      handed (Redis.execute store.texts (.get key)).2 := by
  cases stored : store key with
  | none =>
      simp only [redisGet, stored, Redis.execute, ByteStore.texts_of_none stored]
      rfl
  | some data =>
      obtain ⟨text, -, decoded⟩ := decodeUtf8_of_valid (valid data stored)
      simp only [redisGet, stored, clientReply, decodeResponses, decoded, Redis.execute,
        ByteStore.texts_of_some stored decoded]
      rfl

/-- **`cache.get` on texts** is the two commands of a replica: it returns what the reply to its read
holds, and deletes the key if that is a text and no entry. -/
theorem cacheGet_texts (env : Environment)
    (valid : ∀ data, store key = some data → data.IsValidUTF8) :
    let reply := (Redis.execute store.texts (.get key)).2
    let read := cacheGet env decodeResponses store .answered .answered key
    read.outcome = .ok (cachedIn env reply) ∧
      read.store.texts =
        if reply ≠ .nil ∧ cachedIn env reply = none
        then (Redis.execute store.texts (.delete key)).1 else store.texts := by
  cases stored : store key with
  | none =>
      have reply : (Redis.execute store.texts (.get key)).2 = .nil := by
        simp only [Redis.execute, ByteStore.texts_of_none stored]
      simp only [reply, cacheGet, redisGet, stored, ne_eq, not_true_eq_false, false_and, if_false,
        and_true]
      rfl
  | some data =>
      obtain ⟨text, same, decoded⟩ := decodeUtf8_of_valid (valid data stored)
      have reply : (Redis.execute store.texts (.get key)).2 = .bulk text := by
        simp only [Redis.execute, ByteStore.texts_of_some stored decoded]
      have replied : clientReply decodeResponses data = .ok (.str text) := by
        simp only [clientReply, decodeResponses, decoded]
        rfl
      have entry : entryOf env data = parseEntry env text := by
        rw [entryOf, decoded]
        rfl
      simp only [reply, cacheGet_of_reply replied stored, if_true, entry, cachedIn]
      cases parseEntry env text with
      | some response => simp
      | none =>
          have discarded : (discardEntry store .answered key).1 = store.erase key := rfl
          simpa [discarded] using store.texts_erase key

end Texts

end LlmGateway
