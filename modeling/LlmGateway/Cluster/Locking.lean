import LlmGateway.Cluster.Machine

/-!
# The lock of a cache key

`acquire_lock` and `release_lock` of any number of replicas, on any cache keys. Redis executes the
commands in any order, replies are lost, locks expire at any time, and a release comes as
late as it likes, with whatever token.

A token is *live* from the moment Redis sets it until Redis executes its release or the lock
expires (`LockTable.live`). `lock_protocol` says that a key has at most one live token, that
`acquire_lock` returns a token only when the key had none, and that a release touches nothing
but the lock of its own live token.
-/

set_option autoImplicit false

namespace LlmGateway

open LlmGateway.Library
open LlmGateway.Library.Redis (Command Reply Store)

/-! ## The two operations -/

/-- `acquire_lock`: the store afterwards, and what is returned. -/
def acquireLock (store : Store) (cacheKey token : String) (ttlSeconds : ℚ) (delivery : Delivery) :
    Store × Option String :=
  let command := acquireCommand cacheKey token ttlSeconds
  (delivery.apply store command,
    match delivery with
    | .answered => if (Redis.execute store command).2 = .ok then some token else none
    | .lost | .refused => none)

/-- `release_lock`: the store afterwards. -/
def releaseLock (store : Store) (cacheKey token : String) (delivery : Delivery) : Store :=
  delivery.apply store (releaseCommand cacheKey token)

/-! ## State and steps -/

/-- Redis, the live tokens with their cache keys, and the tokens drawn so far. -/
structure LockTable where
  store : Store
  live : List (String × String)
  drawn : List String

def LockTable.init (store : Store) : LockTable := ⟨store, [], []⟩

inductive LockAction where
  | acquire (cacheKey token : String) (ttlSeconds : ℚ) (delivery : Delivery)
  | release (cacheKey token : String) (delivery : Delivery)
  | expire (cacheKey : String)

/-- **One step**: Redis deals with a command, or a lock expires. Each call of `acquire_lock` draws
a token of its own. -/
def LockTable.step (l : LockTable) : LockAction → Option LockTable
  | .acquire cacheKey token ttlSeconds delivery =>
      if token ∈ l.drawn then none
      else
        some
          { store := (acquireLock l.store cacheKey token ttlSeconds delivery).1
            live :=
              if delivery ≠ .refused ∧
                  (Redis.execute l.store (acquireCommand cacheKey token ttlSeconds)).2 = .ok then
                l.live ++ [(cacheKey, token)]
              else l.live
            drawn := l.drawn ++ [token] }
  | .release cacheKey token delivery =>
      some
        { l with
          store := releaseLock l.store cacheKey token delivery
          live :=
            if delivery = .refused then l.live
            else l.live.filter fun entry => entry != (cacheKey, token) }
  | .expire cacheKey =>
      some
        { l with
          store := l.store.erase (lockKey cacheKey)
          live := l.live.filter fun entry => entry.1 != cacheKey }

/-! ## What the lock promises -/

/-- A cache key has at most one live token. -/
def LockTable.Exclusive (l : LockTable) : Prop :=
  ∀ cacheKey first second, (cacheKey, first) ∈ l.live → (cacheKey, second) ∈ l.live → first = second

/-- `acquire_lock` returns its own token, and only when the key had no live one. -/
def GrantsFree (l : LockTable) (action : LockAction) (next : LockTable) : Prop :=
  ∀ cacheKey token ttlSeconds delivery returned,
    action = .acquire cacheKey token ttlSeconds delivery →
      (acquireLock l.store cacheKey token ttlSeconds delivery).2 = some returned →
        returned = token ∧ (∀ other, (cacheKey, other) ∉ l.live) ∧ (cacheKey, token) ∈ next.live

/-- A release removes the lock of its own live token, and changes nothing else. -/
def ReleasesOwn (l : LockTable) (action : LockAction) (next : LockTable) : Prop :=
  ∀ cacheKey token delivery, action = .release cacheKey token delivery →
    ((cacheKey, token) ∉ l.live → next.store = l.store) ∧
      (∀ key, key ≠ lockKey cacheKey → next.store key = l.store key) ∧
        ((cacheKey, token) ∈ l.live → delivery ≠ .refused →
          next.store (lockKey cacheKey) = none) ∧
          ∀ entry ∈ l.live, entry ≠ (cacheKey, token) →
            entry ∈ next.live ∧ next.store (lockKey entry.1) = some (.text entry.2)

/-- A token that has been drawn and is not live never becomes live. -/
def StaysDead (l : LockTable) (_ : LockAction) (next : LockTable) : Prop :=
  ∀ cacheKey token, token ∈ l.drawn → (cacheKey, token) ∉ l.live → (cacheKey, token) ∉ next.live

/-! ## The invariant -/

/-- Redis holds the live tokens and no other ones, and they have been drawn. -/
structure LockTable.Kept (l : LockTable) : Prop where
  stored : ∀ cacheKey token,
    (cacheKey, token) ∈ l.live ↔ l.store (lockKey cacheKey) = some (.text token)
  texts : ∀ cacheKey members, l.store (lockKey cacheKey) ≠ some (.sortedSet members)
  drawn : ∀ entry ∈ l.live, entry.2 ∈ l.drawn

/-- The store holds no lock. -/
def Unlocked (store : Store) : Prop := ∀ cacheKey, store (lockKey cacheKey) = none

theorem kept_init {store : Store} (unlocked : Unlocked store) : (LockTable.init store).Kept where
  stored cacheKey token := by simp [LockTable.init, unlocked cacheKey]
  texts cacheKey members := by simp [LockTable.init, unlocked cacheKey]
  drawn entry member := by cases member

theorem LockTable.Kept.exclusive {l : LockTable} (kept : l.Kept) : l.Exclusive := by
  intro cacheKey first second one other
  have same := ((kept.stored _ _).mp one).symm.trans ((kept.stored _ _).mp other)
  exact Redis.Value.text.inj (Option.some.inj same)

section Step

variable {l next : LockTable} {action : LockAction}

theorem lockKey_ne {first second : String} (apart : first ≠ second) :
    lockKey first ≠ lockKey second := fun same => apart (lockKey_injective same)

/-- What `SET NX EX` does: it sets the token of a vacant key, or nothing. -/
theorem execute_acquireCommand (store : Store) (cacheKey token : String) (ttlSeconds : ℚ) :
    ((Redis.execute store (acquireCommand cacheKey token ttlSeconds)).2 = .ok ∧
        store (lockKey cacheKey) = none ∧
          (Redis.execute store (acquireCommand cacheKey token ttlSeconds)).1 =
            store.put (lockKey cacheKey) (.text token)) ∨
      (Redis.execute store (acquireCommand cacheKey token ttlSeconds)).2 ≠ .ok ∧
        (Redis.execute store (acquireCommand cacheKey token ttlSeconds)).1 = store := by
  by_cases granted : (Redis.execute store (acquireCommand cacheKey token ttlSeconds)).2 = .ok
  · exact .inl ⟨granted, Redis.execute_setIfAbsent_ok granted⟩
  · refine .inr ⟨granted, ?_⟩
    simp only [acquireCommand, Redis.execute] at granted ⊢
    split_ifs at granted ⊢ <;> first | rfl | exact absurd rfl granted

/-- What the script does: it deletes the key of its token, or nothing. -/
theorem execute_releaseCommand (store : Store) (cacheKey token : String) :
    (Redis.execute store (releaseCommand cacheKey token)).1 =
      if store (lockKey cacheKey) = some (.text token) then store.erase (lockKey cacheKey)
      else store := by
  simp only [releaseCommand, Redis.execute]
  split
  · rename_i absent
    simp [absent]
  · rename_i content found
    simp only [found, Option.some.injEq, Redis.Value.text.injEq]
    split <;> rfl
  · rename_i members found
    simp [found]

theorem kept_acquire (kept : l.Kept) {cacheKey token : String} {ttlSeconds : ℚ}
    {delivery : Delivery}
    (moved : l.step (.acquire cacheKey token ttlSeconds delivery) = some next) : next.Kept := by
  simp only [LockTable.step] at moved
  split at moved
  · cases moved
  · cases moved
    have grown : ∀ entry ∈ l.live, entry.2 ∈ l.drawn ++ [token] := fun entry member =>
      List.mem_append_left _ (kept.drawn entry member)
    rcases execute_acquireCommand l.store cacheKey token ttlSeconds with
      ⟨granted, vacant, written⟩ | ⟨refused, same⟩
    · by_cases arrives : delivery = .refused
      · subst arrives
        exact ⟨by simpa [acquireLock, Delivery.apply] using kept.stored, kept.texts,
          by simpa using grown⟩
      · have store : (acquireLock l.store cacheKey token ttlSeconds delivery).1 =
            l.store.put (lockKey cacheKey) (.text token) := by
          cases delivery <;> first | exact written | exact absurd rfl arrives
        simp only [store, granted, arrives, ne_eq, not_false_eq_true, and_self, if_true]
        refine ⟨fun other name => ?_, fun other members => ?_, ?_⟩
        · by_cases here : other = cacheKey
          · subst here
            have none_ : (other, name) ∉ l.live := fun member => by
              rw [kept.stored, vacant] at member
              cases member
            simp [none_, eq_comm]
          · simp [here, Store.put_of_ne _ _ (lockKey_ne here), kept.stored]
        · by_cases here : other = cacheKey
          · simp [here]
          · simpa [Store.put_of_ne _ _ (lockKey_ne here)] using kept.texts other members
        · intro entry member
          rcases List.mem_append.mp member with old | new
          · exact grown entry old
          · simp [List.mem_singleton.mp new]
    · have store : (acquireLock l.store cacheKey token ttlSeconds delivery).1 = l.store := by
        cases delivery <;> first | exact same | rfl
      simp only [store, refused, and_false, if_false]
      exact ⟨kept.stored, kept.texts, grown⟩

/-- Removing the lock of a key, with all its tokens. -/
theorem kept_erase (kept : l.Kept) (cacheKey : String) {live : List (String × String)}
    (removed : ∀ entry, entry ∈ live ↔ entry ∈ l.live ∧ entry.1 ≠ cacheKey) :
    (LockTable.mk (l.store.erase (lockKey cacheKey)) live l.drawn).Kept where
  stored other name := by
    rw [removed]
    by_cases here : other = cacheKey
    · simp [here]
    · simp [here, Store.erase_of_ne _ (lockKey_ne here), kept.stored]
  texts other members := by
    by_cases here : other = cacheKey
    · simp [here]
    · simpa [Store.erase_of_ne _ (lockKey_ne here)] using kept.texts other members
  drawn entry member := kept.drawn entry ((removed entry).mp member).1

theorem kept_step (kept : l.Kept) (moved : l.step action = some next) : next.Kept := by
  cases action with
  | acquire cacheKey token ttlSeconds delivery => exact kept_acquire kept moved
  | release cacheKey token delivery =>
      cases moved
      by_cases arrives : delivery = .refused
      · subst arrives
        exact ⟨by simpa [releaseLock, Delivery.apply] using kept.stored, kept.texts,
          by simpa using kept.drawn⟩
      · have store : releaseLock l.store cacheKey token delivery =
            if l.store (lockKey cacheKey) = some (.text token) then
              l.store.erase (lockKey cacheKey)
            else l.store := by
          cases delivery <;>
            first | exact execute_releaseCommand _ _ _ | exact absurd rfl arrives
        simp only [arrives, if_false, store]
        split
        · -- the token was live, and the only one of its key
          rename_i own
          refine kept_erase kept cacheKey fun entry => ?_
          obtain ⟨other, name⟩ := entry
          simp only [List.mem_filter, bne_iff_ne, ne_eq, Prod.mk.injEq, not_and]
          refine and_congr_right fun member => ⟨fun apart here => ?_, fun apart here => ?_⟩
          · exact apart here (kept.exclusive cacheKey _ _ (here ▸ member) ((kept.stored _ _).mpr own))
          · exact absurd here apart
        · rename_i foreign
          have dead : (cacheKey, token) ∉ l.live := fun member => foreign ((kept.stored _ _).mp member)
          rw [List.filter_eq_self.mpr fun entry member => by
            rw [bne_iff_ne]
            rintro rfl
            exact dead member]
          exact ⟨kept.stored, kept.texts, kept.drawn⟩
  | expire cacheKey =>
      cases moved
      exact kept_erase kept cacheKey fun entry => by simp [List.mem_filter]

theorem kept_run {store : Store} (unlocked : Unlocked store) {actions : List LockAction}
    (reached : run LockTable.step (.init store) actions = some l) : l.Kept :=
  invariant_of_step (kept_init unlocked) (fun _ _ _ kept moved => kept_step kept moved) reached

/-! ## Each step meets the promise -/

theorem grantsFree_step (kept : l.Kept) (moved : l.step action = some next) :
    GrantsFree l action next := by
  rintro cacheKey token ttlSeconds delivery returned rfl result
  simp only [LockTable.step] at moved
  split at moved
  · cases moved
  · cases moved
    cases delivery with
    | lost | refused => cases result
    | answered =>
        simp only [acquireLock] at result
        split at result
        · rename_i granted
          obtain ⟨vacant, -⟩ := Redis.execute_setIfAbsent_ok granted
          refine ⟨(Option.some.inj result).symm, fun other member => ?_, by simp [granted]⟩
          rw [kept.stored, vacant] at member
          cases member
        · cases result

theorem releasesOwn_step (kept : l.Kept) (moved : l.step action = some next) :
    ReleasesOwn l action next := by
  rintro cacheKey token delivery rfl
  have after := kept_step kept moved
  cases moved
  refine ⟨fun dead => ?_, fun key apart => ?_, fun live arrives => ?_, fun entry member apart => ?_⟩
  · have foreign : l.store (lockKey cacheKey) ≠ some (.text token) := fun own =>
      dead ((kept.stored _ _).mpr own)
    cases delivery <;>
      first | rfl | exact (execute_releaseCommand _ _ _).trans (if_neg foreign)
  · cases delivery <;> first | rfl | exact Redis.execute_other _ _ apart
  · have own := (kept.stored _ _).mp live
    have gone : (Redis.execute l.store (releaseCommand cacheKey token)).1 (lockKey cacheKey) =
        none := by
      rw [execute_releaseCommand, if_pos own, Store.erase_self]
    cases delivery <;> first | exact gone | exact absurd rfl arrives
  · have still : entry ∈ if delivery = .refused then l.live
        else l.live.filter fun entry => entry != (cacheKey, token) := by
      split
      · exact member
      · exact List.mem_filter.mpr ⟨member, bne_iff_ne.mpr apart⟩
    exact ⟨still, (after.stored entry.1 entry.2).mp still⟩

theorem staysDead_step (moved : l.step action = some next) : StaysDead l action next := by
  intro cacheKey token known dead
  cases action with
  | acquire other fresh ttlSeconds delivery =>
      simp only [LockTable.step] at moved
      split at moved
      · cases moved
      · rename_i new
        cases moved
        dsimp only
        split
        · rw [List.mem_append, not_or]
          refine ⟨dead, fun member => new ?_⟩
          obtain ⟨-, rfl⟩ := Prod.mk.inj (List.mem_singleton.mp member)
          exact known
        · exact dead
  | release other fresh delivery =>
      cases moved
      dsimp only
      split
      · exact dead
      · exact fun member => dead (List.mem_filter.mp member).1
  | expire other =>
      cases moved
      exact fun member => dead (List.mem_filter.mp member).1

end Step

/-- **The lock protocol.** In every run over a store without locks, whatever is lost, late or
expired, a cache key has at most one live token in every state; and at every step a granted
token finds the key free, a release touches only the lock of its own live token, and
a token that has been released or has expired stays dead. -/
theorem lock_protocol (store : Store) (unlocked : Unlocked store) (actions : List LockAction) :
    Always LockTable.step LockTable.Exclusive (.init store) actions ∧
      Throughout LockTable.step GrantsFree (.init store) actions ∧
        Throughout LockTable.step ReleasesOwn (.init store) actions ∧
          Throughout LockTable.step StaysDead (.init store) actions :=
  ⟨fun _ _ _ _ reached => (kept_run unlocked reached).exclusive,
    fun _ _ _ _ _ _ reached moved => grantsFree_step (kept_run unlocked reached) moved,
    fun _ _ _ _ _ _ reached moved => releasesOwn_step (kept_run unlocked reached) moved,
    fun _ _ _ _ _ _ _ moved => staysDead_step moved⟩

/-- A lock expires, another replica takes it, and the first holder releases late. -/
def lateRelease : List LockAction :=
  [.acquire "key" "a1" 65 .answered, .expire "key", .acquire "key" "b2" 65 .answered,
    .release "key" "a1" .answered, .release "key" "b2" .lost]

/-- The theorem about a late release. -/
theorem lock_protocol_lateRelease :
    Always LockTable.step LockTable.Exclusive (.init Store.empty) lateRelease ∧
      Throughout LockTable.step GrantsFree (.init Store.empty) lateRelease ∧
        Throughout LockTable.step ReleasesOwn (.init Store.empty) lateRelease ∧
          Throughout LockTable.step StaysDead (.init Store.empty) lateRelease :=
  lock_protocol Store.empty (fun _ => rfl) lateRelease

end LlmGateway
