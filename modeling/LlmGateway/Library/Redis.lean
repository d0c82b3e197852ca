import Mathlib.Algebra.Order.Ring.Unbundled.Rat
import Mathlib.Data.List.Nodup
import Mathlib.Logic.Function.Basic

/-!
# A remote key-value server

The commands of a Redis server that a client sends one at a time, and the pipeline that
executes several of them in one step. A command is executed atomically; it changes no
key but its own (`execute_other`).

Expiry has no clock here. An expired key is a key that has been removed, and
whoever uses the store says when that may happen (`Store.erase`).
-/

set_option autoImplicit false

namespace LlmGateway.Library.Redis

/-! ## Values -/

/-- A sorted set: its members with their scores. -/
abbrev SortedSet := List (String × ℚ)

namespace SortedSet

/-- `ZADD`: a member that is already there only gets the new score. -/
def add (set : SortedSet) (member : String) (score : ℚ) : SortedSet :=
  set.filter (fun entry => entry.1 != member) ++ [(member, score)]

/-- `ZREM`. -/
def remove (set : SortedSet) (member : String) : SortedSet :=
  set.filter fun entry => entry.1 != member

/-- `ZREMRANGEBYSCORE`, both bounds included. -/
def removeRange (set : SortedSet) (low high : ℚ) : SortedSet :=
  set.filter fun entry => !(decide (low ≤ entry.2) && decide (entry.2 ≤ high))

end SortedSet

/-- What a key holds. -/
inductive Value where
  | text (content : String)
  | sortedSet (members : SortedSet)
deriving DecidableEq

/-- The keys of the server with their values. -/
abbrev Store := String → Option Value

namespace Store

def empty : Store := fun _ => none

/-- The store without a key, which was deleted or has expired. -/
def erase (store : Store) (key : String) : Store := Function.update store key none

/-- The store with a new value for a key. -/
def put (store : Store) (key : String) (value : Value) : Store :=
  Function.update store key (some value)

@[simp] theorem erase_self (store : Store) (key : String) : store.erase key key = none := by
  simp [erase]

@[simp] theorem put_self (store : Store) (key : String) (value : Value) :
    store.put key value key = some value := by
  simp [put]

theorem erase_of_ne (store : Store) {key other : String} (ne : other ≠ key) :
    store.erase key other = store other := by
  simp [erase, ne]

theorem put_of_ne (store : Store) {key other : String} (value : Value) (ne : other ≠ key) :
    store.put key value other = store other := by
  simp [put, ne]

end Store

/-! ## Commands -/

/-- A command and its arguments. `compareAndDelete` is the script that deletes a key if
it still holds the given text. -/
inductive Command where
  | get (key : String)
  | set (key value : String) (onlyIfAbsent : Bool) (expireSeconds : ℤ)
  | delete (key : String)
  | compareAndDelete (key value : String)
  | zremrangebyscore (key : String) (low high : ℚ)
  | zadd (key member : String) (score : ℚ)
  | zcard (key : String)
  | zrem (key member : String)
  | expire (key : String) (seconds : ℤ)
deriving DecidableEq

namespace Command

/-- The key a command is about. -/
def key : Command → String
  | get key | set key _ _ _ | delete key | compareAndDelete key _ | zremrangebyscore key _ _
  | zadd key _ _ | zcard key | zrem key _ | expire key _ => key

end Command

/-- What the client gets back. -/
inductive Reply where
  | error
  | nil
  | ok
  | bulk (content : String)
  | integer (value : ℤ)
deriving DecidableEq

/-- The sorted set under a key; a missing key is an empty set, and a text is an error. -/
def sortedSetAt (store : Store) (key : String) : Option SortedSet :=
  match store key with
  | none => some []
  | some (.sortedSet members) => some members
  | some (.text _) => none

/-- A sorted set that becomes empty is removed with its key. -/
def putSortedSet (store : Store) (key : String) (members : SortedSet) : Store :=
  if members.isEmpty then store.erase key else store.put key (.sortedSet members)

/-- **The server's reaction to one command**: the new store and the reply. -/
def execute (store : Store) : Command → Store × Reply
  | .get key =>
      match store key with
      | none => (store, .nil)
      | some (.text content) => (store, .bulk content)
      | some (.sortedSet _) => (store, .error)
  | .set key value onlyIfAbsent expireSeconds =>
      if expireSeconds ≤ 0 then (store, .error)
      else if onlyIfAbsent ∧ (store key).isSome then (store, .nil)
      else (store.put key (.text value), .ok)
  | .delete key =>
      match store key with
      | none => (store, .integer 0)
      | some _ => (store.erase key, .integer 1)
  | .compareAndDelete key value =>
      match store key with
      | none => (store, .integer 0)
      | some (.text content) =>
          if content = value then (store.erase key, .integer 1) else (store, .integer 0)
      | some (.sortedSet _) => (store, .error)
  | .zremrangebyscore key low high =>
      match sortedSetAt store key with
      | none => (store, .error)
      | some set =>
          (putSortedSet store key (set.removeRange low high),
            .integer (set.length - (set.removeRange low high).length))
  | .zadd key member score =>
      match sortedSetAt store key with
      | none => (store, .error)
      | some set =>
          (putSortedSet store key (set.add member score),
            .integer (if set.any fun entry => entry.1 == member then 0 else 1))
  | .zcard key =>
      match sortedSetAt store key with
      | none => (store, .error)
      | some set => (store, .integer set.length)
  | .zrem key member =>
      match sortedSetAt store key with
      | none => (store, .error)
      | some set =>
          (putSortedSet store key (set.remove member),
            .integer (set.length - (set.remove member).length))
  | .expire key seconds =>
      match store key with
      | none => (store, .integer 0)
      | some _ => (if seconds ≤ 0 then store.erase key else store, .integer 1)

/-- A pipeline: the commands one after the other, with nothing in between. -/
def executeAll : Store → List Command → Store × List Reply
  | store, [] => (store, [])
  | store, command :: rest =>
      let (after, reply) := execute store command
      let (last, replies) := executeAll after rest
      (last, reply :: replies)

/-! ## Sorted sets under their keys -/

theorem SortedSet.mem_add {set : SortedSet} {member other : String} {score given : ℚ} :
    (other, given) ∈ set.add member score ↔
      (other, given) ∈ set ∧ other ≠ member ∨ other = member ∧ given = score := by
  simp [SortedSet.add]

theorem SortedSet.mem_remove {set : SortedSet} {member other : String} {given : ℚ} :
    (other, given) ∈ set.remove member ↔ (other, given) ∈ set ∧ other ≠ member := by
  simp [SortedSet.remove]

theorem SortedSet.mem_removeRange {set : SortedSet} {low high given : ℚ} {other : String} :
    (other, given) ∈ set.removeRange low high ↔
      (other, given) ∈ set ∧ (low ≤ given → high < given) := by
  simp [SortedSet.removeRange, imp_iff_not_or]

/-- A member that is not there yet makes the set larger by one. -/
theorem SortedSet.length_add {set : SortedSet} {member : String} {score : ℚ}
    (fresh : ∀ given, (member, given) ∉ set) : (set.add member score).length = set.length + 1 := by
  have kept : set.filter (fun entry => entry.1 != member) = set := by
    refine List.filter_eq_self.mpr fun entry there => ?_
    rw [bne_iff_ne]
    rintro rfl
    exact fresh entry.2 there
  rw [SortedSet.add, kept, List.length_append, List.length_singleton]

/-- The members of a set are distinct after an insertion. -/
theorem SortedSet.nodup_add {set : SortedSet} {member : String} {score : ℚ}
    (nodup : (set.map Prod.fst).Nodup) : ((set.add member score).map Prod.fst).Nodup := by
  rw [SortedSet.add, List.map_append, List.nodup_append]
  refine ⟨nodup.sublist (List.filter_sublist.map _), List.nodup_singleton _, ?_⟩
  intro name there other new
  obtain rfl := List.mem_singleton.mp new
  obtain ⟨entry, kept, rfl⟩ := List.mem_map.mp there
  exact bne_iff_ne.mp (List.mem_filter.mp kept).2

theorem sortedSetAt_putSortedSet (store : Store) (key : String) (members : SortedSet) :
    sortedSetAt (putSortedSet store key members) key = some members := by
  unfold putSortedSet
  split
  · rename_i empty
    rw [sortedSetAt, store.erase_self, List.isEmpty_iff.mp empty]
  · rw [sortedSetAt, store.put_self]

theorem putSortedSet_putSortedSet (store : Store) (key : String) (first second : SortedSet) :
    putSortedSet (putSortedSet store key first) key second = putSortedSet store key second := by
  unfold putSortedSet
  split <;> split <;> simp [Store.erase, Store.put]

/-! ## What a command leaves alone -/

theorem sortedSetAt_congr {store other : Store} {key : String} (same : store key = other key) :
    sortedSetAt store key = sortedSetAt other key := by
  simp only [sortedSetAt, same]

theorem putSortedSet_other (store : Store) {key other : String} (members : SortedSet)
    (ne : other ≠ key) : putSortedSet store key members other = store other := by
  unfold putSortedSet
  split
  · exact store.erase_of_ne ne
  · exact store.put_of_ne _ ne

/-- A command changes no key but its own. -/
theorem execute_other (store : Store) (command : Command) {other : String}
    (ne : other ≠ command.key) : (execute store command).1 other = store other := by
  cases command <;> simp only [Command.key] at ne <;> simp only [execute] <;>
    (repeat' split) <;>
      first
      | rfl
      | exact store.put_of_ne _ ne
      | exact store.erase_of_ne ne
      | exact putSortedSet_other store _ ne

/-- A pipeline changes no key but those of its commands. -/
theorem executeAll_other (store : Store) (commands : List Command) {other : String}
    (ne : ∀ command ∈ commands, other ≠ command.key) :
    (executeAll store commands).1 other = store other := by
  induction commands generalizing store with
  | nil => rfl
  | cons command rest ih =>
      rw [executeAll, ih _ fun later member => ne later (List.mem_cons_of_mem _ member)]
      exact execute_other store command (ne command List.mem_cons_self)

/-- Reading changes nothing. -/
@[simp] theorem execute_get_store (store : Store) (key : String) :
    (execute store (.get key)).1 = store := by
  simp only [execute]
  split <;> rfl

/-- A reading command answers with the text of the key. -/
theorem execute_get_bulk {store : Store} {key content : String}
    (read : (execute store (.get key)).2 = .bulk content) : store key = some (.text content) := by
  simp only [execute] at read
  split at read
  · cases read
  · rename_i found
    cases read
    exact found
  · cases read

/-- A conditional write that succeeds found no value. -/
theorem execute_setIfAbsent_ok {store : Store} {key value : String} {expireSeconds : ℤ}
    (granted : (execute store (.set key value true expireSeconds)).2 = .ok) :
    store key = none ∧ (execute store (.set key value true expireSeconds)).1 =
      store.put key (.text value) := by
  simp only [execute] at granted ⊢
  split at granted
  · cases granted
  · split at granted
    · cases granted
    · rename_i positive absent
      have vacant : store key = none := by simpa using absent
      simp [positive, vacant]

/-- A conditional write to a key that has a value changes nothing. -/
theorem execute_setIfAbsent_occupied {store : Store} {key value : String} {expireSeconds : ℤ}
    (occupied : store key ≠ none) :
    (execute store (.set key value true expireSeconds)).1 = store := by
  simp only [execute]
  split
  · rfl
  · rw [if_pos ⟨trivial, Option.isSome_iff_ne_none.mpr occupied⟩]

/-- An unconditional write with a time to live succeeds. -/
theorem execute_set_put {store : Store} {key value : String} {expireSeconds : ℤ}
    (positive : 0 < expireSeconds) :
    (execute store (.set key value false expireSeconds)).1 = store.put key (.text value) := by
  simp [execute, Int.not_le.mpr positive]

/-- After a write the key holds the new text, or what it held before. -/
theorem execute_set_self (store : Store) (key value : String) (onlyIfAbsent : Bool)
    (expireSeconds : ℤ) :
    (execute store (.set key value onlyIfAbsent expireSeconds)).1 key = some (.text value) ∨
      (execute store (.set key value onlyIfAbsent expireSeconds)).1 = store := by
  simp only [execute]
  split
  · exact .inr rfl
  · split
    · exact .inr rfl
    · exact .inl (store.put_self key _)

/-- After a deletion the key is vacant, or nothing has changed. -/
theorem execute_delete_self (store : Store) (key : String) :
    (execute store (.delete key)).1 key = none := by
  simp only [execute]
  split
  · assumption
  · exact store.erase_self key

/-- The script deletes a key only if it holds the given text. -/
theorem execute_compareAndDelete_self (store : Store) (key value : String) :
    (execute store (.compareAndDelete key value)).1 = store ∨
      store key = some (.text value) ∧
        (execute store (.compareAndDelete key value)).1 = store.erase key := by
  simp only [execute]
  split
  · exact .inl rfl
  · rename_i content found
    split
    · rename_i same
      exact .inr ⟨by rw [found, same], rfl⟩
    · exact .inl rfl
  · exact .inl rfl

end LlmGateway.Library.Redis
