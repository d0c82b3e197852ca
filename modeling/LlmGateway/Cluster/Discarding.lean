import LlmGateway.Cluster.Provenance

/-!
# Entries that are discarded

`cache.get` reads an entry and deletes it if it is unreadable. These are two commands, and a
`cache.set` of any replica may be executed between them: then the deletion removes what it has
written (`overtaken_entry_lost`). The release of a lock, in the same file, compares and deletes in
one command for this reason.

* `store_step` says what one step can do to a cache key: a `cache.set` writes a dump under it, a
  deletion or the expiry makes it vacant, and nothing else changes it.
* `World.Suspicious` is the invariant: from the read of an unreadable entry to its deletion, the key
  holds nothing readable, unless what a `cache.set` has written since the read still stands.
-/

set_option autoImplicit false

namespace LlmGateway

open LlmGateway.Library
open LlmGateway.Library.Redis (Command Reply Store)

variable {env : Environment}

/-! ## Commands that take effect -/

/-- Redis executes a command of a call. -/
def Executes (w : World) (command : Command) (action : Action) : Prop :=
  ∃ id delivery frame, action = .serve id delivery ∧ delivery ≠ .refused ∧
    w.tasks id = some ⟨frame, .sent command⟩

/-- A `cache.set` takes effect on a key. -/
def SetsEntry (key : String) (w : World) (action : Action) : Prop :=
  ∃ raw expireSeconds, 0 < expireSeconds ∧ Executes w (.set key raw false expireSeconds) action

/-- An entry expires, or is deleted. -/
def ClearsEntry (key : String) (w : World) (action : Action) : Prop :=
  action = .expire key ∨ Executes w (.delete key) action

/-- A key holds no text that is read as a response. -/
def Unreadable (env : Environment) (store : Store) (key : String) : Prop :=
  ∀ raw, store key = some (.text raw) → parseEntry env raw = none

/-- A text that some response is dumped to. -/
def Dumped (env : Environment) (_ raw : String) : Prop :=
  ∃ response, raw = env.codec.modelDumpJson response

theorem unreadable_of_none {store : Store} {key : String} (vacant : store key = none) :
    Unreadable env store key := by
  intro raw there
  rw [vacant] at there
  cases there

section Command

variable {w next : World} {action : Action} {command other : Command}

/-- A step executes one command at most. -/
theorem Executes.unique (first : Executes w command action) (second : Executes w other action) :
    command = other := by
  obtain ⟨id, delivery, frame, rfl, -, task⟩ := first
  obtain ⟨id', delivery', frame', same, -, task'⟩ := second
  cases same
  cases task.symm.trans task'
  rfl

theorem Executes.store (executes : Executes w command action)
    (moved : w.step env action = some next) : next.store = (Redis.execute w.store command).1 := by
  obtain ⟨id, delivery, frame, rfl, arrived, task⟩ := executes
  cases steps_of_step moved with
  | serve found =>
      cases task.symm.trans found
      cases delivery with
      | answered | lost => rfl
      | refused => exact absurd rfl arrived

/-- A set and a deletion are two commands. -/
theorem SetsEntry.not_clears {key other : String} (sets : SetsEntry key w action) :
    ¬ ClearsEntry other w action := by
  obtain ⟨raw, expireSeconds, -, executes⟩ := sets
  rintro (rfl | deletes)
  · obtain ⟨id, delivery, frame, same, -⟩ := executes
    cases same
  · cases executes.unique deletes

end Command

/-! ## What the calls send -/

/-- What holds of the calls of every run: they send the commands of their own keys, and what they
write to the cache is a dump. -/
structure World.Talks (env : Environment) (w : World) : Prop where
  linked : w.Linked env
  flows : w.Flows env (fun _ _ => True) (fun _ _ => True)
  writes : w.Writes env

section Talks

variable {w next : World} {action : Action}

theorem talks_init (env : Environment) (store : Store) : (World.init store).Talks env where
  linked := linked_init env store
  flows := ⟨fun _ _ _ => trivial, by simp [World.init]⟩
  writes := by simp [World.Writes, World.init]

theorem talks_step (talks : w.Talks env) (moved : w.step env action = some next) :
    next.Talks env where
  linked := linked_step talks.linked moved
  flows := flows_step ⟨fun _ _ _ => trivial, fun _ _ _ _ _ => trivial⟩ talks.linked talks.flows moved
    fun _ _ _ => trivial
  writes := writes_step talks.linked talks.writes moved

theorem talks_run {store : Store} {actions : List Action} {w : World}
    (reached : run (World.step env) (.init store) actions = some w) : w.Talks env :=
  invariant_of_step (talks_init env store) (fun _ _ _ talks moved => talks_step talks moved) reached

/-- The commands of a call. -/
theorem World.Talks.sends (talks : w.Talks env) {id : CallId} {frame : Frame} {command : Command}
    (task : w.tasks id = some ⟨frame, .sent command⟩) :
    Sends (Dumped env) (frame.cacheKey env) command := by
  have sends : Sends (fun _ _ => True) (frame.cacheKey env) command :=
    (talks.flows.tasks id _ task).sent command rfl
  cases sends with
  | get => exact .get
  | delete => exact .delete
  | store =>
      obtain ⟨response, -, dumped⟩ := talks.writes _ _ _ _ _ task
      exact .store ⟨response, dumped⟩
  | acquire => exact .acquire
  | release => exact .release

/-- What a step does to a key of the cache. -/
inductive KeyEffect (env : Environment) (w next : World) (key : String) (action : Action) : Prop
  | kept (same : next.store key = w.store key) (unset : ¬ SetsEntry key w action)
      (uncleared : ¬ ClearsEntry key w action)
  | cleared (clears : ClearsEntry key w action) (vacant : next.store key = none)
  | set {response : ChatResponse} (sets : SetsEntry key w action)
      (stored : next.store key = some (.text (env.codec.modelDumpJson response)))

/-- A step that is neither a command of a call nor an expiry does nothing to it. -/
theorem KeyEffect.of_kept {key : String} (same : next.store key = w.store key)
    (unserved : ∀ id delivery, action ≠ .serve id delivery) (lasting : action ≠ .expire key) :
    KeyEffect env w next key action := by
  have idle : ∀ command, ¬ Executes w command action := by
    rintro command ⟨id, delivery, frame, served, -⟩
    exact unserved id delivery served
  refine .kept same ?_ ?_
  · rintro ⟨raw, expireSeconds, -, executes⟩
    exact idle _ executes
  · rintro (expired | deletes)
    · exact lasting expired
    · exact idle _ deletes

/-- The effect of a command that is executed. -/
theorem keyEffect_of_executes {command : Command} {frame : Frame}
    (sends : Sends (Dumped env) (frame.cacheKey env) command) (executes : Executes w command action)
    (moved : w.step env action = some next) (digest : HexDigest) :
    KeyEffect env w next digest.text action := by
  have store := executes.store moved
  -- a command that is neither a set nor a deletion of this key
  have kept : next.store digest.text = w.store digest.text →
      (∀ raw expireSeconds, 0 < expireSeconds → command ≠ .set digest.text raw false expireSeconds) →
      command ≠ .delete digest.text → KeyEffect env w next digest.text action := by
    intro same unset undeleted
    refine .kept same ?_ ?_
    · rintro ⟨raw, expireSeconds, positive, sets⟩
      exact unset raw expireSeconds positive (executes.unique sets)
    · rintro (rfl | deletes)
      · obtain ⟨id, delivery, frame, served, -⟩ := executes
        cases served
      · exact undeleted (executes.unique deletes)
  have other : digest.text ≠ command.key → next.store digest.text = w.store digest.text :=
    fun ne => by rw [store, Redis.execute_other _ _ ne]
  cases sends with
  | get => exact kept (by rw [store, Redis.execute_get_store]) (by simp) (by simp)
  | delete =>
      by_cases same : digest.text = frame.cacheKey env
      · rw [← same] at executes store
        exact .cleared (.inr executes) (by rw [store, Redis.execute_delete_self])
      · exact kept (other same) (by simp) (by simpa using Ne.symm same)
  | @store raw expireSeconds written =>
      by_cases same : digest.text = frame.cacheKey env
      · rw [← same] at executes store
        by_cases positive : 0 < expireSeconds
        · obtain ⟨response, rfl⟩ := written
          have there : next.store digest.text = some (.text (env.codec.modelDumpJson response)) := by
            rw [store, Redis.execute_set_put positive, Store.put_self]
          exact .set ⟨_, _, positive, executes⟩ there
        · refine kept ?_ ?_ (by simp)
          · rw [store]
            simp only [Redis.execute, if_pos (not_lt.mp positive)]
          · intro raw' seconds valid equal
            exact positive ((Command.set.inj equal).2.2.2 ▸ valid)
      · exact kept (other same) (by simp [Ne.symm same]) (by simp)
  | acquire => exact kept (other (digest_ne_lockKey _ _)) (by simp) (by simp)
  | release => exact kept (other (digest_ne_lockKey _ _)) (by simp) (by simp)

/-- **What one step can do to a key of the cache.** -/
theorem store_step (talks : w.Talks env) (moved : w.step env action = some next)
    (digest : HexDigest) : KeyEffect env w next digest.text action := by
  have steps := steps_of_step moved
  cases steps with
  | start | startStream | chat | stream => exact .of_kept rfl (by simp) (by simp)
  | @serve id frame command delivery task =>
      by_cases arrived : delivery = .refused
      · subst arrived
        have idle : ∀ other, ¬ Executes w other (.serve id .refused) := by
          rintro other ⟨id', delivery', frame', same, arrived, -⟩
          cases same
          exact arrived rfl
        refine .kept rfl ?_ ?_
        · rintro ⟨raw, expireSeconds, -, executes⟩
          exact idle _ executes
        · rintro (expired | deletes)
          · cases expired
          · exact idle _ deletes
      · exact keyEffect_of_executes (talks.sends task) ⟨id, delivery, frame, rfl, arrived, task⟩ moved
          digest
  | @expire key =>
      by_cases same : digest.text = key
      · exact .cleared (.inl (by rw [same])) (same ▸ w.store.erase_self key)
      · exact .of_kept (w.store.erase_of_ne same) (by simp) (by simpa using Ne.symm same)
  | limit =>
      exact .of_kept (checkPipeline_other _ (digest_ne_rateLimitKey digest _)) (by simp) (by simp)
  | rollback =>
      exact .of_kept (Redis.execute_other _ _ (digest_ne_rateLimitKey digest _)) (by simp) (by simp)

end Talks

/-! ## From the read to the deletion -/

/-- A call is about to delete an entry: it has read one that does not validate, or it has sent the
deletion. -/
inductive Doubts (env : Environment) (w : World) (id : CallId) (key : String) : Prop
  | read {frame : Frame} {raw : String} (task : w.tasks id = some ⟨frame, .replied (.bulk raw)⟩)
      (own : frame.cacheKey env = key) (unread : parseEntry env raw = none)
  | sent {frame : Frame} (task : w.tasks id = some ⟨frame, .sent (.delete key)⟩)

section Doubts

variable {w next : World} {action : Action} {id : CallId} {key : String}

/-- Doubts of a call that a step does not run. -/
theorem Doubts.elsewhere (doubts : Doubts env next id key) (same : next.tasks id = w.tasks id) :
    Doubts env w id key := by
  cases doubts with
  | read there own unread => exact .read (same ▸ there) own unread
  | sent there => exact .sent (same ▸ there)

/-- What a call with doubts has on its wire. -/
theorem Doubts.wire {frame : Frame} {wire : Wire} (doubts : Doubts env w id key)
    (task : w.tasks id = some ⟨frame, wire⟩) :
    (∃ raw, wire = .replied (.bulk raw) ∧ frame.cacheKey env = key ∧ parseEntry env raw = none) ∨
      wire = .sent (.delete key) := by
  cases doubts with
  | read there own unread =>
      obtain ⟨rfl, rfl⟩ := Task.mk.inj (Option.some.inj (task.symm.trans there))
      exact .inl ⟨_, rfl, own, unread⟩
  | sent there =>
      obtain ⟨rfl, rfl⟩ := Task.mk.inj (Option.some.inj (task.symm.trans there))
      exact .inr rfl

/-- Doubts after a turn: the call had them before. -/
theorem Doubts.of_turn {frame after : Frame} {wire : Wire} {send : Option Command}
    (doubts : Doubts env next id key) (task : w.tasks id = some ⟨frame, wire⟩)
    (tasks : next.tasks id = some ⟨after, wire.after send⟩)
    (fresh : send = some (.delete key) → Doubts env w id key) : Doubts env w id key := by
  rcases doubts.wire tasks with ⟨raw, replied, -⟩ | sent
  · exact absurd replied (Wire.after_ne_replied _ _ _)
  · rcases Wire.after_eq sent with new | kept
    · exact fresh new
    · exact .sent (kept ▸ task)

/-- Doubts after a delivery: the call has read an unreadable entry. -/
theorem Doubts.of_delivery {frame : Frame} {command : Command} {delivery : Delivery}
    (sends : Sends (Dumped env) (frame.cacheKey env) command)
    (doubts : Doubts env (w.deliver id frame command delivery) id key) :
    delivery = .answered ∧ command = .get key ∧
      Unreadable env (w.deliver id frame command delivery).store key := by
  cases delivery with
  | lost | refused =>
      rcases doubts.wire (Function.update_self _ _ _) with ⟨raw, replied, -⟩ | sent
      · cases replied
      · cases sent
  | answered =>
      rcases doubts.wire (Function.update_self _ _ _) with ⟨raw, replied, rfl, unread⟩ | sent
      · obtain ⟨rfl, there⟩ := sends.get_of_bulk (Wire.replied.inj replied)
        refine ⟨rfl, rfl, fun other found => ?_⟩
        have same : w.store (frame.cacheKey env) = some (.text other) := by
          rwa [World.deliver, Redis.execute_get_store] at found
        cases there.symm.trans same
        exact unread
      · cases sent

/-- **Doubts come from a read** of an unreadable entry. -/
theorem doubts_step (talks : w.Talks env) (moved : w.step env action = some next)
    (doubts : Doubts env next id key) :
    Doubts env w id key ∨ action = .serve id .answered ∧ Unreadable env next.store key ∧
      ∃ frame, w.tasks id = some ⟨frame, .sent (.get key)⟩ := by
  cases steps_of_step moved with
  | @start other | @startStream other =>
      by_cases same : id = other
      · subst same
        rcases doubts.wire (Function.update_self _ _ _) with ⟨raw, replied, -⟩ | sent
        · cases replied
        · cases sent
      · exact .inl (doubts.elsewhere (Function.update_of_ne same _ _))
  | @serve other frame command delivery task =>
      by_cases same : id = other
      · subst same
        obtain ⟨rfl, rfl, unread⟩ := doubts.of_delivery (talks.sends task)
        exact .inr ⟨rfl, unread, frame, task⟩
      · refine .inl (doubts.elsewhere ?_)
        cases delivery <;> exact Function.update_of_ne same _ _
  | @chat other call wire input clock turn task fits turns =>
      by_cases same : id = other
      · subst same
        refine .inl (doubts.of_turn task (Function.update_self _ _ _) fun new => ?_)
        cases turns with
        | unreadable point unread =>
            cases new
            exact .read (Wire.carries_eq fits ▸ task) rfl unread
        | _ => cases new
      · exact .inl (doubts.elsewhere (Function.update_of_ne same _ _))
  | @stream other call wire input clock turn task fits turns =>
      by_cases same : id = other
      · subst same
        refine .inl (doubts.of_turn task (Function.update_self _ _ _) fun new => ?_)
        cases turns with
        | unreadable point unread =>
            cases new
            exact .read (Wire.carries_eq fits ▸ task) rfl unread
        | _ => cases new
      · exact .inl (doubts.elsewhere (Function.update_of_ne same _ _))
  | expire | limit | rollback => exact .inl (doubts.elsewhere rfl)

end Doubts

/-! ## Runs -/

/-- A call reads a key. -/
def ReadsAt (env : Environment) (store : Store) (id : CallId) (key : String)
    (before : List Action) : Prop :=
  ∃ w frame, run (World.step env) (.init store) before = some w ∧
    w.tasks id = some ⟨frame, .sent (.get key)⟩

/-- What a `cache.set` has written under a key in a part of a run is still there. -/
def WrittenSince (env : Environment) (store : Store) (key : String) (before between : List Action) :
    Prop :=
  Standing (World.step env) (SetsEntry key) (ClearsEntry key) (.init store) before between

/-- **A call is overtaken**: since it has read a key, a `cache.set` has taken effect there, and
the key has not become vacant again. -/
def Overtaken (env : Environment) (store : Store) (id : CallId) (key : String)
    (actions : List Action) : Prop :=
  ∃ before between, actions = before ++ .serve id .answered :: between ∧
    ReadsAt env store id key before ∧
      WrittenSince env store key (before ++ [.serve id .answered]) between

/-- **No deletion comes late**: when Redis executes one, its call has not been overtaken. -/
def NeverOvertaken (env : Environment) (store : Store) (actions : List Action) : Prop :=
  ∀ before id delivery after w frame key, actions = before ++ .serve id delivery :: after →
    delivery ≠ .refused → run (World.step env) (.init store) before = some w →
      w.tasks id = some ⟨frame, .sent (.delete key)⟩ → ¬ Overtaken env store id key before

/-- What a step deletes is unreadable. -/
def DeletesUnreadable (env : Environment) (w : World) (action : Action) (_ : World) : Prop :=
  ∀ key, Executes w (.delete key) action → Unreadable env w.store key

/-- A step neither overwrites an entry nor lets it expire. -/
def LeavesEntry (key : String) (w : World) (action : Action) (_ : World) : Prop :=
  ¬ SetsEntry key w action ∧ action ≠ .expire key

/-- **Discarding never loses a good entry**: what a deletion removes is unreadable, and what a
`cache.set` has written is there and readable until the next one or until it expires. -/
structure SparesEntries (env : Environment) (store : Store) (actions : List Action) : Prop where
  spares : Throughout (World.step env) (DeletesUnreadable env) (.init store) actions
  stays : ∀ before write between after w next last key raw expireSeconds,
    actions = before ++ write :: (between ++ after) →
      run (World.step env) (.init store) before = some w → w.step env write = some next →
        0 < expireSeconds → Executes w (.set key raw false expireSeconds) write →
          Throughout (World.step env) (LeavesEntry key) next between →
            run (World.step env) next between = some last →
              last.store key = some (.text raw) ∧ (parseEntry env raw).isSome = true

/-- **The suspicions of a run**: whoever is about to delete an entry has read it, and since then it
has been unreadable or has been replaced. -/
def World.Suspicious (env : Environment) (store : Store) (actions : List Action) (w : World) : Prop :=
  ∀ id key, Doubts env w id key →
    ∃ before between, actions = before ++ .serve id .answered :: between ∧
      ReadsAt env store id key before ∧
        (WrittenSince env store key (before ++ [.serve id .answered]) between ∨
          Unreadable env w.store key)

section Run

variable {store : Store} {actions : List Action} {w next : World} {action : Action}

/-- A key that a call is about to delete is one of the cache. -/
theorem World.Talks.digest_of_doubts (talks : w.Talks env) {id : CallId} {key : String}
    (doubts : Doubts env w id key) : ∃ digest : HexDigest, digest.text = key := by
  cases doubts with
  | @read frame raw there own unread => exact ⟨frame.digest env, own ▸ frame.digest_text env⟩
  | @sent frame there =>
      cases talks.sends there with
      | delete => exact ⟨frame.digest env, frame.digest_text env⟩

theorem suspicious_step (reached : run (World.step env) (.init store) actions = some w)
    (suspicious : w.Suspicious env store actions) (moved : w.step env action = some next) :
    next.Suspicious env store (actions ++ [action]) := by
  intro id key doubts
  have talks : w.Talks env := talks_run reached
  rcases doubts_step talks moved doubts with old | ⟨rfl, unread, frame, task⟩
  · obtain ⟨before, between, rfl, reads, since⟩ := suspicious id key old
    refine ⟨before, between ++ [action], by simp, reads, ?_⟩
    have here : run (World.step env) (.init store) ((before ++ [.serve id .answered]) ++ between) =
        some w := by simpa using reached
    obtain ⟨digest, rfl⟩ := talks.digest_of_doubts old
    cases store_step talks moved digest with
    | kept same unset uncleared =>
        rcases since with standing | unread
        · exact .inl (.kept standing here uncleared)
        · exact .inr fun raw there => unread raw (same ▸ there)
    | cleared clears vacant => exact .inr (unreadable_of_none vacant)
    | set sets stored => exact .inl (.set here sets)
  · exact ⟨actions, [], rfl, ⟨w, frame, reached, task⟩, .inr unread⟩

/-- **Every run is suspicious** of nothing else. -/
theorem suspicious_run (reached : run (World.step env) (.init store) actions = some w) :
    w.Suspicious env store actions := by
  refine run_induction_of_step (P := fun actions w => w.Suspicious env store actions)
    ?_ (fun _ _ _ _ earlier suspicious moved => suspicious_step earlier suspicious moved) reached
  rintro id key (there | there) <;> cases there

/-- What a `cache.set` has written is a dump. -/
theorem stored_of_writtenSince {before between : List Action} {digest : HexDigest}
    (written : WrittenSince env store digest.text before between)
    (reached : run (World.step env) (.init store) (before ++ between) = some w) :
    ∃ response, w.store digest.text = some (.text (env.codec.modelDumpJson response)) := by
  refine Standing.holds (I := World.Talks env)
    (P := fun w => ∃ response, w.store digest.text = some (.text (env.codec.modelDumpJson response)))
    (fun _ _ => talks_run) ?_ ?_ written reached
  · intro w action next talks moved sets
    cases store_step talks moved digest with
    | kept same unset => exact absurd sets unset
    | cleared clears => exact absurd clears sets.not_clears
    | set sets stored => exact ⟨_, stored⟩
  · rintro w action next talks moved uncleared ⟨response, there⟩
    cases store_step talks moved digest with
    | kept same => exact ⟨response, same.trans there⟩
    | cleared clears => exact absurd clears uncleared
    | set sets stored => exact ⟨_, stored⟩

/-- A dump that no deletion may remove stays. -/
theorem stays_of_spares (readable : env.codec.Readable) {between : List Action} {last : World}
    {digest : HexDigest} {response : ChatResponse} (talks : w.Talks env)
    (there : w.store digest.text = some (.text (env.codec.modelDumpJson response)))
    (undisturbed : Throughout (World.step env) (LeavesEntry digest.text) w between)
    (spares : Throughout (World.step env) (DeletesUnreadable env) w between)
    (reached : run (World.step env) w between = some last) :
    last.store digest.text = some (.text (env.codec.modelDumpJson response)) := by
  have kept : last.Talks env ∧
      last.store digest.text = some (.text (env.codec.modelDumpJson response)) := by
    refine invariant (P := fun w => w.Talks env ∧
      w.store digest.text = some (.text (env.codec.modelDumpJson response))) ⟨talks, there⟩ ?_
      (undisturbed.and spares) reached
    rintro w action next ⟨talks, there⟩ moved ⟨⟨unset, lasting⟩, spares⟩
    refine ⟨talks_step talks moved, ?_⟩
    cases store_step talks moved digest with
    | kept same => exact same.trans there
    | cleared clears =>
        rcases clears with expired | deletes
        · exact absurd expired lasting
        · -- the deletion would remove what is readable
          have unread := spares digest.text deletes _ there
          exact absurd unread (Option.isSome_iff_ne_none.mp (readable response))
    | set sets => exact absurd sets unset
  exact kept.2

/-- A deletion that is not overtaken removes what is unreadable. -/
theorem spares_of_neverOvertaken (timely : NeverOvertaken env store actions) :
    Throughout (World.step env) (DeletesUnreadable env) (.init store) actions := by
  rintro before action after w next split reached - key ⟨id, delivery, frame, rfl, arrived, task⟩
  obtain ⟨earlier, between, rfl, reads, written | unread⟩ :=
    suspicious_run reached id key (.sent task)
  · exact absurd ⟨earlier, between, rfl, reads, written⟩
      (timely _ id delivery after w frame key split arrived reached task)
  · exact unread

/-- Where deletions remove only what is unreadable, a call that is overtaken does not delete. -/
theorem neverOvertaken_of_spares (readable : env.codec.Readable)
    (spares : Throughout (World.step env) (DeletesUnreadable env) (.init store) actions) :
    NeverOvertaken env store actions := by
  rintro before id delivery after w frame key split arrived reached task
    ⟨earlier, between, rfl, -, written⟩
  obtain ⟨digest, rfl⟩ := (talks_run reached).digest_of_doubts (.sent task)
  obtain ⟨response, there⟩ := stored_of_writtenSince written (by simpa using reached)
  have moved : w.step env (.serve id delivery) =
      some (w.deliver id frame (.delete digest.text) delivery) := by
    simp only [World.step, task]
  exact absurd (spares _ _ after w _ split reached moved digest.text
    ⟨id, delivery, frame, rfl, arrived, task⟩ _ there)
    (Option.isSome_iff_ne_none.mp (readable response))

/-- What a `cache.set` writes is there right after it. -/
theorem written_of_executes {key raw : String} {expireSeconds : ℤ} (talks : w.Talks env)
    (moved : w.step env action = some next) (positive : 0 < expireSeconds)
    (executes : Executes w (.set key raw false expireSeconds) action) :
    (∃ digest : HexDigest, digest.text = key) ∧
      (∃ response, raw = env.codec.modelDumpJson response) ∧ next.store key = some (.text raw) := by
  have stored : next.store key = some (.text raw) := by
    rw [executes.store moved, Redis.execute_set_put positive, Store.put_self]
  obtain ⟨id, delivery, frame, -, -, task⟩ := executes
  cases talks.sends task with
  | store dumped => exact ⟨⟨frame.digest env, frame.digest_text env⟩, dumped, stored⟩

end Run

/-- **Discarding and storing, exactly**: in a run of any number of replicas, no deletion by `cache.get`
removes a readable entry, and each entry that `cache.set` stores stays until it is overwritten or
expires, if and only if no deletion is executed after a `cache.set` has overtaken its call. -/
theorem spares_entries_iff (env : Environment) (readable : env.codec.Readable) (store : Store)
    (actions : List Action) :
    SparesEntries env store actions ↔ NeverOvertaken env store actions := by
  constructor
  · exact fun spared => neverOvertaken_of_spares readable spared.spares
  · intro timely
    have spares := spares_of_neverOvertaken timely
    refine ⟨spares, ?_⟩
    intro before write between after w next last key raw expireSeconds split reached moved positive
      executes undisturbed continued
    have talks := talks_run reached
    obtain ⟨⟨digest, rfl⟩, ⟨response, rfl⟩, there⟩ :=
      written_of_executes talks moved positive executes
    refine ⟨?_, readable response⟩
    have later : run (World.step env) (.init store) (before ++ [write]) = some next :=
      run_snoc_eq_some.mpr ⟨w, reached, moved⟩
    have whole : actions = (before ++ [write]) ++ (between ++ after) := by simp [split]
    rw [whole] at spares
    exact stays_of_spares readable (talks_step talks moved) there undisturbed
      ((spares.rest later).of_split rfl) continued

/-- The cache holds an entry for `demoRequest` that was cut off. -/
def spoiledStore : Store :=
  Store.empty.put (buildCacheKey demoEnvironment (demoRequest false) (some (.int 1))) (.text "")

/-- Two calls read the entry. The first deletes it, calls its provider and releases its lock. -/
def bothDoubt : List Action :=
  [arrive 0 0, arrive 1 1] ++ exchange 0 (.bulk "") early ++ exchange 1 (.bulk "") early ++
    exchange 0 (.integer 1) early ++ exchange 0 .ok early ++
    [.chat 0 (.attempt (.answered demoResponse)) early] ++ exchange 0 (.integer 1) early

/-- The first call stores its response; then the deletion of the second is executed. -/
def overtaken : List Action := bothDoubt ++ [.serve 0 .answered] ++ [.serve 1 .answered]

/-- A call is about to store an entry, and another one to delete it. -/
def storesAndDeletes (id other : CallId) (w : World) : Bool :=
  match w.tasks id, w.tasks other with
  | some ⟨_, .sent (.set key _ false expireSeconds)⟩, some ⟨_, .sent (.delete doubted)⟩ =>
      key == doubted && decide (0 < expireSeconds)
  | _, _ => false

/-- **A good entry is lost**: the deletion of an entry that the second call has read removes the
response that the first one has stored since. -/
theorem overtaken_entry_lost : ¬ SparesEntries demoEnvironment spoiledStore overtaken := by
  intro spared
  have meets : (run (World.step demoEnvironment) (.init spoiledStore) bothDoubt).any
      (storesAndDeletes 0 1) = true := by decide +kernel
  obtain ⟨w, reached, meet⟩ := (Option.any_eq_true _ _).mp meets
  unfold storesAndDeletes at meet
  split at meet
  · rename_i frame key raw expireSeconds other doubted task doubts
    rw [Bool.and_eq_true, beq_iff_eq, decide_eq_true_iff] at meet
    obtain ⟨rfl, positive⟩ := meet
    have stores : Executes w (.set key raw false expireSeconds) (.serve 0 .answered) :=
      ⟨0, .answered, frame, rfl, by decide, task⟩
    have moved : w.step demoEnvironment (.serve 0 .answered) =
        some (w.deliver 0 frame (.set key raw false expireSeconds) .answered) := by
      simp only [World.step, task]
    have waiting : (w.deliver 0 frame (.set key raw false expireSeconds) .answered).tasks 1 =
        some ⟨other, .sent (.delete key)⟩ := by
      simp only [World.deliver]
      rwa [Function.update_of_ne (by decide)]
    obtain ⟨-, ⟨response, rfl⟩, stored⟩ :=
      written_of_executes (talks_run reached) moved positive stores
    have deleted := spared.spares (bothDoubt ++ [.serve 0 .answered]) (.serve 1 .answered) [] _ _ rfl
      (run_snoc_eq_some.mpr ⟨w, reached, moved⟩) (by simp only [World.step, waiting]; rfl)
    have unread := deleted key ⟨1, .answered, other, rfl, by decide, waiting⟩ _ stored
    rw [parseEntry, demoEnvironment, jsonCodec_inverse response] at unread
    cases unread
  · cases meet

/-- The action is the execution of a command that stores an entry. -/
def storesEntry (w : World) : Action → Bool
  | .serve id _ =>
      match w.tasks id with
      | some ⟨_, .sent (.set _ _ false _)⟩ => true
      | _ => false
  | _ => false

theorem storesEntry_of_setsEntry {key : String} {w : World} {action : Action}
    (sets : SetsEntry key w action) : storesEntry w action = true := by
  obtain ⟨raw, expireSeconds, -, id, delivery, frame, rfl, -, task⟩ := sets
  simp only [storesEntry, task]

/-- Both deletions are executed before the first call stores its response, and it stays. -/
theorem spares_entries_bothDoubt :
    SparesEntries demoEnvironment spoiledStore
      (bothDoubt ++ [.serve 1 .answered] ++ [.serve 0 .answered]) := by
  refine (spares_entries_iff demoEnvironment jsonCodec_inverse.readable spoiledStore _).mpr ?_
  have passed : passes (World.step demoEnvironment) (fun w action => !storesEntry w action)
      (.init spoiledStore) (bothDoubt ++ [.serve 1 .answered]) = true := by decide +kernel
  rintro before id delivery after w frame key split - reached - ⟨first, between, rfl, -, standing⟩
  have earlier : first ++ .serve id .answered :: between <+: bothDoubt ++ [.serve 1 .answered] := by
    refine List.prefix_of_prefix_length_le ⟨.serve id delivery :: after, split.symm⟩
      (List.prefix_append ..) ?_
    have lengths := congrArg List.length split
    simp only [List.length_append, List.length_cons, List.length_nil] at lengths ⊢
    omega
  obtain ⟨rest, whole⟩ := earlier
  have unset : Throughout (World.step demoEnvironment) (fun w action _ => ¬ SetsEntry key w action)
      (.init spoiledStore) (bothDoubt ++ [.serve 1 .answered]) :=
    throughout_of_passes (fun w action _ test sets => by simp [storesEntry_of_setsEntry sets] at test)
      passed
  have early := unset.of_split whole.symm
  rw [List.append_cons] at early reached
  exact not_standing early reached standing

end LlmGateway
