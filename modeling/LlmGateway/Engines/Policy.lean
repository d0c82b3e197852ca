import LlmGateway.Engines.Runs

/-!
# One policy for chats and streams

The policy of both engines: ask the candidates in order until one serves, and give up when none is
left (`Policy`). For providers that start alike for a chat and for a stream, the two engines
contact the same candidates, each at most once, and come to the same end (`engines_agree`).

The candidates are in ascending priority, in registration order among equals
(`selectProviders_ordered`, `selectProviders_stable`).
-/

set_option autoImplicit false

namespace LlmGateway

/-! ## The order of the candidates -/

section Order

variable (registry : ProviderRegistry) (model : String)

instance : Std.Total byPriority :=
  ⟨fun first second => le_total first.config.priority second.config.priority⟩

instance : IsTrans BaseProvider byPriority := ⟨fun _ _ _ => le_trans⟩

theorem selectProviders_ordered : (selectProviders registry model).Pairwise byPriority :=
  List.pairwise_insertionSort byPriority _

theorem selectProviders_nodup : (selectProviders registry model).Nodup := by
  refine (List.perm_insertionSort byPriority _).nodup_iff.mpr ?_
  exact (List.Nodup.of_map _ registry.distinct).filter _

/-- Candidates of one priority stand in registration order. -/
theorem selectProviders_stable (priority : ℤ) :
    (selectProviders registry model).filter (fun provider => provider.config.priority = priority) =
      (registry.all.filter (supports model)).filter
        fun provider => provider.config.priority = priority := by
  let candidates := registry.all.filter (supports model)
  let equals := candidates.filter fun provider => provider.config.priority = priority
  have ordered : equals.Pairwise byPriority := by
    refine List.pairwise_of_forall_mem_list fun first left second right => ?_
    have same := (List.mem_filter.mp left).2
    have other := (List.mem_filter.mp right).2
    simp only [decide_eq_true_eq] at same other
    exact (same.trans other.symm).le
  have kept : equals.Sublist
      ((selectProviders registry model).filter fun provider => provider.config.priority = priority) := by
    have sublist := (List.sublist_insertionSort ordered List.filter_sublist).filter
      fun provider => provider.config.priority = priority
    rwa [List.filter_filter, funext fun _ => Bool.and_self _] at sublist
  refine (kept.eq_of_length ?_).symm
  exact ((List.perm_insertionSort byPriority candidates).filter _).length_eq.symm

end Order

/-! ## The policy -/

/-- What a provider does with a request: it serves, a chat with a response, a stream with lines
that may end in an exception; or the call fails, before the first line of a stream. -/
inductive ProviderOutcome where
  | serves (response : ChatResponse) (first : String) (more : List String)
      (failure : Option PyException)
  | fails (error : ProviderError)

namespace ProviderOutcome

def chat : ProviderOutcome → AttemptOutcome
  | serves response _ _ _ => .answered response
  | fails error => .providerError error

/-- What the iterator does after its last line. -/
def lastEvent : Option PyException → StreamEvent
  | none => .exhausted
  | some (.providerError error) => .providerError error
  | some exception => .exception exception

def stream : ProviderOutcome → List StreamEvent
  | serves _ first more failure => .line first :: (more.map .line ++ [lastEvent failure])
  | fails error => [.providerError error]

end ProviderOutcome

/-- The provider that an action of the generator contacts. -/
def EngineAction.contact : EngineAction → Option BaseProvider
  | contacts provider => some provider
  | yields _ => none

/-- **The policy** on candidates in order: the providers contacted, the end of a chat, and the trace
and end of a stream. -/
inductive Policy (request : ChatRequest) (outcome : BaseProvider → ProviderOutcome)
    (candidates : List BaseProvider) :
    List BaseProvider → ChainEnding → List EngineAction → Option PyException → Prop
  | served {before after : List BaseProvider} {provider : BaseProvider}
      {errors : List ProviderError} {response : ChatResponse} {first : String}
      {more : List String} {failure : Option PyException}
      (order : candidates = before ++ provider :: after) (failed : Failed .fails outcome before errors)
      (serves : outcome provider = .serves response first more failure) :
      Policy request outcome candidates (before ++ [provider]) (.returned provider response)
        ((before ++ [provider]).map .contacts ++
          (first :: more).map fun line => .yields (provider, line))
        failure
  | unavailable {errors : List ProviderError} (failed : Failed .fails outcome candidates errors) :
      Policy request outcome candidates candidates
        (.raised (.noProviderAvailable
          (noProviderLeft request (candidates.map (·.config.name)) errors.getLast?)))
        (candidates.map .contacts)
        (some (.noProviderAvailable
          (noProviderLeft request (candidates.map (·.config.name)) errors.getLast?)))

/-! ## Chats -/

section Chats

variable {request : ChatRequest} {outcome : BaseProvider → ProviderOutcome}

/-- A candidate that fails, fails for a chat. -/
theorem Failed.chat {before : List BaseProvider} {errors : List ProviderError}
    (failed : Failed .fails outcome before errors) :
    Failed .providerError (fun provider => (outcome provider).chat) before errors :=
  failed.imp fun _ _ fails => congrArg ProviderOutcome.chat fails

/-- **A chat follows the policy.** -/
theorem chat_policy {candidates contacted : List BaseProvider} {ending : ChainEnding}
    {trace : List EngineAction} {exception : Option PyException}
    (policy : Policy request outcome candidates contacted ending trace exception) :
    ChatRuns request (fun provider => (outcome provider).chat)
      (executeWithFallback request candidates) contacted ending := by
  rw [executeWithFallback_eq]
  cases policy with
  | served order failed serves =>
      subst order
      refine ChatRuns.failed failed.chat (.called ?_)
      simp only [serves, ProviderOutcome.chat, Attempt.resume]
      exact .ended _
  | unavailable failed =>
      have run : ChatRuns request (fun provider => (outcome provider).chat)
          (chatState request [] none (candidates ++ [])) (candidates ++ []) _ :=
        ChatRuns.failed failed.chat (.ended _)
      simpa using run

end Chats

/-! ## Streams -/

section Streams

variable {request : ChatRequest} {outcome : BaseProvider → ProviderOutcome}

/-- Candidates whose first line cannot be had are contacted one after the other. -/
theorem StreamRuns.failed {before : List BaseProvider} {errors : List ProviderError}
    (failed : Failed .fails outcome before errors) {attempted : List String}
    {lastError : Option ProviderError} {rest : List BaseProvider} {trace : List EngineAction}
    {exception : Option PyException}
    (later : ∀ events, StreamRuns request (fun provider => (outcome provider).stream)
      (.tryNext request (attempted ++ before.map (·.config.name)) (errors.getLast?.or lastError)
        rest) events trace exception) (events : List StreamEvent) :
    StreamRuns request (fun provider => (outcome provider).stream)
      (.tryNext request attempted lastError (before ++ rest)) events
      (before.map .contacts ++ trace) exception := by
  induction failed generalizing attempted lastError events with
  | nil => simpa using later events
  | @cons head error before errors fails failed ih =>
      rw [getLast?_cons_or, List.map_cons, ← List.singleton_append, ← List.append_assoc] at later
      have opens : (outcome head).stream = [.providerError error] := by
        rw [fails, ProviderOutcome.stream]
      have skipped : StreamEngine.resume request
          (.connect ⟨attempted ++ [head.config.name], lastError, head, before ++ rest⟩)
          (.providerError error) =
          some (.tryNext request (attempted ++ [head.config.name]) (some error) (before ++ rest),
            none) := rfl
      exact .opened opens skipped (ih later [])

/-- A provider that has yielded its first line is relayed to its end. -/
theorem StreamRuns.relayed (provider : BaseProvider) (lines : List String)
    (failure : Option PyException) :
    StreamRuns request (fun provider => (outcome provider).stream) (.relay provider)
      (lines.map .line ++ [ProviderOutcome.lastEvent failure])
      (lines.map fun line => .yields (provider, line)) failure := by
  induction lines with
  | nil =>
      have stopped : StreamEngine.resume request (.relay provider)
          (ProviderOutcome.lastEvent failure) = some (.ended failure, none) := by
        cases failure with
        | none => rfl
        | some exception => cases exception <;> rfl
      exact .read stopped (.ended failure [])
  | cons line lines ih =>
      have continued : StreamEngine.resume request (.relay provider) (.line line) =
          some (.relay provider, some (provider, line)) := rfl
      exact .read continued ih

/-- **A stream follows the policy.** -/
theorem stream_policy {candidates contacted : List BaseProvider} {ending : ChainEnding}
    {trace : List EngineAction} {exception : Option PyException}
    (policy : Policy request outcome candidates contacted ending trace exception) :
    StreamRuns request (fun provider => (outcome provider).stream)
      (.start request candidates) [] trace exception := by
  cases policy with
  | @served before after provider errors response first more failure order failed serves =>
      subst order
      rw [List.map_append, List.append_assoc]
      refine StreamRuns.failed failed (fun events => ?_) []
      have opens : (outcome provider).stream =
          .line first :: (more.map .line ++ [ProviderOutcome.lastEvent exception]) := by
        rw [serves, ProviderOutcome.stream]
      have connected (attempted : List String) (lastError : Option ProviderError) :
          StreamEngine.resume request (.connect ⟨attempted, lastError, provider, after⟩)
            (.line first) = some (.relay provider, some (provider, first)) := rfl
      exact .opened opens (connected _ _) (.relayed provider more exception)
  | @unavailable errors failed =>
      have run : StreamRuns request (fun provider => (outcome provider).stream)
          (.tryNext request [] none (candidates ++ [])) [] (candidates.map .contacts ++ []) _ :=
        StreamRuns.failed failed (fun events => .ended _ events) []
      simpa [StreamEngine.start] using run

end Streams

/-! ## The agreement -/

theorem Policy.exists (request : ChatRequest) (outcome : BaseProvider → ProviderOutcome)
    (candidates : List BaseProvider) :
    ∃ contacted ending trace exception,
      Policy request outcome candidates contacted ending trace exception := by
  rcases failed_or_settles ProviderOutcome.fails outcome candidates with ⟨errors, failed⟩ |
    ⟨before, provider, after, errors, order, failed, settles⟩
  · exact ⟨_, _, _, _, .unavailable failed⟩
  · cases serves : outcome provider with
    | serves => exact ⟨_, _, _, _, .served order failed serves⟩
    | fails error => exact absurd serves (settles error)

theorem filterMap_contacts (providers : List BaseProvider) :
    (providers.map EngineAction.contacts).filterMap EngineAction.contact = providers := by
  rw [List.filterMap_map]
  exact List.filterMap_some

/-- The policy contacts an initial part of the candidates, for a stream the same. -/
theorem Policy.contacts {request : ChatRequest} {outcome : BaseProvider → ProviderOutcome}
    {candidates contacted : List BaseProvider} {ending : ChainEnding} {trace : List EngineAction}
    {exception : Option PyException}
    (policy : Policy request outcome candidates contacted ending trace exception) :
    contacted <+: candidates ∧ trace.filterMap EngineAction.contact = contacted := by
  cases policy with
  | @served before after provider errors response first more failure order failed serves =>
      subst order
      refine ⟨⟨after, by simp⟩, ?_⟩
      rw [List.filterMap_append, filterMap_contacts, List.filterMap_map]
      have silent : (EngineAction.contact ∘ fun line => .yields (provider, line)) =
          fun _ : String => none := rfl
      rw [silent, List.filterMap_none, List.append_nil]
  | unavailable failed => exact ⟨List.prefix_rfl, filterMap_contacts candidates⟩

/-- **The two engines agree.** On the candidates, which stand in ascending priority and in
registration order among equals, a chat and a stream have exactly one run each, the policy's; they
contact the same candidates, each at most once. -/
theorem engines_agree (request : ChatRequest) (registry : ProviderRegistry)
    (outcome : BaseProvider → ProviderOutcome) :
    (selectProviders registry request.model).Pairwise byPriority ∧
      (∀ priority, (selectProviders registry request.model).filter
          (fun provider => provider.config.priority = priority) =
        (registry.all.filter (supports request.model)).filter
          fun provider => provider.config.priority = priority) ∧
      ∃ contacted ending trace exception,
        Policy request outcome (selectProviders registry request.model) contacted ending trace
            exception ∧
          contacted.Nodup ∧ trace.filterMap EngineAction.contact = contacted ∧
          (∀ others result,
            ChatRuns request (fun provider => (outcome provider).chat)
                (executeWithFallback request (selectProviders registry request.model)) others
                result ↔
              others = contacted ∧ result = ending) ∧
          ∀ actions raised,
            StreamRuns request (fun provider => (outcome provider).stream)
                (.start request (selectProviders registry request.model)) [] actions raised ↔
              actions = trace ∧ raised = exception := by
  obtain ⟨contacted, ending, trace, exception, policy⟩ :=
    Policy.exists request outcome (selectProviders registry request.model)
  obtain ⟨initial, contacts⟩ := policy.contacts
  refine ⟨selectProviders_ordered registry request.model,
    selectProviders_stable registry request.model, contacted, ending, trace, exception, policy,
    (selectProviders_nodup registry request.model).sublist initial.sublist, contacts,
    fun others result => ⟨(chat_policy policy).unique, ?_⟩,
    fun actions raised => ⟨(stream_policy policy).unique, ?_⟩⟩
  · rintro ⟨rfl, rfl⟩
    exact chat_policy policy
  · rintro ⟨rfl, rfl⟩
    exact stream_policy policy

end LlmGateway
