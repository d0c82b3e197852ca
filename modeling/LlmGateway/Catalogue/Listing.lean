import LlmGateway.Engines.Policy
import LlmGateway.Library.StableSort
import LlmGateway.Routers.Models

/-!
# What the model endpoints say

`get_model` answers with the first provider, by priority, that names the model, and with the first
that names none where nobody names it (`getModel_eq`). `list_models` has one entry for each model
that somebody names, in the order of the names, with the owner that `get_model` gives
(`mem_listModels`, `listModels_ordered`).
-/

set_option autoImplicit false

namespace LlmGateway

open LlmGateway.Library

/-! ## Owners -/

/-- The provider names the model. -/
def names (model : String) (provider : BaseProvider) : Bool :=
  provider.config.supportedModels.contains model

/-- The provider names no model, and serves each. -/
def isWildcard (provider : BaseProvider) : Bool := provider.config.supportedModels.isEmpty

theorem supports_eq (model : String) (provider : BaseProvider) :
    supports model provider = (isWildcard provider || names model provider) := rfl

theorem isWildcard_of_names {model : String} {provider : BaseProvider}
    (named : names model provider = true) : isWildcard provider = false := by
  unfold names at named
  unfold isWildcard
  cases models : provider.config.supportedModels with
  | nil =>
      rw [models] at named
      cases named
  | cons => rfl

section Scan

variable (model : String)

theorem scanOwners_cons (provider : BaseProvider) (rest : List BaseProvider)
    (wildcardOwner : Option String) :
    scanOwners model (provider :: rest) wildcardOwner =
      if isWildcard provider then
        scanOwners model rest (wildcardOwner.or (some provider.config.name))
      else if names model provider then (some provider.config.name, wildcardOwner)
      else scanOwners model rest wildcardOwner := rfl

theorem scanOwners_fst (providers : List BaseProvider) (wildcardOwner : Option String) :
    (scanOwners model providers wildcardOwner).1 =
      (providers.find? (names model)).map (·.config.name) := by
  induction providers generalizing wildcardOwner with
  | nil => rfl
  | cons provider rest ih =>
      rw [scanOwners_cons]
      split_ifs with wildcard named
      · have unnamed : ¬ names model provider = true := fun named => by
          rw [isWildcard_of_names named] at wildcard
          cases wildcard
        rw [ih, List.find?_cons_of_neg unnamed]
      · rw [List.find?_cons_of_pos named]
        rfl
      · rw [ih, List.find?_cons_of_neg named]

theorem scanOwners_snd {providers : List BaseProvider} (wildcardOwner : Option String)
    (unnamed : providers.find? (names model) = none) :
    (scanOwners model providers wildcardOwner).2 =
      wildcardOwner.or ((providers.find? isWildcard).map (·.config.name)) := by
  induction providers generalizing wildcardOwner with
  | nil => simp [scanOwners]
  | cons provider rest ih =>
      have here := List.find?_eq_none.mp unnamed provider List.mem_cons_self
      rw [List.find?_cons_of_neg here] at unnamed
      rw [scanOwners_cons, if_neg here]
      split_ifs with wildcard
      · rw [ih _ unnamed, List.find?_cons_of_pos wildcard]
        cases wildcardOwner <;> rfl
      · rw [ih _ unnamed, List.find?_cons_of_neg wildcard]

end Scan

/-- The provider that owns a model, if there is one. -/
def modelOwner (registry : ProviderRegistry) (model : String) : Option BaseProvider :=
  ((providersByPriority registry).find? (names model)).or
    ((providersByPriority registry).find? isWildcard)

/-- **What `get_model` answers.** -/
theorem getModel_eq (registry : ProviderRegistry) (model : String) :
    getModel registry model =
      match modelOwner registry model with
      | some owner => .ok ⟨model, owner.config.name⟩
      | none => .error ⟨404, errorDetail ("model '" ++ model ++ "' not found") "model_not_found"⟩ := by
  have first := scanOwners_fst model (providersByPriority registry) none
  unfold getModel modelOwner
  cases named : (providersByPriority registry).find? (names model) with
  | some owner =>
      rw [named] at first
      generalize scanOwners model (providersByPriority registry) none = scanned at first
      obtain ⟨owner, wildcardOwner⟩ := scanned
      cases first
      rfl
  | none =>
      have second := scanOwners_snd model none named
      rw [named] at first
      generalize scanOwners model (providersByPriority registry) none = scanned at first second
      obtain ⟨owner, wildcardOwner⟩ := scanned
      cases first
      cases wild : (providersByPriority registry).find? isWildcard with
      | some owner =>
          rw [wild] at second
          cases second
          rfl
      | none =>
          rw [wild] at second
          cases second
          rfl

theorem mem_providersByPriority {registry : ProviderRegistry} {provider : BaseProvider} :
    provider ∈ providersByPriority registry ↔ provider ∈ registry.all :=
  List.mem_insertionSort byPriority

/-- A model has an owner exactly if some provider serves it. -/
theorem modelOwner_eq_none {registry : ProviderRegistry} {model : String} :
    modelOwner registry model = none ↔ ∀ provider ∈ registry.all, supports model provider = false := by
  rw [modelOwner, Option.or_eq_none_iff, List.find?_eq_none, List.find?_eq_none]
  simp only [mem_providersByPriority, supports_eq, Bool.or_eq_false_iff, Bool.not_eq_true]
  exact ⟨fun ⟨named, wild⟩ provider member => ⟨wild provider member, named provider member⟩,
    fun none => ⟨fun provider member => (none provider member).2,
      fun provider member => (none provider member).1⟩⟩

/-! ## The listing -/

section Entries

/-- The owner of a model among some entries. -/
def ownerIn (owned : List ModelEntry) (model : String) : Option String :=
  (owned.find? fun entry => entry.id == model).map ModelEntry.ownedBy

theorem ownerIn_setDefault (owned : List ModelEntry) (model owner other : String) :
    ownerIn (setDefault owned model owner) other =
      (ownerIn owned other).or (if model = other then some owner else none) := by
  unfold setDefault
  split_ifs with known same same
  · subst same
    obtain ⟨entry, member, rfl⟩ := List.mem_map.mp (List.contains_iff_mem.mp known)
    have found : (owned.find? fun other => other.id == entry.id).isSome = true :=
      List.find?_isSome.mpr ⟨entry, member, by simp⟩
    obtain ⟨first, there⟩ := Option.isSome_iff_exists.mp found
    simp [ownerIn, there]
  · simp
  · subst same
    simp only [ownerIn, List.find?_append, List.find?_singleton, beq_self_eq_true, if_true]
    cases owned.find? fun entry => entry.id == model <;> rfl
  · simp [ownerIn, List.find?_append, same]

theorem ownerIn_ownModels (owned : List ModelEntry) (provider : BaseProvider) (model : String) :
    ownerIn (ownModels owned provider) model =
      (ownerIn owned model).or
        (if names model provider then some provider.config.name else none) := by
  unfold ownModels names
  induction provider.config.supportedModels generalizing owned with
  | nil => simp
  | cons first rest ih =>
      rw [List.foldl_cons, ih, ownerIn_setDefault, Option.or_assoc]
      congr 1
      by_cases same : first = model
      · simp [same]
      · simp [same, Ne.symm same]

theorem ownerIn_foldl (owned : List ModelEntry) (providers : List BaseProvider) (model : String) :
    ownerIn (providers.foldl ownModels owned) model =
      (ownerIn owned model).or ((providers.find? (names model)).map (·.config.name)) := by
  induction providers generalizing owned with
  | nil => simp
  | cons provider rest ih =>
      rw [List.foldl_cons, ih, ownerIn_ownModels, Option.or_assoc]
      congr 1
      cases named : names model provider with
      | true => simp [named]
      | false => simp [named]

theorem nodup_setDefault {owned : List ModelEntry} (distinct : (owned.map ModelEntry.id).Nodup)
    (model owner : String) : ((setDefault owned model owner).map ModelEntry.id).Nodup := by
  unfold setDefault
  split_ifs with known
  · exact distinct
  · rw [List.map_append, List.nodup_append]
    refine ⟨distinct, List.nodup_singleton _, fun name member other new => ?_⟩
    rintro rfl
    obtain rfl := List.mem_singleton.mp new
    exact known (List.contains_iff_mem.mpr member)

theorem nodup_ownModels {owned : List ModelEntry} (distinct : (owned.map ModelEntry.id).Nodup)
    (provider : BaseProvider) : ((ownModels owned provider).map ModelEntry.id).Nodup := by
  unfold ownModels
  induction provider.config.supportedModels generalizing owned with
  | nil => exact distinct
  | cons first rest ih => exact ih (nodup_setDefault distinct first provider.config.name)

theorem nodup_foldl {owned : List ModelEntry} (distinct : (owned.map ModelEntry.id).Nodup)
    (providers : List BaseProvider) :
    ((providers.foldl ownModels owned).map ModelEntry.id).Nodup := by
  induction providers generalizing owned with
  | nil => exact distinct
  | cons provider rest ih => exact ih (nodup_ownModels distinct provider)

/-- The entries before they are sorted. -/
theorem nodup_owned (providers : List BaseProvider) :
    ((providers.foldl ownModels []).map ModelEntry.id).Nodup :=
  nodup_foldl (by simp) providers

/-- Among entries of different models, an entry is what is found under its model. -/
theorem mem_iff_ownerIn {owned : List ModelEntry} (distinct : (owned.map ModelEntry.id).Nodup)
    {entry : ModelEntry} : entry ∈ owned ↔ ownerIn owned entry.id = some entry.ownedBy := by
  unfold ownerIn
  constructor
  · intro member
    have found : (owned.find? fun other => other.id == entry.id).isSome = true :=
      List.find?_isSome.mpr ⟨entry, member, by simp⟩
    obtain ⟨first, there⟩ := Option.isSome_iff_exists.mp found
    have same : first = entry := List.inj_on_of_nodup_map distinct (List.mem_of_find?_eq_some there)
      member (by simpa using List.find?_some there)
    rw [there, same]
    rfl
  · intro found
    obtain ⟨first, there, owner⟩ := Option.map_eq_some_iff.mp found
    have same : first.id = entry.id := by simpa using List.find?_some there
    have equal : first = entry := by
      cases first
      cases entry
      cases same
      cases owner
      rfl
    exact equal ▸ List.mem_of_find?_eq_some there

end Entries

instance : Std.Total byItem := ⟨fun first second => by
  rcases lt_trichotomy first.id second.id with less | same | more
  · exact .inl (.inl less)
  · exact (le_total first.ownedBy second.ownedBy).imp (fun le => .inr ⟨same, le⟩)
      fun le => .inr ⟨same.symm, le⟩
  · exact .inr (.inl more)⟩

instance : IsTrans ModelEntry byItem := ⟨fun first second third left right => by
  rcases left with less | ⟨same, le⟩
  · rcases right with later | ⟨equal, -⟩
    · exact .inl (less.trans later)
    · exact .inl (equal ▸ less)
  · rcases right with later | ⟨equal, ge⟩
    · exact .inl (same ▸ later)
    · exact .inr ⟨same.trans equal, le.trans ge⟩⟩

variable {registry : ProviderRegistry}

/-- **What is listed**: each model that a provider names, with the first that does. -/
theorem mem_listModels {entry : ModelEntry} :
    entry ∈ listModels registry ↔
      ((providersByPriority registry).find? (names entry.id)).map (·.config.name) =
        some entry.ownedBy := by
  rw [listModels, List.mem_insertionSort, mem_iff_ownerIn (nodup_owned _),
    ownerIn_foldl]
  simp [ownerIn]

/-- **The listing is in the order of the models**, none of them twice. -/
theorem listModels_ordered (registry : ProviderRegistry) :
    (listModels registry).Pairwise fun first second => first.id < second.id := by
  have sorted := List.pairwise_insertionSort byItem
    ((providersByPriority registry).foldl ownModels [])
  have distinct : ((listModels registry).map ModelEntry.id).Nodup := by
    refine ((List.perm_insertionSort byItem _).map _).nodup_iff.mpr ?_
    exact nodup_owned _
  refine (sorted.and (List.pairwise_map.mp distinct)).imp ?_
  rintro first second ⟨less | ⟨same, -⟩, apart⟩
  · exact less
  · exact absurd same apart

/-- A listed entry is what `get_model` answers for its model. -/
theorem getModel_of_listed {entry : ModelEntry} (listed : entry ∈ listModels registry) :
    getModel registry entry.id = .ok entry := by
  obtain ⟨owner, found, named⟩ := Option.map_eq_some_iff.mp (mem_listModels.mp listed)
  rw [getModel_eq, modelOwner, found]
  change Except.ok (⟨entry.id, owner.config.name⟩ : ModelEntry) = _
  rw [named]

/-- The listed models are those that a provider names. -/
theorem listed_iff {model : String} :
    model ∈ (listModels registry).map ModelEntry.id ↔
      ∃ provider ∈ registry.all, model ∈ provider.config.supportedModels := by
  constructor
  · intro member
    obtain ⟨entry, listed, rfl⟩ := List.mem_map.mp member
    obtain ⟨owner, found, -⟩ := Option.map_eq_some_iff.mp (mem_listModels.mp listed)
    exact ⟨owner, mem_providersByPriority.mp (List.mem_of_find?_eq_some found),
      List.contains_iff_mem.mp (show names entry.id owner = true from List.find?_some found)⟩
  · rintro ⟨provider, member, named⟩
    have some := List.find?_isSome.mpr ⟨provider, mem_providersByPriority.mpr member,
      show names model provider = true from List.contains_iff_mem.mpr named⟩
    obtain ⟨owner, found⟩ := Option.isSome_iff_exists.mp some
    refine List.mem_map.mpr ⟨⟨model, owner.config.name⟩, mem_listModels.mpr ?_, rfl⟩
    rw [found]
    rfl

end LlmGateway
