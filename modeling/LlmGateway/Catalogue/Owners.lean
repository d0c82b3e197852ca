import LlmGateway.Catalogue.Listing
import Mathlib.Data.List.Find

/-!
# Who owns a model

The endpoints and the router sort the same providers, the router after it has left out those that
do not serve the model. So the owner of a model can be read off the candidates: it is the first
that names the model, and the first of all where none does (`modelOwner_eq`). Another provider is
tried before the owner exactly if the first candidate names no model and a later one names this
one (`owned_by`).
-/

set_option autoImplicit false

namespace LlmGateway

open LlmGateway.Library

variable (registry : ProviderRegistry) (model : String)

/-- The candidate that owns the model. -/
def firstNamer (candidates : List BaseProvider) (model : String) : Option BaseProvider :=
  (candidates.find? (names model)).or candidates.head?

theorem selectProviders_eq_filter :
    selectProviders registry model = (providersByPriority registry).filter (supports model) :=
  filter_insertionSort byPriority (supports model) registry.all

theorem find?_names_candidates :
    (selectProviders registry model).find? (names model) =
      (providersByPriority registry).find? (names model) := by
  rw [selectProviders_eq_filter, List.find?_filter]
  refine List.find?_congr fun provider _ => ?_
  cases named : names model provider with
  | false => simp
  | true => simp [supports_eq, named]

/-- Where nobody names the model, the first candidate is the first that names none. -/
theorem head?_candidates
    (unnamed : (providersByPriority registry).find? (names model) = none) :
    (selectProviders registry model).head? = (providersByPriority registry).find? isWildcard := by
  rw [selectProviders_eq_filter, List.head?_filter]
  refine List.find?_congr fun provider member => ?_
  have here := List.find?_eq_none.mp unnamed provider member
  rw [supports_eq, Bool.eq_false_of_not_eq_true here, Bool.or_false]

/-- **The owner of a model** is a candidate. -/
theorem modelOwner_eq :
    modelOwner registry model = firstNamer (selectProviders registry model) model := by
  rw [modelOwner, firstNamer, find?_names_candidates]
  cases named : (providersByPriority registry).find? (names model) with
  | some owner => rfl
  | none => rw [head?_candidates registry model named]

/-- The providers of a registry are told apart by their names. -/
theorem ProviderRegistry.eq_of_name {registry : ProviderRegistry} {first second : BaseProvider}
    (left : first ∈ registry.all) (right : second ∈ registry.all)
    (same : first.config.name = second.config.name) : first = second :=
  List.inj_on_of_nodup_map registry.distinct left right same

/-- The owner is tried first exactly if the first candidate names the model, or none does. -/
theorem firstNamer_first {first owner : BaseProvider} {rest : List BaseProvider}
    (candidates : selectProviders registry model = first :: rest)
    (owns : firstNamer (first :: rest) model = some owner) :
    owner.config.name = first.config.name ↔
      names model first = true ∨ ∀ provider ∈ rest, names model provider = false := by
  have known : ∀ provider ∈ first :: rest, provider ∈ registry.all := by
    intro provider member
    rw [← candidates] at member
    exact (mem_selectProviders.mp member).1
  rw [firstNamer] at owns
  cases named : names model first with
  | true =>
      rw [List.find?_cons_of_pos named] at owns
      obtain rfl := Option.some.inj owns
      simp
  | false =>
      rw [List.find?_cons_of_neg (by simp [named])] at owns
      cases later : rest.find? (names model) with
      | none =>
          rw [later] at owns
          obtain rfl := Option.some.inj owns
          simpa using List.find?_eq_none.mp later
      | some other =>
          rw [later] at owns
          obtain rfl := Option.some.inj owns
          have member := List.mem_of_find?_eq_some later
          have names' : names model other = true := List.find?_some later
          constructor
          · intro same
            have equal := ProviderRegistry.eq_of_name (known _ (List.mem_cons_of_mem _ member))
              (known _ List.mem_cons_self) same
            rw [← equal, names'] at named
            cases named
          · rintro (absurd_ | none)
            · cases absurd_
            · rw [none other member] at names'
              cases names'

/-- **What `owned_by` says**, of `get_model` and of `list_models`: the first candidate that names the
model, or the first candidate if none does. That is the provider tried first exactly if the first
candidate names the model or no later one does. -/
theorem owned_by :
    (∀ entry, getModel registry model = .ok entry ↔
      ∃ owner, firstNamer (selectProviders registry model) model = some owner ∧
        entry = ⟨model, owner.config.name⟩) ∧
    (∀ entry ∈ listModels registry,
      ∃ owner, firstNamer (selectProviders registry entry.id) entry.id = some owner ∧
        entry.ownedBy = owner.config.name) ∧
    ∀ first rest owner, selectProviders registry model = first :: rest →
      firstNamer (first :: rest) model = some owner →
        (owner.config.name = first.config.name ↔
          names model first = true ∨ ∀ provider ∈ rest, names model provider = false) := by
  have answers : ∀ model entry, getModel registry model = .ok entry ↔
      ∃ owner, firstNamer (selectProviders registry model) model = some owner ∧
        entry = ⟨model, owner.config.name⟩ := by
    intro model entry
    rw [getModel_eq, modelOwner_eq]
    cases firstNamer (selectProviders registry model) model with
    | none => simp
    | some owner =>
        constructor
        · intro found
          exact ⟨owner, rfl, (Except.ok.inj found).symm⟩
        · rintro ⟨other, same, rfl⟩
          rw [Option.some.inj same]
  refine ⟨answers model, fun entry listed => ?_, fun first rest owner => ?_⟩
  · obtain ⟨owner, owns, same⟩ := (answers entry.id entry).mp (getModel_of_listed listed)
    exact ⟨owner, owns, congrArg ModelEntry.ownedBy same⟩
  · exact firstNamer_first registry model

/-- A provider that names a model, behind one that names none. -/
def restrictedProvider : BaseProvider :=
  ⟨{ name := "restricted", baseUrl := "https://r", supportedModels := ["known"], priority := 5 },
    .openai⟩

def wildcardAhead : ProviderRegistry :=
  .ofProviders
    [restrictedProvider,
      ⟨{ name := "wild", baseUrl := "https://w", supportedModels := [], priority := 0 }, .openai⟩]

/-- The owner is not always tried first. -/
theorem owner_not_first :
    ¬ ∀ (registry : ProviderRegistry) (model : String) (entry : ModelEntry),
      getModel registry model = .ok entry →
        ((selectProviders registry model).head?).map (·.config.name) = some entry.ownedBy := by
  intro first
  have owner : modelOwner wildcardAhead "known" = some restrictedProvider := by decide +kernel
  have found : getModel wildcardAhead "known" = .ok ⟨"known", "restricted"⟩ := by
    rw [getModel_eq, owner]
    rfl
  have tried : ((selectProviders wildcardAhead "known").head?).map (·.config.name) = some "wild" := by
    decide +kernel
  have same := (first wildcardAhead "known" _ found).symm.trans tried
  simp at same

end LlmGateway
