import Mathlib.Algebra.Order.BigOperators.Group.Finset

/-!
# Budgets that are charged late

A budget admits a request as long as what has been charged is below a limit. What a request
costs is charged some time after its admission, or never. An `Account` is such a budget at one
moment. At the last admission it was below its limit, and whatever is charged afterwards
belongs to a request that was outstanding then (`Account.overshoot`).
-/

set_option autoImplicit false

namespace LlmGateway.Library

variable {ι M : Type} [DecidableEq ι] [AddCommMonoid M]

/-- What was charged before the first request, and the requests admitted and charged. -/
structure Account (ι M : Type) where
  opening : M
  admitted : Finset ι
  charged : Finset ι
  charged_subset : charged ⊆ admitted

namespace Account

/-- The sum of all charges. -/
def spent (cost : ι → M) (account : Account ι M) : M :=
  account.opening + ∑ request ∈ account.charged, cost request

/-- The requests that are admitted and not charged. -/
def outstanding (account : Account ι M) : Finset ι := account.admitted \ account.charged

/-- Once all outstanding requests are charged, every admitted request is. -/
theorem spent_add_outstanding (cost : ι → M) (account : Account ι M) :
    account.spent cost + ∑ request ∈ account.outstanding, cost request =
      account.opening + ∑ request ∈ account.admitted, cost request := by
  rw [spent, outstanding, add_assoc, add_comm (∑ request ∈ account.charged, cost request),
    Finset.sum_sdiff account.charged_subset]

variable [PartialOrder M] [IsOrderedCancelAddMonoid M] {cost : ι → M}
  {earlier later : Account ι M}

/-- **The overshoot**: an account that was below its limit after the last admission stays
below the limit and the costs of the requests that were outstanding then. -/
theorem overshoot {limit : M} (nonneg : ∀ request, 0 ≤ cost request)
    (opening : earlier.opening = later.opening) (last : later.admitted ⊆ earlier.admitted)
    (below : earlier.spent cost < limit) :
    later.spent cost < limit + ∑ request ∈ earlier.outstanding, cost request := by
  have charged : later.charged ⊆ earlier.admitted := later.charged_subset.trans last
  calc later.spent cost
      ≤ earlier.opening + ∑ request ∈ earlier.admitted, cost request := by
        rw [spent, ← opening]
        gcongr
        exact fun request _ _ => nonneg request
    _ = earlier.spent cost + ∑ request ∈ earlier.outstanding, cost request :=
        (earlier.spent_add_outstanding cost).symm
    _ < limit + ∑ request ∈ earlier.outstanding, cost request := by gcongr

end Account

end LlmGateway.Library
