import Mathlib.Logic.Basic

/-!
# Exceptions

The application errors of `core/exceptions.py`, and the exceptions of the Python runtime
that the gateway's own code can meet. The hierarchy is small: `ProviderError` and its
three subclasses are one structure with a kind, and every other exception has its own
constructor.
-/

set_option autoImplicit false

namespace LlmGateway

/-- The class of a `ProviderError`. Only a rate limit carries a `retry_after`. -/
inductive ProviderErrorKind where
  | generic
  | timeout
  | rateLimited (retryAfter : Option String)
  | auth
deriving DecidableEq

/-- `ProviderError` with its message and its provider. -/
structure ProviderError where
  kind : ProviderErrorKind
  message : String
  provider : String
deriving DecidableEq

/-- `NoProviderAvailableError`. -/
structure NoProviderAvailableError where
  message : String
  attemptedProviders : List String
  lastError : Option ProviderError
deriving DecidableEq

/-- `InvalidVirtualKeyError`. -/
structure InvalidVirtualKeyError where
  message : String
deriving DecidableEq

/-- What a coroutine of the gateway can end with instead of a value.

`cancelledError` is a `BaseException`; all the others are an `Exception`. The names of
the standard library stand for the exceptions that the modelled code meets
itself. Whatever else a provider's adapter lets through is `other`. -/
inductive PyException where
  | providerError (error : ProviderError)
  | noProviderAvailable (error : NoProviderAvailableError)
  | cancelledError
  | invalidStateError
  | keyError
  | valueError
  | typeError
  | attributeError
  | indexError
  | other (name : String)
deriving DecidableEq

end LlmGateway
