import Mathlib.Data.List.Basic

/-!
# API errors

What an endpoint answers when it refuses a request: the status, the code and the text the officer
reads.
-/

set_option autoImplicit false

namespace CreditOps

/-- `ApiException` -/
structure ApiException where
  statusCode : Nat
  code : String
  messageVi : String
deriving DecidableEq

end CreditOps
