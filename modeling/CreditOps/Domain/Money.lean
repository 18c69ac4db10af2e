import CreditOps.Library.Decimal

/-!
# Amounts at the boundary

An amount reaches an endpoint as text and a table as `numeric`. The endpoint sees what `Decimal(text)`
makes of the text; the table takes a value when its digits fit.
-/

set_option autoImplicit false

namespace CreditOps

/-- What `Decimal(text)` makes of the text of a request: it raises, it is no finite number, or it is
one. -/
inductive ParsedDecimal where
  | invalid
  | special
  | finite (value : Decimal)
deriving DecidableEq

/-- The cast `text::numeric`: the digits a `numeric` can hold before and after the point. -/
def numericInRange (value : Decimal) : Bool :=
  -16383 ≤ value.exponent ∧
    Decimal.digitCount value.coefficient.natAbs + value.exponent ≤ 131072

end CreditOps
