import Mathlib.Data.List.Basic

/-!
# Identifiers and database errors

The values every table of the case store shares: uuids, case versions, and the errors a Postgres
trigger or constraint raises. A statement that raises rolls its transaction back, so a modelled
transaction returns either the error or the new tables, never both.
-/

set_option autoImplicit false

namespace CreditOps

/-- A `uuid` column, as its 128 bits read as a number; the database orders uuids that way. -/
abbrev Uuid := Nat

/-- An `integer` case version; every table checks `case_version > 0`. -/
abbrev CaseVersion := Nat

/-- A `timestamptz`, in the ticks of the clock the database reads. -/
abbrev Timestamp := Nat

/-- The errors raised by triggers and constraints, with their `errcode`. -/
inductive SqlError where
  /-- `42501` -/
  | insufficientPrivilege (message : String)
  /-- `23514` -/
  | checkViolation (message : String)
  /-- `23502` -/
  | notNullViolation (column : String)
  /-- `23503` -/
  | foreignKeyViolation (constraint : String)
  /-- `23505` -/
  | uniqueViolation (constraint : String)
  /-- `22003` -/
  | numericValueOutOfRange
deriving DecidableEq

end CreditOps
