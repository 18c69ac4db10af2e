import CreditOps.Domain.Text
import CreditOps.Library.JsonKeys

/-!
# Hashes of canonical JSON

The digest several records are bound to: SHA-256 over the canonical JSON text of a value. The encoder loses
nothing but the order of the entries, so where the digest does not collide on the two texts at hand, two
values have one hash exactly when they are equal up to that order (`canonicalHash_eq_iff`).
-/

set_option autoImplicit false

namespace CreditOps

open JsonText

/-- A uuid with the bits it has. -/
abbrev Uuid128 := { id : Uuid // id < 16 ^ 32 }

theorem uuidBound_pos : 0 < 16 ^ 32 := by
  decide

/-- The uuid of a number. -/
def Uuid128.ofNat (n : Nat) : Uuid128 :=
  ⟨n % 16 ^ 32, Nat.mod_lt n uuidBound_pos⟩

/-- `str(uuid)` -/
def Uuid128.text (id : Uuid128) : String :=
  uuidText id.val

theorem Uuid128.text_injective : Function.Injective Uuid128.text := by
  intro id other h
  exact Subtype.ext (uuidText_inj id.property other.property h)

/-- `hashlib.sha256(canonical.encode("utf-8")).hexdigest()` -/
def canonicalHash (value : JsonValue) : String :=
  sha256Hex (canonicalText value)

/-- SHA-256 tells the two texts apart. -/
def NoCollision (text other : String) : Prop :=
  sha256Hex text = sha256Hex other → text = other

instance (text other : String) : Decidable (NoCollision text other) :=
  inferInstanceAs (Decidable (_ → _))

/-- A reader that reads every integer. -/
def everyInteger : Reading where
  float := id
  accepts := fun _ => true

/-- **The hash of a value without collision is the value up to the order of its entries.** -/
theorem canonicalHash_eq_iff {reading : Reading} {value other : JsonValue} (h : Writable reading value)
    (hother : Writable reading other) (hsha : NoCollision (canonicalText value) (canonicalText other)) :
    canonicalHash value = canonicalHash other ↔ sortKeys value = sortKeys other := by
  rw [← canonicalText_eq_iff h hother]
  exact ⟨hsha, congrArg sha256Hex⟩

end CreditOps
