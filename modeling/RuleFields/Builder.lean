-- Builders: registries in the making. Fields are registered one at a time, or
-- all the built-in ones at once. Nothing is checked before the end.
import RuleFields.Registry

namespace RuleFields

/-- What one call registers. -/
inductive Registration where
  | one (f : Field)
  | builtins

/-- The fields of one call, in order. -/
def Registration.fields : Registration → List Field
  | one f => [f]
  | builtins => Builtin.all

/-- The fields that these calls register, in order. -/
def registered (calls : List Registration) : List Field := calls.flatMap Registration.fields

/-- The fields so far, in the order of registration. -/
structure Builder where
  fields : List Field := []

namespace Builder

/-- Adds the fields of one call, last in order. -/
def register (b : Builder) (call : Registration) : Builder := ⟨b.fields ++ call.fields⟩

/-- The builder after these calls. -/
def ofCalls (calls : List Registration) : Builder := calls.foldl register {}

/-- Builds the registry of the fields so far. -/
def build (b : Builder) : Traced (Except FieldError Registry) := Registry.build b.fields

/-! ## What the calls add up to -/

theorem fields_foldl_register (b : Builder) (calls : List Registration) :
    (calls.foldl register b).fields = b.fields ++ registered calls := by
  induction calls generalizing b with
  | nil => simp [registered]
  | cons call rest ih =>
    rw [List.foldl_cons, ih]
    simp [register, registered]

@[simp] theorem fields_ofCalls (calls : List Registration) :
    (ofCalls calls).fields = registered calls := by
  simpa [ofCalls] using fields_foldl_register {} calls

end Builder

end RuleFields
