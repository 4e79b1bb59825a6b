-- The registry: field definitions by constant. A registry is built from a
-- list of fields at once. Each constant is valid and stands once, or there is
-- no registry.
import RuleFields.Builtin
import RuleFields.FieldMap
import RuleFields.Trace

namespace RuleFields

/-- An index of field definitions by constant, in the order of registration. -/
structure Registry where
  fields : FieldMap
  keyed : FieldMap.Keyed fields

namespace Registry

/-- Builds the registry of a list of fields, and reports it if it is built. -/
def build (fields : List Field) : Traced (Except FieldError Registry) :=
  match h : FieldMap.ofFields fields with
  | .error e => pure (.error e)
  | .ok m => do
    Traced.report (.registryBuilt m.size)
    return .ok ⟨m, FieldMap.keyed_ofFields h⟩

/-- The field with this constant. -/
def get? (r : Registry) (constant : String) : Option Field := r.fields.get? constant

def size (r : Registry) : Nat := r.fields.size

def isEmpty (r : Registry) : Bool := r.fields.isEmpty

/-- Adds what one registered field expands into on a subject, if it supports the subject. The
keys of the expansion do not count: each field goes under its own constant. -/
def addExpansion (s : Subject) (m : FieldMap) (f : Field) : Except FieldError FieldMap :=
  if f.supports s then do
    let expansion ← f.expand s
    expansion.values.foldlM FieldMap.insertUnique m
  else .ok m

/-- The fields that apply to a subject, families expanded. The constants of expanded fields
obey the same rules as registered ones. -/
def fieldsFor (r : Registry) (s : Subject) : Traced (Except FieldError FieldMap) :=
  match r.fields.values.foldlM (addExpansion s) .empty with
  | .error e => pure (.error e)
  | .ok m => do
    Traced.report (.fieldsExpanded s.phid m.size)
    return .ok m

end Registry

end RuleFields
