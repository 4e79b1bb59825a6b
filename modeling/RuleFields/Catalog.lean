-- The catalog: what a rule editor shows for each registered field.
import RuleFields.Registry

namespace RuleFields

/-- A condition that a field accepts, and the shape of the value that it asks for. Without a
standard type there is no shape. -/
structure ConditionSpec where
  condition : Condition
  label : String
  value : Option ValueShape
deriving DecidableEq

/-- What an editor shows for one field. -/
structure FieldSpec where
  constant : String
  name : String
  standardType : Option StandardType
  conditions : List ConditionSpec
deriving DecidableEq

namespace FieldSpec

/-- One condition of a field. Only a field with a standard type is asked for the shape. -/
def condition (f : Field) (standardType : Option StandardType) (c : Condition) :
    Except FieldError ConditionSpec := do
  let value ← match standardType with
    | some _ => some <$> f.valueShape c
    | none => pure none
  return { condition := c, label := c.label, value }

/-- The spec of a field. A field may lack a standard type or conditions, and nothing else that
it fails at is passed over. -/
def ofField (f : Field) : Except FieldError FieldSpec := do
  let standardType ← orIfUnanswered (some <$> f.standardType) none
  let accepted ← orIfUnanswered f.conditions []
  let conditions ← accepted.mapM (condition f standardType)
  return { constant := f.constant, name := f.name, standardType, conditions }

end FieldSpec

/-- The specs of all registered fields, in order. The first field that fails gives the error. -/
def Registry.catalog (r : Registry) : Except FieldError (List FieldSpec) :=
  r.fields.values.mapM FieldSpec.ofField

end RuleFields
