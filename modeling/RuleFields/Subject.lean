-- The subjects that rules are applied to, as far as fields look at them.
import RuleFields.FieldValue
import RuleFields.ValueShape

namespace RuleFields

/-- A custom field as its subject declares it. The type is a tag that is not checked yet. -/
structure CustomFieldSpec where
  key : String
  name : String
  standardType : String
  lookupSource : Option LookupSource
deriving DecidableEq

/-- What fields may ask of a subject. `none` for subscribers or projects means that the
subject cannot have any, which differs from having none. -/
structure Subject where
  phid : String
  subscribers : Option (List String) := none
  projects : Option (List String) := none
  supportsSpaces : Bool := false
  space : Option String := none
  customFields : List CustomFieldSpec := []
  customValue : String → Option FieldValue := fun _ => none

/-- What is known about the edit that is under evaluation. Fields keep no state of their own,
so it is passed with each evaluation. -/
structure EvalContext where
  isNewObject : Bool := false
  contentSource : Option String := none
  actingUser : Option String := none

end RuleFields
