-- Short descriptions of fields and registries, for a person who debugs.
import RuleFields.Registry
import RuleFields.Text.Quoted

namespace RuleFields

/-- The constant and the name of a field. -/
def Field.describe (f : Field) : String :=
  "HeraldField \x7b constant: " ++ Text.quoted f.constant ++ ", name: " ++ Text.quoted f.name ++
    " \x7d"

/-- The constants of the registered fields. -/
def Registry.describe (r : Registry) : String :=
  "FieldRegistry \x7b fields: [" ++ ", ".intercalate (r.fields.keys.map Text.quoted) ++ "] \x7d"

end RuleFields
