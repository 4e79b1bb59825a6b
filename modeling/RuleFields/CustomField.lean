-- Custom fields: the fields that a subject declares itself. Their keys can be
-- anything, so a constant is made of a short digest of the key.
import RuleFields.Digest.Sha256
import RuleFields.Field
import RuleFields.Text.Base64Url

namespace RuleFields

/-- The constant of the custom field with this key. Twelve digits of the digest stand for its
first nine bytes and keep every key within the limit on constants. -/
def customFieldConstant (key : String) : String :=
  "herald.custom/" ++ String.ofList ((Base64Url.encode (sha256 key.toUTF8.data.toList)).take 12)

/-- A custom field whose type is known. -/
structure CustomField where
  constant : String
  key : String
  name : String
  standardType : StandardType
  lookupSource : Option LookupSource

namespace CustomField

/-- The field that a spec declares, if its tag names a standard type. -/
def ofSpec (spec : CustomFieldSpec) : Except FieldError CustomField := do
  let constant := customFieldConstant spec.key
  let standardType ← StandardType.parseFor constant spec.standardType
  return { constant, key := spec.key, name := spec.name, standardType,
           lookupSource := spec.lookupSource }

/-- The custom field as a field. It supports the subjects that declare its key, and reads what
the subject holds under the key. -/
def toField (c : CustomField) : Field where
  name := c.name
  constant := c.constant
  standardType := .ok c.standardType
  lookupSource :=
    match c.lookupSource with
    | some source => .ok source
    | none => .error (.notImplemented c.constant "lookup_source")
  supports := fun s => s.customFields.any fun spec => spec.key == c.key
  extract := fun s _ => .ok ((s.customValue c.key).getD .null)

/-- Adds the field of one spec to those before it, last in order. A constant that an earlier
spec has already is refused. -/
def addSpec (m : FieldMap) (spec : CustomFieldSpec) : Except FieldError FieldMap := do
  let field ← ofSpec spec
  match m.get? field.constant with
  | some existing => throw (.duplicateConstant field.constant existing.name field.name)
  | none => return m.push field.constant field.toField

/-- The fields of a list of specs, in the order of the list. -/
def expandSpecs (specs : List CustomFieldSpec) : Except FieldError FieldMap :=
  specs.foldlM addSpec .empty

end CustomField

end RuleFields
