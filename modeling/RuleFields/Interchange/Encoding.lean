-- The JSON form in which the library's own types are stored and sent. Members
-- stand in a fixed order, and optional ones are left out where they say
-- nothing.
import RuleFields.Catalog
import RuleFields.Json.Value

namespace RuleFields

def Condition.toJson (c : Condition) : Json := .string c.id

def StandardType.toJson (t : StandardType) : Json := .string t.id

def StringMap.toJson (m : StringMap) : Json := .object (m.entries.map fun e => (e.1, .string e.2))

/-- A source without parameters is written without that member. -/
def LookupSource.toJson (s : LookupSource) : Json :=
  .object (("name", .string s.name) ::
    if s.parameters.isEmpty then [] else [("parameters", s.parameters.toJson)])

/-- A shape is written as its kind, with what belongs to the kind beside it. -/
def ValueShape.toJson : ValueShape → Json
  | .empty => .object [("kind", .string "empty")]
  | .text => .object [("kind", .string "text")]
  | .tokenizer source => .object [("kind", .string "tokenizer"), ("lookup_source", source.toJson)]

/-- A value is written as its kind and its content. Null has no content. -/
def FieldValue.toJson : FieldValue → Json
  | .null => .object [("kind", .string "null")]
  | .bool b => .object [("kind", .string "bool"), ("value", .bool b)]
  | .text s => .object [("kind", .string "text"), ("value", .string s)]
  | .textList items =>
    .object [("kind", .string "text-list"), ("value", .array (items.map .string))]
  | .textMap entries => .object [("kind", .string "text-map"), ("value", entries.toJson)]
  | .phid id => .object [("kind", .string "phid"), ("value", .string id)]
  | .phidList ids => .object [("kind", .string "phid-list"), ("value", .array (ids.map .string))]

/-- A condition without a shape is written without that member. -/
def ConditionSpec.toJson (c : ConditionSpec) : Json :=
  .object (("condition", c.condition.toJson) :: ("label", .string c.label) ::
    match c.value with
    | some shape => [("value", shape.toJson)]
    | none => [])

/-- A field without a standard type is written without that member. -/
def FieldSpec.toJson (f : FieldSpec) : Json :=
  .object ([("constant", .string f.constant), ("name", .string f.name)] ++
    (match f.standardType with
      | some t => [("standard_type", t.toJson)]
      | none => []) ++
    [("conditions", .array (f.conditions.map ConditionSpec.toJson))])

end RuleFields
