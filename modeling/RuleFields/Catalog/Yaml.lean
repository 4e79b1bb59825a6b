-- The catalog as YAML. Members stand in the same order as in JSON, and the
-- same ones are left out where they say nothing.
import RuleFields.Catalog
import RuleFields.Yaml.Node

namespace RuleFields

open Yaml (Node)

def LookupSource.toYaml (s : LookupSource) : Node :=
  .mapping (("name", .text s.name) ::
    if s.parameters.isEmpty then []
    else [("parameters", .mapping (s.parameters.entries.map fun e => (e.1, .text e.2)))])

def ValueShape.toYaml : ValueShape → Node
  | .empty => .mapping [("kind", .text "empty")]
  | .text => .mapping [("kind", .text "text")]
  | .tokenizer source => .mapping [("kind", .text "tokenizer"), ("lookup_source", source.toYaml)]

def ConditionSpec.toYaml (c : ConditionSpec) : Node :=
  .mapping (("condition", .text c.condition.id) :: ("label", .text c.label) ::
    match c.value with
    | some shape => [("value", shape.toYaml)]
    | none => [])

def FieldSpec.toYaml (f : FieldSpec) : Node :=
  .mapping ([("constant", .text f.constant), ("name", .text f.name)] ++
    (match f.standardType with
      | some t => [("standard_type", .text t.id)]
      | none => []) ++
    [("conditions", .sequence (f.conditions.map ConditionSpec.toYaml))])

/-- The catalog as a YAML document. It fails only where the catalog does. -/
def Registry.catalogYaml (r : Registry) : Except FieldError String :=
  (fun specs => Node.document (specs.map FieldSpec.toYaml)) <$> r.catalog

end RuleFields
