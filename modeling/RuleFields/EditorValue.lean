-- The form of a stored list for an editor: each reference with its label.
import RuleFields.Resolver

namespace RuleFields

/-- A list of references as an object of their labels. Elements that are no texts are left out
and reported. Any value that is not a list stays as it is. -/
def editorValue (raw : Json) (resolver : Resolver) : Traced Json :=
  match raw with
  | .array items => do
    (items.filter fun j => j.string?.isNone).forM fun j => Traced.report (.strayEditorElement j)
    let ids := items.filterMap Json.string?
    let labels ← resolver.resolveLabels ids
    let members ← ids.mapM fun id => do
      let label ← resolver.labelFrom labels id
      return (id, Json.string label)
    return Json.ofMembers members
  | j => pure j

end RuleFields
