-- Resolvers: who gives the labels of references. A resolver may answer for
-- many references at once, and may then leave some of them out.
import RuleFields.Trace

namespace RuleFields

/-- A giver of labels, for one viewer. -/
structure Resolver where
  /-- The label of one reference. Every reference has one. -/
  label : String → String
  /-- The answer for many references at once, for a resolver that has one of its own. -/
  batch : Option (List String → String → Option String) := none

namespace Resolver

/-- Asks for one label. -/
def resolveLabel (r : Resolver) (id : String) : Traced String := ⟨r.label id, [.label id], []⟩

/-- Asks for many labels at once. A resolver without an answer of its own for that is asked for
one after the other, and leaves none out. -/
def resolveLabels (r : Resolver) (ids : List String) : Traced (String → Option String) :=
  match r.batch with
  | some batch => ⟨batch ids, [.labels ids], []⟩
  | none => ⟨fun id => if id ∈ ids then some (r.label id) else none, ids.map .label, []⟩

/-- The label of `id` in a batch answer. Where the answer lacks it, it is asked for alone. -/
def labelFrom (r : Resolver) (labels : String → Option String) (id : String) : Traced String :=
  match labels id with
  | some label => pure label
  | none => r.resolveLabel id

end Resolver

end RuleFields
