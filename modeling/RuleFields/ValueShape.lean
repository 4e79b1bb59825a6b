-- Lookup sources and value shapes: what the input of a condition looks like
-- in a rule editor.
import RuleFields.SortedMap

namespace RuleFields

/-- Where an editor looks up the references that a value may hold. -/
structure LookupSource where
  name : String
  parameters : StringMap
deriving DecidableEq

namespace LookupSource

/-- A source without parameters. -/
def named (name : String) : LookupSource := ⟨name, .empty⟩

/-- The source with one more parameter. A parameter that has the key already is replaced. -/
def withParameter (s : LookupSource) (key value : String) : LookupSource :=
  { s with parameters := s.parameters.insert key value }

end LookupSource

/-- What a condition asks its user for. -/
inductive ValueShape where
  /-- Nothing: the condition says it all. -/
  | empty
  /-- Free text. -/
  | text
  /-- References picked from a lookup source. -/
  | tokenizer (source : LookupSource)
deriving DecidableEq

namespace ValueShape

/-- The stable name of the shape. -/
def key : ValueShape → String
  | empty => "empty"
  | text => "text"
  | tokenizer _ => "tokenizer"

def isEmpty (s : ValueShape) : Bool := s matches empty

/-- The source that references are picked from, if they are. -/
def lookupSource? : ValueShape → Option LookupSource
  | tokenizer source => some source
  | _ => none

end ValueShape

end RuleFields
