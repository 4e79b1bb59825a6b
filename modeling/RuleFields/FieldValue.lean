-- The values that a field reads off a subject. A reference is kept apart from
-- a text, even where both hold the same characters.
import RuleFields.SortedMap

namespace RuleFields

/-- A value of a field. -/
inductive FieldValue where
  | null
  | bool (b : Bool)
  | text (s : String)
  | textList (items : List String)
  | textMap (entries : StringMap)
  | phid (id : String)
  | phidList (ids : List String)
deriving DecidableEq

namespace FieldValue

/-- A reference that may be missing. -/
def ofPhid? : Option String → FieldValue
  | some id => phid id
  | none => null

def isNull (v : FieldValue) : Bool := v matches null

/-- The references in a value. A text is no reference, whatever it looks like. -/
def phids : FieldValue → List String
  | phid id => [id]
  | phidList ids => ids
  | _ => []

end FieldValue

end RuleFields
