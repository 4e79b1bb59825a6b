-- The formats of the library's own types: what is stored of a value is the
-- compact text of its JSON form.
import RuleFields.Interchange.Decoding
import RuleFields.Interchange.Encoding

namespace RuleFields

/-- How the values of a type are stored. -/
structure Format (α : Type) where
  toJson : α → Json
  ofDoc? : Json.Doc → Option α

namespace Format

variable {α : Type}

/-- The text that is stored of a value. -/
def encode (f : Format α) (x : α) : String := (f.toJson x).compact

/-- The value that a stored text holds. -/
def decode? (f : Format α) (text : String) : Option α := Json.Doc.read? text >>= f.ofDoc?

end Format

def Condition.format : Format Condition := ⟨toJson, ofDoc?⟩

def StandardType.format : Format StandardType := ⟨toJson, ofDoc?⟩

def LookupSource.format : Format LookupSource := ⟨toJson, ofDoc?⟩

def ValueShape.format : Format ValueShape := ⟨toJson, ofDoc? Json.Doc.nestingLimit⟩

def FieldValue.format : Format FieldValue := ⟨toJson, ofDoc?⟩

def ConditionSpec.format : Format ConditionSpec := ⟨toJson, ofDoc? Json.Doc.nestingLimit⟩

def FieldSpec.format : Format FieldSpec := ⟨toJson, ofDoc? Json.Doc.nestingLimit⟩

end RuleFields
