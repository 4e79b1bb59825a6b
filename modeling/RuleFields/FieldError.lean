-- What can go wrong with a field. Each cause is a constructor with what is
-- known about it, and `message` is the one place that words it.

namespace RuleFields

/-- The causes of failure of the field registry and of the classification. -/
inductive FieldError where
  /-- A tag names no standard type. The field is empty until it is known. -/
  | unknownStandardType (field tag : String)
  /-- A field does not say what it was asked for. -/
  | notImplemented (field method : String)
  /-- A field has a constant that no field may have. -/
  | invalidConstant (field constant reason : String)
  /-- Two fields, given by name, have one constant. -/
  | duplicateConstant (constant existing duplicate : String)
  /-- The shared registry is set and cannot be set again. -/
  | alreadyInitialized
  /-- The catalog cannot be written as YAML. -/
  | yaml (text : String)
deriving DecidableEq, Repr

namespace FieldError

/-- The text for a person. An unknown type is worded without its field while the field is
not known. -/
def message : FieldError → String
  | unknownStandardType field tag =>
    if field.isEmpty then "unknown standard type \"" ++ tag ++ "\""
    else "herald field \"" ++ field ++ "\" has unknown standard type \"" ++ tag ++ "\""
  | notImplemented field method =>
    "herald field \"" ++ field ++ "\" does not implement " ++ method ++ "()"
  | invalidConstant field constant reason =>
    "herald field \"" ++ field ++ "\" has an invalid constant \"" ++ constant ++ "\": " ++ reason
  | duplicateConstant constant existing duplicate =>
    "fields \"" ++ existing ++ "\" and \"" ++ duplicate ++ "\" share the same constant \"" ++
      constant ++ "\""
  | alreadyInitialized => "the global field registry is already initialized"
  | yaml text => "YAML error: " ++ text

/-- Names the field at fault, for an unknown type. Every other error knows its field. -/
def forField (field : String) : FieldError → FieldError
  | unknownStandardType _ tag => unknownStandardType field tag
  | e => e

/-- A catalog that cannot be written is the one error that leaves the registry sound. -/
def isFatal : FieldError → Bool
  | yaml _ => false
  | _ => true

def isNotImplemented : FieldError → Bool
  | notImplemented _ _ => true
  | _ => false

end FieldError

/-! ## Answers that may be missing -/

/-- A field was asked for something that it does not say. -/
def isUnanswered {α : Type} : Except FieldError α → Bool
  | .ok _ => false
  | .error e => e.isNotImplemented

/-- What a field says, or `other` where it says nothing. Every other failure stays. -/
def orIfUnanswered {α : Type} (answer : Except FieldError α) (other : α) :
    Except FieldError α :=
  match answer with
  | .ok a => .ok a
  | .error e => if e.isNotImplemented then .ok other else .error e

end RuleFields
