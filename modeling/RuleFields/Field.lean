-- Fields: what a rule can look at. A field names itself, declares its type
-- and its lookup source if it has them, says which subjects it supports, and
-- reads its value off a subject. What follows from the type is derived here,
-- and a field may also bring its own answer.
import RuleFields.Classification
import RuleFields.OrderedMap
import RuleFields.Subject

namespace RuleFields

/-- A field definition. A member of the form `own…` holds the field's own answer in place of
the derived one, for a field that brings one. -/
structure Field where
  /-- The name for a person. -/
  name : String
  /-- The stable constant that stored rules refer to. -/
  constant : String
  standardType : Except FieldError StandardType := .error (.notImplemented constant "standard_type")
  lookupSource : Except FieldError LookupSource := .error (.notImplemented constant "lookup_source")
  supports : Subject → Bool
  extract : Subject → EvalContext → Except FieldError FieldValue
  ownConditions : Option (Except FieldError (List Condition)) := none
  ownShape : Option (Condition → Except FieldError ValueShape) := none
  ownExpansion : Option (Subject → Except FieldError (OrderedMap Field)) := none

/-- Fields under keys, in order. -/
abbrev FieldMap := OrderedMap Field

namespace Field

/-- The conditions that the field accepts. -/
def conditions (f : Field) : Except FieldError (List Condition) :=
  match f.ownConditions with
  | some own => own
  | none => (·.conditions) <$> f.standardType

/-- The shape of the value of a condition on the field. -/
def valueShape (f : Field) (c : Condition) : Except FieldError ValueShape :=
  match f.ownShape with
  | some own => own c
  | none => f.standardType >>= fun t => t.shapeFor c f.lookupSource

/-- The fields that stand for this one on a subject: itself under its constant, unless it is
a family that expands into others. -/
def expand (f : Field) (s : Subject) : Except FieldError FieldMap :=
  match f.ownExpansion with
  | some own => own s
  | none => .ok (OrderedMap.empty.push f.constant f)

/-! ## Rules for constants -/

/-- The most bytes that a constant may have. -/
def constantByteLimit : Nat := 64

/-- Refuses a field whose constant is empty or too long, counted in UTF-8 bytes. -/
def validateConstant (f : Field) : Except FieldError Unit :=
  if f.constant.isEmpty then
    .error (.invalidConstant f.name f.constant "field constants must not be empty")
  else if constantByteLimit < f.constant.utf8ByteSize then
    .error (.invalidConstant f.name f.constant
      ("field constants must be no more than " ++ toString constantByteLimit ++
        " bytes in length, got " ++ toString f.constant.utf8ByteSize))
  else .ok ()

end Field

end RuleFields
