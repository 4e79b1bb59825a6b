-- The classification: a standard type says which conditions a field takes,
-- and with a condition it says which value the condition asks for. A lookup
-- source is asked for only where the value holds references.
import RuleFields.Condition
import RuleFields.StandardType
import RuleFields.ValueShape

namespace RuleFields

/-- The conditions that a field of this type takes, in the order of the editor. -/
def StandardType.conditions : StandardType → List Condition
  | .bool => [.isTrue, .isFalse]
  | .text => [.contains, .notContains, .is, .isNot, .regexp]
  | .textList => [.contains, .regexp]
  | .textMap => [.contains, .regexp, .regexpPair]
  | .phid => [.isAny, .isNotAny]
  | .phidList => [.includeAll, .includeAny, .includeNone, .exist, .notExist]
  | .phidBool => [.exist, .notExist]
  | .phidNullable => [.isAny, .isNotAny, .exist, .notExist]

/-- The shape of the value of a condition on a field of type `t`. A test of presence on
references asks for nothing. Every other condition on references runs `lookup`, once, and no
other case runs it. -/
def StandardType.shapeFor {m : Type → Type} [Monad m] (t : StandardType) (c : Condition)
    (lookup : m LookupSource) : m ValueShape :=
  match t with
  | .bool | .phidBool => pure .empty
  | .text | .textList | .textMap => pure .text
  | .phid | .phidNullable | .phidList =>
    if c.isExistenceTest then pure .empty else .tokenizer <$> lookup

/-- The conditions of a field that declares its type by a tag. -/
def conditionsForTag (field tag : String) : Except FieldError (List Condition) :=
  (·.conditions) <$> StandardType.parseFor field tag

/-- The shape of the value of a condition on a field that declares its type by a tag. An
unknown tag fails before `lookup` runs. -/
def shapeForTag {m : Type → Type} [Monad m] [MonadExceptOf FieldError m] (field tag : String)
    (c : Condition) (lookup : m LookupSource) : m ValueShape :=
  match StandardType.parseFor field tag with
  | .ok t => t.shapeFor c lookup
  | .error e => throw e

end RuleFields
