-- The conditions: the comparison operators that a rule applies to a field
-- value. A condition is stored in a rule by its id, so ids never change.

namespace RuleFields

/-- A comparison operator. It carries no value of its own. -/
inductive Condition where
  | isTrue
  | isFalse
  | contains
  | notContains
  | is
  | isNot
  | regexp
  | regexpPair
  | isAny
  | isNotAny
  | includeAll
  | includeAny
  | includeNone
  | exist
  | notExist
deriving DecidableEq, Repr

/-- A text that is the id of no condition. -/
structure InvalidCondition where
  text : String
deriving DecidableEq, Repr

def InvalidCondition.message (e : InvalidCondition) : String := "Invalid condition: " ++ e.text

namespace Condition

/-- Every condition, in the order of the vocabulary. -/
def all : List Condition :=
  [isTrue, isFalse, contains, notContains, is, isNot, regexp, regexpPair, isAny, isNotAny,
    includeAll, includeAny, includeNone, exist, notExist]

/-- The stable name in stored rules. -/
def id : Condition → String
  | isTrue => "true"
  | isFalse => "false"
  | contains => "contains"
  | notContains => "!contains"
  | is => "is"
  | isNot => "!is"
  | regexp => "regexp"
  | regexpPair => "regexp-pair"
  | isAny => "isany"
  | isNotAny => "!isany"
  | includeAll => "all"
  | includeAny => "any"
  | includeNone => "none"
  | exist => "exists"
  | notExist => "!exists"

/-- A condition is shown as its id. -/
instance : ToString Condition := ⟨id⟩

/-- The words that a rule editor shows. -/
def label : Condition → String
  | isTrue => "is true"
  | isFalse => "is false"
  | contains => "contains"
  | notContains => "does not contain"
  | is => "is"
  | isNot => "is not"
  | regexp => "matches regexp"
  | regexpPair => "matches regexp pair"
  | isAny => "is any of"
  | isNotAny => "is not any of"
  | includeAll => "include all of"
  | includeAny => "include any of"
  | includeNone => "do not include"
  | exist => "exists"
  | notExist => "does not exist"

/-- A test of presence alone. Such a condition never carries a value. -/
def isExistenceTest (c : Condition) : Bool := c matches exist | notExist

/-- The condition with exactly this id. -/
def parse (s : String) : Except InvalidCondition Condition :=
  match all.find? (fun c => c.id == s) with
  | some c => .ok c
  | none => .error ⟨s⟩

/-- The vocabulary lists each condition. -/
theorem mem_all (c : Condition) : c ∈ all := by cases c <;> decide

/-- No two conditions of the vocabulary have one id. -/
theorem nodup_ids : (all.map id).Nodup := by decide

end Condition

end RuleFields
