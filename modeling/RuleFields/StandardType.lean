-- The standard types: the categories of value that a field can declare.
import RuleFields.FieldError

namespace RuleFields

/-- The category of a field's values. -/
inductive StandardType where
  | bool
  | text
  | textList
  | textMap
  | phid
  | phidList
  | phidBool
  | phidNullable
deriving DecidableEq, Repr

namespace StandardType

/-- Every standard type, in the order of the vocabulary. -/
def all : List StandardType :=
  [bool, text, textList, textMap, phid, phidList, phidBool, phidNullable]

/-- The stable tag. -/
def id : StandardType → String
  | bool => "standard.bool"
  | text => "standard.text"
  | textList => "standard.text.list"
  | textMap => "standard.text.map"
  | phid => "standard.phid"
  | phidList => "standard.phid.list"
  | phidBool => "standard.phid.bool"
  | phidNullable => "standard.phid.nullable"

/-- A standard type is shown as its tag. -/
instance : ToString StandardType := ⟨id⟩

/-- The standard type with exactly this tag. Who declared the tag is not known here. -/
def parse (tag : String) : Except FieldError StandardType :=
  match all.find? (fun t => t.id == tag) with
  | some t => .ok t
  | none => .error (.unknownStandardType "" tag)

/-- The standard type that `field` declares by a tag. A failure names the field. -/
def parseFor (field tag : String) : Except FieldError StandardType :=
  (parse tag).mapError (FieldError.forField field)

/-- The vocabulary lists each standard type. -/
theorem mem_all (t : StandardType) : t ∈ all := by cases t <;> decide

/-- No two standard types of the vocabulary have one tag. -/
theorem nodup_ids : (all.map id).Nodup := by decide

end StandardType

end RuleFields
