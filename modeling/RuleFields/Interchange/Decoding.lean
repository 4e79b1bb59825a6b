-- Reading the JSON form of the library's own types. An object may have its
-- members in any order and unknown members between them, but no known member
-- twice. The list of the members in their fixed order is read as well.
import RuleFields.Catalog
import RuleFields.Json.Document

namespace RuleFields

/-! ## Parts of a document -/

namespace Json.Doc

def text? : Doc → Option String
  | .string s => s
  | _ => none

def bool? : Doc → Option Bool
  | .bool b => some b
  | _ => none

/-- A list of texts. -/
def texts? : Doc → Option (List String)
  | .array items => items.mapM text?
  | _ => none

/-- A member whose value is a text. -/
def textMember? (m : Option String × Doc) : Option (String × String) := do
  return (← m.1, ← m.2.text?)

/-- An object of texts. Of two members with one key the later counts. -/
def stringMap? : Doc → Option StringMap
  | .object members => SortedMap.ofList <$> members.mapM textMember?
  | _ => none

/-- A name out of a fixed set: a text, or an object that holds null under the name. -/
def name? : Doc → Option String
  | .string s => s
  | .object [(k, .null)] => k
  | _ => none

/-! ## Members of an object -/

abbrev Members := List (Option String × Doc)

namespace Members

/-- The keys can all be read. -/
def hasReadableKeys (ms : Members) : Bool := ms.all fun m => m.1.isSome

/-- The members with this key. -/
def under (ms : Members) (key : String) : Members := ms.filter fun m => m.1 == some key

/-- The member that must stand exactly once. -/
def required? (ms : Members) (key : String) : Option Doc :=
  match ms.under key with
  | [m] => some m.2
  | _ => none

/-- The member that may stand once or be missing. -/
def optional? (ms : Members) (key : String) : Option (Option Doc) :=
  match ms.under key with
  | [] => some none
  | [m] => some (some m.2)
  | _ => none

end Members

end Json.Doc

open Json (Doc)

/-! ## Vocabularies -/

/-- The condition with this name in stored rules. -/
def Condition.ofName? : String → Option Condition
  | "true" => some .isTrue
  | "false" => some .isFalse
  | "contains" => some .contains
  | "!contains" => some .notContains
  | "is" => some .is
  | "!is" => some .isNot
  | "regexp" => some .regexp
  | "regexp-pair" => some .regexpPair
  | "isany" => some .isAny
  | "!isany" => some .isNotAny
  | "all" => some .includeAll
  | "any" => some .includeAny
  | "none" => some .includeNone
  | "exists" => some .exist
  | "!exists" => some .notExist
  | _ => none

def Condition.ofDoc? (d : Doc) : Option Condition := d.name? >>= Condition.ofName?

/-- The standard type with this name in stored specs. -/
def StandardType.ofName? : String → Option StandardType
  | "standard.bool" => some .bool
  | "standard.text" => some .text
  | "standard.text.list" => some .textList
  | "standard.text.map" => some .textMap
  | "standard.phid" => some .phid
  | "standard.phid.list" => some .phidList
  | "standard.phid.bool" => some .phidBool
  | "standard.phid.nullable" => some .phidNullable
  | _ => none

def StandardType.ofDoc? (d : Doc) : Option StandardType := d.name? >>= StandardType.ofName?

/-! ## Lookup sources and shapes -/

/-- The parameters may be missing, and then there are none. -/
def LookupSource.ofDoc? : Doc → Option LookupSource
  | .object ms => do
    guard (Doc.Members.hasReadableKeys ms)
    let name ← Doc.Members.required? ms "name" >>= Doc.text?
    let parameters ← match ← Doc.Members.optional? ms "parameters" with
      | none => some .empty
      | some d => d.stringMap?
    return ⟨name, parameters⟩
  | .array [name] => do return ⟨← name.text?, .empty⟩
  | .array [name, parameters] => do return ⟨← name.text?, ← parameters.stringMap?⟩
  | _ => none

/-- The shape of a kind, from the other members. A kind without members of its own looks at
none. -/
def ValueShape.ofMembers? (kind : String) (others : Doc.Members) : Option ValueShape :=
  match kind with
  | "empty" => some .empty
  | "text" => some .text
  | "tokenizer" => .tokenizer <$> (others.required? "lookup_source" >>= LookupSource.ofDoc?)
  | _ => none

/-- The shape of a kind, from the elements after the kind. -/
def ValueShape.ofElements? (kind : String) (others : List Doc) : Option ValueShape :=
  match kind, others with
  | "empty", [] => some .empty
  | "text", [] => some .text
  | "tokenizer", [source] => .tokenizer <$> LookupSource.ofDoc? source
  | _, _ => none

/-- The kind may stand behind what belongs to it, so all members are kept until the kind is
known, and all of them must be readable. `room` is how many lists and objects may be nested. -/
def ValueShape.ofDoc? (room : Nat) : Doc → Option ValueShape
  | .object ms => do
    guard (Doc.Members.hasReadableKeys ms)
    let kind ← Doc.Members.required? ms "kind" >>= Doc.text?
    let others := ms.filter fun m => m.1 != some "kind"
    guard (others.all fun m => m.2.isReadable (room - 1))
    ValueShape.ofMembers? kind others
  | .array (kind :: others) => do
    let kind ← kind.text?
    guard (others.all (Doc.isReadable (room - 1)))
    ValueShape.ofElements? kind others
  | _ => none

/-! ## Field values -/

/-- The value of a kind. Only null may do without content. -/
def FieldValue.ofContent? (kind : String) (content : Option Doc) : Option FieldValue :=
  match kind, content with
  | "null", none => some .null
  | "null", some .null => some .null
  | "bool", some d => .bool <$> d.bool?
  | "text", some d => .text <$> d.text?
  | "text-list", some d => .textList <$> d.texts?
  | "text-map", some d => .textMap <$> d.stringMap?
  | "phid", some d => .phid <$> d.text?
  | "phid-list", some d => .phidList <$> d.texts?
  | _, _ => none

/-- An object names its kind like any name out of a fixed set. A list holds the kind, which must
be a text there, and the content, both also for null. -/
def FieldValue.ofDoc? : Doc → Option FieldValue
  | .object ms => do
    guard (Doc.Members.hasReadableKeys ms)
    let kind ← Doc.Members.required? ms "kind" >>= Doc.name?
    let content ← Doc.Members.optional? ms "value"
    FieldValue.ofContent? kind content
  | .array [kind, content] => do FieldValue.ofContent? (← kind.text?) (some content)
  | _ => none

/-! ## Specs -/

/-- What may be left out or written as null. -/
def orNull {α : Type} (read : Doc → Option α) : Option Doc → Option (Option α)
  | none => some none
  | some .null => some none
  | some d => some <$> read d

def ConditionSpec.ofDoc? (room : Nat) : Doc → Option ConditionSpec
  | .object ms => do
    guard (Doc.Members.hasReadableKeys ms)
    let condition ← Doc.Members.required? ms "condition" >>= Condition.ofDoc?
    let label ← Doc.Members.required? ms "label" >>= Doc.text?
    let value ← Doc.Members.optional? ms "value" >>= orNull (ValueShape.ofDoc? (room - 1))
    return ⟨condition, label, value⟩
  | .array [condition, label] => do
    return ⟨← Condition.ofDoc? condition, ← label.text?, none⟩
  | .array [condition, label, value] => do
    return ⟨← Condition.ofDoc? condition, ← label.text?,
      ← orNull (ValueShape.ofDoc? (room - 1)) (some value)⟩
  | _ => none

/-- The conditions of a field, which may be missing but not null. -/
def ConditionSpec.listOfDoc? (room : Nat) : Option Doc → Option (List ConditionSpec)
  | none => some []
  | some (.array items) => items.mapM (ConditionSpec.ofDoc? (room - 1))
  | some _ => none

def FieldSpec.ofDoc? (room : Nat) : Doc → Option FieldSpec
  | .object ms => do
    guard (Doc.Members.hasReadableKeys ms)
    let constant ← Doc.Members.required? ms "constant" >>= Doc.text?
    let name ← Doc.Members.required? ms "name" >>= Doc.text?
    let standardType ← Doc.Members.optional? ms "standard_type" >>= orNull StandardType.ofDoc?
    let conditions ← Doc.Members.optional? ms "conditions" >>=
      ConditionSpec.listOfDoc? (room - 1)
    return ⟨constant, name, standardType, conditions⟩
  | .array (constant :: name :: rest) => do
    let (standardType, conditions) ← match rest with
      | [] => some (none, none)
      | [t] => some (some t, none)
      | [t, cs] => some (some t, some cs)
      | _ => none
    return ⟨← constant.text?, ← name.text?, ← orNull StandardType.ofDoc? standardType,
      ← ConditionSpec.listOfDoc? (room - 1) conditions⟩
  | _ => none

end RuleFields
