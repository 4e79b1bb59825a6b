-- The built-in fields, which apply to subjects of every kind.
import RuleFields.CustomField

namespace RuleFields.Builtin

/-- Whether the edit creates the subject. -/
def newObject : Field where
  name := "Is newly created"
  constant := "herald.new-object"
  standardType := .ok .bool
  supports := fun _ => true
  extract := fun _ ctx => .ok (.bool ctx.isNewObject)

/-- The user whose edit is under evaluation. -/
def actingUser : Field where
  name := "Acting user"
  constant := "herald.acting-user"
  standardType := .ok .phid
  lookupSource := .ok (.named "users")
  supports := fun _ => true
  extract := fun _ ctx => .ok (.ofPhid? ctx.actingUser)

/-- The subscribers, for a subject that can have some. -/
def subscribers : Field where
  name := "Subscribers"
  constant := "cc"
  standardType := .ok .phidList
  lookupSource := .ok ((LookupSource.named "users").withParameter "include" "projects")
  supports := fun s => s.subscribers.isSome
  extract := fun s _ => .ok (.phidList (s.subscribers.getD []))

/-- The projects, for a subject that can have some. -/
def projects : Field where
  name := "Project tags"
  constant := "projects"
  standardType := .ok .phidList
  lookupSource := .ok (.named "projects")
  supports := fun s => s.projects.isSome
  extract := fun s _ => .ok (.phidList (s.projects.getD []))

/-- The space, for a subject that supports spaces. -/
def space : Field where
  name := "Space"
  constant := "space"
  standardType := .ok .phidNullable
  lookupSource := .ok (.named "spaces")
  supports := fun s => s.supportsSpaces
  extract := fun s _ => .ok (.ofPhid? s.space)

/-- Where the edit came from. This field is older than the standard types, so it has none and
lists its conditions itself. -/
def contentSource : Field where
  name := "Content source"
  constant := "contentsource"
  supports := fun _ => true
  extract := fun _ ctx => .ok (ctx.contentSource.elim .null .text)
  ownConditions := some (.ok [.is, .isNot])

/-- The family of the custom fields that a subject declares. It has no value itself. -/
def customFields : Field where
  name := "Custom fields"
  constant := "herald.custom"
  supports := fun s => !s.customFields.isEmpty
  extract := fun _ _ => .error (.notImplemented "herald.custom" "extract_value")
  ownExpansion := some fun s => CustomField.expandSpecs s.customFields

/-- Every built-in field, in the order of registration. -/
def all : List Field :=
  [newObject, actingUser, subscribers, projects, space, contentSource, customFields]

end RuleFields.Builtin
