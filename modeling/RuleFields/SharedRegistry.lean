-- The shared registry: one slot for the whole program. It is set once, by the
-- first install that succeeds or by the first use, and never changes after
-- that. An install that fails to build leaves it unset.
import RuleFields.Registry

namespace RuleFields

/-- The slot: unset, or set for good. -/
abbrev SharedRegistry := Option Registry

namespace SharedRegistry

/-- The answer of a step, and the slot after it. -/
abbrev Step := Traced (Except FieldError Registry × SharedRegistry)

/-- Sets an unset slot to the registry of these fields, if they build. -/
def fill (fields : List Field) : Step := do
  match ← Registry.build fields with
  | .ok r => return (.ok r, some r)
  | .error e => return (.error e, none)

/-- The registry in use. The first use of an unset slot sets it to the built-in fields. -/
def use (slot : SharedRegistry) : Step :=
  match slot with
  | some r => pure (.ok r, some r)
  | none => fill Builtin.all

/-- Builds a registry and sets the slot to it. Once the slot is set nothing is built. -/
def install (slot : SharedRegistry) (fields : List Field) : Step :=
  match slot with
  | some r => pure (.error .alreadyInitialized, some r)
  | none => fill fields

end SharedRegistry

end RuleFields
