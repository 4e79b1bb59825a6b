-- What an operation does besides its answer: the labels that it asks a
-- resolver for, and the events that it reports. Both are kept in order.
import RuleFields.Condition
import RuleFields.Json.Value

namespace RuleFields

/-- A question to a resolver. -/
inductive Call where
  /-- The label of one reference. -/
  | label (id : String)
  /-- The labels of many references at once. -/
  | labels (ids : List String)
deriving DecidableEq, Repr

/-! ## Events -/

inductive Level where
  | trace
  | debug
  | warn
deriving DecidableEq, Repr

/-- What is worth a line in a log. -/
inductive Event where
  /-- A registry was built with this many fields. -/
  | registryBuilt (fields : Nat)
  /-- The fields for the subject with this phid were found. -/
  | fieldsExpanded (object : String) (fields : Nat)
  /-- A value was rendered without a standard type. -/
  | legacyRendering (field : String) (condition : Condition)
  /-- A list of references holds something else. -/
  | strayElement (value : Json)
  /-- References are due, and the value is no list. -/
  | notAList (value : Json)
  /-- Something other than a reference was left out for the editor. -/
  | strayEditorElement (value : Json)

namespace Event

def level : Event → Level
  | registryBuilt _ | fieldsExpanded _ _ => .debug
  | legacyRendering _ _ => .trace
  | strayElement _ | notAList _ | strayEditorElement _ => .warn

def message : Event → String
  | registryBuilt _ => "field registry built"
  | fieldsExpanded _ _ => "expanded fields for object"
  | legacyRendering _ _ => "rendering legacy condition value"
  | strayElement _ => "non-identifier element in tokenized condition value"
  | notAList _ => "tokenized condition value is not a list"
  | strayEditorElement _ => "skipping non-identifier editor value"

/-- What the event says besides its message, by name. -/
def details : Event → List (String × String)
  | registryBuilt n => [("fields", toString n)]
  | fieldsExpanded object n => [("object", object), ("fields", toString n)]
  | legacyRendering field c => [("field", field), ("condition", c.id)]
  | strayElement v | notAList v | strayEditorElement v => [("value", v.compact)]

end Event

/-! ## Traced answers -/

/-- An answer with the questions and the events on the way to it. -/
structure Traced (α : Type) where
  value : α
  calls : List Call := []
  events : List Event := []

namespace Traced

variable {α β : Type}

instance : Monad Traced where
  pure a := ⟨a, [], []⟩
  bind x f :=
    let y := f x.value
    ⟨y.value, x.calls ++ y.calls, x.events ++ y.events⟩

@[simp] theorem value_pure (a : α) : (pure a : Traced α).value = a := rfl
@[simp] theorem calls_pure (a : α) : (pure a : Traced α).calls = [] := rfl
@[simp] theorem events_pure (a : α) : (pure a : Traced α).events = [] := rfl

@[simp] theorem value_bind (x : Traced α) (f : α → Traced β) :
    (x >>= f).value = (f x.value).value := rfl
@[simp] theorem calls_bind (x : Traced α) (f : α → Traced β) :
    (x >>= f).calls = x.calls ++ (f x.value).calls := rfl
@[simp] theorem events_bind (x : Traced α) (f : α → Traced β) :
    (x >>= f).events = x.events ++ (f x.value).events := rfl

/-- Asks nothing and answers nothing, but reports. -/
def report (e : Event) : Traced Unit := ⟨(), [], [e]⟩

instance : LawfulMonad Traced :=
  LawfulMonad.mk' Traced
    (fun x => by cases x; simp [Functor.map])
    (fun a f => by simp [bind, pure])
    (fun x f g => by simp [bind, List.append_assoc])

@[simp] theorem value_map (f : α → β) (x : Traced α) : (f <$> x).value = f x.value := rfl
@[simp] theorem calls_map (f : α → β) (x : Traced α) : (f <$> x).calls = x.calls :=
  List.append_nil x.calls
@[simp] theorem events_map (f : α → β) (x : Traced α) : (f <$> x).events = x.events :=
  List.append_nil x.events

/-! ## Walks over a list -/

/-- A walk answers for each element. -/
theorem value_mapM (f : α → Traced β) (l : List α) :
    (l.mapM f).value = l.map fun a => (f a).value := by
  induction l with
  | nil => rfl
  | cons a rest ih => rw [List.mapM_cons, value_bind, value_bind, ih]; rfl

/-- A walk asks what each of its steps asks, in order. -/
theorem calls_mapM (f : α → Traced β) (l : List α) :
    (l.mapM f).calls = l.flatMap fun a => (f a).calls := by
  induction l with
  | nil => rfl
  | cons a rest ih =>
    rw [List.mapM_cons, calls_bind, calls_bind, calls_pure, List.append_nil, ih, List.flatMap_cons]

/-- A walk that only reports asks nothing. -/
theorem calls_forM_report (event : α → Event) (l : List α) :
    (l.forM fun a => report (event a)).calls = [] := by
  induction l with
  | nil => rfl
  | cons a rest ih =>
    change [] ++ (rest.forM fun a => report (event a)).calls = []
    rw [List.nil_append, ih]

/-- A walk of steps that report nothing reports nothing. -/
theorem events_mapM_of_quiet {f : α → Traced β} (h : ∀ a, (f a).events = []) (l : List α) :
    (l.mapM f).events = [] := by
  induction l with
  | nil => rfl
  | cons a rest ih =>
    rw [List.mapM_cons, events_bind, events_bind, events_pure, h, ih]
    rfl

/-- A walk that only reports does so once for each element. -/
theorem events_forM_report (event : α → Event) (l : List α) :
    (l.forM fun a => report (event a)).events = l.map event := by
  induction l with
  | nil => rfl
  | cons a rest ih =>
    change event a :: (rest.forM fun a => report (event a)).events = _
    rw [ih, List.map_cons]

end Traced

end RuleFields
