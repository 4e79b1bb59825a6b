-- Rendering: the text of a stored condition value for a reader. References
-- are replaced by their labels. A field without a standard type says nothing
-- about its values, so there the references of a list are recognized by
-- their form.
import RuleFields.Field
import RuleFields.Reference
import RuleFields.Resolver

namespace RuleFields

/-- Who gives labels, and which texts are references where no type says so. -/
structure RenderContext where
  resolver : Resolver
  isKnownReference : String → Bool := PhidNamespace.any.isKnownReference

/-- What stands between the parts of a rendered list. -/
def listDelimiter : String := ", "

/-- A value as plain text: nothing for null, a text as it is, and the compact text of anything
else. -/
def plainText : Json → String
  | .null => ""
  | .string s => s
  | j => j.compact

/-! ## Lists -/

/-- The texts in a list that are references, in order and with repetitions. -/
def references (isReference : String → Bool) (items : List Json) : List String :=
  (items.filterMap Json.string?).filter isReference

/-- One element of a list: the label of a reference, or plain text. -/
def renderElement (ctx : RenderContext) (isReference : String → Bool)
    (labels : String → Option String) (item : Json) : Traced String :=
  match item with
  | .string s => if isReference s then ctx.resolver.labelFrom labels s else pure s
  | j => pure (plainText j)

/-- A list with its references replaced by labels. All of them are asked for at once, unless
there are none. -/
def renderList (ctx : RenderContext) (isReference : String → Bool) (items : List Json) :
    Traced String := do
  let ids := references isReference items
  let labels ← if ids.isEmpty then pure fun _ => none else ctx.resolver.resolveLabels ids
  let parts ← items.mapM (renderElement ctx isReference labels)
  return listDelimiter.intercalate parts

/-! ## Values -/

/-- A value where references are due. Every text counts as a reference, and whatever else the
value holds is reported. -/
def renderReferences (ctx : RenderContext) : Json → Traced String
  | .null => pure ""
  | .string s => renderList ctx (fun _ => true) [.string s]
  | .array items => do
    (items.filter fun j => j.string?.isNone).forM fun j => Traced.report (.strayElement j)
    renderList ctx (fun _ => true) items
  | j => do
    Traced.report (.notAList j)
    return plainText j

/-- A value of a known shape. -/
def renderShape (ctx : RenderContext) (shape : ValueShape) (value : Json) : Traced String :=
  match shape with
  | .empty => pure ""
  | .text => pure (plainText value)
  | .tokenizer _ => renderReferences ctx value

/-- A value of a field without a standard type. Only in a list are references looked for. -/
def renderLegacy (ctx : RenderContext) : Json → Traced String
  | .array items => renderList ctx ctx.isKnownReference items
  | j => pure (plainText j)

/-- The text of `value` as stored for a condition on a field. A field that has neither a shape
for it nor a standard type is rendered without them. Any other failure is the answer. -/
def Field.render (f : Field) (c : Condition) (value : Json) (ctx : RenderContext) :
    Traced (Except FieldError String) :=
  match f.valueShape c with
  | .ok shape => .ok <$> renderShape ctx shape value
  | .error e =>
    if e.isNotImplemented && isUnanswered f.standardType then do
      Traced.report (.legacyRendering f.constant c)
      .ok <$> renderLegacy ctx value
    else pure (.error e)

end RuleFields
