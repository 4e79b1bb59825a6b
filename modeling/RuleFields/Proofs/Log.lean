-- The laws of the log. Rendering says when it does without a type, and where a
-- stored value is not what it should be, one line for each such part and in
-- order. A registry and the fields for a subject have a line if they are made.
import RuleFields.Proofs.EditorValue
import RuleFields.Proofs.Expansion
import RuleFields.Proofs.Registration
import RuleFields.Proofs.RenderedLists

namespace RuleFields

/-! ## Lines -/

/-- A line of the log, as its reader has it. -/
structure LogLine where
  level : Level
  message : String
  details : List (String × String)

def Event.line (e : Event) : LogLine := ⟨e.level, e.message, e.details⟩

/-- What is logged on the way to an answer. -/
def Traced.log {α : Type} (x : Traced α) : List LogLine := x.events.map Event.line

/-- A warning about a value, with the compact text of the value. -/
def LogLine.warning (message : String) (j : Json) : LogLine :=
  ⟨.warn, message, [("value", j.compact)]⟩

/-! ## What is not a text -/

/-- The elements of a list that are no texts, in order. -/
def strays : List Json → List Json
  | [] => []
  | .string _ :: rest => strays rest
  | j :: rest => j :: strays rest

theorem filter_eq_strays (items : List Json) :
    (items.filter fun j => j.string?.isNone) = strays items := by
  induction items with
  | nil => rfl
  | cons j rest ih =>
    cases j with
    | string s => exact ih
    | _ => exact congrArg (List.cons _) ih

theorem strays_eq_nil_of_all_texts {items : List Json} (h : ∀ j ∈ items, ∃ s, j = .string s) :
    strays items = [] := by
  induction items with
  | nil => rfl
  | cons j rest ih =>
    obtain ⟨⟨s, rfl⟩, hrest⟩ := List.forall_mem_cons.mp h
    exact ih hrest

/-! ## Lists and labels are quiet -/

namespace Resolver

theorem events_resolveLabels (r : Resolver) (ids : List String) :
    (r.resolveLabels ids).events = [] := by
  unfold resolveLabels
  cases r.batch <;> rfl

theorem events_labelFrom (r : Resolver) (labels : String → Option String) (id : String) :
    (r.labelFrom labels id).events = [] := by
  unfold labelFrom
  cases labels id <;> rfl

end Resolver

section
variable {ctx : RenderContext} {isReference : String → Bool}

theorem events_renderElement (labels : String → Option String) (j : Json) :
    (renderElement ctx isReference labels j).events = [] := by
  cases j with
  | string s =>
    by_cases hs : isReference s = true
    · simp only [renderElement, if_pos hs, Resolver.events_labelFrom]
    · simp only [renderElement, if_neg hs, Traced.events_pure]
  | _ => rfl

theorem events_renderList (items : List Json) :
    (renderList ctx isReference items).events = [] := by
  rw [renderList_eq, Traced.events_bind, Traced.events_map,
    Traced.events_mapM_of_quiet (events_renderElement _), List.append_nil]
  by_cases h : references isReference items = []
  · rw [if_pos h, Traced.events_pure]
  · rw [if_neg h, Resolver.events_resolveLabels]

end

/-! ## Rendered values -/

theorem events_renderReferences_array (ctx : RenderContext) (items : List Json) :
    (renderReferences ctx (.array items)).events = (strays items).map .strayElement := by
  unfold renderReferences
  rw [Traced.events_bind, Traced.events_forM_report, events_renderList, List.append_nil,
    filter_eq_strays]

theorem events_renderReferences_string (ctx : RenderContext) (s : String) :
    (renderReferences ctx (.string s)).events = [] := events_renderList _

theorem events_renderReferences_of_not_list (ctx : RenderContext) {v : Json} (hnull : v ≠ .null)
    (hstring : ∀ s, v ≠ .string s) (harray : ∀ items, v ≠ .array items) :
    (renderReferences ctx v).events = [.notAList v] := by
  cases v with
  | null => exact absurd rfl hnull
  | string s => exact absurd rfl (hstring s)
  | array items => exact absurd rfl (harray items)
  | _ => rfl

theorem events_renderLegacy (ctx : RenderContext) (v : Json) : (renderLegacy ctx v).events = [] := by
  cases v with
  | array items => exact events_renderList items
  | _ => rfl

namespace Field

variable {f : Field} {c : Condition} {v : Json} {ctx : RenderContext}

theorem events_render_of_untyped (h : f.Untyped c) :
    (f.render c v ctx).events = [.legacyRendering f.constant c] := by
  rw [h.rendersAsLegacy, Traced.events_bind, Traced.events_map, events_renderLegacy]
  rfl

theorem events_render_of_references {source : LookupSource}
    (h : f.valueShape c = .ok (.tokenizer source)) :
    (f.render c v ctx).events = (renderReferences ctx v).events := by
  rw [render_of_valueShape h, Traced.events_map]
  rfl

theorem events_render_of_unlisted (h : f.valueShape c = .ok .empty ∨ f.valueShape c = .ok .text) :
    (f.render c v ctx).events = [] := by
  rcases h with h | h
  · rw [render_of_valueShape h]
    rfl
  · rw [render_of_valueShape h]
    rfl

theorem events_render_of_failure {e : FieldError} (h : (f.render c v ctx).value = .error e) :
    (f.render c v ctx).events = [] := by
  rw [render_of_value_eq_error h]
  rfl

end Field

/-! ## Editor values -/

theorem events_editorValue (items : List Json) (r : Resolver) :
    (editorValue (.array items) r).events = (strays items).map .strayEditorElement := by
  unfold editorValue
  rw [Traced.events_bind, Traced.events_forM_report, filter_eq_strays]
  have hquiet : ∀ labels id, (do
      let label ← r.labelFrom labels id
      return (id, Json.string label) : Traced (String × Json)).events = [] := by
    intro labels id
    rw [Traced.events_bind, Resolver.events_labelFrom]
    rfl
  rw [Traced.events_bind, Resolver.events_resolveLabels, Traced.events_bind,
    Traced.events_mapM_of_quiet (hquiet _), Traced.events_pure]
  simp only [List.append_nil]

/-! ## Registries -/

theorem Registry.events_build_of_ok {fields : List Field} {r : Registry}
    (h : (build fields).value = .ok r) : (build fields).events = [.registryBuilt r.size] := by
  cases hm : FieldMap.ofFields fields with
  | error e =>
    rw [build_of_error hm] at h
    cases h
  | ok m =>
    rw [build_of_ok hm] at h ⊢
    cases h
    rfl

theorem Registry.events_fieldsFor_of_ok {r : Registry} {s : Subject} {m : FieldMap}
    (h : (r.fieldsFor s).value = .ok m) :
    (r.fieldsFor s).events = [.fieldsExpanded s.phid m.size] := by
  unfold fieldsFor at h ⊢
  cases hm : r.fields.values.foldlM (addExpansion s) .empty with
  | error e =>
    rw [hm] at h
    cases h
  | ok m' =>
    rw [hm] at h
    cases h
    rfl

theorem Registry.events_fieldsFor_of_error {r : Registry} {s : Subject} {e : FieldError}
    (h : (r.fieldsFor s).value = .error e) : (r.fieldsFor s).events = [] := by
  unfold fieldsFor at h ⊢
  cases hm : r.fields.values.foldlM (addExpansion s) .empty with
  | error e' => rfl
  | ok m =>
    rw [hm] at h
    cases h

/-! ## The law -/

/-- Rendering without a type has one line in the log. Where references are due, each element of a
list that is no text has one, in order, and so has a value that is no list. No other rendering has
a line, and none that fails. For an editor each element of a list that is no text has a line too.
A registry that is built and the fields that are found for a subject have one line with their
number, and where there are none there is no line. -/
theorem the_log_has_these_lines_and_no_others :
    (∀ (f : Field) (c : Condition) (v : Json) (ctx : RenderContext),
      ((∃ shape, f.valueShape c = .ok shape) ∨ f.Untyped c ∨
        ∃ e, (f.render c v ctx).value = .error e) ∧
      (f.Untyped c → (f.render c v ctx).log =
        [⟨.trace, "rendering legacy condition value",
          [("field", f.constant), ("condition", c.id)]⟩]) ∧
      (∀ source, f.valueShape c = .ok (.tokenizer source) →
        (∀ items, v = .array items → (f.render c v ctx).log = (strays items).map
          (.warning "non-identifier element in tokenized condition value")) ∧
        (∀ items, v = .array items → (∀ j ∈ items, ∃ s, j = .string s) →
          (f.render c v ctx).log = []) ∧
        (v = .null ∨ (∃ s, v = .string s) → (f.render c v ctx).log = []) ∧
        (v ≠ .null → (∀ s, v ≠ .string s) → (∀ items, v ≠ .array items) →
          (f.render c v ctx).log = [.warning "tokenized condition value is not a list" v])) ∧
      (f.valueShape c = .ok .empty ∨ f.valueShape c = .ok .text → (f.render c v ctx).log = []) ∧
      ∀ e, (f.render c v ctx).value = .error e → (f.render c v ctx).log = []) ∧
    (∀ v r, (∀ items, v = .array items → (editorValue v r).log = (strays items).map
        (.warning "skipping non-identifier editor value")) ∧
      ((∀ items, v ≠ .array items) → (editorValue v r).log = [])) ∧
    (∀ calls,
      (∀ r, (Builder.ofCalls calls).build.value = .ok r → (Builder.ofCalls calls).build.log =
        [⟨.debug, "field registry built", [("fields", toString r.size)]⟩]) ∧
      ∀ e, (Builder.ofCalls calls).build.value = .error e →
        (Builder.ofCalls calls).build.log = []) ∧
    ∀ (r : Registry) (s : Subject),
      (∀ m, (r.fieldsFor s).value = .ok m → (r.fieldsFor s).log =
        [⟨.debug, "expanded fields for object",
          [("object", s.phid), ("fields", toString m.size)]⟩]) ∧
      ∀ e, (r.fieldsFor s).value = .error e → (r.fieldsFor s).log = [] := by
  unfold Traced.log
  refine ⟨fun f c v ctx => ⟨?_, ?_, ?_, ?_, ?_⟩, fun v r => ⟨?_, ?_⟩, fun calls => ⟨?_, ?_⟩,
    fun r s => ⟨?_, ?_⟩⟩
  · refine (f.render_cases c).imp_right (Or.imp_right ?_)
    rintro ⟨e, h⟩
    exact ⟨e, congrArg Traced.value (h v ctx)⟩
  · intro h
    rw [Field.events_render_of_untyped h]
    rfl
  · intro source h
    rw [Field.events_render_of_references h]
    refine ⟨?_, ?_, ?_, ?_⟩
    · rintro items rfl
      rw [events_renderReferences_array, List.map_map]
      rfl
    · rintro items rfl hall
      rw [events_renderReferences_array, strays_eq_nil_of_all_texts hall]
      rfl
    · rintro (rfl | ⟨s, rfl⟩)
      · rfl
      · rw [events_renderReferences_string]
        rfl
    · intro hnull hstring harray
      rw [events_renderReferences_of_not_list ctx hnull hstring harray]
      rfl
  · intro h
    rw [Field.events_render_of_unlisted h]
    rfl
  · intro e h
    rw [Field.events_render_of_failure h]
    rfl
  · rintro items rfl
    rw [events_editorValue, List.map_map]
    rfl
  · intro h
    rw [editorValue_of_not_list h]
    rfl
  · intro r h
    rw [Builder.build, Registry.events_build_of_ok h]
    rfl
  · intro e h
    rw [Builder.build, Registry.events_build_of_error h]
    rfl
  · intro m h
    rw [Registry.events_fieldsFor_of_ok h]
    rfl
  · intro e h
    rw [Registry.events_fieldsFor_of_error h]
    rfl

end RuleFields
