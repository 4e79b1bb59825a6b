-- The laws of rendered lists. Each element of a list is rendered in its place,
-- a reference by its label and anything else as plain text. The labels are
-- asked for at once, and a value without references takes no calls.
import RuleFields.Builtin
import RuleFields.Proofs.Labels
import RuleFields.Proofs.Rendering

namespace RuleFields

/-! ## Elements -/

/-- What stands for one element of a list, where `label` gives the labels of references. -/
def listPiece (isReference : String → Bool) (label : String → String) : Json → String
  | .null => ""
  | .string s => if isReference s then label s else s
  | j => j.compact

section
variable {ctx : RenderContext} {isReference : String → Bool} {items : List Json}

theorem references_cons_string (s : String) (rest : List Json) :
    references isReference (.string s :: rest) =
      if isReference s = true then s :: references isReference rest
      else references isReference rest := by
  unfold references
  exact List.filter_cons

theorem mem_references_iff {id : String} :
    id ∈ references isReference items ↔ .string id ∈ items ∧ isReference id = true := by
  unfold references
  rw [List.mem_filter, Json.mem_filterMap_string?_iff]

/-- Only the labels of its references matter to a list. -/
theorem map_listPiece_congr {label label' : String → String}
    (h : ∀ id ∈ references isReference items, label id = label' id) :
    items.map (listPiece isReference label) = items.map (listPiece isReference label') := by
  apply List.map_congr_left
  intro j hj
  cases j with
  | string s =>
    by_cases hs : isReference s = true
    · simp only [listPiece, if_pos hs, h s (mem_references_iff.mpr ⟨hj, hs⟩)]
    · simp only [listPiece, if_neg hs]
  | _ => rfl

theorem value_renderElement (labels : String → Option String) (j : Json) :
    (renderElement ctx isReference labels j).value =
      listPiece isReference (fun id => (labels id).getD (ctx.resolver.label id)) j := by
  cases j with
  | string s =>
    by_cases hs : isReference s = true
    · simp only [renderElement, listPiece, if_pos hs, Resolver.value_labelFrom]
    · simp only [renderElement, listPiece, if_neg hs, Traced.value_pure]
  | _ => rfl

/-- The calls for the elements are those for the references, in order. -/
theorem flatMap_calls_renderElement (labels : String → Option String) (items : List Json) :
    (items.flatMap fun j => (renderElement ctx isReference labels j).calls) =
      (references isReference items).flatMap fun id =>
        (ctx.resolver.labelFrom labels id).calls := by
  induction items with
  | nil => rfl
  | cons j rest ih =>
    rw [List.flatMap_cons, ih]
    cases j with
    | string s =>
      rw [references_cons_string]
      by_cases hs : isReference s = true
      · simp only [renderElement, if_pos hs, List.flatMap_cons]
      · simp only [renderElement, if_neg hs, Traced.calls_pure, List.nil_append]
    | _ => rfl

/-! ## Lists -/

/-- First the labels are asked for, if there are references, and then each element is
rendered. -/
theorem renderList_eq (items : List Json) :
    renderList ctx isReference items =
      (if references isReference items = [] then pure fun _ => none
        else ctx.resolver.resolveLabels (references isReference items)) >>= fun labels =>
          (", ".intercalate ·) <$> items.mapM (renderElement ctx isReference labels) := by
  unfold renderList
  dsimp only
  by_cases h : references isReference items = []
  · rw [if_pos h, if_pos (List.isEmpty_iff.mpr h)]
    rfl
  · rw [if_neg h, if_neg (mt List.isEmpty_iff.mp h)]
    rfl

theorem value_renderList (items : List Json) :
    (renderList ctx isReference items).value = ", ".intercalate
      (items.map (listPiece isReference
        (ctx.resolver.labelAmong (references isReference items)))) := by
  rw [renderList_eq, Traced.value_bind, Traced.value_map, Traced.value_mapM]
  simp only [value_renderElement]
  refine congrArg _ (map_listPiece_congr fun id hid => ?_)
  -- A list with a reference has labels to ask for.
  rw [if_neg (List.ne_nil_of_mem hid), Resolver.getD_resolveLabels hid]

theorem calls_renderList (items : List Json) :
    (renderList ctx isReference items).calls =
      if references isReference items = [] then []
      else ctx.resolver.callsFor (references isReference items) := by
  rw [renderList_eq, Traced.calls_bind, Traced.calls_map, Traced.calls_mapM,
    flatMap_calls_renderElement]
  by_cases h : references isReference items = []
  · rw [if_pos h, if_pos h, h]
    rfl
  · rw [if_neg h, if_neg h, Resolver.calls_resolveLabels_append]

end

/-! ## Values that are rendered as lists -/

namespace Field

variable {f : Field} {c : Condition} {v : Json} {ctx : RenderContext}
  {isReference : String → Bool} {items : List Json}

/-- The field has no shape for the condition and says nothing of its type. -/
structure Untyped (f : Field) (c : Condition) : Prop where
  shape : isUnanswered (f.valueShape c) = true
  type : isUnanswered f.standardType = true

/-- The value is rendered as the list of these items, and the texts among them that
`isReference` takes are references. Where references are due, every text is one, and a single
text is a list of itself. Without a type, the known references of a list are looked for. -/
inductive RendersList (f : Field) (c : Condition) (ctx : RenderContext) :
    Json → (String → Bool) → List Json → Prop
  | references {source : LookupSource} (h : f.valueShape c = .ok (.tokenizer source))
      (items : List Json) : RendersList f c ctx (.array items) (fun _ => true) items
  | reference {source : LookupSource} (h : f.valueShape c = .ok (.tokenizer source)) (s : String) :
      RendersList f c ctx (.string s) (fun _ => true) [.string s]
  | untyped (h : f.Untyped c) (items : List Json) :
      RendersList f c ctx (.array items) ctx.isKnownReference items

theorem Untyped.rendersAsLegacy (h : f.Untyped c) : f.RendersAsLegacy c :=
  rendersAsLegacy_of_unanswered h.shape h.type

/-- What counts as a reference does not depend on who gives the labels. -/
theorem RendersList.of_resolver (h : f.RendersList c ctx v isReference items) (r : Resolver) :
    f.RendersList c { ctx with resolver := r } v isReference items := by
  cases h with
  | references h => exact .references h items
  | reference h s => exact .reference h s
  | untyped h => exact .untyped h items

theorem value_render_of_list (h : f.RendersList c ctx v isReference items) :
    (f.render c v ctx).value = .ok (renderList ctx isReference items).value := by
  cases h with
  | references h => rw [render_of_valueShape h]; rfl
  | reference h s => rw [render_of_valueShape h]; rfl
  | untyped h => rw [h.rendersAsLegacy]; rfl

/-- What is reported on the way is no call. -/
theorem calls_render_of_list (h : f.RendersList c ctx v isReference items) :
    (f.render c v ctx).calls =
      if references isReference items = [] then []
      else ctx.resolver.callsFor (references isReference items) := by
  rw [← calls_renderList]
  cases h with
  | references h =>
    rw [render_of_valueShape h, Traced.calls_map]
    unfold renderShape renderReferences
    rw [Traced.calls_bind, Traced.calls_forM_report, List.nil_append]
  | reference h s => rw [render_of_valueShape h, Traced.calls_map]; rfl
  | untyped h => rw [h.rendersAsLegacy, Traced.calls_bind, Traced.calls_map]; rfl

/-! ## Values that take no calls -/

/-- A condition is rendered by its shape, or without a type, or not at all. -/
theorem render_cases (f : Field) (c : Condition) :
    (∃ shape, f.valueShape c = .ok shape) ∨ f.Untyped c ∨
      ∃ e, ∀ v ctx, f.render c v ctx = pure (.error e) := by
  cases hshape : f.valueShape c with
  | ok shape => exact Or.inl ⟨shape, rfl⟩
  | error e =>
    by_cases ht : isUnanswered f.standardType = true
    · by_cases he : e.isNotImplemented = true
      · exact Or.inr (Or.inl ⟨by rw [hshape]; exact he, ht⟩)
      · exact Or.inr (Or.inr ⟨e, render_of_failure hshape (Or.inr (by simpa using he))⟩)
    · exact Or.inr (Or.inr ⟨e, render_of_failure hshape (Or.inl (by simpa using ht))⟩)

/-- Where rendering fails, it does nothing else. -/
theorem render_of_value_eq_error {e : FieldError} (h : (f.render c v ctx).value = .error e) :
    f.render c v ctx = pure (.error e) := by
  rcases f.render_cases c with ⟨shape, hshape⟩ | huntyped | ⟨e', hrender⟩
  · obtain ⟨text, htext⟩ := exists_text_of_rendersBy (rendersBy_of_valueShape hshape) v ctx
    rw [htext] at h
    cases h
  · obtain ⟨text, htext⟩ := exists_text_of_rendersAsLegacy huntyped.rendersAsLegacy v ctx
    rw [htext] at h
    cases h
  · rw [hrender] at h ⊢
    cases h
    rfl

theorem calls_render_of_failure {e : FieldError} (h : (f.render c v ctx).value = .error e) :
    (f.render c v ctx).calls = [] := by
  rw [render_of_value_eq_error h]
  rfl

theorem calls_render_of_unlisted {shape : ValueShape} (h : f.valueShape c = .ok shape)
    (hs : shape = .empty ∨ shape = .text) : (f.render c v ctx).calls = [] := by
  rw [render_of_valueShape h]
  rcases hs with rfl | rfl
  · rfl
  · rfl

/-- Where references are due, only texts are asked for. -/
theorem calls_render_of_textless {source : LookupSource}
    (h : f.valueShape c = .ok (.tokenizer source)) (hs : ∀ s, v ≠ .string s)
    (ha : ∀ items, v = .array items → ∀ s, .string s ∉ items) : (f.render c v ctx).calls = [] := by
  cases v with
  | array items =>
    have hnone : references (fun _ => true) items = [] := by
      apply List.eq_nil_iff_forall_not_mem.mpr
      intro id hid
      exact ha items rfl id (mem_references_iff.mp hid).1
    rw [calls_render_of_list (.references h items), if_pos hnone]
  | string s => exact absurd rfl (hs s)
  | _ => rw [render_of_valueShape h]; rfl

/-- Without a type, only the known references of a list are asked for. -/
theorem calls_render_of_unknown (h : f.Untyped c)
    (ha : ∀ items, v = .array items → ∀ s, .string s ∈ items → ctx.isKnownReference s = false) :
    (f.render c v ctx).calls = [] := by
  cases v with
  | array items =>
    have hnone : references ctx.isKnownReference items = [] := by
      apply List.eq_nil_iff_forall_not_mem.mpr
      intro id hid
      obtain ⟨hmem, hknown⟩ := mem_references_iff.mp hid
      rw [ha items rfl id hmem] at hknown
      cases hknown
    rw [calls_render_of_list (.untyped h items), if_pos hnone]
  | _ => rw [h.rendersAsLegacy, Traced.calls_bind, Traced.calls_map]; rfl

end Field

/-! ## The laws -/

/-- Each element of a list has its piece of the text, in the order of the list: a reference its
label, and anything else its plain text. Where references are due, a single one is rendered as a
list of itself. Without a type, a single text stays as it is, even if it is a known reference.
That the labels are asked for at once makes no difference if the common answer agrees with those
that the references have alone. -/
theorem each_element_of_a_list_is_rendered_in_its_place (f : Field) (c : Condition)
    (ctx : RenderContext) :
    (∀ v isReference items, f.RendersList c ctx v isReference items →
      ∀ ids, ids = (items.filterMap Json.string?).filter isReference →
        (f.render c v ctx).value = .ok (", ".intercalate
          (items.map (listPiece isReference (ctx.resolver.labelAmong ids)))) ∧
        (ctx.resolver.AgreesOn ids →
          (f.render c v ctx).value = .ok (", ".intercalate
            (items.map (listPiece isReference ctx.resolver.label))) ∧
          (f.render c v ctx).value =
            (f.render c v { ctx with resolver := { label := ctx.resolver.label } }).value)) ∧
    (∀ source, f.valueShape c = .ok (.tokenizer source) → ∀ s,
      (f.render c (.string s) ctx).value = (f.render c (.array [.string s]) ctx).value) ∧
    (f.Untyped c → ∀ s, (f.render c (.string s) ctx).value = .ok s) := by
  refine ⟨?_, ?_, ?_⟩
  · rintro v isReference items h ids rfl
    have htext := Field.value_render_of_list h
    have halone := Field.value_render_of_list (h.of_resolver { label := ctx.resolver.label })
    rw [value_renderList] at htext halone
    refine ⟨htext, fun hagrees => ?_⟩
    have hsame : items.map (listPiece isReference (ctx.resolver.labelAmong
        (references isReference items))) = items.map (listPiece isReference ctx.resolver.label) :=
      map_listPiece_congr fun _ hid => Resolver.labelAmong_of_agreesOn hagrees hid
    rw [hsame] at htext
    exact ⟨htext, htext.trans halone.symm⟩
  · intro source h s
    rw [Field.value_render_of_list (.reference h s), Field.value_render_of_list (.references h _)]
  · intro h s
    rw [h.rendersAsLegacy]
    rfl

/-- A list of users, one of them twice, with two elements that are none. -/
def mixedList : List Json :=
  [.string "PHID-USER-2", .string "web", .null, .string "PHID-USER-1", .string "PHID-USER-2"]

/-- A short answer leaves no hole in the text. -/
theorem a_short_answer_leaves_no_hole :
    Builtin.contentSource.RendersList .is { resolver := .shortDirectory } (.array mixedList)
        PhidNamespace.any.isKnownReference mixedList ∧
      Resolver.shortDirectory.AgreesOn ["PHID-USER-2", "PHID-USER-1", "PHID-USER-2"] ∧
      (Builtin.contentSource.render .is (.array mixedList) { resolver := .shortDirectory }).value =
        .ok "@PHID-USER-2, web, , @PHID-USER-1, @PHID-USER-2" := by
  have hrenders : Builtin.contentSource.RendersList .is { resolver := .shortDirectory }
      (.array mixedList) PhidNamespace.any.isKnownReference mixedList := .untyped ⟨rfl, rfl⟩ _
  have hagrees := Resolver.shortDirectory_agreesOn ["PHID-USER-2", "PHID-USER-1", "PHID-USER-2"]
  obtain ⟨hlist, -, -⟩ := each_element_of_a_list_is_rendered_in_its_place Builtin.contentSource .is
    { resolver := .shortDirectory }
  obtain ⟨-, hsame⟩ := hlist _ _ _ hrenders _ rfl
  refine ⟨hrenders, hagrees, ?_⟩
  rw [(hsame hagrees).1]
  rfl

/-- Rendering asks for nothing where it fails, where the text needs no labels, and where the value
holds no references. Otherwise all references are asked for at once, and then those alone that the
common answer lacks, in the order of the list and as often as they occur. -/
theorem labels_are_asked_for_at_once (f : Field) (c : Condition) (v : Json)
    (ctx : RenderContext) :
    (∀ e, (f.render c v ctx).value = .error e → (f.render c v ctx).calls = []) ∧
    (∀ shape, f.valueShape c = .ok shape → shape = .empty ∨ shape = .text →
      (f.render c v ctx).calls = []) ∧
    (∀ source, f.valueShape c = .ok (.tokenizer source) → (∀ s, v ≠ .string s) →
      (∀ items, v = .array items → ∀ s, .string s ∉ items) → (f.render c v ctx).calls = []) ∧
    (f.Untyped c →
      (∀ items, v = .array items → ∀ s, .string s ∈ items → ctx.isKnownReference s = false) →
      (f.render c v ctx).calls = []) ∧
    ∀ isReference items, f.RendersList c ctx v isReference items →
      ∀ ids, ids = (items.filterMap Json.string?).filter isReference → ids ≠ [] →
        (f.render c v ctx).calls = ctx.resolver.callsFor ids := by
  refine ⟨?_, ?_, ?_, ?_, ?_⟩
  · intro e he
    exact Field.calls_render_of_failure he
  · intro shape h hs
    exact Field.calls_render_of_unlisted h hs
  · intro source h hs ha
    exact Field.calls_render_of_textless h hs ha
  · intro h ha
    exact Field.calls_render_of_unknown h ha
  · rintro isReference items h ids rfl hsome
    rw [Field.calls_render_of_list h]
    exact if_neg hsome

/-- A user that the common answer lacks is asked for as often as the list has it. -/
theorem a_short_answer_is_made_up_for :
    (Builtin.contentSource.render .is (.array mixedList) { resolver := .shortDirectory }).calls =
      [.labels ["PHID-USER-2", "PHID-USER-1", "PHID-USER-2"], .label "PHID-USER-2",
        .label "PHID-USER-2"] := by
  have hrenders : Builtin.contentSource.RendersList .is { resolver := .shortDirectory }
      (.array mixedList) PhidNamespace.any.isKnownReference mixedList := .untyped ⟨rfl, rfl⟩ _
  obtain ⟨-, -, -, -, hlist⟩ := labels_are_asked_for_at_once Builtin.contentSource .is
    (.array mixedList) { resolver := .shortDirectory }
  exact hlist _ _ hrenders ["PHID-USER-2", "PHID-USER-1", "PHID-USER-2"] rfl (by simp)

end RuleFields
