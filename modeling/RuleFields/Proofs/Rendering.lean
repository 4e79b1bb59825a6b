-- The laws of rendering: which of the ways of rendering is taken for a
-- condition of a field. A field with a type is rendered by the shape that the
-- type gives, or fails. Only a field that says nothing of its type is rendered
-- without one.
import RuleFields.CustomField
import RuleFields.Rendering
import RuleFields.Proofs.Classification

namespace RuleFields

theorem plainText_of_compact {v : Json} (hnull : v ≠ .null) (hstring : ∀ s, v ≠ .string s) :
    plainText v = v.compact := by
  cases v with
  | null => exact absurd rfl hnull
  | string s => exact absurd rfl (hstring s)
  | _ => rfl

namespace Field

variable {f : Field} {c : Condition}

/-! ## The ways of rendering -/

/-- The values of the condition are rendered without a type, and each time that is reported. -/
def RendersAsLegacy (f : Field) (c : Condition) : Prop :=
  ∀ v ctx, f.render c v ctx = do
    Traced.report (.legacyRendering f.constant c)
    .ok <$> renderLegacy ctx v

/-- The values of the condition are rendered by this shape: not at all, as plain text, or as
references. -/
inductive RendersBy (f : Field) (c : Condition) : ValueShape → Prop
  | empty (h : ∀ v ctx, f.render c v ctx = pure (.ok "")) : RendersBy f c .empty
  | text (h : ∀ v ctx, f.render c v ctx = pure (.ok (plainText v))) : RendersBy f c .text
  | tokenizer (source : LookupSource)
      (h : ∀ v ctx, f.render c v ctx = .ok <$> renderReferences ctx v) :
      RendersBy f c (.tokenizer source)

theorem render_of_valueShape {shape : ValueShape} (h : f.valueShape c = .ok shape) (v : Json)
    (ctx : RenderContext) : f.render c v ctx = .ok <$> renderShape ctx shape v := by
  unfold render
  rw [h]

theorem rendersBy_of_valueShape {shape : ValueShape} (h : f.valueShape c = .ok shape) :
    f.RendersBy c shape := by
  have hrender := render_of_valueShape h
  cases shape with
  | empty => exact .empty hrender
  | text => exact .text hrender
  | tokenizer source => exact .tokenizer source hrender

theorem rendersAsLegacy_of_unanswered (hs : isUnanswered (f.valueShape c) = true)
    (ht : isUnanswered f.standardType = true) : f.RendersAsLegacy c := by
  intro v ctx
  unfold render
  cases hshape : f.valueShape c with
  | ok shape =>
    rw [hshape] at hs
    cases hs
  | error e =>
    rw [hshape] at hs
    have he : e.isNotImplemented = true := hs
    simp only [he, ht, Bool.and_self, if_true]

/-- A shape that fails is the answer, unless it is the type that the field does not say. -/
theorem render_of_failure {e : FieldError} (h : f.valueShape c = .error e)
    (ht : isUnanswered f.standardType = false ∨ e.isNotImplemented = false) (v : Json)
    (ctx : RenderContext) : f.render c v ctx = pure (.error e) := by
  have hcond : ¬ (e.isNotImplemented && isUnanswered f.standardType) = true := by
    rcases ht with ht | ht <;> simp [ht]
  unfold render
  rw [h]
  exact if_neg hcond

/-! ## Fields that derive their shapes -/

theorem rendersAsLegacy_of_untyped (h : f.ownShape = none)
    (ht : isUnanswered f.standardType = true) (c : Condition) : f.RendersAsLegacy c := by
  refine rendersAsLegacy_of_unanswered ?_ ht
  rw [valueShape_of_derived h]
  cases htype : f.standardType with
  | ok t =>
    rw [htype] at ht
    cases ht
  | error e =>
    rw [htype] at ht
    exact ht

theorem render_of_broken (h : f.ownShape = none) {e : FieldError}
    (ht : f.standardType = .error e) (he : e.isNotImplemented = false) (c : Condition) (v : Json)
    (ctx : RenderContext) : f.render c v ctx = pure (.error e) :=
  render_of_failure ((valueShape_eq_error_iff h c e).mpr (Or.inl ht)) (Or.inr he) v ctx

theorem valueShape_of_typed (h : f.ownShape = none) {t : StandardType}
    (ht : f.standardType = .ok t) (c : Condition) :
    f.valueShape c = t.shapeFor c f.lookupSource := by
  rw [valueShape_of_derived h, ht]
  rfl

theorem rendersBy_of_asksNothing (h : f.ownShape = none) {t : StandardType}
    (ht : f.standardType = .ok t) (hc : t.AsksNothing c) : f.RendersBy c .empty := by
  apply rendersBy_of_valueShape
  rw [valueShape_of_typed h ht, StandardType.shapeFor_of_asksNothing hc]
  rfl

theorem rendersBy_of_holdsText (h : f.ownShape = none) {t : StandardType}
    (ht : f.standardType = .ok t) (htext : t.HoldsText) (c : Condition) : f.RendersBy c .text := by
  apply rendersBy_of_valueShape
  rw [valueShape_of_typed h ht, StandardType.shapeFor_of_holdsText htext]
  rfl

theorem rendersBy_of_asksReferences (h : f.ownShape = none) {t : StandardType}
    (ht : f.standardType = .ok t) (hc : t.AsksReferences c) {source : LookupSource}
    (hl : f.lookupSource = .ok source) : f.RendersBy c (.tokenizer source) := by
  apply rendersBy_of_valueShape
  rw [valueShape_of_typed h ht, StandardType.shapeFor_of_asksReferences hc, hl]
  rfl

/-- A lookup source that fails is the answer, even where the field says nothing of it: the type
is said, so there is no way around it. -/
theorem render_of_unsourced (h : f.ownShape = none) {t : StandardType} {e : FieldError}
    (ht : f.standardType = .ok t) (hc : t.AsksReferences c) (hl : f.lookupSource = .error e)
    (v : Json) (ctx : RenderContext) : f.render c v ctx = pure (.error e) := by
  refine render_of_failure ((valueShape_eq_error_iff h c e).mpr (Or.inr ⟨t, ht, hc, hl⟩))
    (Or.inl ?_) v ctx
  rw [ht]
  rfl

theorem exists_text_of_rendersBy {shape : ValueShape} (h : f.RendersBy c shape) (v : Json)
    (ctx : RenderContext) : ∃ text, (f.render c v ctx).value = .ok text := by
  cases h with
  | empty h => exact ⟨_, congrArg Traced.value (h v ctx)⟩
  | text h => exact ⟨_, congrArg Traced.value (h v ctx)⟩
  | tokenizer source h => exact ⟨_, congrArg Traced.value (h v ctx)⟩

theorem exists_text_of_rendersAsLegacy (h : f.RendersAsLegacy c) (v : Json)
    (ctx : RenderContext) : ∃ text, (f.render c v ctx).value = .ok text :=
  ⟨_, congrArg Traced.value (h v ctx)⟩

/-- A field that derives its shapes fails with its type or with its lookup source. That it says
nothing of its type is no failure, but that it says nothing of a source can be one. -/
theorem value_render_eq_error_iff (h : f.ownShape = none) (c : Condition) (v : Json)
    (ctx : RenderContext) (e : FieldError) :
    (f.render c v ctx).value = .error e ↔
      (f.standardType = .error e ∧ e.isNotImplemented = false) ∨
        ∃ t, f.standardType = .ok t ∧ t.AsksReferences c ∧ f.lookupSource = .error e := by
  refine ⟨?_, ?_⟩
  · intro hfail
    cases hshape : f.valueShape c with
    | ok shape =>
      obtain ⟨text, htext⟩ := exists_text_of_rendersBy (rendersBy_of_valueShape hshape) v ctx
      rw [htext] at hfail
      cases hfail
    | error e' =>
      rcases (valueShape_eq_error_iff h c e').mp hshape with ht | ⟨t, ht, hc, hl⟩
      · cases he : e'.isNotImplemented with
        | true =>
          have hlegacy := rendersAsLegacy_of_untyped h (by rw [ht]; exact he) c
          obtain ⟨text, htext⟩ := exists_text_of_rendersAsLegacy hlegacy v ctx
          rw [htext] at hfail
          cases hfail
        | false =>
          rw [render_of_broken h ht he] at hfail
          cases hfail
          exact Or.inl ⟨ht, he⟩
      · rw [render_of_unsourced h ht hc hl] at hfail
        cases hfail
        exact Or.inr ⟨t, ht, hc, hl⟩
  · rintro (⟨ht, he⟩ | ⟨t, ht, hc, hl⟩)
    · rw [render_of_broken h ht he]
      rfl
    · rw [render_of_unsourced h ht hc hl]
      rfl

/-- Two conditions of one shape give the same text and ask for the same labels. -/
theorem render_congr {c' : Condition} (h : f.valueShape c = f.valueShape c') (v : Json)
    (ctx : RenderContext) :
    (f.render c v ctx).value = (f.render c' v ctx).value ∧
      (f.render c v ctx).calls = (f.render c' v ctx).calls := by
  unfold render
  rw [h]
  cases f.valueShape c' with
  | ok shape => exact ⟨rfl, rfl⟩
  | error e =>
    dsimp only
    split <;> exact ⟨rfl, rfl⟩

end Field

/-! ## The laws -/

/-- How a value is rendered depends on the type that the field declares, on whether the condition
is a test of presence, and on the lookup source where references are asked for. A field that
declares no type is rendered without one, and every other failure is the answer. -/
theorem the_type_and_the_condition_decide_the_rendering (f : Field) (h : f.ownShape = none)
    (c : Condition) (v : Json) (ctx : RenderContext) :
    (∀ e, f.standardType = .error e → e.isNotImplemented = true →
      f.render c v ctx = do
        Traced.report (.legacyRendering f.constant c)
        .ok <$> renderLegacy ctx v) ∧
    (∀ e, f.standardType = .error e → e.isNotImplemented = false →
      f.render c v ctx = pure (.error e)) ∧
    (∀ t, f.standardType = .ok t →
      (t.AsksNothing c ∨ t.HoldsText ∨ t.AsksReferences c) ∧
      (t.AsksNothing c → f.render c v ctx = pure (.ok "")) ∧
      (t.HoldsText →
        (v = .null → f.render c v ctx = pure (.ok "")) ∧
        (∀ s, v = .string s → f.render c v ctx = pure (.ok s)) ∧
        (v ≠ .null → (∀ s, v ≠ .string s) → f.render c v ctx = pure (.ok v.compact))) ∧
      (t.AsksReferences c →
        (∀ e, f.lookupSource = .error e → f.render c v ctx = pure (.error e)) ∧
        (∀ source, f.lookupSource = .ok source →
          f.render c v ctx = .ok <$> renderReferences ctx v))) ∧
    (∀ c', c.isExistenceTest = false → c'.isExistenceTest = false →
      (f.render c v ctx).value = (f.render c' v ctx).value ∧
        (f.render c v ctx).calls = (f.render c' v ctx).calls) := by
  refine ⟨?_, ?_, ?_, ?_⟩
  · intro e ht he
    exact Field.rendersAsLegacy_of_untyped h (by rw [ht]; exact he) c v ctx
  · intro e ht he
    exact Field.render_of_broken h ht he c v ctx
  · intro t ht
    refine ⟨t.asks_cases c, ?_, ?_, ?_⟩
    · intro hc
      cases Field.rendersBy_of_asksNothing h ht hc with
      | empty hrender => exact hrender v ctx
    · intro htext
      cases Field.rendersBy_of_holdsText h ht htext c with
      | text hrender =>
        rw [hrender v ctx]
        refine ⟨?_, ?_, ?_⟩
        · rintro rfl
          rfl
        · rintro s rfl
          rfl
        · intro hnull hstring
          rw [plainText_of_compact hnull hstring]
    · intro hc
      refine ⟨fun e hl => Field.render_of_unsourced h ht hc hl v ctx, fun source hl => ?_⟩
      cases Field.rendersBy_of_asksReferences h ht hc hl with
      | tokenizer source hrender => exact hrender v ctx
  · intro c' hc hc'
    apply Field.render_congr
    rw [Field.valueShape_of_derived h, Field.valueShape_of_derived h]
    simp only [StandardType.shapeFor_congr (hc.trans hc'.symm)]

/-- A custom field of references without a source is refused. That it says nothing of the source
does not make it a field without a type. -/
theorem references_without_a_source_are_refused :
    (CustomField.mk "herald.custom/x" "reviewer" "Reviewer" .phid none).toField.ownShape = none ∧
      (CustomField.mk "herald.custom/x" "reviewer" "Reviewer" .phid none).toField.render .isAny
          (.array [.string "PHID-USER-1"]) { resolver := { label := ("?" ++ ·) } } =
        pure (.error (.notImplemented "herald.custom/x" "lookup_source")) := by
  refine ⟨rfl, ?_⟩
  obtain ⟨-, -, htyped, -⟩ := the_type_and_the_condition_decide_the_rendering
    (CustomField.mk "herald.custom/x" "reviewer" "Reviewer" .phid none).toField rfl .isAny
    (.array [.string "PHID-USER-1"]) { resolver := { label := ("?" ++ ·) } }
  obtain ⟨-, -, -, hreferences⟩ := htyped .phid rfl
  exact (hreferences ⟨Or.inl rfl, by decide, by decide⟩).1 _ rfl

end RuleFields
