-- The laws of the catalog. The catalog and the rendering take the same fields
-- for untyped, for typed and for broken, and for a typed field the catalog
-- lists the shapes by which its values are rendered.
import RuleFields.Catalog
import RuleFields.Proofs.Rendering

namespace RuleFields

/-! ## Answers that may be missing -/

section
variable {α β : Type} {x : Except FieldError α}

theorem orIfUnanswered_eq_ok_iff {other a : α} :
    orIfUnanswered x other = .ok a ↔ x = .ok a ∨ isUnanswered x = true ∧ other = a := by
  cases x with
  | ok b => simp [orIfUnanswered, isUnanswered]
  | error e => cases he : e.isNotImplemented <;> simp [orIfUnanswered, isUnanswered, he]

theorem orIfUnanswered_eq_error_iff {other : α} {e : FieldError} :
    orIfUnanswered x other = .error e ↔ x = .error e ∧ e.isNotImplemented = false := by
  cases x with
  | ok b => simp [orIfUnanswered]
  | error e' =>
    cases he : e'.isNotImplemented with
    | true =>
      simp only [orIfUnanswered, he, if_true, reduceCtorEq, Except.error.injEq, false_iff]
      rintro ⟨rfl, hne⟩
      simp [he] at hne
    | false =>
      simp only [orIfUnanswered, he, Bool.false_eq_true, if_false, Except.error.injEq]
      exact ⟨fun h => ⟨h, h ▸ he⟩, fun h => h.1⟩

theorem isUnanswered_map (g : α → β) (x : Except FieldError α) :
    isUnanswered (g <$> x) = isUnanswered x := by
  cases x <;> rfl

end

namespace FieldSpec

variable {f : Field}

/-! ## One condition -/

theorem condition_eq_ok_iff {t : StandardType} {c : Condition} {entry : ConditionSpec} :
    condition f (some t) c = .ok entry ↔
      ∃ shape, f.valueShape c = .ok shape ∧ entry = ⟨c, c.label, some shape⟩ := by
  unfold condition
  cases f.valueShape c with
  | ok shape => simp [Functor.map, Except.map, bind, Except.bind, pure, Except.pure, eq_comm]
  | error e => simp [Functor.map, Except.map, bind, Except.bind]

theorem condition_eq_error_iff {t : StandardType} {c : Condition} {e : FieldError} :
    condition f (some t) c = .error e ↔ f.valueShape c = .error e := by
  unfold condition
  cases f.valueShape c with
  | ok shape => simp [Functor.map, Except.map, bind, Except.bind, pure, Except.pure]
  | error e' => simp [Functor.map, Except.map, bind, Except.bind]

/-! ## The spec of a field -/

/-- A spec tells what the field says of itself, with one entry for each condition, in order. -/
theorem ofField_eq_ok_iff {spec : FieldSpec} :
    ofField f = .ok spec ↔
      orIfUnanswered (some <$> f.standardType) none = .ok spec.standardType ∧
      (∃ accepted, orIfUnanswered f.conditions [] = .ok accepted ∧
        List.Forall₂ (fun c entry => condition f spec.standardType c = .ok entry) accepted
          spec.conditions) ∧
      spec.constant = f.constant ∧ spec.name = f.name := by
  unfold ofField
  simp only [bind_eq_ok_iff, mapM_eq_ok_iff]
  refine ⟨?_, ?_⟩
  · rintro ⟨declared, hdeclared, accepted, haccepted, entries, hentries, h⟩
    cases h
    exact ⟨hdeclared, ⟨accepted, haccepted, hentries⟩, rfl, rfl⟩
  · obtain ⟨constant, name, declared, entries⟩ := spec
    rintro ⟨hdeclared, ⟨accepted, haccepted, hentries⟩, rfl, rfl⟩
    exact ⟨declared, hdeclared, accepted, haccepted, entries, hentries, rfl⟩

theorem exists_spec_of_untyped (hc : f.ownConditions = none)
    (ht : isUnanswered f.standardType = true) : ∃ spec, ofField f = .ok spec := by
  refine ⟨⟨f.constant, f.name, none, []⟩, ofField_eq_ok_iff.mpr ⟨?_, ⟨[], ?_, .nil⟩, rfl, rfl⟩⟩
  · exact orIfUnanswered_eq_ok_iff.mpr (Or.inr ⟨by rw [isUnanswered_map, ht], rfl⟩)
  · refine orIfUnanswered_eq_ok_iff.mpr (Or.inr ⟨?_, rfl⟩)
    rw [Field.conditions_of_derived hc, isUnanswered_map, ht]

theorem ofField_of_broken {e : FieldError} (h : f.standardType = .error e)
    (he : e.isNotImplemented = false) : ofField f = .error e := by
  unfold ofField
  rw [bind_eq_error_iff]
  exact Or.inl (orIfUnanswered_eq_error_iff.mpr ⟨map_eq_error_iff.mpr h, he⟩)

/-! ## Fields that derive their answers -/

/-- The entries of a list of conditions fail only for want of a lookup source, and do so where one
of the conditions asks for references. -/
theorem mapM_condition_eq_error_iff (h : f.ownShape = none) {t : StandardType}
    (ht : f.standardType = .ok t) (cs : List Condition) (e : FieldError) :
    cs.mapM (condition f (some t)) = .error e ↔
      (∃ c ∈ cs, t.AsksReferences c) ∧ f.lookupSource = .error e := by
  have hfail : ∀ c e, condition f (some t) c = .error e ↔
      t.AsksReferences c ∧ f.lookupSource = .error e := by
    intro c e
    rw [condition_eq_error_iff, Field.valueShape_of_typed h ht,
      StandardType.shapeFor_eq_error_iff]
  have hmp : ∀ e, cs.mapM (condition f (some t)) = .error e →
      (∃ c ∈ cs, t.AsksReferences c) ∧ f.lookupSource = .error e := by
    intro e he
    obtain ⟨before, c, after, rfl, -, hc⟩ := (mapM_eq_error_iff _ _ _).mp he
    obtain ⟨hasks, hl⟩ := (hfail c e).mp hc
    exact ⟨⟨c, by simp, hasks⟩, hl⟩
  refine ⟨hmp e, ?_⟩
  rintro ⟨⟨c, hc, hasks⟩, hl⟩
  cases hentries : cs.mapM (condition f (some t)) with
  | ok entries =>
    obtain ⟨entry, -, hentry⟩ :=
      exists_mem_of_forall₂ ((mapM_eq_ok_iff _ _ _).mp hentries).flip hc
    rw [(hfail c e).mpr ⟨hasks, hl⟩] at hentry
    cases hentry
  | error e' =>
    obtain ⟨-, hl'⟩ := hmp e' hentries
    cases hl.symm.trans hl'
    rfl

theorem ofField_of_typed (hc : f.ownConditions = none) {t : StandardType}
    (h : f.standardType = .ok t) :
    ofField f = FieldSpec.mk f.constant f.name (some t) <$>
      t.conditions.mapM (condition f (some t)) := by
  have hconditions : orIfUnanswered f.conditions [] = .ok t.conditions := by
    rw [Field.conditions_of_derived hc, h]
    rfl
  unfold ofField
  rw [hconditions, h]
  change (t.conditions.mapM (condition f (some t)) >>= fun entries => _) = _
  cases t.conditions.mapM (condition f (some t)) <;> rfl

end FieldSpec

/-- What is wrong with a field that derives its conditions and its shapes: its type is in error,
or it holds references and its lookup source is. -/
inductive Field.Defect (f : Field) (e : FieldError) : Prop
  | type (h : f.standardType = .error e) (he : e.isNotImplemented = false)
  | source (t : StandardType) (ht : f.standardType = .ok t) (hr : t.HoldsReferences)
      (hl : f.lookupSource = .error e)

/-- The catalog finds every defect and nothing else. -/
theorem FieldSpec.ofField_eq_error_iff {f : Field} (hc : f.ownConditions = none)
    (hs : f.ownShape = none) (e : FieldError) : ofField f = .error e ↔ f.Defect e := by
  cases ht : f.standardType with
  | error e' =>
    cases he : e'.isNotImplemented with
    | true =>
      obtain ⟨spec, hspec⟩ := exists_spec_of_untyped hc (by rw [ht]; exact he)
      rw [hspec]
      refine ⟨?_, ?_⟩
      · intro h
        cases h
      · rintro (⟨h, hne⟩ | ⟨t, h, -, -⟩)
        · cases ht.symm.trans h
          simp [he] at hne
        · cases ht.symm.trans h
    | false =>
      rw [ofField_of_broken ht he]
      refine ⟨?_, ?_⟩
      · intro h
        cases h
        exact .type ht he
      · rintro (⟨h, -⟩ | ⟨t, h, -, -⟩)
        · cases ht.symm.trans h
          rfl
        · cases ht.symm.trans h
  | ok t =>
    rw [ofField_of_typed hc ht, map_eq_error_iff, mapM_condition_eq_error_iff hs ht]
    refine ⟨?_, ?_⟩
    · rintro ⟨⟨c, -, hasks⟩, hl⟩
      exact .source t ht hasks.1 hl
    · rintro (⟨h, -⟩ | ⟨t', h, hr, hl⟩)
      · cases ht.symm.trans h
      -- Each type with references has a condition that asks for them.
      · cases ht.symm.trans h
        exact ⟨StandardType.exists_condition_asksReferences hr, hl⟩

/-- Rendering finds no other defects, -/
theorem Field.defect_of_value_render {f : Field} (h : f.ownShape = none) {c : Condition}
    {v : Json} {ctx : RenderContext} {e : FieldError}
    (he : (f.render c v ctx).value = .error e) : f.Defect e := by
  rcases (value_render_eq_error_iff h c v ctx e).mp he with ⟨ht, hne⟩ | ⟨t, ht, hc, hl⟩
  · exact .type ht hne
  · exact .source t ht hc.1 hl

/-- and finds each of them at some condition, whatever the value. -/
theorem Field.exists_condition_of_defect {f : Field} (h : f.ownShape = none) {e : FieldError}
    (hd : f.Defect e) : ∃ c, ∀ v ctx, (f.render c v ctx).value = .error e := by
  rcases hd with ⟨ht, he⟩ | ⟨t, ht, hr, hl⟩
  · exact ⟨.is, fun v ctx => (value_render_eq_error_iff h .is v ctx e).mpr (Or.inl ⟨ht, he⟩)⟩
  · obtain ⟨c, -, hc⟩ := StandardType.exists_condition_asksReferences hr
    exact ⟨c, fun v ctx =>
      (value_render_eq_error_iff h c v ctx e).mpr (Or.inr ⟨t, ht, hc, hl⟩)⟩

/-! ## The laws -/

/-- The catalog describes a field that derives its answers exactly when each of its conditions
can be rendered, and otherwise fails as one of them does. Of any field that derives its shapes,
the catalog tells how it is rendered: without a type, or by the shapes that it lists. -/
theorem the_catalog_and_the_renderer_agree (f : Field) (h : f.ownShape = none) :
    (f.ownConditions = none →
      ((∃ spec, FieldSpec.ofField f = .ok spec) ↔
        ∀ c v ctx, ∃ text, (f.render c v ctx).value = .ok text) ∧
      ∀ e, FieldSpec.ofField f = .error e →
        ∃ c, ∀ v ctx, (f.render c v ctx).value = .error e) ∧
    ∀ spec, FieldSpec.ofField f = .ok spec →
      (spec.standardType = none → ∀ c, f.RendersAsLegacy c) ∧
      (∀ t, spec.standardType = some t → ∀ entry ∈ spec.conditions,
        ∃ shape, entry.value = some shape ∧ f.RendersBy entry.condition shape) := by
  refine ⟨fun hc => ⟨⟨?_, ?_⟩, ?_⟩, fun spec hspec => ⟨?_, ?_⟩⟩
  · rintro ⟨spec, hspec⟩ c v ctx
    cases hrender : (f.render c v ctx).value with
    | ok text => exact ⟨text, rfl⟩
    | error e =>
      have hdefect := Field.defect_of_value_render h hrender
      have hfail := (FieldSpec.ofField_eq_error_iff hc h e).mpr hdefect
      rw [hspec] at hfail
      cases hfail
  · intro hall
    cases hspec : FieldSpec.ofField f with
    | ok spec => exact ⟨spec, rfl⟩
    | error e =>
      obtain ⟨c, hc⟩ := Field.exists_condition_of_defect h
        ((FieldSpec.ofField_eq_error_iff hc h e).mp hspec)
      obtain ⟨text, htext⟩ := hall c .null { resolver := { label := id } }
      rw [hc] at htext
      cases htext
  · intro e he
    exact Field.exists_condition_of_defect h ((FieldSpec.ofField_eq_error_iff hc h e).mp he)
  · intro hnone
    obtain ⟨htype, -⟩ := FieldSpec.ofField_eq_ok_iff.mp hspec
    rw [hnone] at htype
    rcases orIfUnanswered_eq_ok_iff.mp htype with htype | ⟨htype, -⟩
    · obtain ⟨t, -, ht⟩ := map_eq_ok_iff.mp htype
      cases ht
    · rw [isUnanswered_map] at htype
      exact Field.rendersAsLegacy_of_untyped h htype
  · intro t ht entry hentry
    obtain ⟨-, ⟨accepted, -, hentries⟩, -, -⟩ := FieldSpec.ofField_eq_ok_iff.mp hspec
    obtain ⟨c, -, hc⟩ := exists_mem_of_forall₂ hentries hentry
    rw [ht] at hc
    obtain ⟨shape, hshape, rfl⟩ := FieldSpec.condition_eq_ok_iff.mp hc
    exact ⟨shape, rfl, Field.rendersBy_of_valueShape hshape⟩

/-- The space is described, so each of its conditions can be rendered: those that ask for spaces
by the labels of the spaces, and a test of presence without any text. -/
theorem the_space_is_rendered_as_it_is_listed :
    Builtin.space.ownShape = none ∧ Builtin.space.ownConditions = none ∧
      (∀ c v ctx, ∃ text, (Builtin.space.render c v ctx).value = .ok text) ∧
      Builtin.space.RendersBy .isAny (.tokenizer (.named "spaces")) ∧
      Builtin.space.RendersBy .exist .empty := by
  obtain ⟨hderived, hlisted⟩ := the_catalog_and_the_renderer_agree Builtin.space rfl
  obtain ⟨hall, -⟩ := hderived rfl
  obtain ⟨-, hentries⟩ := hlisted _ rfl
  refine ⟨rfl, rfl, hall.mp ⟨_, rfl⟩, ?_, ?_⟩
  · obtain ⟨shape, hshape, h⟩ := hentries .phidNullable rfl
      ⟨.isAny, "is any of", some (.tokenizer (.named "spaces"))⟩ (by decide)
    cases hshape
    exact h
  · obtain ⟨shape, hshape, h⟩ := hentries .phidNullable rfl ⟨.exist, "exists", some .empty⟩
      (by decide)
    cases hshape
    exact h

end RuleFields
