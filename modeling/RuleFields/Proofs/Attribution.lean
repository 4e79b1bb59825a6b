-- The laws of errors and fields. An error about a type or about a source that
-- is not said names the field that it is about, with the tag that this field
-- declared. So it is never laid at another field, and never at none.
import RuleFields.Proofs.BuiltinFields
import RuleFields.Proofs.Catalog.Specs
import RuleFields.Proofs.Tags

namespace RuleFields

/-! ## Declarations -/

/-- How a field declares its type: not at all, as a type, or by a tag. -/
inductive TypeDeclaration where
  | unsaid
  | type (t : StandardType)
  | tag (tag : String)

/-- How a field declares its conditions: as those of its type, as a list, or by a tag. -/
inductive ConditionsDeclaration where
  | derived
  | list (conditions : List Condition)
  | tag (tag : String)

/-- What a field declares. It need not have a lookup source. -/
structure Declaration where
  type : TypeDeclaration
  conditions : ConditionsDeclaration
  source : Option LookupSource

def TypeDeclaration.answer (constant : String) : TypeDeclaration → Except FieldError StandardType
  | unsaid => .error (.notImplemented constant "standard_type")
  | type t => .ok t
  | tag text => StandardType.parseFor constant text

/-- Conditions that are derived are no answer of the field's own. -/
def ConditionsDeclaration.answer? (constant : String) :
    ConditionsDeclaration → Option (Except FieldError (List Condition))
  | derived => none
  | list conditions => some (.ok conditions)
  | tag text => some (conditionsForTag constant text)

def Declaration.lookup (constant : String) (d : Declaration) : Except FieldError LookupSource :=
  match d.source with
  | some source => .ok source
  | none => .error (.notImplemented constant "lookup_source")

namespace Field

/-- The field answers what it declares, each time under its own constant, and derives its
shapes. -/
structure DeclaredBy (f : Field) (d : Declaration) : Prop where
  type : f.standardType = d.type.answer f.constant
  conditions : f.ownConditions = d.conditions.answer? f.constant
  source : f.lookupSource = d.lookup f.constant
  shape : f.ownShape = none

/-- The field answers what it declares, and stands for itself or is the family of custom
fields. -/
structure Declared (f : Field) : Prop where
  declaration : ∃ d, f.DeclaredBy d
  expansion : f.ownExpansion = none ∨ f = Builtin.customFields

/-! ## What can be wrong -/

variable (f : Field) (d : Declaration)

/-- The error says that the field has no type. -/
def TypeUnsaid (e : FieldError) : Prop :=
  d.type = .unsaid ∧ e = .notImplemented f.constant "standard_type"

/-- The error says that the type has an unknown tag. -/
def TypeUnknown (e : FieldError) : Prop :=
  ∃ tag, d.type = .tag tag ∧ UnknownTag tag ∧ e = .unknownStandardType f.constant tag

/-- The error says that the conditions have an unknown tag. -/
def ConditionsUnknown (e : FieldError) : Prop :=
  ∃ tag, d.conditions = .tag tag ∧ UnknownTag tag ∧ e = .unknownStandardType f.constant tag

/-- The error says that the field has no lookup source, where the condition asks for
references. -/
def SourceUnsaid (c : Condition) (e : FieldError) : Prop :=
  (∃ t, f.standardType = .ok t ∧ t.AsksReferences c) ∧ d.source = none ∧
    e = .notImplemented f.constant "lookup_source"

variable {f d} {e : FieldError}

theorem TypeUnsaid.isNotImplemented (h : f.TypeUnsaid d e) : e.isNotImplemented = true := by
  obtain ⟨-, rfl⟩ := h
  rfl

theorem TypeUnknown.isNotImplemented (h : f.TypeUnknown d e) : e.isNotImplemented = false := by
  obtain ⟨tag, -, -, rfl⟩ := h
  rfl

theorem ConditionsUnknown.isNotImplemented (h : f.ConditionsUnknown d e) :
    e.isNotImplemented = false := by
  obtain ⟨tag, -, -, rfl⟩ := h
  rfl

/-! ## The answers of a declared field -/

namespace DeclaredBy

theorem standardType_eq_error_iff (h : f.DeclaredBy d) (e : FieldError) :
    f.standardType = .error e ↔ f.TypeUnsaid d e ∨ f.TypeUnknown d e := by
  rw [h.type]
  unfold TypeUnsaid TypeUnknown
  cases hd : d.type with
  | unsaid => simp [TypeDeclaration.answer, eq_comm]
  | type t => simp [TypeDeclaration.answer]
  | tag tag =>
    unfold TypeDeclaration.answer
    rw [StandardType.parseFor_eq_error_iff]
    simp [UnknownTag]

/-- That there is no type can be passed over, and then only an unknown tag is left. -/
theorem standardType_fails_iff (h : f.DeclaredBy d) (e : FieldError) :
    f.standardType = .error e ∧ e.isNotImplemented = false ↔ f.TypeUnknown d e := by
  rw [h.standardType_eq_error_iff]
  refine ⟨?_, ?_⟩
  · rintro ⟨hunsaid | hunknown, he⟩
    · rw [hunsaid.isNotImplemented] at he
      cases he
    · exact hunknown
  · intro hunknown
    exact ⟨Or.inr hunknown, hunknown.isNotImplemented⟩

theorem lookupSource_eq_error_iff (h : f.DeclaredBy d) (e : FieldError) :
    f.lookupSource = .error e ↔ d.source = none ∧ e = .notImplemented f.constant "lookup_source" := by
  rw [h.source, Declaration.lookup]
  cases d.source with
  | none => simp [eq_comm]
  | some source => simp

theorem conditions_eq_error_iff (h : f.DeclaredBy d) (e : FieldError) :
    f.conditions = .error e ↔ f.ConditionsUnknown d e ∨
      d.conditions = .derived ∧ (f.TypeUnsaid d e ∨ f.TypeUnknown d e) := by
  have hown := h.conditions
  unfold ConditionsUnknown
  cases hd : d.conditions with
  | derived =>
    rw [hd] at hown
    rw [conditions_of_derived (by rw [hown]; rfl), map_eq_error_iff, h.standardType_eq_error_iff]
    simp
  | list cs =>
    rw [hd] at hown
    unfold Field.conditions
    rw [hown]
    simp [ConditionsDeclaration.answer?]
  | tag tag =>
    rw [hd] at hown
    unfold Field.conditions
    rw [hown]
    simp [ConditionsDeclaration.answer?, conditionsForTag_eq_error_iff]

theorem valueShape_eq_error_iff (h : f.DeclaredBy d) (c : Condition) (e : FieldError) :
    f.valueShape c = .error e ↔
      f.TypeUnsaid d e ∨ f.TypeUnknown d e ∨ f.SourceUnsaid d c e := by
  rw [Field.valueShape_eq_error_iff h.shape, h.standardType_eq_error_iff, or_assoc]
  unfold SourceUnsaid
  simp only [h.lookupSource_eq_error_iff, ← and_assoc, exists_and_right]

/-- That there is no type is no failure of rendering. -/
theorem value_render_eq_error_iff (h : f.DeclaredBy d) (c : Condition) (v : Json)
    (ctx : RenderContext) (e : FieldError) :
    (f.render c v ctx).value = .error e ↔ f.TypeUnknown d e ∨ f.SourceUnsaid d c e := by
  rw [Field.value_render_eq_error_iff h.shape, h.standardType_fails_iff]
  unfold SourceUnsaid
  simp only [h.lookupSource_eq_error_iff, ← and_assoc, exists_and_right]

end DeclaredBy

end Field

/-! ## The spec of a declared field -/

namespace FieldSpec

variable {f : Field} {d : Declaration}

theorem type_eq_error_iff (h : f.DeclaredBy d) (e : FieldError) :
    orIfUnanswered (some <$> f.standardType) none = .error e ↔ f.TypeUnknown d e := by
  rw [orIfUnanswered_eq_error_iff, map_eq_error_iff, h.standardType_fails_iff]

theorem conditions_eq_error_iff (h : f.DeclaredBy d) (e : FieldError) :
    orIfUnanswered f.conditions [] = .error e ↔
      f.ConditionsUnknown d e ∨ d.conditions = .derived ∧ f.TypeUnknown d e := by
  rw [orIfUnanswered_eq_error_iff, h.conditions_eq_error_iff, ← h.standardType_eq_error_iff,
    ← h.standardType_fails_iff, or_and_right, and_assoc]
  exact or_congr_left (and_iff_left_of_imp Field.ConditionsUnknown.isNotImplemented)

/-- The entries fail where one of the conditions asks for references and there is no source. -/
theorem entries_eq_error_iff (h : f.DeclaredBy d) {t : Option StandardType} {cs : List Condition}
    (ht : orIfUnanswered (some <$> f.standardType) none = .ok t)
    (hcs : orIfUnanswered f.conditions [] = .ok cs) (e : FieldError) :
    cs.mapM (condition f t) = .error e ↔
      f.conditions = .ok cs ∧ ∃ c ∈ cs, f.SourceUnsaid d c e := by
  have hsaid : ∀ c ∈ cs, f.conditions = .ok cs := by
    intro c hc
    rcases orIfUnanswered_conditions_iff.mp hcs with hsaid | ⟨-, rfl⟩
    · exact hsaid
    · cases hc
  rcases orIfUnanswered_type_iff.mp ht with ⟨t', htype, rfl⟩ | ⟨hno, rfl⟩
  · rw [mapM_condition_eq_error_iff h.shape htype, h.lookupSource_eq_error_iff]
    unfold Field.SourceUnsaid
    refine ⟨?_, ?_⟩
    · rintro ⟨⟨c, hc, hasks⟩, hsource⟩
      exact ⟨hsaid c hc, c, hc, ⟨t', htype, hasks⟩, hsource⟩
    · rintro ⟨-, c, hc, ⟨t, ht', hasks⟩, hsource⟩
      cases htype.symm.trans ht'
      exact ⟨⟨c, hc, hasks⟩, hsource⟩
  -- Without a type no entry fails, and no condition asks for references.
  · refine ⟨?_, ?_⟩
    · intro hentries
      obtain ⟨before, c, after, -, -, hc⟩ := (mapM_eq_error_iff _ _ _).mp hentries
      rw [condition_eq_ok_iff_of_none.mpr rfl] at hc
      cases hc
    · rintro ⟨-, c, -, ⟨t, htype, -⟩, -⟩
      exact absurd hno (not_unanswered_of_ok htype)

/-- An unknown tag of the type comes first, then one of the conditions. Where both are known, a
condition that asks for references needs a source. -/
theorem ofField_eq_error_iff_of_declaredBy (h : f.DeclaredBy d) (e : FieldError) :
    ofField f = .error e ↔
      f.TypeUnknown d e ∨
      (∀ e', ¬ f.TypeUnknown d e') ∧ f.ConditionsUnknown d e ∨
      ∃ cs, f.conditions = .ok cs ∧ ∃ c ∈ cs, f.SourceUnsaid d c e := by
  unfold ofField
  rw [bind_eq_error_iff, type_eq_error_iff h]
  refine ⟨?_, ?_⟩
  · rintro (hunknown | ⟨t, ht, hrest⟩)
    · exact Or.inl hunknown
    rcases bind_eq_error_iff.mp hrest with hc | ⟨cs, hcs, hentries⟩
    · refine Or.inr (Or.inl ?_)
      have hknown : ∀ e', ¬ f.TypeUnknown d e' := by
        intro e' he'
        rw [(type_eq_error_iff h e').mpr he'] at ht
        cases ht
      rcases (conditions_eq_error_iff h e).mp hc with hunknown | ⟨-, hunknown⟩
      · exact ⟨hknown, hunknown⟩
      · exact absurd hunknown (hknown e)
    · have hfail := (entries_eq_error_iff h ht hcs e).mp (map_eq_error_iff.mp hentries)
      exact Or.inr (Or.inr ⟨cs, hfail⟩)
  · rintro (hunknown | ⟨hknown, hunknown⟩ | ⟨cs, hcs, c, hc, hsource⟩)
    · exact Or.inl hunknown
    · cases ht : orIfUnanswered (some <$> f.standardType) none with
      | error e' => exact absurd ((type_eq_error_iff h e').mp ht) (hknown e')
      | ok t =>
        refine Or.inr ⟨t, rfl, bind_eq_error_iff.mpr (Or.inl ?_)⟩
        exact (conditions_eq_error_iff h e).mpr (Or.inl hunknown)
    · have ⟨⟨t, htype, _⟩, _⟩ := hsource
      have ht := orIfUnanswered_type_iff.mpr (Or.inl ⟨t, htype, rfl⟩)
      have hcs' := orIfUnanswered_conditions_iff.mpr (Or.inl hcs)
      have hentries := (entries_eq_error_iff h ht hcs' e).mpr ⟨hcs, c, hc, hsource⟩
      exact Or.inr ⟨some t, ht, bind_eq_error_iff.mpr
        (Or.inr ⟨cs, hcs', map_eq_error_iff.mpr hentries⟩)⟩

end FieldSpec

/-! ## Built-in fields -/

namespace Builtin

theorem declared {f : Field} (h : f ∈ all) : f.Declared := by
  simp only [all, List.mem_cons, List.not_mem_nil, or_false] at h
  rcases h with rfl | rfl | rfl | rfl | rfl | rfl | rfl
  · exact ⟨⟨⟨.type .bool, .derived, none⟩, rfl, rfl, rfl, rfl⟩, Or.inl rfl⟩
  · exact ⟨⟨⟨.type .phid, .derived, some _⟩, rfl, rfl, rfl, rfl⟩, Or.inl rfl⟩
  · exact ⟨⟨⟨.type .phidList, .derived, some _⟩, rfl, rfl, rfl, rfl⟩, Or.inl rfl⟩
  · exact ⟨⟨⟨.type .phidList, .derived, some _⟩, rfl, rfl, rfl, rfl⟩, Or.inl rfl⟩
  · exact ⟨⟨⟨.type .phidNullable, .derived, some _⟩, rfl, rfl, rfl, rfl⟩, Or.inl rfl⟩
  · exact ⟨⟨⟨.unsaid, .list [.is, .isNot], none⟩, rfl, rfl, rfl, rfl⟩, Or.inl rfl⟩
  · exact ⟨⟨⟨.unsaid, .derived, none⟩, rfl, rfl, rfl, rfl⟩, Or.inr rfl⟩

/-- Nothing is wrong with the built-in fields. -/
theorem exists_spec {f : Field} (h : f ∈ all) : ∃ spec, FieldSpec.ofField f = .ok spec := by
  simp only [all, List.mem_cons, List.not_mem_nil, or_false] at h
  rcases h with rfl | rfl | rfl | rfl | rfl | rfl | rfl
  all_goals exact ⟨_, rfl⟩

end Builtin

/-! ## The fields for a subject -/

theorem CustomField.declaredBy_toField (c : CustomField) :
    c.toField.DeclaredBy ⟨.type c.standardType, .derived, c.lookupSource⟩ :=
  ⟨rfl, rfl, rfl, rfl⟩

/-- A declared field contributes itself, or it is the family and contributes the fields of the
specs. -/
theorem Field.Declared.contribution_cases {s : Subject} {f g : Field} (hf : f.Declared)
    (hg : g ∈ f.contribution s) :
    g = f ∨ ∃ spec ∈ s.customFields, ∃ c, CustomField.ofSpec spec = .ok c ∧ g = c.toField := by
  rcases hf.expansion with hsingle | rfl
  · rw [contribution_of_single hsingle, List.mem_singleton] at hg
    exact Or.inl hg
  · obtain ⟨m, hm, hmem⟩ := exists_expansion_of_mem_contribution hg
    exact Or.inr (CustomField.exists_spec_of_mem_expansion hm hmem)

/-- Only the family can fail to expand, at one of the specs. -/
theorem Field.Declared.firstRefusedSpec {s : Subject} {f : Field} {e : FieldError}
    (hf : f.Declared) (he : f.expand s = .error e) :
    CustomField.FirstRefusedSpec s.customFields e := by
  rcases hf.expansion with hsingle | rfl
  · rw [expand_of_single hsingle] at he
    cases he
  · exact (CustomField.expandSpecs_eq_error_iff _ e).mp he

namespace Registry

variable {r : Registry} {s : Subject}

/-- A field that is listed is registered or follows a spec, and its constant is valid. -/
theorem listed_cases (hd : ∀ f ∈ r.fields.values, f.Declared) {m : FieldMap}
    (hm : (r.fieldsFor s).value = .ok m) {g : Field} (hg : g ∈ m.values) :
    ValidConstant g.constant ∧ (g ∈ r.fields.values ∨
      ∃ spec ∈ s.customFields, ∃ c, CustomField.ofSpec spec = .ok c ∧ g = c.toField) := by
  rw [value_fieldsFor] at hm
  obtain ⟨-, hl, rfl⟩ := (foldlM_addExpansion_eq_ok_iff acceptable_nil
    (r.supports_of_mem_supporting s) m).mp hm
  rw [FieldMap.values_index] at hg
  refine ⟨hl.valid g hg, ?_⟩
  rw [List.nil_append] at hg
  obtain ⟨f, hf, hgf⟩ := List.mem_flatMap.mp hg
  have hmem := (List.mem_filter.mp hf).1
  rcases (hd f hmem).contribution_cases hgf with rfl | hcustom
  · exact Or.inl hmem
  · exact Or.inr hcustom

/-- The fields for a subject fail at a spec, or at a constant. -/
theorem fieldsFor_error_cases (hd : ∀ f ∈ r.fields.values, f.Declared) {e : FieldError}
    (he : (r.fieldsFor s).value = .error e) :
    CustomField.FirstRefusedSpec s.customFields e ∨ ∃ accepted g, Refused accepted g e := by
  rw [value_fieldsFor] at he
  obtain ⟨before, f, after, hsplit, -, -, hf⟩ := (foldlM_addExpansion_eq_error_iff
    (r.supports_of_mem_supporting s) e).mp he
  have hmem : f ∈ r.supporting s := by
    rw [hsplit]
    simp
  rcases hf with hexpand | ⟨m, -, _, g, _, -, -, hg⟩
  · exact Or.inl ((hd f (List.mem_filter.mp hmem).1).firstRefusedSpec hexpand)
  · exact Or.inr ⟨_, g, hg⟩

end Registry

/-! ## The law -/

/-- Each field that is registered or listed has a constant, and says what it declares. Whatever
it is asked, it fails only as it declares: for a tag that names no type, with its constant and the
tag, or for a type or a source that it does not say, with its constant. That there is no type
fails its conditions and its shapes alone. The catalog fails as the first field that fails. The
fields for a subject fail for a tag only at a spec with that tag, and with the constant of its
key, and they never fail for what is not said. -/
theorem an_error_names_the_field_at_fault (calls : List Registration) (r : Registry)
    (hr : (Builder.ofCalls calls).build.value = .ok r)
    (hd : ∀ f ∈ registered calls, f.Declared) (s : Subject) :
    (∀ f, (f ∈ registered calls ∨ ∃ m, (r.fieldsFor s).value = .ok m ∧ f ∈ m.values) →
      f.constant ≠ "" ∧ (∃ d, f.DeclaredBy d) ∧
        (f ∈ registered calls ∨ ∃ spec ∈ s.customFields, CustomField.Follows spec f)) ∧
    (∀ f d, f.DeclaredBy d → ∀ e,
      (f.conditions = .error e ↔ f.ConditionsUnknown d e ∨
        d.conditions = .derived ∧ (f.TypeUnsaid d e ∨ f.TypeUnknown d e)) ∧
      (∀ c, f.valueShape c = .error e ↔
        f.TypeUnsaid d e ∨ f.TypeUnknown d e ∨ f.SourceUnsaid d c e) ∧
      (∀ c v ctx, (f.render c v ctx).value = .error e ↔
        f.TypeUnknown d e ∨ f.SourceUnsaid d c e) ∧
      (FieldSpec.ofField f = .error e ↔ f.TypeUnknown d e ∨
        (∀ e', ¬ f.TypeUnknown d e') ∧ f.ConditionsUnknown d e ∨
        ∃ cs, f.conditions = .ok cs ∧ ∃ c ∈ cs, f.SourceUnsaid d c e)) ∧
    (∀ e, r.catalog = .error e ↔ ∃ before f after, registered calls = before ++ f :: after ∧
      (∀ g ∈ before, ∃ spec, FieldSpec.ofField g = .ok spec) ∧ FieldSpec.ofField f = .error e) ∧
    (∀ field tag, (r.fieldsFor s).value = .error (.unknownStandardType field tag) →
      field ≠ "" ∧ UnknownTag tag ∧ ∃ before spec after, s.customFields = before ++ spec :: after ∧
        (∀ g ∈ before, ¬ UnknownTag g.standardType) ∧
        field = customFieldConstant spec.key ∧ tag = spec.standardType) ∧
    ∀ field method, (r.fieldsFor s).value ≠ .error (.notImplemented field method) := by
  rw [Builder.build, Builder.fields_ofCalls] at hr
  obtain ⟨hl, hfields⟩ := (Registry.value_build_eq_ok_iff _ r).mp hr
  have hvalues : r.fields.values = registered calls := by
    rw [hfields, FieldMap.values_index]
  rw [← hvalues] at hd ⊢
  refine ⟨?_, ?_, ?_, ?_, ?_⟩
  · rintro f (hf | ⟨m, hm, hf⟩)
    · exact ⟨(hl.valid f (hvalues ▸ hf)).1, (hd f hf).declaration, Or.inl hf⟩
    · obtain ⟨hvalid, hlisted⟩ := Registry.listed_cases hd hm hf
      refine ⟨hvalid.1, ?_⟩
      rcases hlisted with hmem | ⟨spec, hspec, c, hc, rfl⟩
      · exact ⟨(hd f hmem).declaration, Or.inl hmem⟩
      · exact ⟨⟨_, c.declaredBy_toField⟩,
          Or.inr ⟨spec, hspec, CustomField.follows_of_ofSpec hc⟩⟩
  · intro f d h e
    exact ⟨h.conditions_eq_error_iff e, fun c => h.valueShape_eq_error_iff c e,
      fun c v ctx => h.value_render_eq_error_iff c v ctx e,
      FieldSpec.ofField_eq_error_iff_of_declaredBy h e⟩
  · exact mapM_eq_error_iff FieldSpec.ofField r.fields.values
  · intro field tag he
    rcases Registry.fieldsFor_error_cases hd he with ⟨before, spec, after, hsplit, hknown, -, h⟩ | h
    · cases h with
      | unknown hunknown =>
        refine ⟨(validConstant_customFieldConstant spec.key).1, hunknown, before, spec, after,
          hsplit, fun g hg hno => ?_, rfl, rfl⟩
        obtain ⟨t, ht⟩ := hknown g hg
        exact hno t ht
    · obtain ⟨accepted, g, h⟩ := h
      cases h
  · intro field method he
    rcases Registry.fieldsFor_error_cases hd he with ⟨_, spec, _, _, _, _, h⟩ | ⟨_, g, h⟩
    · cases h
    · cases h

/-- A field for the day on which a task is due. Its type is one that there is not. -/
def dueDay : Field where
  name := "Due day"
  constant := "task.due-day"
  standardType := StandardType.parseFor "task.due-day" "standard.date"
  supports := fun _ => true
  extract := fun _ _ => .ok .null

theorem dueDay_declaredBy : dueDay.DeclaredBy ⟨.tag "standard.date", .derived, none⟩ :=
  ⟨rfl, rfl, rfl, rfl⟩

/-- Beside the built-in fields it is the due day at which the catalog fails, and the error names
it and its tag. -/
theorem the_due_day_is_named_with_its_tag :
    ∃ r, (Builder.ofCalls [.builtins, .one dueDay]).build.value = .ok r ∧
      r.catalog = .error (.unknownStandardType "task.due-day" "standard.date") ∧
      ∀ c v ctx, (dueDay.render c v ctx).value =
        .error (.unknownStandardType "task.due-day" "standard.date") := by
  have hfree : ∀ g ∈ Builtin.all, g.constant ≠ dueDay.constant := by
    unfold Builtin.all
    decide
  have hacceptable : Acceptable (registered [.builtins, .one dueDay]) :=
    (acceptable_snoc_iff acceptable_builtins).mpr ⟨by decide, hfree⟩
  obtain ⟨r, hr⟩ := Registry.exists_build_of_acceptable hacceptable
  rw [← Builder.fields_ofCalls] at hr
  have hdeclared : ∀ f ∈ registered [.builtins, .one dueDay], f.Declared := by
    intro f hf
    rcases List.mem_append.mp hf with hf | hf
    · exact Builtin.declared hf
    · rw [List.mem_singleton.mp hf]
      exact ⟨⟨_, dueDay_declaredBy⟩, Or.inl rfl⟩
  have hunknown : dueDay.TypeUnknown ⟨.tag "standard.date", .derived, none⟩
      (.unknownStandardType "task.due-day" "standard.date") :=
    ⟨"standard.date", rfl, (unknownTag_iff _).mpr (by decide), rfl⟩
  obtain ⟨-, hfails, hcatalog, -, -⟩ := an_error_names_the_field_at_fault _ r hr hdeclared
    { phid := "PHID-TASK-1" }
  obtain ⟨-, -, hrender, hspec⟩ := hfails dueDay _ dueDay_declaredBy _
  refine ⟨r, hr, (hcatalog _).mpr ⟨Builtin.all, dueDay, [], rfl, ?_, hspec.mpr (Or.inl hunknown)⟩,
    fun c v ctx => (hrender c v ctx).mpr (Or.inl hunknown)⟩
  intro g hg
  exact Builtin.exists_spec hg

end RuleFields
