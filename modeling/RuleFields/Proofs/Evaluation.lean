-- The laws of evaluation. A field that is listed for a subject supports it and
-- has a value on it. The family of custom fields has none, but it is never
-- listed: the fields of the specs stand in its place.
import RuleFields.Proofs.BuiltinFields

namespace RuleFields

/-! ## Provided fields -/

/-- The fields that come without a host: the built-in ones, and the custom field of any spec. -/
inductive Field.Provided : Field → Prop
  | builtin {f : Field} (h : f ∈ Builtin.all) : Provided f
  | custom {spec : CustomFieldSpec} {c : CustomField} (h : CustomField.ofSpec spec = .ok c) :
      Provided c.toField

/-- A field that a registry lists for a subject: one that comes without a host, stands for
itself, and supports the subject. -/
structure Field.ListedFor (s : Subject) (f : Field) : Prop where
  provided : f.Provided
  single : f.ownExpansion = none
  supports : f.supports s = true

/-- The fields of the specs of a subject support the subject, each by its key. -/
theorem CustomField.listedFor_of_mem_expansion {s : Subject} {m : FieldMap} {g : Field}
    (hm : CustomField.expandSpecs s.customFields = .ok m) (hg : g ∈ m.values) : g.ListedFor s := by
  obtain ⟨spec, hspec, c, hdeclared, rfl⟩ := exists_spec_of_mem_expansion hm hg
  refine ⟨.custom hdeclared, rfl, ?_⟩
  obtain ⟨t, -, rfl⟩ := CustomField.ofSpec_eq_ok_iff.mp hdeclared
  exact List.any_eq_true.mpr ⟨spec, hspec, beq_self_eq_true spec.key⟩

/-- A provided field that supports a subject contributes listed fields only. -/
theorem Field.Provided.listedFor_of_mem_contribution {s : Subject} {f g : Field}
    (hf : f.Provided) (hs : f.supports s = true) (hg : g ∈ f.contribution s) : g.ListedFor s := by
  have hself : f.ownExpansion = none → g.ListedFor s := by
    intro hsingle
    rw [contribution_of_single hsingle, List.mem_singleton] at hg
    rw [hg]
    exact ⟨hf, hsingle, hs⟩
  cases hf with
  | custom h => exact hself rfl
  | builtin h =>
    rw [Builtin.all_eq] at h
    rcases List.mem_append.mp h with h | h
    · exact hself (Builtin.mem_singles_iff.mp h).2
    -- The family is the one field that does not stand in its own contribution.
    · rw [List.mem_singleton.mp h] at hg
      obtain ⟨m, hm, hmem⟩ := exists_expansion_of_mem_contribution hg
      exact CustomField.listedFor_of_mem_expansion hm hmem

theorem Registry.listedFor_of_mem_fieldsFor {r : Registry} {s : Subject} {m : FieldMap}
    (hr : ∀ f ∈ r.fields.values, f.Provided) (hm : (r.fieldsFor s).value = .ok m) :
    ∀ g ∈ m.values, g.ListedFor s := by
  have hs := r.supports_of_mem_supporting s
  rw [Registry.value_fieldsFor] at hm
  obtain ⟨-, -, rfl⟩ := (Registry.foldlM_addExpansion_eq_ok_iff acceptable_nil hs m).mp hm
  intro g hg
  rw [FieldMap.values_index, List.nil_append] at hg
  obtain ⟨f, hf, hg⟩ := List.mem_flatMap.mp hg
  exact (hr f (List.mem_filter.mp hf).1).listedFor_of_mem_contribution (hs f hf) hg

/-! ## Values -/

/-- The kinds of value that a field may have on evaluation, by what it answers for its type. One
without a type has a text or nothing. No built-in field has one of the other types. -/
inductive FieldValue.Conforms : Except FieldError StandardType → FieldValue → Prop
  | bool (b : Bool) : Conforms (.ok .bool) (.bool b)
  | phid (id : String) : Conforms (.ok .phid) (.phid id)
  | noPhid : Conforms (.ok .phid) .null
  | phidNullable (id : String) : Conforms (.ok .phidNullable) (.phid id)
  | noPhidNullable : Conforms (.ok .phidNullable) .null
  | phidList (ids : List String) : Conforms (.ok .phidList) (.phidList ids)
  | text {t : Except FieldError StandardType} (h : isUnanswered t = true) (s : String) :
      Conforms t (.text s)
  | noText {t : Except FieldError StandardType} (h : isUnanswered t = true) : Conforms t .null

theorem Builtin.extract_of_mem_singles {f : Field} (h : f ∈ singles) (s : Subject)
    (ctx : EvalContext) :
    ∃ v, f.extract s ctx = .ok v ∧ FieldValue.Conforms f.standardType v := by
  simp only [singles, List.mem_cons, List.not_mem_nil, or_false] at h
  rcases h with rfl | rfl | rfl | rfl | rfl | rfl
  · exact ⟨_, rfl, .bool _⟩
  · refine ⟨_, rfl, ?_⟩
    cases ctx.actingUser with
    | none => exact .noPhid
    | some id => exact .phid id
  · exact ⟨_, rfl, .phidList _⟩
  · exact ⟨_, rfl, .phidList _⟩
  · refine ⟨_, rfl, ?_⟩
    cases s.space with
    | none => exact .noPhidNullable
    | some id => exact .phidNullable id
  · refine ⟨_, rfl, ?_⟩
    cases ctx.contentSource with
    | none => exact .noText rfl
    | some source => exact .text rfl source

theorem CustomField.extract_toField (c : CustomField) (s : Subject) (ctx : EvalContext) :
    c.toField.extract s ctx = .ok ((s.customValue c.key).getD .null) := rfl

/-- A provided field that stands for itself has a value on each subject, supported or not. -/
theorem Field.Provided.exists_value {f : Field} (hf : f.Provided) (hsingle : f.ownExpansion = none)
    (s : Subject) (ctx : EvalContext) :
    ∃ v, f.extract s ctx = .ok v ∧
      (f ∈ Builtin.all → FieldValue.Conforms f.standardType v) := by
  cases hf with
  | builtin h =>
    obtain ⟨v, hv, hconforms⟩ :=
      Builtin.extract_of_mem_singles (Builtin.mem_singles_iff.mpr ⟨h, hsingle⟩) s ctx
    exact ⟨v, hv, fun _ => hconforms⟩
  | custom h =>
    refine ⟨_, CustomField.extract_toField _ s ctx, fun hbuiltin => ?_⟩
    obtain ⟨t, -, rfl⟩ := CustomField.ofSpec_eq_ok_iff.mp h
    exact absurd rfl (customFieldConstant_ne_of_builtin hbuiltin _)

/-! ## The law -/

/-- On each subject whose fields can be listed, each of these fields supports the subject and has
a value in each context. A built-in field has a value of the kind that its type promises, and a
custom field has exactly what the subject holds under its key. -/
theorem every_listed_field_can_be_evaluated (r : Registry)
    (hr : ∀ f ∈ r.fields.values, f.Provided) (s : Subject) (ctx : EvalContext) (m : FieldMap)
    (hm : (r.fieldsFor s).value = .ok m) :
    ∀ f ∈ m.values, f.Provided ∧ f.supports s = true ∧ ∃ v, f.extract s ctx = .ok v ∧
      (f ∈ Builtin.all → FieldValue.Conforms f.standardType v) ∧
      ∀ c : CustomField, f = c.toField →
        (∀ x, s.customValue c.key = some x → v = x) ∧ (s.customValue c.key = none → v = .null) := by
  intro f hf
  obtain ⟨hprovided, hsingle, hsupports⟩ := Registry.listedFor_of_mem_fieldsFor hr hm f hf
  obtain ⟨v, hv, hconforms⟩ := hprovided.exists_value hsingle s ctx
  refine ⟨hprovided, hsupports, v, hv, hconforms, ?_⟩
  rintro c rfl
  rw [CustomField.extract_toField] at hv
  cases hv
  refine ⟨?_, ?_⟩
  · intro x hx
    rw [hx, Option.getD_some]
  · intro hnone
    rw [hnone, Option.getD_none]

/-- A custom field for the severity of a task. -/
def severity : CustomField :=
  ⟨customFieldConstant "std:severity", "std:severity", "Severity", .text, none⟩

/-- A task that declares its severity and holds one. -/
def severeTask : Subject where
  phid := "PHID-TASK-1"
  customFields := [⟨"std:severity", "Severity", "standard.text", none⟩]
  customValue key := if key = "std:severity" then some (.text "high") else none

/-- The built-in fields alone list the severity of the task, and it is the text that it holds. -/
theorem the_severity_of_a_task_is_its_text :
    ∃ (r : Registry) (m : FieldMap), (∀ g ∈ r.fields.values, g.Provided) ∧
      (r.fieldsFor severeTask).value = .ok m ∧ severity.toField ∈ m.values ∧
      severity.toField.supports severeTask = true ∧
      severity.toField.extract severeTask {} = .ok (.text "high") := by
  obtain ⟨r, hr⟩ := Registry.exists_build_of_acceptable acceptable_builtins
  obtain ⟨-, hfields⟩ := (Registry.value_build_eq_ok_iff _ r).mp hr
  have hprovided : ∀ g ∈ r.fields.values, g.Provided := by
    intro g hg
    rw [hfields, FieldMap.values_index] at hg
    exact .builtin hg
  have hdeclares : CustomField.Declares severeTask.customFields [severity] :=
    .cons (CustomField.ofSpec_eq_ok_iff.mpr ⟨.text, rfl, rfl⟩) .nil
  have hexpand : CustomField.expandSpecs severeTask.customFields =
      .ok (.index [severity.toField]) :=
    (CustomField.expandSpecs_eq_ok_iff _ _).mpr ⟨_, hdeclares, by simp [severeTask], rfl⟩
  have hm := Builtin.value_fieldsFor_of_builtins hfields severeTask
  rw [hexpand] at hm
  have hmem : severity.toField ∈
      (FieldMap.index (Builtin.singlesFor severeTask ++ [severity.toField])).values := by simp
  obtain ⟨-, hsupports, v, hv, -, hcustom⟩ :=
    every_listed_field_can_be_evaluated r hprovided severeTask {} _ hm severity.toField hmem
  have htext : v = .text "high" := (hcustom severity rfl).1 _ rfl
  rw [htext] at hv
  exact ⟨r, _, hprovided, hm, hmem, hsupports, hv⟩

end RuleFields
