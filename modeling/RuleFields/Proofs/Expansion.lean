-- The laws of expansion: the fields for a subject are those that the
-- supporting fields expand into, all of them, once each and in order. Their
-- constants obey the same rules as registered ones, and the first step that
-- fails gives the error.
import RuleFields.Registry
import RuleFields.Proofs.Constants

namespace RuleFields

/-! ## What the fields of a registry contribute -/

/-- The registered fields that support the subject, in order. -/
def Registry.supporting (r : Registry) (s : Subject) : List Field :=
  r.fields.values.filter (·.supports s)

/-- The values of a field's own expansion. The keys do not count. A field whose expansion fails
contributes nothing. -/
def Field.contribution (s : Subject) (f : Field) : List Field :=
  match f.expand s with
  | .ok m => m.values
  | .error _ => []

/-- All that these fields contribute, in order. -/
def contributions (s : Subject) (fields : List Field) : List Field :=
  fields.flatMap (Field.contribution s)

/-- The error of the first of these fields that fails on the subject: its own expansion fails,
or a field that it contributes is refused. All that the fields before it contribute is taken. -/
def FirstFailure (s : Subject) (fields : List Field) (e : FieldError) : Prop :=
  ∃ before f after, fields = before ++ f :: after ∧
    (∀ g ∈ before, ∃ m, g.expand s = .ok m) ∧ Acceptable (contributions s before) ∧
    (f.expand s = .error e ∨
      ∃ m, f.expand s = .ok m ∧ FirstRefusal (contributions s before) m.values e)

theorem contribution_of_ok {s : Subject} {f : Field} {m : FieldMap} (h : f.expand s = .ok m) :
    f.contribution s = m.values := by
  unfold Field.contribution
  rw [h]

/-- What a field contributes stands in its expansion. -/
theorem exists_expansion_of_mem_contribution {s : Subject} {f g : Field}
    (hg : g ∈ f.contribution s) : ∃ m, f.expand s = .ok m ∧ g ∈ m.values := by
  unfold Field.contribution at hg
  cases hm : f.expand s with
  | ok m =>
    rw [hm] at hg
    exact ⟨m, rfl, hg⟩
  | error e =>
    rw [hm] at hg
    cases hg

namespace Registry

/-! ## One registered field -/

theorem addExpansion_of_supports {s : Subject} {f : Field} (h : f.supports s = true)
    (m : FieldMap) :
    addExpansion s m f = f.expand s >>= fun x => x.values.foldlM FieldMap.insertUnique m := by
  unfold addExpansion
  rw [if_pos h]

/-- A field is added exactly when it expands and all that it contributes is taken. -/
theorem addExpansion_eq_ok_iff {s : Subject} {l : List Field} {f : Field} (hl : Acceptable l)
    (h : f.supports s = true) (m : FieldMap) :
    addExpansion s (.index l) f = .ok m ↔
      (∃ x, f.expand s = .ok x) ∧ Acceptable (l ++ f.contribution s) ∧
        m = .index (l ++ f.contribution s) := by
  rw [addExpansion_of_supports h, bind_eq_ok_iff]
  refine ⟨?_, ?_⟩
  · rintro ⟨x, hx, hm⟩
    rw [contribution_of_ok hx]
    exact ⟨⟨x, hx⟩, (FieldMap.foldlM_insertUnique_eq_ok_iff hl x.values m).mp hm⟩
  · rintro ⟨⟨x, hx⟩, hm⟩
    rw [contribution_of_ok hx] at hm
    exact ⟨x, hx, (FieldMap.foldlM_insertUnique_eq_ok_iff hl x.values m).mpr hm⟩

theorem addExpansion_eq_error_iff {s : Subject} {l : List Field} {f : Field} (hl : Acceptable l)
    (h : f.supports s = true) (e : FieldError) :
    addExpansion s (.index l) f = .error e ↔
      f.expand s = .error e ∨ ∃ x, f.expand s = .ok x ∧ FirstRefusal l x.values e := by
  rw [addExpansion_of_supports h, bind_eq_error_iff]
  simp only [FieldMap.foldlM_insertUnique_eq_error_iff hl]

/-! ## All registered fields -/

/-- Fields that do not support the subject add nothing. -/
theorem foldlM_addExpansion_filter (s : Subject) (fields : List Field) (m : FieldMap) :
    fields.foldlM (addExpansion s) m =
      (fields.filter (·.supports s)).foldlM (addExpansion s) m := by
  induction fields generalizing m with
  | nil => rfl
  | cons f rest ih =>
    by_cases h : f.supports s = true
    · rw [List.filter_cons, if_pos h, List.foldlM_cons, List.foldlM_cons]
      exact bind_congr ih
    · have hskip : addExpansion s m f = .ok m := by
        unfold addExpansion
        rw [if_neg h]
      rw [List.filter_cons, if_neg h, List.foldlM_cons, hskip]
      exact ih m

theorem foldlM_addExpansion_eq_ok_iff {s : Subject} {l fields : List Field} (hl : Acceptable l)
    (hs : ∀ f ∈ fields, f.supports s = true) (m : FieldMap) :
    fields.foldlM (addExpansion s) (.index l) = .ok m ↔
      (∀ f ∈ fields, ∃ x, f.expand s = .ok x) ∧ Acceptable (l ++ contributions s fields) ∧
        m = .index (l ++ contributions s fields) := by
  induction fields generalizing l with
  | nil =>
    simp only [contributions, List.flatMap_nil, List.append_nil]
    refine ⟨?_, ?_⟩
    · rintro ⟨rfl⟩
      exact ⟨by simp, hl, rfl⟩
    · rintro ⟨-, -, rfl⟩
      rfl
  | cons f rest ih =>
    have hf := hs f List.mem_cons_self
    have hrest : ∀ g ∈ rest, g.supports s = true := fun g hg => hs g (List.mem_cons_of_mem _ hg)
    have hsplit : l ++ contributions s (f :: rest) =
        l ++ f.contribution s ++ contributions s rest := by
      simp [contributions]
    rw [hsplit, List.foldlM_cons, bind_eq_ok_iff, List.forall_mem_cons]
    refine ⟨?_, ?_⟩
    · rintro ⟨m₁, hm₁, hm⟩
      obtain ⟨hx, hl₁, rfl⟩ := (addExpansion_eq_ok_iff hl hf m₁).mp hm₁
      obtain ⟨hall, hl₂, rfl⟩ := (ih hl₁ hrest).mp hm
      exact ⟨⟨hx, hall⟩, hl₂, rfl⟩
    · rintro ⟨⟨hx, hall⟩, hl₂, rfl⟩
      have hl₁ := hl₂.of_append
      exact ⟨_, (addExpansion_eq_ok_iff hl hf _).mpr ⟨hx, hl₁, rfl⟩,
        (ih hl₁ hrest).mpr ⟨hall, hl₂, rfl⟩⟩

theorem foldlM_addExpansion_eq_error_iff {s : Subject} {fields : List Field}
    (hs : ∀ f ∈ fields, f.supports s = true) (e : FieldError) :
    fields.foldlM (addExpansion s) (.index []) = .error e ↔ FirstFailure s fields e := by
  rw [foldlM_eq_error_iff]
  have hbefore : ∀ before f after, fields = before ++ f :: after →
      (∀ g ∈ before, g.supports s = true) ∧ f.supports s = true := by
    rintro before f after rfl
    exact ⟨fun g hg => hs g (by simp [hg]), hs f (by simp)⟩
  refine ⟨?_, ?_⟩
  · rintro ⟨before, f, after, m, hsplit, hm, hf⟩
    obtain ⟨hsb, hsf⟩ := hbefore before f after hsplit
    obtain ⟨hx, hl, rfl⟩ := (foldlM_addExpansion_eq_ok_iff acceptable_nil hsb m).mp hm
    rw [List.nil_append] at hl hf
    exact ⟨before, f, after, hsplit, hx, hl, (addExpansion_eq_error_iff hl hsf e).mp hf⟩
  · rintro ⟨before, f, after, hsplit, hx, hl, hf⟩
    obtain ⟨hsb, hsf⟩ := hbefore before f after hsplit
    exact ⟨before, f, after, _, hsplit,
      (foldlM_addExpansion_eq_ok_iff acceptable_nil hsb _).mpr ⟨hx, hl, rfl⟩,
      (addExpansion_eq_error_iff hl hsf e).mpr hf⟩

/-! ## The fields for a subject -/

theorem supports_of_mem_supporting (r : Registry) (s : Subject) :
    ∀ f ∈ r.supporting s, f.supports s = true := by
  intro f hf
  exact (List.mem_filter.mp hf).2

theorem value_fieldsFor (r : Registry) (s : Subject) :
    (r.fieldsFor s).value = (r.supporting s).foldlM (addExpansion s) (.index []) := by
  rw [supporting, ← foldlM_addExpansion_filter, FieldMap.index_nil, fieldsFor]
  cases r.fields.values.foldlM (addExpansion s) .empty with
  | error e => rfl
  | ok m => rfl

end Registry

/-! ## The laws -/

/-- The fields for a subject are there exactly when each supporting field expands and the
constants of all that they contribute are valid and distinct. They are then what the supporting
fields contribute, in order, each under its own constant. Otherwise the first step that fails
gives the error. -/
theorem the_fields_for_a_subject_are_what_its_fields_contribute (r : Registry) (s : Subject) :
    ((∃ m, (r.fieldsFor s).value = .ok m) ↔
      (∀ f ∈ r.supporting s, ∃ x, f.expand s = .ok x) ∧
        (∀ f ∈ contributions s (r.supporting s),
          f.constant ≠ "" ∧ f.constant.utf8ByteSize ≤ 64) ∧
        ((contributions s (r.supporting s)).map Field.constant).Nodup) ∧
    (∀ m, (r.fieldsFor s).value = .ok m →
      m.entries = (contributions s (r.supporting s)).map (fun f => (f.constant, f))) ∧
    (∀ e, (r.fieldsFor s).value = .error e ↔ FirstFailure s (r.supporting s) e) := by
  have hs := Registry.supports_of_mem_supporting r s
  have hok := Registry.foldlM_addExpansion_eq_ok_iff acceptable_nil hs
  rw [Registry.value_fieldsFor]
  refine ⟨⟨?_, ?_⟩, ?_, ?_⟩
  · rintro ⟨m, hm⟩
    obtain ⟨hx, hl, -⟩ := (hok m).mp hm
    exact ⟨hx, hl.valid, hl.distinct⟩
  · rintro ⟨hx, hvalid, hdistinct⟩
    exact ⟨_, (hok _).mpr ⟨hx, ⟨hvalid, hdistinct⟩, rfl⟩⟩
  · intro m hm
    obtain ⟨-, -, rfl⟩ := (hok m).mp hm
    rfl
  · exact Registry.foldlM_addExpansion_eq_error_iff hs

end RuleFields
