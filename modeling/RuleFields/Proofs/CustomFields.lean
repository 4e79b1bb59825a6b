-- The laws of custom fields. A list of specs expands exactly when each names a
-- standard type and no two have one constant. It expands into one field for
-- each spec, in order. Otherwise the first spec that is refused gives the error.
import RuleFields.Proofs.Classification
import RuleFields.Proofs.CustomConstants

namespace RuleFields.CustomField

/-! ## One spec -/

theorem ofSpec_eq_ok_iff {spec : CustomFieldSpec} {c : CustomField} :
    ofSpec spec = .ok c ↔ ∃ t : StandardType, t.id = spec.standardType ∧
      c = ⟨customFieldConstant spec.key, spec.key, spec.name, t, spec.lookupSource⟩ := by
  unfold ofSpec
  rw [bind_eq_ok_iff]
  simp only [StandardType.parseFor_eq_ok_iff]
  refine ⟨?_, ?_⟩
  · rintro ⟨t, ht, h⟩
    cases h
    exact ⟨t, ht, rfl⟩
  · rintro ⟨t, ht, rfl⟩
    exact ⟨t, ht, rfl⟩

theorem ofSpec_eq_error_iff {spec : CustomFieldSpec} {e : FieldError} :
    ofSpec spec = .error e ↔ (∀ t : StandardType, t.id ≠ spec.standardType) ∧
      e = .unknownStandardType (customFieldConstant spec.key) spec.standardType := by
  unfold ofSpec
  rw [bind_eq_error_iff, StandardType.parseFor_eq_error_iff]
  refine ⟨?_, Or.inl⟩
  rintro (h | ⟨t, -, h⟩)
  · exact h
  · cases h

/-- A spec is added exactly when it declares a field whose constant is free. -/
theorem addSpec_index_eq_ok_iff (l : List Field) (spec : CustomFieldSpec) (m : FieldMap) :
    addSpec (.index l) spec = .ok m ↔
      ∃ c, ofSpec spec = .ok c ∧ (∀ g ∈ l, g.constant ≠ c.constant) ∧
        m = .index (l ++ [c.toField]) := by
  unfold addSpec
  rw [bind_eq_ok_iff]
  refine exists_congr fun c => and_congr_right fun _ => ?_
  cases hget : (FieldMap.index l).get? c.constant with
  | none =>
    have hfree := (FieldMap.get?_index_eq_none_iff l c.constant).mp hget
    have hpush : (FieldMap.index l).push c.constant c.toField =
        FieldMap.index (l ++ [c.toField]) := FieldMap.push_index l c.toField
    simp only [hpush]
    refine ⟨?_, ?_⟩
    · intro h
      cases h
      exact ⟨hfree, rfl⟩
    · rintro ⟨-, rfl⟩
      rfl
  | some g =>
    have htaken : ¬ ∀ g ∈ l, g.constant ≠ c.constant := by
      rw [← FieldMap.get?_index_eq_none_iff, hget]
      simp
    simp [htaken, throw, throwThe, MonadExceptOf.throw]

/-! ## All specs -/

/-- These are the fields that the specs declare, one for each and in order. -/
abbrev Declares (specs : List CustomFieldSpec) (cs : List CustomField) : Prop :=
  List.Forall₂ (fun spec c => ofSpec spec = .ok c) specs cs

theorem map_constant_of_declares {specs : List CustomFieldSpec} {cs : List CustomField}
    (h : Declares specs cs) :
    (cs.map toField).map Field.constant = specs.map fun spec => customFieldConstant spec.key := by
  induction h with
  | nil => rfl
  | cons hc _ ih =>
    obtain ⟨t, -, rfl⟩ := ofSpec_eq_ok_iff.mp hc
    simp only [List.map_cons, ih]
    rfl

theorem exists_key_of_declares {specs : List CustomFieldSpec} {cs : List CustomField}
    (h : Declares specs cs) {f : Field} (hf : f ∈ cs.map toField) :
    ∃ key, f.constant = customFieldConstant key := by
  have hmem := List.mem_map_of_mem hf (f := Field.constant)
  rw [map_constant_of_declares h] at hmem
  obtain ⟨spec, -, hspec⟩ := List.mem_map.mp hmem
  exact ⟨spec.key, hspec.symm⟩

/-- Declared fields with distinct constants are acceptable: the digest keeps each constant short. -/
theorem acceptable_of_declares {specs : List CustomFieldSpec} {cs : List CustomField}
    (h : Declares specs cs) (hd : (specs.map fun spec => customFieldConstant spec.key).Nodup) :
    Acceptable (cs.map toField) := by
  refine ⟨?_, map_constant_of_declares h ▸ hd⟩
  intro f hf
  obtain ⟨key, hkey⟩ := exists_key_of_declares h hf
  rw [hkey]
  exact validConstant_customFieldConstant key

/-- Specs are added to a list of fields exactly when they declare fields with constants of their
own, which then stand last, in order. -/
theorem foldlM_addSpec_eq_ok_iff {l : List Field} (hl : (l.map Field.constant).Nodup)
    (specs : List CustomFieldSpec) (m : FieldMap) :
    specs.foldlM addSpec (.index l) = .ok m ↔
      ∃ cs, Declares specs cs ∧ ((l ++ cs.map toField).map Field.constant).Nodup ∧
        m = .index (l ++ cs.map toField) := by
  induction specs generalizing l with
  | nil =>
    simp only [List.foldlM_nil, Declares, List.forall₂_nil_left_iff]
    refine ⟨?_, ?_⟩
    · rintro ⟨rfl⟩
      exact ⟨[], rfl, by simpa using hl, by simp⟩
    · rintro ⟨cs, rfl, -, rfl⟩
      simp [pure, Except.pure]
  | cons spec rest ih =>
    have hsplit : ∀ (c : CustomField) (cs : List CustomField),
        l ++ (c :: cs).map toField = l ++ [c.toField] ++ cs.map toField := by simp
    have hsnoc : ∀ c : CustomField, ((l ++ [c.toField]).map Field.constant).Nodup ↔
        ∀ g ∈ l, g.constant ≠ c.constant := by
      intro c
      rw [List.map_append, List.nodup_append]
      simp [hl, toField]
    rw [List.foldlM_cons, bind_eq_ok_iff]
    refine ⟨?_, ?_⟩
    · rintro ⟨m₁, hspec, hrest⟩
      obtain ⟨c, hc, hfree, rfl⟩ := (addSpec_index_eq_ok_iff l spec m₁).mp hspec
      obtain ⟨cs, hcs, hnodup, rfl⟩ := (ih ((hsnoc c).mpr hfree)).mp hrest
      refine ⟨c :: cs, .cons hc hcs, ?_⟩
      rw [hsplit]
      exact ⟨hnodup, rfl⟩
    · rintro ⟨cs', hcs', hnodup, hm⟩
      obtain ⟨c, cs, hc, hcs, rfl⟩ := List.forall₂_cons_left_iff.mp hcs'
      rw [hsplit] at hnodup hm
      have hfirst : ((l ++ [c.toField]).map Field.constant).Nodup := by
        rw [List.map_append] at hnodup
        exact (List.nodup_append.mp hnodup).1
      exact ⟨_, (addSpec_index_eq_ok_iff l spec _).mpr ⟨c, hc, (hsnoc c).mp hfirst, rfl⟩,
        (ih hfirst).mpr ⟨cs, hcs, hnodup, hm⟩⟩

theorem expandSpecs_eq_ok_iff (specs : List CustomFieldSpec) (m : FieldMap) :
    expandSpecs specs = .ok m ↔
      ∃ cs, Declares specs cs ∧ (specs.map fun spec => customFieldConstant spec.key).Nodup ∧
        m = .index (cs.map toField) := by
  have h : specs.foldlM addSpec (.index []) = .ok m ↔ _ :=
    foldlM_addSpec_eq_ok_iff (by simp) specs m
  simp only [List.nil_append] at h
  unfold expandSpecs
  rw [← FieldMap.index_nil, h]
  refine exists_congr fun cs => and_congr_right fun hcs => ?_
  rw [map_constant_of_declares hcs]

/-- Each field of an expansion is declared by one of the specs. -/
theorem exists_spec_of_mem_expansion {specs : List CustomFieldSpec} {m : FieldMap} {f : Field}
    (hm : expandSpecs specs = .ok m) (hf : f ∈ m.values) :
    ∃ spec ∈ specs, ∃ c, ofSpec spec = .ok c ∧ f = c.toField := by
  obtain ⟨cs, hcs, -, rfl⟩ := (expandSpecs_eq_ok_iff specs m).mp hm
  rw [FieldMap.values_index] at hf
  obtain ⟨c, hc, rfl⟩ := List.mem_map.mp hf
  obtain ⟨spec, hspec, hdeclared⟩ := exists_mem_of_forall₂ hcs hc
  exact ⟨spec, hspec, c, hdeclared, rfl⟩

/-- Nothing else can be wrong with specs than a tag that names no type and a constant that
stands twice. -/
theorem exists_expansion_iff (specs : List CustomFieldSpec) :
    (∃ m, expandSpecs specs = .ok m) ↔
      (∀ spec ∈ specs, ∃ t : StandardType, t.id = spec.standardType) ∧
        (specs.map fun spec => customFieldConstant spec.key).Nodup := by
  have hdeclares : (∃ cs, Declares specs cs) ↔
      ∀ spec ∈ specs, ∃ t : StandardType, t.id = spec.standardType := by
    rw [exists_forall₂_iff]
    refine forall₂_congr fun spec _ => ?_
    simp only [ofSpec_eq_ok_iff]
    exact ⟨fun ⟨_, t, ht, _⟩ => ⟨t, ht⟩, fun ⟨t, ht⟩ => ⟨_, t, ht, rfl⟩⟩
  simp only [expandSpecs_eq_ok_iff, ← hdeclares]
  refine ⟨?_, ?_⟩
  · rintro ⟨m, cs, hcs, hnodup, -⟩
    exact ⟨⟨cs, hcs⟩, hnodup⟩
  · rintro ⟨⟨cs, hcs⟩, hnodup⟩
    exact ⟨_, cs, hcs, hnodup, rfl⟩

/-! ## The first spec that is refused -/

/-- A spec is refused with this error where the specs `earlier` stand already. A constant that
is taken counts only if the tag names a type. -/
inductive RefusedSpec (earlier : List CustomFieldSpec) (spec : CustomFieldSpec) : FieldError → Prop
  | unknown (h : ∀ t : StandardType, t.id ≠ spec.standardType) :
      RefusedSpec earlier spec
        (.unknownStandardType (customFieldConstant spec.key) spec.standardType)
  | taken (g : CustomFieldSpec) (hg : g ∈ earlier)
      (hc : customFieldConstant g.key = customFieldConstant spec.key)
      (t : StandardType) (ht : t.id = spec.standardType) :
      RefusedSpec earlier spec (.duplicateConstant (customFieldConstant spec.key) g.name spec.name)

/-- The error of the first of these specs that is refused. All specs before it declare fields
with constants of their own. -/
def FirstRefusedSpec (specs : List CustomFieldSpec) (e : FieldError) : Prop :=
  ∃ before spec after, specs = before ++ spec :: after ∧
    (∀ g ∈ before, ∃ t : StandardType, t.id = g.standardType) ∧
    (before.map fun g => customFieldConstant g.key).Nodup ∧ RefusedSpec before spec e

theorem addSpec_eq_error_iff {before : List CustomFieldSpec} {cs : List CustomField}
    (hcs : Declares before cs) (hd : (before.map fun g => customFieldConstant g.key).Nodup)
    (spec : CustomFieldSpec) (e : FieldError) :
    addSpec (.index (cs.map toField)) spec = .error e ↔ RefusedSpec before spec e := by
  have hdistinct : ((cs.map toField).map Field.constant).Nodup :=
    map_constant_of_declares hcs ▸ hd
  unfold addSpec
  rw [bind_eq_error_iff]
  refine ⟨?_, ?_⟩
  · rintro (h | ⟨c, hc, h⟩)
    · obtain ⟨hunknown, rfl⟩ := ofSpec_eq_error_iff.mp h
      exact .unknown hunknown
    · obtain ⟨t, ht, rfl⟩ := ofSpec_eq_ok_iff.mp hc
      split at h
      · rename_i f hf
        obtain ⟨hmem, hconstant⟩ := (FieldMap.get?_index_eq_some_iff hdistinct _ f).mp hf
        obtain ⟨c', hc', rfl⟩ := List.mem_map.mp hmem
        obtain ⟨g, hg, hdeclared⟩ := exists_mem_of_forall₂ hcs hc'
        obtain ⟨t', -, rfl⟩ := ofSpec_eq_ok_iff.mp hdeclared
        cases h
        exact .taken g hg hconstant t ht
      · cases h
  · rintro (h | ⟨g, hg, hconstant, t, ht⟩)
    · exact Or.inl (ofSpec_eq_error_iff.mpr ⟨h, rfl⟩)
    · refine Or.inr ⟨_, ofSpec_eq_ok_iff.mpr ⟨t, ht, rfl⟩, ?_⟩
      obtain ⟨c', hc', hdeclared⟩ := exists_mem_of_forall₂ hcs.flip hg
      obtain ⟨t', -, rfl⟩ := ofSpec_eq_ok_iff.mp hdeclared
      have hget := (FieldMap.get?_index_eq_some_iff hdistinct (customFieldConstant spec.key)
        (toField _)).mpr ⟨List.mem_map_of_mem hc', hconstant⟩
      dsimp only
      rw [hget]
      rfl

theorem expandSpecs_eq_error_iff (specs : List CustomFieldSpec) (e : FieldError) :
    expandSpecs specs = .error e ↔ FirstRefusedSpec specs e := by
  unfold expandSpecs
  rw [foldlM_eq_error_iff]
  refine ⟨?_, ?_⟩
  · rintro ⟨before, spec, after, m, hsplit, hm, h⟩
    obtain ⟨hknown, hd⟩ := (exists_expansion_iff before).mp ⟨m, hm⟩
    obtain ⟨cs, hcs, -, rfl⟩ := (expandSpecs_eq_ok_iff before m).mp hm
    exact ⟨before, spec, after, hsplit, hknown, hd, (addSpec_eq_error_iff hcs hd spec e).mp h⟩
  · rintro ⟨before, spec, after, hsplit, hknown, hd, h⟩
    obtain ⟨m, hm⟩ := (exists_expansion_iff before).mpr ⟨hknown, hd⟩
    obtain ⟨cs, hcs, -, rfl⟩ := (expandSpecs_eq_ok_iff before m).mp hm
    exact ⟨before, spec, after, _, hsplit, hm, (addSpec_eq_error_iff hcs hd spec e).mpr h⟩

/-! ## The fields of the specs -/

/-- The field follows the spec: it has the constant of the key, and the name, the type and the
lookup source of the spec. That the spec has no source makes the field refuse to name one. -/
structure Follows (spec : CustomFieldSpec) (f : Field) : Prop where
  constant : f.constant = customFieldConstant spec.key
  name : f.name = spec.name
  standardType : ∃ t : StandardType, t.id = spec.standardType ∧ f.standardType = .ok t
  source : ∀ source, spec.lookupSource = some source → f.lookupSource = .ok source
  noSource : spec.lookupSource = none →
    f.lookupSource = .error (.notImplemented (customFieldConstant spec.key) "lookup_source")

theorem follows_of_ofSpec {spec : CustomFieldSpec} {c : CustomField} (h : ofSpec spec = .ok c) :
    Follows spec c.toField := by
  obtain ⟨t, ht, rfl⟩ := ofSpec_eq_ok_iff.mp h
  refine ⟨rfl, rfl, ⟨t, ht, rfl⟩, fun source hsource => ?_, fun hnone => ?_⟩
  · unfold toField
    rw [hsource]
  · unfold toField
    rw [hnone]

end RuleFields.CustomField

namespace RuleFields

/-! ## The law -/

/-- The family expands on a subject exactly when each spec names a standard type and no two have
one constant. There is then one field for each spec, in order and under its own constant, and to
insert the fields one by one gives the same map. Otherwise the first spec that is refused gives the
error. -/
theorem the_family_has_one_field_for_each_spec (s : Subject) :
    ((∃ m, Builtin.customFields.expand s = .ok m) ↔
      (∀ spec ∈ s.customFields, ∃ t : StandardType, t.id = spec.standardType) ∧
        (s.customFields.map fun spec => customFieldConstant spec.key).Nodup) ∧
    (∀ m, Builtin.customFields.expand s = .ok m →
      m.size = s.customFields.length ∧
      List.Forall₂ (fun spec e => e.1 = customFieldConstant spec.key ∧
        CustomField.Follows spec e.2) s.customFields m.entries ∧
      m.values.foldlM FieldMap.insertUnique .empty = .ok m) ∧
    ∀ e, Builtin.customFields.expand s = .error e ↔
      CustomField.FirstRefusedSpec s.customFields e := by
  refine ⟨CustomField.exists_expansion_iff s.customFields, ?_,
    CustomField.expandSpecs_eq_error_iff s.customFields⟩
  intro m hm
  obtain ⟨cs, hcs, hd, rfl⟩ := (CustomField.expandSpecs_eq_ok_iff s.customFields m).mp hm
  refine ⟨?_, ?_, ?_⟩
  · rw [FieldMap.size_index, List.length_map, hcs.length_eq]
  · rw [FieldMap.entries_index, List.map_map, List.forall₂_map_right_iff]
    refine hcs.imp fun spec c hc => ?_
    have hfollows := CustomField.follows_of_ofSpec hc
    exact And.intro hfollows.constant hfollows
  · rw [FieldMap.values_index, ← FieldMap.index_nil]
    exact (FieldMap.foldlM_insertUnique_eq_ok_iff acceptable_nil _ _).mpr
      ⟨CustomField.acceptable_of_declares hcs hd, rfl⟩

end RuleFields
