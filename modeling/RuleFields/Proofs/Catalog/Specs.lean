-- The laws of the specs. A spec tells what its field says and nothing else, and
-- the catalog has one spec for each registered field or fails as the first
-- field that fails.
import RuleFields.Catalog.Yaml
import RuleFields.Proofs.Catalog

namespace RuleFields

namespace FieldSpec

/-! ## What a spec tells -/

/-- The spec tells what the field says of itself. Where the field says nothing of its type there
is none, and where it says nothing of its conditions the list is empty. Each condition stands with
its own label, and it has a shape exactly if there is a type. -/
structure Describes (spec : FieldSpec) (f : Field) : Prop where
  constant : spec.constant = f.constant
  name : spec.name = f.name
  standardType : (∃ t, f.standardType = .ok t ∧ spec.standardType = some t) ∨
    isUnanswered f.standardType = true ∧ spec.standardType = none
  conditions : f.conditions = .ok (spec.conditions.map ConditionSpec.condition) ∨
    isUnanswered f.conditions = true ∧ spec.conditions = []
  label : ∀ entry ∈ spec.conditions, entry.label = entry.condition.label
  shape : ∀ t, f.standardType = .ok t → ∀ entry ∈ spec.conditions,
    ∃ shape, entry.value = some shape ∧ f.valueShape entry.condition = .ok shape
  no_shape : isUnanswered f.standardType = true → ∀ entry ∈ spec.conditions, entry.value = none

/-! ## One condition -/

variable {f : Field} {spec : FieldSpec}

theorem condition_eq_ok_iff_of_none {c : Condition} {entry : ConditionSpec} :
    condition f none c = .ok entry ↔ entry = ⟨c, c.label, none⟩ := by
  unfold condition
  exact ⟨fun h => by cases h; rfl, fun h => h ▸ rfl⟩

/-- The entry of a condition names the condition. -/
theorem condition_of_entry {t : Option StandardType} {c : Condition} {entry : ConditionSpec}
    (h : condition f t c = .ok entry) : entry.condition = c := by
  cases t with
  | none =>
    rw [condition_eq_ok_iff_of_none.mp h]
  | some t =>
    obtain ⟨shape, -, rfl⟩ := condition_eq_ok_iff.mp h
    rfl

/-- The entries of a list of conditions are those that name the conditions in order, each the
entry of the condition that it names. -/
theorem forall₂_condition_iff {t : Option StandardType} {cs : List Condition}
    {entries : List ConditionSpec} :
    List.Forall₂ (fun c entry => condition f t c = .ok entry) cs entries ↔
      cs = entries.map ConditionSpec.condition ∧
        ∀ entry ∈ entries, condition f t entry.condition = .ok entry := by
  induction entries generalizing cs with
  | nil => simp
  | cons entry rest ih =>
    rw [List.forall₂_cons_right_iff, List.map_cons, List.forall_mem_cons]
    refine ⟨?_, ?_⟩
    · rintro ⟨c, cs, hc, hcs, rfl⟩
      obtain ⟨rfl, hrest⟩ := ih.mp hcs
      obtain rfl := condition_of_entry hc
      exact ⟨rfl, hc, hrest⟩
    · rintro ⟨rfl, hc, hrest⟩
      exact ⟨_, _, hc, ih.mpr ⟨rfl, hrest⟩, rfl⟩

/-- With a type, an entry has the shape that the field gives for its condition. -/
theorem entry_iff_of_some {t : StandardType} {entry : ConditionSpec} :
    condition f (some t) entry.condition = .ok entry ↔
      entry.label = entry.condition.label ∧
        ∃ shape, entry.value = some shape ∧ f.valueShape entry.condition = .ok shape := by
  obtain ⟨c, label, value⟩ := entry
  rw [condition_eq_ok_iff]
  dsimp only
  refine ⟨?_, ?_⟩
  · rintro ⟨shape, hshape, h⟩
    cases h
    exact ⟨rfl, shape, rfl, hshape⟩
  · rintro ⟨rfl, shape, rfl, hshape⟩
    exact ⟨shape, hshape, rfl⟩

/-- Without a type, an entry has no shape. -/
theorem entry_iff_of_none {entry : ConditionSpec} :
    condition f none entry.condition = .ok entry ↔
      entry.label = entry.condition.label ∧ entry.value = none := by
  obtain ⟨c, label, value⟩ := entry
  rw [condition_eq_ok_iff_of_none]
  dsimp only
  refine ⟨?_, ?_⟩
  · intro h
    cases h
    exact ⟨rfl, rfl⟩
  · rintro ⟨rfl, rfl⟩
    rfl

/-! ## The spec of a field -/

theorem orIfUnanswered_type_iff {t : Option StandardType} :
    orIfUnanswered (some <$> f.standardType) none = .ok t ↔
      (∃ t', f.standardType = .ok t' ∧ t = some t') ∨
        isUnanswered f.standardType = true ∧ t = none := by
  rw [orIfUnanswered_eq_ok_iff, map_eq_ok_iff, isUnanswered_map]
  simp only [eq_comm]

theorem orIfUnanswered_conditions_iff {cs : List Condition} :
    orIfUnanswered f.conditions [] = .ok cs ↔
      f.conditions = .ok cs ∨ isUnanswered f.conditions = true ∧ cs = [] := by
  rw [orIfUnanswered_eq_ok_iff, eq_comm (a := [])]

/-- A type that the field says is not left unsaid. -/
theorem not_unanswered_of_ok {t : StandardType} (h : f.standardType = .ok t) :
    isUnanswered f.standardType ≠ true := by
  rw [h]
  exact Bool.false_ne_true

/-- The entries have shapes exactly if there is a type. -/
theorem entries_iff
    (h : orIfUnanswered (some <$> f.standardType) none = .ok spec.standardType) :
    (∀ entry ∈ spec.conditions,
        condition f spec.standardType entry.condition = .ok entry) ↔
      (∀ entry ∈ spec.conditions, entry.label = entry.condition.label) ∧
      (∀ t, f.standardType = .ok t → ∀ entry ∈ spec.conditions,
        ∃ shape, entry.value = some shape ∧ f.valueShape entry.condition = .ok shape) ∧
      (isUnanswered f.standardType = true → ∀ entry ∈ spec.conditions, entry.value = none) := by
  rcases orIfUnanswered_type_iff.mp h with ⟨t, ht, htype⟩ | ⟨hno, htype⟩
  · simp only [htype, entry_iff_of_some]
    refine ⟨?_, ?_⟩
    · intro hall
      exact ⟨fun entry he => (hall entry he).1, fun _ _ entry he => (hall entry he).2,
        fun hno => absurd hno (not_unanswered_of_ok ht)⟩
    · rintro ⟨hlabel, hshape, -⟩ entry he
      exact ⟨hlabel entry he, hshape t ht entry he⟩
  · simp only [htype, entry_iff_of_none]
    refine ⟨?_, ?_⟩
    · intro hall
      exact ⟨fun entry he => (hall entry he).1,
        fun t ht => absurd hno (not_unanswered_of_ok ht), fun _ entry he => (hall entry he).2⟩
    · rintro ⟨hlabel, -, hvalue⟩ entry he
      exact ⟨hlabel entry he, hvalue hno entry he⟩

/-- The spec of a field is the one that describes it. -/
theorem ofField_eq_ok_iff_describes : ofField f = .ok spec ↔ spec.Describes f := by
  rw [ofField_eq_ok_iff]
  refine ⟨?_, ?_⟩
  · rintro ⟨htype, ⟨accepted, haccepted, hentries⟩, hconstant, hname⟩
    obtain ⟨rfl, hall⟩ := forall₂_condition_iff.mp hentries
    obtain ⟨hlabel, hshape, hvalue⟩ := (entries_iff htype).mp hall
    rw [orIfUnanswered_conditions_iff, List.map_eq_nil_iff] at haccepted
    exact ⟨hconstant, hname, orIfUnanswered_type_iff.mp htype, haccepted, hlabel, hshape, hvalue⟩
  · rintro ⟨hconstant, hname, htype, hconditions, hlabel, hshape, hvalue⟩
    have htype' := orIfUnanswered_type_iff.mpr htype
    have hentries := (entries_iff htype').mpr ⟨hlabel, hshape, hvalue⟩
    refine ⟨htype', ⟨_, ?_, forall₂_condition_iff.mpr ⟨rfl, hentries⟩⟩, hconstant, hname⟩
    rw [orIfUnanswered_conditions_iff, List.map_eq_nil_iff]
    exact hconditions

end FieldSpec

/-! ## The catalog -/

/-- The keys of a registry are the constants of its fields. -/
theorem Registry.keys_eq_map_constant (r : Registry) :
    r.fields.keys = r.fields.values.map Field.constant := by
  unfold OrderedMap.keys OrderedMap.values
  rw [List.map_map]
  exact List.map_congr_left r.keyed.key_eq

theorem Registry.catalogYaml_eq_error_iff (r : Registry) (e : FieldError) :
    r.catalogYaml = .error e ↔ r.catalog = .error e :=
  map_eq_error_iff

/-- What the specs of a list of fields say of them is what the fields say of themselves. -/
theorem map_eq_of_forall₂_ofField {α : Type} {ofSpec : FieldSpec → α} {ofField : Field → α}
    (h : ∀ f spec, FieldSpec.ofField f = .ok spec → ofSpec spec = ofField f) {fields : List Field}
    {specs : List FieldSpec}
    (hspecs : List.Forall₂ (fun f spec => FieldSpec.ofField f = .ok spec) fields specs) :
    specs.map ofSpec = fields.map ofField := by
  induction hspecs with
  | nil => rfl
  | cons hspec _ ih => rw [List.map_cons, List.map_cons, h _ _ hspec, ih]

/-! ## The laws -/

/-- The catalog has one spec for each registered field, in order and under its own constant, or it
fails as the first field that fails, and then so does its text. A spec describes its field: its
conditions in order, and a shape for each of them if there is a type. A field that derives its
conditions and shapes fails with its type, or with the lookup source that its type asks for. -/
theorem the_catalog_has_one_spec_for_each_field (r : Registry) :
    ((∃ specs, r.catalog = .ok specs) ↔
      ∀ f ∈ r.fields.values, ∃ spec, FieldSpec.ofField f = .ok spec) ∧
    (∀ specs, r.catalog = .ok specs →
      List.Forall₂ (fun f spec => FieldSpec.ofField f = .ok spec) r.fields.values specs ∧
      specs.map FieldSpec.constant = r.fields.values.map Field.constant ∧
      specs.map FieldSpec.name = r.fields.values.map Field.name ∧
      (specs.map FieldSpec.constant).Nodup) ∧
    (∀ e, r.catalog = .error e ↔ ∃ before f after, r.fields.values = before ++ f :: after ∧
      (∀ g ∈ before, ∃ spec, FieldSpec.ofField g = .ok spec) ∧ FieldSpec.ofField f = .error e) ∧
    (∀ e, r.catalogYaml = .error e ↔ r.catalog = .error e) ∧
    (∀ f spec, FieldSpec.ofField f = .ok spec ↔ spec.Describes f) ∧
    (∀ f : Field, f.ownConditions = none → f.ownShape = none → ∀ e,
      FieldSpec.ofField f = .error e ↔
        (f.standardType = .error e ∧ e.isNotImplemented = false) ∨
        ∃ t, f.standardType = .ok t ∧ (t = .phid ∨ t = .phidNullable ∨ t = .phidList) ∧
          f.lookupSource = .error e) := by
  refine ⟨?_, ?_, mapM_eq_error_iff FieldSpec.ofField r.fields.values,
    r.catalogYaml_eq_error_iff, fun f spec => FieldSpec.ofField_eq_ok_iff_describes, ?_⟩
  · simp only [Registry.catalog, mapM_eq_ok_iff]
    exact exists_forall₂_iff
  · intro specs hspecs
    have hall := (mapM_eq_ok_iff FieldSpec.ofField r.fields.values specs).mp hspecs
    have hconstant : specs.map FieldSpec.constant = r.fields.values.map Field.constant :=
      map_eq_of_forall₂_ofField
        (fun f spec h => (FieldSpec.ofField_eq_ok_iff_describes.mp h).constant) hall
    have hname : specs.map FieldSpec.name = r.fields.values.map Field.name :=
      map_eq_of_forall₂_ofField
        (fun f spec h => (FieldSpec.ofField_eq_ok_iff_describes.mp h).name) hall
    refine ⟨hall, hconstant, hname, ?_⟩
    rw [hconstant, ← r.keys_eq_map_constant]
    exact r.keyed.nodup
  · intro f hc hs e
    rw [FieldSpec.ofField_eq_error_iff hc hs e]
    refine ⟨?_, ?_⟩
    · rintro (⟨h, he⟩ | ⟨t, ht, hr, hl⟩)
      · exact Or.inl ⟨h, he⟩
      · exact Or.inr ⟨t, ht, hr, hl⟩
    · rintro (⟨h, he⟩ | ⟨t, ht, hr, hl⟩)
      · exact .type h he
      · exact .source t ht hr hl

end RuleFields
