-- The laws of the built-in fields on a subject. All but the family of custom
-- fields stand for themselves, and no custom field can take their constants.
-- So only the specs of a subject decide whether its fields can be listed.
import RuleFields.Proofs.CustomFields
import RuleFields.Proofs.Expansion
import RuleFields.Proofs.Registration

namespace RuleFields

/-! ## Fields that stand for themselves -/

theorem expand_of_single {f : Field} (h : f.ownExpansion = none) (s : Subject) :
    f.expand s = .ok (.index [f]) := by
  unfold Field.expand
  rw [h]
  rfl

theorem contribution_of_single {f : Field} (h : f.ownExpansion = none) (s : Subject) :
    f.contribution s = [f] :=
  contribution_of_ok (expand_of_single h s)

theorem contributions_of_singles {fields : List Field} (h : ∀ f ∈ fields, f.ownExpansion = none)
    (s : Subject) : contributions s fields = fields := by
  unfold contributions
  induction fields with
  | nil => rfl
  | cons f rest ih =>
    obtain ⟨hf, hrest⟩ := List.forall_mem_cons.mp h
    rw [List.flatMap_cons, contribution_of_single hf, ih hrest]
    rfl

namespace Builtin

/-- The built-in fields that stand for themselves: all but the family. -/
def singles : List Field := [newObject, actingUser, subscribers, projects, space, contentSource]

theorem all_eq : all = singles ++ [customFields] := rfl

theorem mem_singles_iff {f : Field} : f ∈ singles ↔ f ∈ all ∧ f.ownExpansion = none := by
  have hsingles : ∀ g ∈ singles, g.ownExpansion = none := by
    unfold singles
    decide
  rw [all_eq, List.mem_append, List.mem_singleton]
  refine ⟨?_, ?_⟩
  · intro h
    exact ⟨Or.inl h, hsingles f h⟩
  · rintro ⟨h | rfl, hsingle⟩
    · exact h
    · cases hsingle

/-- Those of them that support a subject. -/
def singlesFor (s : Subject) : List Field := singles.filter (·.supports s)

theorem mem_all_of_mem_singlesFor {s : Subject} {f : Field} (h : f ∈ singlesFor s) : f ∈ all :=
  (mem_singles_iff.mp (List.mem_filter.mp h).1).1

theorem map_constant_singlesFor (s : Subject) :
    (singlesFor s).map Field.constant =
      ["herald.new-object", "herald.acting-user"] ++
        (if s.subscribers.isSome then ["cc"] else []) ++
        (if s.projects.isSome then ["projects"] else []) ++
        (if s.supportsSpaces then ["space"] else []) ++ ["contentsource"] := by
  cases hs : s.subscribers.isSome <;> cases hp : s.projects.isSome <;>
    cases hspace : s.supportsSpaces <;>
    simp [singlesFor, singles, newObject, actingUser, subscribers, projects, space, contentSource,
      hs, hp, hspace]

theorem acceptable_singlesFor (s : Subject) : Acceptable (singlesFor s) := by
  refine ⟨fun f hf => acceptable_builtins.valid f (mem_all_of_mem_singlesFor hf), ?_⟩
  have hsub : (singlesFor s).Sublist all := by
    rw [all_eq]
    exact List.filter_sublist.trans (List.sublist_append_left _ _)
  exact acceptable_builtins.distinct.sublist (hsub.map _)

/-- The constant of the family is free among them. -/
theorem family_not_mem_singlesFor (s : Subject) :
    customFields.constant ∉ (singlesFor s).map Field.constant := by
  intro h
  have hall : customFields.constant ∈ singles.map Field.constant :=
    List.map_subset _ (List.filter_subset_self _) h
  exact absurd hall (by decide)

/-! ## With the custom fields of a subject -/

/-- Custom fields with constants of their own can always stand after the built-in fields. -/
theorem acceptable_append_custom {s : Subject} {cs : List CustomField}
    (hcs : CustomField.Declares s.customFields cs)
    (hnodup : (s.customFields.map fun spec => customFieldConstant spec.key).Nodup) :
    Acceptable (singlesFor s ++ cs.map CustomField.toField) := by
  have hcustom := CustomField.acceptable_of_declares hcs hnodup
  refine ⟨?_, ?_⟩
  · intro f hf
    rcases List.mem_append.mp hf with hf | hf
    · exact (acceptable_singlesFor s).valid f hf
    · exact hcustom.valid f hf
  · rw [List.map_append, List.nodup_append]
    refine ⟨(acceptable_singlesFor s).distinct, hcustom.distinct, ?_⟩
    intro a ha b hb hab
    obtain ⟨f, hf, rfl⟩ := List.mem_map.mp ha
    obtain ⟨g, hg, rfl⟩ := List.mem_map.mp hb
    obtain ⟨key, hkey⟩ := CustomField.exists_key_of_declares hcs hg
    exact customFieldConstant_ne_of_builtin (mem_all_of_mem_singlesFor hf) key (hab.trans hkey)

theorem foldlM_singles (s : Subject) :
    singles.foldlM (Registry.addExpansion s) (.index []) = .ok (.index (singlesFor s)) := by
  have hsingle : ∀ f ∈ singlesFor s, f.ownExpansion = none := fun f hf =>
    (mem_singles_iff.mp (List.mem_filter.mp hf).1).2
  have hsupports : ∀ f ∈ singlesFor s, f.supports s = true := fun f hf =>
    (List.mem_filter.mp hf).2
  have hexpands : ∀ f ∈ singlesFor s, ∃ x, f.expand s = .ok x := fun f hf =>
    ⟨_, expand_of_single (hsingle f hf) s⟩
  rw [Registry.foldlM_addExpansion_filter]
  apply (Registry.foldlM_addExpansion_eq_ok_iff acceptable_nil hsupports _).mpr
  rw [contributions_of_singles hsingle, List.nil_append]
  exact ⟨hexpands, acceptable_singlesFor s, rfl⟩

/-- The family adds the fields of the specs, whether the subject has any or none. -/
theorem addExpansion_customFields (s : Subject) (m : FieldMap) :
    Registry.addExpansion s m customFields =
      CustomField.expandSpecs s.customFields >>= fun x =>
        x.values.foldlM FieldMap.insertUnique m := by
  by_cases h : customFields.supports s = true
  · exact Registry.addExpansion_of_supports h m
  -- Without specs the family is not asked, and would have nothing to add.
  · have hnone : s.customFields = [] := by
      simpa [customFields] using h
    unfold Registry.addExpansion
    rw [if_neg h, hnone]
    rfl

/-- The fields for a subject are the built-in ones that support it and then those of its specs.
If the specs expand, nothing can fail after that. -/
theorem value_fieldsFor_of_builtins {r : Registry} (hr : r.fields = .index all) (s : Subject) :
    (r.fieldsFor s).value =
      (fun x => FieldMap.index (singlesFor s ++ x.values)) <$>
        CustomField.expandSpecs s.customFields := by
  have hvalues : r.fields.values = all := by rw [hr, FieldMap.values_index]
  calc (r.fieldsFor s).value
      = all.foldlM (Registry.addExpansion s) (.index []) := by
        rw [Registry.value_fieldsFor, Registry.supporting, hvalues,
          ← Registry.foldlM_addExpansion_filter]
    _ = Registry.addExpansion s (.index (singlesFor s)) customFields := by
        rw [all_eq, List.foldlM_append, foldlM_singles]
        change [customFields].foldlM (Registry.addExpansion s) (FieldMap.index (singlesFor s)) = _
        rw [List.foldlM_cons]
        exact bind_pure _
    _ = CustomField.expandSpecs s.customFields >>= fun x =>
          x.values.foldlM FieldMap.insertUnique (.index (singlesFor s)) :=
        addExpansion_customFields s _
    _ = _ := by
        cases hx : CustomField.expandSpecs s.customFields with
        | error e => rfl
        | ok x =>
          obtain ⟨cs, hcs, hnodup, rfl⟩ := (CustomField.expandSpecs_eq_ok_iff _ x).mp hx
          apply (FieldMap.foldlM_insertUnique_eq_ok_iff (acceptable_singlesFor s) _ _).mpr
          simp only [FieldMap.values_index]
          exact ⟨acceptable_append_custom hcs hnodup, trivial⟩

end Builtin

/-! ## The laws -/

/-- With the built-in fields alone, the fields for a subject can be listed exactly when its
custom fields can: no digest makes a constant that is too long or that a built-in field has. They
are the built-in fields that the subject supports and then its custom fields, in the order of
their specs. The family itself is never one of them. -/
theorem the_built_in_fields_never_collide :
    ∃ r, (Builder.ofCalls [.builtins]).build.value = .ok r ∧ ∀ s : Subject,
      (∀ e, (r.fieldsFor s).value = .error e ↔ Builtin.customFields.expand s = .error e) ∧
      ((∃ e, Builtin.customFields.expand s = .error e) ↔
        (∃ spec ∈ s.customFields, ∀ t : StandardType, t.id ≠ spec.standardType) ∨
          ¬ (s.customFields.map fun spec => customFieldConstant spec.key).Nodup) ∧
      ∀ m, (r.fieldsFor s).value = .ok m →
        m.keys = ["herald.new-object", "herald.acting-user"] ++
            (if s.subscribers.isSome then ["cc"] else []) ++
            (if s.projects.isSome then ["projects"] else []) ++
            (if s.supportsSpaces then ["space"] else []) ++ ["contentsource"] ++
            s.customFields.map (fun spec => customFieldConstant spec.key) ∧
          "herald.custom" ∉ m.keys := by
  obtain ⟨r, hr⟩ := Registry.exists_build_of_acceptable acceptable_builtins
  obtain ⟨-, hfields⟩ := (Registry.value_build_eq_ok_iff _ r).mp hr
  refine ⟨r, by simpa [Builder.build, registered, Registration.fields] using hr, fun s => ?_⟩
  have hexpand : Builtin.customFields.expand s = CustomField.expandSpecs s.customFields := rfl
  rw [Builtin.value_fieldsFor_of_builtins hfields s, hexpand]
  refine ⟨?_, ?_, ?_⟩
  · intro e
    exact map_eq_error_iff
  · have hiff := CustomField.exists_expansion_iff s.customFields
    have hfail : (∃ e, CustomField.expandSpecs s.customFields = .error e) ↔
        ¬ ∃ x, CustomField.expandSpecs s.customFields = .ok x := by
      cases CustomField.expandSpecs s.customFields <;> simp
    rw [hfail, hiff, not_and_or]
    refine or_congr_left ?_
    simp only [Classical.not_forall, not_exists, exists_prop]
  · intro m hm
    obtain ⟨x, hx, rfl⟩ := map_eq_ok_iff.mp hm
    obtain ⟨cs, hcs, -, rfl⟩ := (CustomField.expandSpecs_eq_ok_iff _ x).mp hx
    rw [FieldMap.values_index, FieldMap.keys_index, List.map_append,
      CustomField.map_constant_of_declares hcs]
    refine ⟨by rw [Builtin.map_constant_singlesFor], ?_⟩
    intro hfamily
    rcases List.mem_append.mp hfamily with h | h
    · exact Builtin.family_not_mem_singlesFor s h
    · obtain ⟨spec, -, hspec⟩ := List.mem_map.mp h
      exact customFieldConstant_ne_of_builtin (f := Builtin.customFields) (by simp [Builtin.all_eq])
        spec.key hspec.symm

end RuleFields
