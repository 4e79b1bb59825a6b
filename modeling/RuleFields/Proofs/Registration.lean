-- The laws of building a registry: a registry comes from exactly those lists
-- of fields that are acceptable, and holds them as they were given. The error
-- of any other list is that of its first field that is refused.
import RuleFields.Builder
import RuleFields.Proofs.Constants

namespace RuleFields

namespace Registry

/-- A registry is known by its map of fields. -/
theorem eq_of_fields {r r' : Registry} (h : r.fields = r'.fields) : r = r' := by
  obtain ⟨m, hm⟩ := r
  obtain ⟨m', hm'⟩ := r'
  obtain rfl : m = m' := h
  rfl

theorem build_of_error {fields : List Field} {e : FieldError}
    (h : FieldMap.ofFields fields = .error e) : build fields = pure (.error e) := by
  unfold build
  split
  · rename_i e' he
    cases h.symm.trans he
    rfl
  · rename_i m hm
    cases h.symm.trans hm

theorem build_of_ok {fields : List Field} {m : FieldMap} (h : FieldMap.ofFields fields = .ok m) :
    build fields = do
      Traced.report (.registryBuilt m.size)
      return .ok ⟨m, FieldMap.keyed_ofFields h⟩ := by
  unfold build
  split
  · rename_i e he
    cases h.symm.trans he
  · rename_i m' hm
    cases h.symm.trans hm
    rfl

theorem map_fields_value_build (fields : List Field) :
    (build fields).value.map Registry.fields = FieldMap.ofFields fields := by
  cases hm : FieldMap.ofFields fields with
  | error e =>
    rw [build_of_error hm]
    rfl
  | ok m =>
    rw [build_of_ok hm]
    rfl

theorem value_build_eq_ok_iff (fields : List Field) (r : Registry) :
    (build fields).value = .ok r ↔ Acceptable fields ∧ r.fields = FieldMap.index fields := by
  have hrun : FieldMap.ofFields fields = .ok r.fields ↔ _ :=
    FieldMap.foldlM_insertUnique_eq_ok_iff acceptable_nil fields r.fields
  rw [List.nil_append] at hrun
  rw [← hrun, ← map_fields_value_build]
  cases (build fields).value with
  | error e => simp [Except.map]
  | ok r' =>
    simp only [Except.map, Except.ok.injEq]
    exact ⟨congrArg Registry.fields, eq_of_fields⟩

theorem value_build_eq_error_iff (fields : List Field) (e : FieldError) :
    (build fields).value = .error e ↔ FirstRefusal [] fields e := by
  have hrun : FieldMap.ofFields fields = .error e ↔ _ :=
    FieldMap.foldlM_insertUnique_eq_error_iff acceptable_nil fields e
  rw [← hrun, ← map_fields_value_build]
  cases (build fields).value with
  | error e' => simp [Except.map]
  | ok r => simp [Except.map]

/-- Only a registry that is built is reported. -/
theorem events_build_of_error {fields : List Field} {e : FieldError}
    (h : (build fields).value = .error e) : (build fields).events = [] := by
  cases hm : FieldMap.ofFields fields with
  | error e' =>
    rw [build_of_error hm]
    rfl
  | ok m =>
    rw [build_of_ok hm] at h
    cases h

theorem exists_build_of_acceptable {fields : List Field} (h : Acceptable fields) :
    ∃ r, (build fields).value = .ok r := by
  have hm := FieldMap.keyed_ofFields
    ((FieldMap.foldlM_insertUnique_eq_ok_iff acceptable_nil fields _).mpr ⟨h, rfl⟩)
  exact ⟨⟨_, hm⟩, (value_build_eq_ok_iff fields _).mpr ⟨h, rfl⟩⟩

end Registry

/-- The built-in fields build. -/
theorem acceptable_builtins : Acceptable Builtin.all := by
  refine ⟨?_, ?_⟩
  · unfold Builtin.all
    decide
  · decide

/-! ## The laws -/

/-- A builder builds a registry exactly when the constants of its fields are valid and distinct,
whatever mix of calls registered them. The registry keeps the fields and their order, and finds
each by its constant. Otherwise the first field that is refused gives the error, whatever comes
after it. -/
theorem a_builder_takes_exactly_the_acceptable_fields (calls : List Registration) :
    ((∃ r, (Builder.ofCalls calls).build.value = .ok r) ↔
      (∀ f ∈ registered calls, f.constant ≠ "" ∧ f.constant.utf8ByteSize ≤ 64) ∧
        ((registered calls).map Field.constant).Nodup) ∧
    (∀ r, (Builder.ofCalls calls).build.value = .ok r →
      r.fields.entries = (registered calls).map (fun f => (f.constant, f)) ∧
      r.size = (registered calls).length ∧
      ∀ c, (∀ f, r.get? c = some f ↔ f ∈ registered calls ∧ f.constant = c) ∧
        (r.get? c = none ↔ ∀ f ∈ registered calls, f.constant ≠ c)) ∧
    (∀ e, (Builder.ofCalls calls).build.value = .error e ↔ FirstRefusal [] (registered calls) e) ∧
    (∀ e, (Builder.ofCalls calls).build.value = .error e →
      ∃ before f after, registered calls = before ++ f :: after ∧ Refused before f e ∧
        ∀ others rest, registered others = before ++ f :: rest →
          (Builder.ofCalls others).build.value = .error e) := by
  simp only [Builder.build, Builder.fields_ofCalls]
  refine ⟨⟨?_, ?_⟩, ?_, ?_, ?_⟩
  · rintro ⟨r, hr⟩
    obtain ⟨hl, -⟩ := (Registry.value_build_eq_ok_iff _ r).mp hr
    exact ⟨hl.valid, hl.distinct⟩
  · rintro ⟨hvalid, hdistinct⟩
    exact Registry.exists_build_of_acceptable ⟨hvalid, hdistinct⟩
  · intro r hr
    obtain ⟨hl, hfields⟩ := (Registry.value_build_eq_ok_iff _ r).mp hr
    unfold Registry.size Registry.get?
    rw [hfields]
    exact ⟨rfl, FieldMap.size_index _, fun c => ⟨FieldMap.get?_index_eq_some_iff hl.distinct c,
      FieldMap.get?_index_eq_none_iff _ c⟩⟩
  · intro e
    exact Registry.value_build_eq_error_iff _ e
  · intro e he
    obtain ⟨before, f, after, hsplit, hbefore, hf⟩ := (Registry.value_build_eq_error_iff _ e).mp he
    refine ⟨before, f, after, hsplit, hf, ?_⟩
    intro others rest hothers
    apply (Registry.value_build_eq_error_iff _ e).mpr
    exact ⟨before, f, rest, hothers, hbefore, hf⟩

end RuleFields
