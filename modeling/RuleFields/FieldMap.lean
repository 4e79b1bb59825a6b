-- Maps of fields in which each field stands under its own constant. A field
-- is inserted only if its constant is valid and free, so a map that is made
-- by insertions alone is keyed by constants.
import RuleFields.Field

namespace RuleFields

namespace FieldMap

/-! ## Insertion -/

/-- The map with `f` under its constant, last in order. The constant must be valid, and no
field in the map may have it. -/
def insertUnique (m : FieldMap) (f : Field) : Except FieldError FieldMap :=
  match f.validateConstant with
  | .error e => .error e
  | .ok () =>
    match m.get? f.constant with
    | some existing => .error (.duplicateConstant f.constant existing.name f.name)
    | none => .ok (m.push f.constant f)

/-- The map of a list of fields, in the order of the list. The first field that cannot be
inserted gives the error. -/
def ofFields (fields : List Field) : Except FieldError FieldMap :=
  fields.foldlM insertUnique .empty

/-- An insertion that is not refused adds the field last, under a constant that was free. -/
theorem insertUnique_eq_ok {m m' : FieldMap} {f : Field} (h : m.insertUnique f = .ok m') :
    m' = m.push f.constant f ∧ f.constant ∉ m.keys := by
  unfold insertUnique at h
  split at h
  · simp at h
  · split at h
    · simp at h
    · rename_i hnone
      exact ⟨by simpa using h.symm, (m.get?_eq_none_iff _).mp hnone⟩

/-! ## Maps keyed by constants -/

/-- Each field stands under its own constant, and no constant stands twice. -/
structure Keyed (m : FieldMap) : Prop where
  key_eq : ∀ e ∈ m.entries, e.1 = e.2.constant
  nodup : m.keys.Nodup

theorem keyed_empty : Keyed .empty :=
  ⟨fun _ h => (List.not_mem_nil h).elim, List.nodup_nil⟩

theorem Keyed.insertUnique {m m' : FieldMap} {f : Field} (hm : Keyed m)
    (h : m.insertUnique f = .ok m') : Keyed m' := by
  obtain ⟨rfl, hfree⟩ := insertUnique_eq_ok h
  constructor
  · intro e he
    rcases List.mem_append.mp he with he | he
    · exact hm.key_eq e he
    · rw [List.mem_singleton.mp he]
  · rw [OrderedMap.keys_push]
    refine List.nodup_append.mpr ⟨hm.nodup, by simp, ?_⟩
    intro a ha b hb hab
    rw [List.mem_singleton.mp hb] at hab
    exact hfree (hab ▸ ha)

theorem Keyed.foldlM {fields : List Field} {m m' : FieldMap} (hm : Keyed m)
    (h : fields.foldlM FieldMap.insertUnique m = .ok m') : Keyed m' := by
  induction fields generalizing m with
  | nil => cases h; exact hm
  | cons f rest ih =>
    rw [List.foldlM_cons] at h
    cases hf : m.insertUnique f with
    | error e => rw [hf] at h; cases h
    | ok m₁ => rw [hf] at h; exact ih (hm.insertUnique hf) h

theorem keyed_ofFields {fields : List Field} {m : FieldMap} (h : ofFields fields = .ok m) :
    Keyed m := keyed_empty.foldlM h

end FieldMap

end RuleFields
