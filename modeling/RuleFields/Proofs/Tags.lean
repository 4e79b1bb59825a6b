-- The laws of tags. A tag that names no standard type is refused before
-- anything is looked up, and the error names the field and the tag. With a tag
-- that names one, the lookup runs once where references are asked for and
-- nowhere else, so nowhere else can it make a difference.
import RuleFields.Proofs.Classification

namespace RuleFields

/-! ## Tags that name no type -/

/-- No standard type has the tag. -/
def UnknownTag (tag : String) : Prop := ∀ t : StandardType, t.id ≠ tag

theorem unknownTag_iff (tag : String) :
    UnknownTag tag ↔ tag ∉ StandardType.all.map StandardType.id := by
  unfold UnknownTag
  rw [List.mem_map, not_exists]
  exact forall_congr' fun t => by simp [StandardType.mem_all t]

theorem exists_id_of_not_unknown {tag : String} (h : ¬ UnknownTag tag) :
    ∃ t : StandardType, t.id = tag := by
  simpa [UnknownTag] using h

theorem conditionsForTag_eq_error_iff (field tag : String) (e : FieldError) :
    conditionsForTag field tag = .error e ↔
      UnknownTag tag ∧ e = .unknownStandardType field tag := by
  unfold conditionsForTag
  rw [map_eq_error_iff, StandardType.parseFor_eq_error_iff]
  rfl

/-! ## Shapes -/

section
variable {m : Type → Type} [Monad m] [MonadExceptOf FieldError m] {tag : String} {c : Condition}

/-- Whatever the lookup would do, it does not run. -/
theorem shapeForTag_of_unknown (h : UnknownTag tag) (field : String) (lookup : m LookupSource) :
    shapeForTag field tag c lookup = throw (.unknownStandardType field tag) := by
  unfold shapeForTag
  rw [(StandardType.parseFor_eq_error_iff field tag _).mpr ⟨h, rfl⟩]

theorem shapeForTag_id (field : String) (t : StandardType) (lookup : m LookupSource) :
    shapeForTag field t.id c lookup = t.shapeFor c lookup := by
  unfold shapeForTag
  rw [(StandardType.parseFor_eq_ok_iff field t.id t).mpr rfl]

end

/-! ## Lookups that are counted -/

/-- A lookup with this answer, and a count of its runs. -/
def countedLookup (answer : Except FieldError LookupSource) :
    ExceptT FieldError (StateM Nat) LookupSource :=
  ExceptT.mk fun runs => (answer, runs + 1)

/-- The shape of a condition on a field with this tag, and how often a lookup with this answer
ran for it. -/
def shapeAndRuns (field tag : String) (c : Condition) (answer : Except FieldError LookupSource) :
    Except FieldError ValueShape × Nat :=
  (shapeForTag field tag c (countedLookup answer)).run.run 0

section
variable {t : StandardType} {c : Condition}

theorem shapeAndRuns_of_unknown {tag : String} (h : UnknownTag tag) (field : String)
    (answer : Except FieldError LookupSource) :
    shapeAndRuns field tag c answer = (.error (.unknownStandardType field tag), 0) := by
  unfold shapeAndRuns
  rw [shapeForTag_of_unknown h]
  rfl

theorem shapeAndRuns_of_asksReferences (h : t.AsksReferences c) (field : String)
    (answer : Except FieldError LookupSource) :
    shapeAndRuns field t.id c answer = (.tokenizer <$> answer, 1) := by
  unfold shapeAndRuns
  rw [shapeForTag_id, StandardType.shapeFor_of_asksReferences h]
  cases answer <;> rfl

/-- Where no references are asked for, there is a shape that no lookup has a part in. -/
theorem exists_shapeAndRuns_of_not_asksReferences (h : ¬ t.AsksReferences c) (field : String) :
    ∃ shape, ∀ answer, shapeAndRuns field t.id c answer = (.ok shape, 0) := by
  unfold shapeAndRuns
  simp only [shapeForTag_id]
  rcases t.asks_cases c with hc | hc | hc
  · simp only [StandardType.shapeFor_of_asksNothing hc]
    exact ⟨.empty, fun _ => rfl⟩
  · simp only [StandardType.shapeFor_of_holdsText hc]
    exact ⟨.text, fun _ => rfl⟩
  · exact absurd hc h

end

/-! ## The tags by name -/

/-- The tags of the types with references. -/
def referenceTags : List String := ["standard.phid", "standard.phid.list", "standard.phid.nullable"]

theorem id_mem_referenceTags_iff (t : StandardType) : t.id ∈ referenceTags ↔ t.HoldsReferences := by
  unfold StandardType.HoldsReferences
  cases t <;> decide

theorem exists_id_of_mem_referenceTags {tag : String} (h : tag ∈ referenceTags) :
    ∃ t : StandardType, t.id = tag := by
  simp only [referenceTags, List.mem_cons, List.not_mem_nil, or_false] at h
  rcases h with rfl | rfl | rfl
  · exact ⟨.phid, rfl⟩
  · exact ⟨.phidList, rfl⟩
  · exact ⟨.phidNullable, rfl⟩

theorem asksReferences_iff (t : StandardType) (c : Condition) :
    t.AsksReferences c ↔ t.id ∈ referenceTags ∧ c.isExistenceTest = false := by
  rw [id_mem_referenceTags_iff, c.isExistenceTest_eq_false_iff]
  rfl

/-! ## The law -/

/-- The conditions and the shapes are refused for the same tags: for those that name no type, by
an error with the field and the tag, and without a run of the lookup. For the tags of references
the lookup runs once, unless the condition is a test of presence, and its source or its error is
passed on as it is. For every other tag, and for a test of presence, there is a shape without a
run, and it is the same for every lookup. -/
theorem the_lookup_runs_once_where_references_are_asked_for (field tag : String) (c : Condition) :
    (UnknownTag tag ↔ tag ∉ ["standard.bool", "standard.text", "standard.text.list",
      "standard.text.map", "standard.phid", "standard.phid.list", "standard.phid.bool",
      "standard.phid.nullable"]) ∧
    (∀ e, conditionsForTag field tag = .error e ↔
      UnknownTag tag ∧ e = .unknownStandardType field tag) ∧
    (∀ answer e, shapeAndRuns field tag c answer = (.error e, 0) ↔
      UnknownTag tag ∧ e = .unknownStandardType field tag) ∧
    (tag ∈ referenceTags → c.isExistenceTest = false →
      (∀ source, shapeAndRuns field tag c (.ok source) = (.ok (.tokenizer source), 1)) ∧
      ∀ e, shapeAndRuns field tag c (.error e) = (.error e, 1)) ∧
    (¬ UnknownTag tag → ¬ (tag ∈ referenceTags ∧ c.isExistenceTest = false) →
      ∃ shape, ∀ answer, shapeAndRuns field tag c answer = (.ok shape, 0)) := by
  refine ⟨unknownTag_iff tag, conditionsForTag_eq_error_iff field tag, ?_, ?_, ?_⟩
  · intro answer e
    by_cases hunknown : UnknownTag tag
    · rw [shapeAndRuns_of_unknown hunknown]
      simp [hunknown, eq_comm]
    · obtain ⟨t, rfl⟩ := exists_id_of_not_unknown hunknown
      refine ⟨fun h => ?_, fun h => absurd h.1 hunknown⟩
      by_cases hc : t.AsksReferences c
      · rw [shapeAndRuns_of_asksReferences hc] at h
        exact absurd (congrArg Prod.snd h) Nat.one_ne_zero
      · obtain ⟨shape, hshape⟩ := exists_shapeAndRuns_of_not_asksReferences hc field
        rw [hshape] at h
        cases h
  · intro htag hc
    obtain ⟨t, rfl⟩ := exists_id_of_mem_referenceTags htag
    have hrun := shapeAndRuns_of_asksReferences ((asksReferences_iff t c).mpr ⟨htag, hc⟩) field
    exact ⟨fun source => hrun (.ok source), fun e => hrun (.error e)⟩
  · intro hknown hnone
    obtain ⟨t, rfl⟩ := exists_id_of_not_unknown hknown
    rw [← asksReferences_iff] at hnone
    exact exists_shapeAndRuns_of_not_asksReferences hnone field

end RuleFields
