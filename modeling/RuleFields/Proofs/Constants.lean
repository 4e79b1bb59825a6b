-- The laws of constants. A map of fields takes a list of fields as a whole
-- exactly when every constant is valid and no two are equal. Otherwise the
-- first field that is invalid, or that repeats a constant, is the one refused.
import RuleFields.FieldMap
import RuleFields.Proofs.Traversal

namespace RuleFields

/-! ## What is taken and what is refused -/

/-- A constant that a field may have: not empty, and at most 64 bytes of UTF-8. -/
def ValidConstant (c : String) : Prop := c ≠ "" ∧ c.utf8ByteSize ≤ 64

instance (c : String) : Decidable (ValidConstant c) := inferInstanceAs (Decidable (_ ∧ _))

/-- Every constant of the fields is valid, and no two of them are equal. -/
structure Acceptable (fields : List Field) : Prop where
  valid : ∀ f ∈ fields, ValidConstant f.constant
  distinct : (fields.map Field.constant).Nodup

/-- `f` is refused with this error where the fields `accepted` stand already. A constant that
is taken counts only if it is valid. -/
inductive Refused (accepted : List Field) (f : Field) : FieldError → Prop
  | empty (h : f.constant = "") :
      Refused accepted f (.invalidConstant f.name f.constant "field constants must not be empty")
  | tooLong (h : 64 < f.constant.utf8ByteSize) :
      Refused accepted f (.invalidConstant f.name f.constant
        ("field constants must be no more than 64 bytes in length, got " ++
          toString f.constant.utf8ByteSize))
  | taken (g : Field) (hg : g ∈ accepted) (hc : g.constant = f.constant)
      (hv : ValidConstant f.constant) :
      Refused accepted f (.duplicateConstant f.constant g.name f.name)

/-- The error of the first of these fields that is refused, where the fields `accepted` stand
already. All fields before it are taken. -/
def FirstRefusal (accepted fields : List Field) (e : FieldError) : Prop :=
  ∃ before f after, fields = before ++ f :: after ∧ Acceptable (accepted ++ before) ∧
    Refused (accepted ++ before) f e

theorem acceptable_nil : Acceptable [] := ⟨by simp, by simp⟩

theorem Acceptable.of_append {l₁ l₂ : List Field} (h : Acceptable (l₁ ++ l₂)) : Acceptable l₁ where
  valid f hf := h.valid f (List.mem_append_left _ hf)
  distinct := by
    have := h.distinct
    rw [List.map_append] at this
    exact (List.nodup_append.mp this).1

/-- One more field is acceptable if it is valid and its constant is free. -/
theorem acceptable_snoc_iff {l : List Field} {f : Field} (h : Acceptable l) :
    Acceptable (l ++ [f]) ↔ ValidConstant f.constant ∧ ∀ g ∈ l, g.constant ≠ f.constant := by
  refine ⟨?_, ?_⟩
  · intro hs
    refine ⟨hs.valid f (by simp), fun g hg => ?_⟩
    have hd := hs.distinct
    rw [List.map_append, List.nodup_append] at hd
    exact hd.2.2 _ (List.mem_map_of_mem hg) _ (by simp)
  · rintro ⟨hv, hfree⟩
    refine ⟨?_, ?_⟩
    · intro g hg
      rcases List.mem_append.mp hg with hg | hg
      · exact h.valid g hg
      · rw [List.mem_singleton.mp hg]
        exact hv
    · rw [List.map_append, List.nodup_append]
      refine ⟨h.distinct, by simp, ?_⟩
      intro a ha b hb
      obtain ⟨g, hg, rfl⟩ := List.mem_map.mp ha
      simp only [List.map_cons, List.map_nil, List.mem_singleton] at hb
      rw [hb]
      exact hfree g hg

/-! ## The check of one constant -/

/-- The check, with its limit and its texts written out. -/
theorem validateConstant_eq (f : Field) :
    f.validateConstant =
      if f.constant = "" then
        .error (.invalidConstant f.name f.constant "field constants must not be empty")
      else if 64 < f.constant.utf8ByteSize then
        .error (.invalidConstant f.name f.constant
          ("field constants must be no more than 64 bytes in length, got " ++
            toString f.constant.utf8ByteSize))
      else .ok () := by
  unfold Field.validateConstant
  simp only [String.isEmpty_iff]
  rfl

theorem validateConstant_eq_ok_iff (f : Field) :
    f.validateConstant = .ok () ↔ ValidConstant f.constant := by
  rw [validateConstant_eq, ValidConstant]
  split
  · rename_i he
    simp [he]
  · rename_i he
    split
    · rename_i hl
      have hnot : ¬ f.constant.utf8ByteSize ≤ 64 := by omega
      simp [hnot]
    · rename_i hl
      have hle : f.constant.utf8ByteSize ≤ 64 := by omega
      simp [he, hle]

/-- The limit is one of bytes: 33 characters can be too many. -/
example : ValidConstant (String.ofList (List.replicate 32 'é')) ∧
    ¬ ValidConstant (String.ofList (List.replicate 33 'é')) := by
  decide

/-- A constant that is not valid is empty or too long, and the error says which. -/
theorem validateConstant_eq_error_iff (f : Field) (e : FieldError) :
    f.validateConstant = .error e ↔ Refused [] f e := by
  rw [validateConstant_eq]
  refine ⟨?_, ?_⟩
  · intro h
    split at h
    · rename_i he
      cases h
      exact .empty he
    · split at h
      · rename_i hl
        cases h
        exact .tooLong hl
      · cases h
  · rintro (he | hl | ⟨g, hg, -, -⟩)
    · rw [if_pos he]
    · have he : f.constant ≠ "" := by
        intro he
        rw [he] at hl
        exact absurd hl (by decide)
      rw [if_neg he, if_pos hl]
    · simp at hg

/-! ## Maps of fields under their own constants -/

namespace FieldMap

/-- The map of these fields, each under its own constant, in the order of the list. -/
def index (fields : List Field) : FieldMap := ⟨fields.map fun f => (f.constant, f)⟩

theorem index_nil : index [] = .empty := rfl

@[simp] theorem entries_index (fields : List Field) :
    (index fields).entries = fields.map fun f => (f.constant, f) := rfl

@[simp] theorem keys_index (fields : List Field) :
    (index fields).keys = fields.map Field.constant := by
  simp [OrderedMap.keys, Function.comp_def]

@[simp] theorem values_index (fields : List Field) : (index fields).values = fields := by
  simp [OrderedMap.values, Function.comp_def]

@[simp] theorem size_index (fields : List Field) : (index fields).size = fields.length := by
  simp [OrderedMap.size]

theorem push_index (fields : List Field) (f : Field) :
    (index fields).push f.constant f = index (fields ++ [f]) := by
  simp [index, OrderedMap.push]

/-- With distinct constants, a look-up finds the one field with the constant. -/
theorem get?_index_eq_some_iff {fields : List Field} (h : (fields.map Field.constant).Nodup)
    (c : String) (f : Field) :
    (index fields).get? c = some f ↔ f ∈ fields ∧ f.constant = c := by
  unfold OrderedMap.get?
  rw [entries_index]
  induction fields with
  | nil => simp
  | cons g rest ih =>
    obtain ⟨hg, hrest⟩ := List.nodup_cons.mp h
    rw [List.map_cons, SortedMap.lookup_cons]
    by_cases hc : c = g.constant
    · rw [if_pos hc]
      refine ⟨?_, ?_⟩
      · rintro ⟨rfl⟩
        exact ⟨List.mem_cons_self, hc.symm⟩
      · rintro ⟨hf, hfc⟩
        rcases List.mem_cons.mp hf with rfl | hf
        · rfl
        · rw [← hc, ← hfc] at hg
          exact absurd (List.mem_map_of_mem hf) hg
    · rw [if_neg hc, ih hrest]
      refine ⟨?_, ?_⟩
      · rintro ⟨hf, hfc⟩
        exact ⟨List.mem_cons_of_mem _ hf, hfc⟩
      · rintro ⟨hf, hfc⟩
        rcases List.mem_cons.mp hf with rfl | hf
        · exact absurd hfc.symm hc
        · exact ⟨hf, hfc⟩

theorem get?_index_eq_none_iff (fields : List Field) (c : String) :
    (index fields).get? c = none ↔ ∀ f ∈ fields, f.constant ≠ c := by
  rw [OrderedMap.get?_eq_none_iff, keys_index]
  simp

/-! ## One insertion -/

theorem insertUnique_of_acceptable {l : List Field} {f : Field} (h : Acceptable (l ++ [f])) :
    (index l).insertUnique f = .ok (index (l ++ [f])) := by
  obtain ⟨hvalid, hfree⟩ := (acceptable_snoc_iff h.of_append).mp h
  unfold insertUnique
  rw [(validateConstant_eq_ok_iff f).mpr hvalid, (get?_index_eq_none_iff l _).mpr hfree,
    push_index]

theorem insertUnique_of_refused {l : List Field} {f : Field} {e : FieldError} (h : Acceptable l)
    (hr : Refused l f e) : (index l).insertUnique f = .error e := by
  unfold insertUnique
  rcases hr with he | hl | ⟨g, hg, hc, hvalid⟩
  · rw [(validateConstant_eq_error_iff f _).mpr (.empty he)]
  · rw [(validateConstant_eq_error_iff f _).mpr (.tooLong hl)]
  · rw [(validateConstant_eq_ok_iff f).mpr hvalid,
      (get?_index_eq_some_iff h.distinct _ g).mpr ⟨hg, hc⟩]

/-- Each field is either taken or refused. -/
theorem acceptable_or_refused {l : List Field} (h : Acceptable l) (f : Field) :
    Acceptable (l ++ [f]) ∨ ∃ e, Refused l f e := by
  by_cases hvalid : ValidConstant f.constant
  · by_cases hfree : ∀ g ∈ l, g.constant ≠ f.constant
    · exact Or.inl ((acceptable_snoc_iff h).mpr ⟨hvalid, hfree⟩)
    · simp only [ne_eq, Classical.not_forall, Classical.not_not] at hfree
      obtain ⟨g, hg, hc⟩ := hfree
      exact Or.inr ⟨_, .taken g hg hc hvalid⟩
  · by_cases he : f.constant = ""
    · exact Or.inr ⟨_, .empty he⟩
    · have hl : 64 < f.constant.utf8ByteSize := by
        simp only [ValidConstant, not_and] at hvalid
        have := hvalid he
        omega
      exact Or.inr ⟨_, .tooLong hl⟩

/-- A field is taken exactly when it leaves the fields acceptable, and then it stands last. -/
theorem insertUnique_index_eq_ok_iff {l : List Field} (h : Acceptable l) (f : Field)
    (m : FieldMap) :
    (index l).insertUnique f = .ok m ↔ Acceptable (l ++ [f]) ∧ m = index (l ++ [f]) := by
  refine ⟨?_, ?_⟩
  · intro hm
    rcases acceptable_or_refused h f with hl | ⟨e, hr⟩
    · rw [insertUnique_of_acceptable hl] at hm
      cases hm
      exact ⟨hl, rfl⟩
    · rw [insertUnique_of_refused h hr] at hm
      cases hm
  · rintro ⟨hl, rfl⟩
    exact insertUnique_of_acceptable hl

theorem insertUnique_index_eq_error_iff {l : List Field} (h : Acceptable l) (f : Field)
    (e : FieldError) : (index l).insertUnique f = .error e ↔ Refused l f e := by
  refine ⟨?_, ?_⟩
  · intro he
    rcases acceptable_or_refused h f with hl | ⟨e', hr⟩
    · rw [insertUnique_of_acceptable hl] at he
      cases he
    · rw [insertUnique_of_refused h hr] at he
      cases he
      exact hr
  · exact insertUnique_of_refused h

/-! ## A list of insertions -/

/-- A list of fields is taken exactly when it leaves the fields acceptable as a whole. -/
theorem foldlM_insertUnique_eq_ok_iff {l : List Field} (h : Acceptable l) (fields : List Field)
    (m : FieldMap) :
    fields.foldlM insertUnique (index l) = .ok m ↔
      Acceptable (l ++ fields) ∧ m = index (l ++ fields) := by
  induction fields generalizing l with
  | nil =>
    rw [List.append_nil]
    refine ⟨?_, ?_⟩
    · rintro ⟨rfl⟩
      exact ⟨h, rfl⟩
    · rintro ⟨-, rfl⟩
      rfl
  | cons f rest ih =>
    rw [List.append_cons, List.foldlM_cons, bind_eq_ok_iff]
    refine ⟨?_, ?_⟩
    · rintro ⟨m₁, hf, hrest⟩
      obtain ⟨hl, rfl⟩ := (insertUnique_index_eq_ok_iff h f m₁).mp hf
      exact (ih hl).mp hrest
    · rintro ⟨hall, rfl⟩
      have hl := hall.of_append
      exact ⟨index (l ++ [f]), (insertUnique_index_eq_ok_iff h f _).mpr ⟨hl, rfl⟩,
        (ih hl).mpr ⟨hall, rfl⟩⟩

/-- A list of fields is refused with the error of its first field that is refused. -/
theorem foldlM_insertUnique_eq_error_iff {l : List Field} (h : Acceptable l)
    (fields : List Field) (e : FieldError) :
    fields.foldlM insertUnique (index l) = .error e ↔ FirstRefusal l fields e := by
  rw [foldlM_eq_error_iff]
  refine ⟨?_, ?_⟩
  · rintro ⟨before, f, after, m, hsplit, hbefore, hf⟩
    obtain ⟨hl, rfl⟩ := (foldlM_insertUnique_eq_ok_iff h before m).mp hbefore
    exact ⟨before, f, after, hsplit, hl, (insertUnique_index_eq_error_iff hl f e).mp hf⟩
  · rintro ⟨before, f, after, hsplit, hl, hf⟩
    exact ⟨before, f, after, _, hsplit, (foldlM_insertUnique_eq_ok_iff h before _).mpr ⟨hl, rfl⟩,
      (insertUnique_index_eq_error_iff hl f e).mpr hf⟩

end FieldMap

end RuleFields
