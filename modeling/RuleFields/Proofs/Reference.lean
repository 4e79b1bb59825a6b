-- The laws of references of the usual form. A text has a type exactly if it is
-- `PHID-`, the type, a dash and anything, and a type is four characters, none of
-- them a dash. A namespace takes the references of its types and no others.
import Mathlib.Data.String.Basic
import RuleFields.Reference

namespace RuleFields

/-! ## Types -/

/-- A type of references: four characters, none of them a dash. -/
def IsPhidType (t : String) : Prop := t.length = 4 ∧ '-' ∉ t.toList

/-- The text is a reference of this type: after the type and its dash anything may follow. -/
def IsPhidOf (t s : String) : Prop := IsPhidType t ∧ ∃ rest, s = "PHID-" ++ t ++ "-" ++ rest

theorem isPhidType_ofList_iff (a b c d : Char) :
    IsPhidType (String.ofList [a, b, c, d]) ↔ '-' ∉ [a, b, c, d] := by
  unfold IsPhidType
  rw [← String.length_toList, String.toList_ofList]
  exact and_iff_right rfl

theorem IsPhidType.exists_chars {t : String} (h : IsPhidType t) :
    ∃ a b c d, t = String.ofList [a, b, c, d] := by
  obtain ⟨hlength, -⟩ := h
  rw [← String.length_toList] at hlength
  obtain ⟨a, b, c, d, ht⟩ := List.length_eq_four.mp hlength
  exact ⟨a, b, c, d, by rw [← ht, String.ofList_toList]⟩

/-! ## The type of a text -/

theorem isPhidOf_of_phidType {s t : String} (h : phidType s = some t) : IsPhidOf t s := by
  unfold phidType at h
  split at h
  · rename_i a b c d rest hs
    split at h
    · cases h
    · rename_i hdash
      cases h
      refine ⟨(isPhidType_ofList_iff a b c d).mpr hdash, String.ofList rest, String.ext ?_⟩
      simp [String.toList_append, hs]
  · cases h

theorem phidType_of_isPhidOf {s t : String} (h : IsPhidOf t s) : phidType s = some t := by
  obtain ⟨htype, rest, rfl⟩ := h
  obtain ⟨a, b, c, d, rfl⟩ := htype.exists_chars
  have hdash := (isPhidType_ofList_iff a b c d).mp htype
  have hs : ("PHID-" ++ String.ofList [a, b, c, d] ++ "-" ++ rest).toList =
      'P' :: 'H' :: 'I' :: 'D' :: '-' :: a :: b :: c :: d :: '-' :: rest.toList := by
    simp [String.toList_append]
  unfold phidType
  rw [hs]
  exact if_neg hdash

theorem phidType_eq_some_iff (s t : String) : phidType s = some t ↔ IsPhidOf t s :=
  ⟨isPhidOf_of_phidType, phidType_of_isPhidOf⟩

/-- What counts is characters, not bytes, and a dash ends the type even where it comes too soon. -/
example : phidType "PHID-é\n漢x-" = some "é\n漢x" ∧ phidType "PHID-US-R-1" = none := by decide

/-- A text is a reference in one way only. -/
theorem IsPhidType.unique {t t' rest rest' : String} (h : IsPhidType t) (h' : IsPhidType t')
    (heq : "PHID-" ++ t ++ "-" ++ rest = "PHID-" ++ t' ++ "-" ++ rest') :
    t = t' ∧ rest = rest' := by
  have ht := phidType_of_isPhidOf ⟨h, rest, rfl⟩
  rw [heq, phidType_of_isPhidOf ⟨h', rest', rfl⟩, Option.some_inj] at ht
  subst ht
  rw [← String.toList_inj, String.toList_append, String.toList_append (t := rest'),
    List.append_cancel_left_eq, String.toList_inj] at heq
  exact ⟨rfl, heq⟩

/-! ## Namespaces -/

namespace PhidNamespace

theorem isKnownReference_any_iff (s : String) :
    any.isKnownReference s = true ↔ ∃ t, phidType s = some t := by
  unfold isKnownReference any
  cases phidType s <;> simp

theorem isKnownReference_withTypes_iff (types : List String) (s : String) :
    (withTypes types).isKnownReference s = true ↔ ∃ t ∈ types, phidType s = some t := by
  unfold isKnownReference withTypes
  cases phidType s with
  | none => simp
  | some t => simp [eq_comm]

/-- Two lists with the same types of references, whatever else they hold, know the same texts. -/
theorem isKnownReference_congr {types types' : List String}
    (h : ∀ t, IsPhidType t → (t ∈ types ↔ t ∈ types')) (s : String) :
    (withTypes types).isKnownReference s = (withTypes types').isKnownReference s := by
  rw [Bool.eq_iff_iff, isKnownReference_withTypes_iff, isKnownReference_withTypes_iff]
  refine exists_congr fun t => and_congr_left fun ht => h t ?_
  exact (isPhidOf_of_phidType ht).1

end PhidNamespace

/-! ## The law -/

open PhidNamespace in
/-- The type of a text is the four characters before its second dash, if the text is a reference
of the usual form and these are none of them dashes. A list of types knows the references of its
types and no others: only the set of the types counts, more types know more, no type knows
nothing, and what cannot be a type makes no difference. -/
theorem a_reference_is_known_by_its_type (s : String) :
    (∀ t, phidType s = some t ↔
      (t.length = 4 ∧ '-' ∉ t.toList) ∧ ∃ rest, s = "PHID-" ++ t ++ "-" ++ rest) ∧
    (∀ t t' rest rest', IsPhidType t → IsPhidType t' → s = "PHID-" ++ t ++ "-" ++ rest →
      s = "PHID-" ++ t' ++ "-" ++ rest' → t = t' ∧ rest = rest') ∧
    (∀ types, (withTypes types).isKnownReference s = true ↔ ∃ t ∈ types, phidType s = some t) ∧
    (∀ types types', (∀ t, t ∈ types ↔ t ∈ types') →
      (withTypes types).isKnownReference s = (withTypes types').isKnownReference s) ∧
    (∀ types types', types ⊆ types' → (withTypes types).isKnownReference s = true →
      (withTypes types').isKnownReference s = true) ∧
    (withTypes []).isKnownReference s = false ∧
    (∀ before t after, ¬ IsPhidType t →
      (withTypes (before ++ t :: after)).isKnownReference s =
        (withTypes (before ++ after)).isKnownReference s) ∧
    (any.isKnownReference s = true ↔ ∃ t, phidType s = some t) ∧
    ∀ types, (withTypes types).isKnownReference s = true → any.isKnownReference s = true := by
  refine ⟨phidType_eq_some_iff s, ?_, fun types => isKnownReference_withTypes_iff types s, ?_, ?_,
    ?_, ?_, isKnownReference_any_iff s, ?_⟩
  · rintro t t' rest rest' h h' rfl heq
    exact h.unique h' heq
  · intro types types' h
    exact isKnownReference_congr (fun t _ => h t) s
  · intro types types' hsub h
    obtain ⟨t, ht, hs⟩ := (isKnownReference_withTypes_iff types s).mp h
    exact (isKnownReference_withTypes_iff types' s).mpr ⟨t, hsub ht, hs⟩
  · rw [Bool.eq_false_iff, ne_eq, isKnownReference_withTypes_iff]
    rintro ⟨t, ht, -⟩
    cases ht
  · intro before t after hnot
    apply isKnownReference_congr
    intro t' ht'
    have hne : t' ≠ t := fun heq => hnot (heq ▸ ht')
    simp [hne]
  · intro types h
    obtain ⟨t, -, hs⟩ := (isKnownReference_withTypes_iff types s).mp h
    exact (isKnownReference_any_iff s).mpr ⟨t, hs⟩

end RuleFields
