-- The laws of the editor form of a list. It is an object of the labels of the
-- texts in the list, each text once and in order. So neither the order of the
-- list nor what repeats in it shows, if no label depends on the others.
import RuleFields.EditorValue
import RuleFields.Proofs.Labels
import RuleFields.Proofs.SortedMap

namespace RuleFields

variable {r : Resolver}

/-- The labels of these references, in the order of the references and each once. -/
def labelMap (r : Resolver) (ids : List String) : SortedMap Json :=
  .ofList (ids.map fun id => (id, .string (r.labelAmong ids id)))

theorem mem_labelMap_iff {ids : List String} {id : String} {j : Json} :
    (id, j) ∈ (labelMap r ids).entries ↔ id ∈ ids ∧ j = .string (r.labelAmong ids id) := by
  rw [SortedMap.mem_entries_iff, labelMap, SortedMap.get?_ofList_graph]
  by_cases h : id ∈ ids
  · rw [if_pos h, Option.some_inj]
    exact ⟨fun hj => ⟨h, hj.symm⟩, fun hj => hj.2.symm⟩
  · simp [h]

/-- Of a steady resolver, only the set of the references matters. -/
theorem labelMap_congr (hr : r.Steady) {ids ids' : List String} (h : ∀ id, id ∈ ids ↔ id ∈ ids') :
    labelMap r ids = labelMap r ids' := by
  apply SortedMap.eq_of_get?
  intro id
  rw [labelMap, labelMap, SortedMap.get?_ofList_graph, SortedMap.get?_ofList_graph]
  by_cases hid : id ∈ ids
  · rw [if_pos hid, if_pos ((h id).mp hid), hr ids ids' id hid ((h id).mp hid)]
  · rw [if_neg hid, if_neg (mt (h id).mpr hid)]

theorem value_editorValue (items : List Json) :
    (editorValue (.array items) r).value =
      .object (labelMap r (items.filterMap Json.string?)).entries := by
  unfold editorValue labelMap
  dsimp only [Traced.value_bind, Traced.value_pure]
  rw [Traced.value_mapM]
  refine congrArg (fun members => Json.object (SortedMap.ofList members).entries) ?_
  apply List.map_congr_left
  intro id hid
  rw [Traced.value_bind, Traced.value_pure, Resolver.value_labelFrom,
    Resolver.getD_resolveLabels hid]

theorem calls_editorValue (items : List Json) :
    (editorValue (.array items) r).calls = r.callsFor (items.filterMap Json.string?) := by
  unfold editorValue
  dsimp only [Traced.calls_bind, Traced.calls_pure]
  rw [Traced.calls_forM_report, Traced.calls_mapM, List.nil_append, List.append_nil]
  simp only [Traced.calls_bind, Traced.calls_pure, List.append_nil]
  exact Resolver.calls_resolveLabels_append _

/-- A value that is not a list stays as it is, without a call or a report. -/
theorem editorValue_of_not_list {v : Json} (h : ∀ items, v ≠ .array items) :
    editorValue v r = pure v := by
  cases v with
  | array items => exact absurd rfl (h items)
  | _ => rfl

/-- The editor form is never a list. -/
theorem value_editorValue_ne_array (v : Json) (items : List Json) :
    (editorValue v r).value ≠ .array items := by
  intro h
  cases v with
  | array items' =>
    rw [value_editorValue] at h
    cases h
  | _ => cases h

/-! ## The law -/

/-- The editor form of a list is an object. Its keys are the texts in the list, in the order of
their bytes, and each has its label: that of the one answer for all of them, or the one that it
has alone where the answer lacks it. If no label depends on the others, two lists of the same
texts have one editor form. A value that is not a list stays as it is, so an editor form does. -/
theorem an_editor_gets_the_label_of_each_text (r : Resolver) :
    (∀ items ids, ids = items.filterMap Json.string? →
      (∃ members, (editorValue (.array items) r).value = .object members ∧
        members.Pairwise (fun a b => a.1.toUTF8.data.toList < b.1.toUTF8.data.toList) ∧
        ∀ id j, (id, j) ∈ members ↔
          .string id ∈ items ∧ j = .string (r.labelAmong ids id)) ∧
      (editorValue (.array items) r).calls = r.callsFor ids) ∧
    (r.Steady → ∀ items items', (∀ id, .string id ∈ items ↔ .string id ∈ items') →
      (editorValue (.array items) r).value = (editorValue (.array items') r).value ∧
      (editorValue (.array items) r).value.compact =
        (editorValue (.array items') r).value.compact) ∧
    (∀ v, (∀ items, v ≠ .array items) → editorValue v r = pure v) ∧
    ∀ v r', editorValue (editorValue v r).value r' = pure (editorValue v r).value := by
  refine ⟨?_, ?_, ?_, ?_⟩
  · rintro items ids rfl
    refine ⟨⟨_, value_editorValue items, SortedMap.pairwise_toUTF8_lt _, fun id j => ?_⟩,
      calls_editorValue items⟩
    rw [mem_labelMap_iff, Json.mem_filterMap_string?_iff]
  · intro hr items items' h
    have hsame : labelMap r (items.filterMap Json.string?) =
        labelMap r (items'.filterMap Json.string?) := by
      apply labelMap_congr hr
      intro id
      rw [Json.mem_filterMap_string?_iff, Json.mem_filterMap_string?_iff]
      exact h id
    have hvalue : (editorValue (.array items) r).value = (editorValue (.array items') r).value := by
      rw [value_editorValue, value_editorValue, hsame]
    exact ⟨hvalue, congrArg Json.compact hvalue⟩
  · intro v h
    exact editorValue_of_not_list h
  · intro v r'
    exact editorValue_of_not_list (value_editorValue_ne_array v)

/-- Neither the order of a list nor what stands in it twice or is no text shows to an editor. -/
theorem the_order_of_a_list_does_not_show :
    Resolver.shortDirectory.Steady ∧
      (editorValue (.array [.string "PHID-USER-2", .null, .string "PHID-USER-1",
          .string "PHID-USER-2"]) .shortDirectory).value =
        (editorValue (.array [.string "PHID-USER-1", .string "PHID-USER-2"])
          .shortDirectory).value := by
  obtain ⟨-, hsame, -, -⟩ := an_editor_gets_the_label_of_each_text .shortDirectory
  refine ⟨Resolver.shortDirectory_steady, (hsame Resolver.shortDirectory_steady _ _ ?_).1⟩
  intro id
  simp only [List.mem_cons, Json.string.injEq, reduceCtorEq, List.not_mem_nil, or_false, false_or]
  grind

end RuleFields
