-- The laws of the parameters of a lookup source. They are given one call after
-- another, and of the calls with one key the last one counts. What is stored of
-- the source tells nothing else of the calls: each key stands once, in the
-- order of its bytes, and a source without parameters has no member for them.
import RuleFields.Proofs.Interchange.RoundTrip

namespace RuleFields

open Json (Doc)
open SortedMap (LastBinding SameLastBindings)

namespace LookupSource

/-! ## Calls -/

/-- The source with this name after these calls, each of which gives a key its value. -/
def ofCalls (name : String) (calls : List (String × String)) : LookupSource :=
  calls.foldl (fun s c => s.withParameter c.1 c.2) (named name)

/-- A call changes the parameters and nothing else. -/
theorem foldl_withParameter (s : LookupSource) (calls : List (String × String)) :
    calls.foldl (fun s c => s.withParameter c.1 c.2) s =
      ⟨s.name, calls.foldl (fun m c => m.insert c.1 c.2) s.parameters⟩ := by
  induction calls generalizing s with
  | nil => rfl
  | cons c rest ih => rw [List.foldl_cons, List.foldl_cons, ih, withParameter]

theorem ofCalls_eq (name : String) (calls : List (String × String)) :
    ofCalls name calls = ⟨name, .ofList calls⟩ :=
  foldl_withParameter (named name) calls

/-- Two runs of calls make one source exactly if they end with the same values. -/
theorem ofCalls_eq_ofCalls_iff (name : String) (calls calls' : List (String × String)) :
    ofCalls name calls = ofCalls name calls' ↔ SameLastBindings calls calls' := by
  rw [ofCalls_eq, ofCalls_eq, mk.injEq, SortedMap.ofList_eq_ofList_iff]
  exact and_iff_right rfl

/-! ## What is stored -/

theorem encode_eq_encode_iff (s t : LookupSource) :
    format.encode s = format.encode t ↔ s = t :=
  ⟨(Format.lossless_of_ofDoc? numberFree_toJson ofDoc?_toJson).2 s t, congrArg format.encode⟩

/-- The text that is stored of a source writes its name, and its parameters if there are any. -/
theorem read?_encode (s : LookupSource) :
    Doc.read? (format.encode s) = some (.object ((some "name", .string (some s.name)) ::
      if s.parameters.isEmpty then []
      else [(some "parameters", s.parameters.toJson.toDoc)])) := by
  have hread : Doc.read? (format.encode s) = some s.toJson.toDoc :=
    Json.read?_compact (numberFree_toJson s)
  rw [hread, toJson]
  split <;> rfl

end LookupSource

/-! ## The law -/

open LookupSource in
/-- A source has its name, and as parameters the last values that its calls gave. So two runs of
calls that end with the same values make one source and are stored as one text, and no others do:
calls with different keys may change places, and a call that is overridden may be left out. In the
text each key stands once, in the order of the bytes, and the parameters stand in it if there was
a call. -/
theorem the_last_call_gives_a_parameter_its_value (name : String)
    (calls : List (String × String)) :
    (ofCalls name calls).name = name ∧
    (∀ k v, (ofCalls name calls).parameters.get? k = some v ↔
      ∃ before after, calls = before ++ (k, v) :: after ∧ ∀ c ∈ after, c.1 ≠ k) ∧
    (∀ k, (ofCalls name calls).parameters.get? k = none ↔ ∀ c ∈ calls, c.1 ≠ k) ∧
    (∀ calls', ofCalls name calls = ofCalls name calls' ↔ SameLastBindings calls calls') ∧
    (∀ calls', format.encode (ofCalls name calls) = format.encode (ofCalls name calls') ↔
      SameLastBindings calls calls') ∧
    (∀ before c d after, calls = before ++ c :: d :: after → c.1 ≠ d.1 →
      SameLastBindings calls (before ++ d :: c :: after)) ∧
    (∀ before c after, calls = before ++ c :: after → (∃ d ∈ after, d.1 = c.1) →
      SameLastBindings calls (before ++ after)) ∧
    ∃ entries : List (String × String),
      entries.Pairwise (fun a b => a.1.toUTF8.data.toList < b.1.toUTF8.data.toList) ∧
      (∀ k v, (k, v) ∈ entries ↔ LastBinding calls k v) ∧
      Doc.read? (format.encode (ofCalls name calls)) =
        some (.object ((some "name", .string (some name)) ::
          if calls = [] then []
          else [(some "parameters",
            .object (entries.map fun e => (some e.1, .string (some e.2))))])) := by
  have hparameters : (ofCalls name calls).parameters = .ofList calls := by rw [ofCalls_eq]
  refine ⟨by rw [ofCalls_eq], ?_, ?_, ofCalls_eq_ofCalls_iff name calls, ?_, ?_, ?_, ?_⟩
  · intro k v
    rw [hparameters]
    exact SortedMap.get?_ofList_eq_some_iff calls k v
  · intro k
    rw [hparameters]
    exact SortedMap.get?_ofList_eq_none_iff calls k
  · intro calls'
    rw [encode_eq_encode_iff, ofCalls_eq_ofCalls_iff]
  · rintro before c d after rfl h
    exact SortedMap.sameLastBindings_swap before h after
  · rintro before c after rfl h
    exact SortedMap.sameLastBindings_erase before h
  · refine ⟨(SortedMap.ofList calls).entries, SortedMap.pairwise_toUTF8_lt _, ?_, ?_⟩
    · intro k v
      rw [SortedMap.mem_entries_iff, SortedMap.get?_ofList_eq_some_iff]
    · simp only [read?_encode, ofCalls_eq, SortedMap.isEmpty_ofList_iff, Doc.toDoc_stringMap]

open LookupSource in
/-- The first viewer is overridden, so it leaves no trace in what is stored. -/
theorem an_overridden_viewer_leaves_no_trace :
    (∃ d ∈ [("team", "a"), ("viewer", "all")], d.1 = "viewer") ∧
      format.encode (ofCalls "users" [("viewer", "any"), ("team", "a"), ("viewer", "all")]) =
        format.encode (ofCalls "users" [("team", "a"), ("viewer", "all")]) := by
  have hlater : ∃ d ∈ [("team", "a"), ("viewer", "all")], d.1 = "viewer" :=
    ⟨("viewer", "all"), by simp, rfl⟩
  obtain ⟨-, -, -, -, htext, -, herase, -⟩ := the_last_call_gives_a_parameter_its_value "users"
    [("viewer", "any"), ("team", "a"), ("viewer", "all")]
  exact ⟨hlater, (htext _).mpr (herase [] ("viewer", "any") _ rfl hlater)⟩

/-- What is left is in order, wherever the calls stood. -/
example : LookupSource.format.encode
    (.ofCalls "users" [("viewer", "any"), ("team", "a"), ("viewer", "all")]) =
      "\x7b\"name\":\"users\",\"parameters\":\x7b\"team\":\"a\",\"viewer\":\"all\"\x7d\x7d" := by
  decide

end RuleFields
