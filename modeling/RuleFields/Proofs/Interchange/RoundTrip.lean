-- The laws of storage: what is stored of a value is read back as the value, so
-- no two values of a type are stored as one text.
import RuleFields.Proofs.Interchange.Parts
import RuleFields.Proofs.Json.Compact

namespace RuleFields

open Json (Doc NumberFree)

/-! ## Formats -/

namespace Format

variable {α : Type}

/-- Nothing is lost in storage. -/
def Lossless (f : Format α) : Prop :=
  (∀ x, f.decode? (f.encode x) = some x) ∧ ∀ x y, f.encode x = f.encode y → x = y

theorem decode?_encode {f : Format α} {x : α} (h : NumberFree (f.toJson x)) :
    f.decode? (f.encode x) = f.ofDoc? (f.toJson x).toDoc := by
  unfold decode? encode
  rw [Json.read?_compact h]
  rfl

/-- Without numbers, the text loses nothing that the document keeps. -/
theorem lossless_of_ofDoc? {f : Format α} (hfree : ∀ x, NumberFree (f.toJson x))
    (hread : ∀ x, f.ofDoc? (f.toJson x).toDoc = some x) : f.Lossless := by
  have hdecode : ∀ x, f.decode? (f.encode x) = some x := fun x => by
    rw [decode?_encode (hfree x), hread]
  refine ⟨hdecode, fun x y h => ?_⟩
  have hsame := hdecode x
  rw [h, hdecode y] at hsame
  exact (Option.some.inj hsame).symm

end Format

/-! ## No numbers -/

@[simp] theorem StringMap.numberFree_toJson (m : StringMap) : NumberFree m.toJson := by
  apply NumberFree.object
  intro x hx
  obtain ⟨e, -, rfl⟩ := List.mem_map.mp hx
  exact .string e.2

@[simp] theorem LookupSource.numberFree_toJson (s : LookupSource) : NumberFree s.toJson := by
  unfold toJson
  split
  · simp
  · simp

@[simp] theorem ValueShape.numberFree_toJson (v : ValueShape) : NumberFree v.toJson := by
  cases v with
  | empty => simp [toJson]
  | text => simp [toJson]
  | tokenizer source => simp [toJson]

theorem FieldValue.numberFree_toJson (v : FieldValue) : NumberFree v.toJson := by
  cases v <;> simp [toJson]

@[simp] theorem ConditionSpec.numberFree_toJson (c : ConditionSpec) : NumberFree c.toJson := by
  unfold toJson Condition.toJson
  split
  · simp
  · simp

theorem FieldSpec.numberFree_toJson (f : FieldSpec) : NumberFree f.toJson := by
  unfold toJson StandardType.toJson
  split
  · simp
  · simp

/-! ## Vocabularies -/

theorem Condition.ofDoc?_toJson (c : Condition) : ofDoc? c.toJson.toDoc = some c := by
  cases c <;> rfl

theorem StandardType.ofDoc?_toJson (t : StandardType) : ofDoc? t.toJson.toDoc = some t := by
  cases t <;> rfl

/-! ## Lookup sources and shapes -/

theorem LookupSource.ofDoc?_toJson (s : LookupSource) : ofDoc? s.toJson.toDoc = some s := by
  obtain ⟨name, parameters⟩ := s
  unfold toJson
  split
  · rename_i hempty
    obtain rfl := SortedMap.eq_empty_of_isEmpty hempty
    rfl
  · have hparameters := Doc.stringMap?_toJson parameters
    simp [ofDoc?, hparameters]

theorem LookupSource.isReadable_toJson (s : LookupSource) (room : Nat) :
    s.toJson.toDoc.isReadable (room + 2) = true := by
  have hname : (Doc.string (some s.name)).isReadable (room + 1) = true := rfl
  have hparameters := Doc.isReadable_stringMap s.parameters room
  unfold toJson
  apply Doc.isReadable_object
  split
  · simp [hname]
  · simp [hname, hparameters]

/-- A shape is read as it was wherever there is room for its source. -/
theorem ValueShape.ofDoc?_toJson (v : ValueShape) (room : Nat) :
    ofDoc? (room + 3) v.toJson.toDoc = some v := by
  cases v with
  | empty => rfl
  | text => rfl
  | tokenizer source =>
    have hreadable := source.isReadable_toJson room
    have hsource := source.ofDoc?_toJson
    simp [toJson, ofDoc?, hreadable, ofMembers?, hsource]

/-! ## Field values -/

theorem FieldValue.ofDoc?_toJson (v : FieldValue) : ofDoc? v.toJson.toDoc = some v := by
  cases v with
  | null => rfl
  | bool b => rfl
  | text s => rfl
  | textList items =>
    have hitems := Doc.texts?_strings items
    simp [toJson, ofDoc?, ofContent?, hitems]
  | textMap entries =>
    have hentries := Doc.stringMap?_toJson entries
    simp [toJson, ofDoc?, ofContent?, hentries]
  | phid id => rfl
  | phidList ids =>
    have hids := Doc.texts?_strings ids
    simp [toJson, ofDoc?, ofContent?, hids]

/-! ## Specs -/

/-- What is written and is not null is read. -/
theorem orNull_some {α : Type} {read : Doc → Option α} {d : Doc} {x : α} (hd : d ≠ .null)
    (h : read d = some x) : orNull read (some d) = some (some x) := by
  cases d with
  | null => exact absurd rfl hd
  | _ => exact congrArg (some <$> ·) h

theorem ConditionSpec.ofDoc?_toJson (c : ConditionSpec) (room : Nat) :
    ofDoc? (room + 4) c.toJson.toDoc = some c := by
  obtain ⟨condition, label, value⟩ := c
  have hcondition := condition.ofDoc?_toJson
  cases value with
  | none =>
    simp [toJson, ofDoc?, hcondition, orNull]
  | some shape =>
    have hshape : orNull (ValueShape.ofDoc? (room + 3)) (some shape.toJson.toDoc) =
        some (some shape) := by
      refine orNull_some ?_ (shape.ofDoc?_toJson room)
      cases shape <;> simp [ValueShape.toJson]
    simp [toJson, ofDoc?, hcondition, hshape]

theorem FieldSpec.ofDoc?_toJson (f : FieldSpec) (room : Nat) :
    ofDoc? (room + 6) f.toJson.toDoc = some f := by
  obtain ⟨constant, name, standardType, conditions⟩ := f
  have hconditions : ConditionSpec.listOfDoc? (room + 5)
      (some (Json.array (conditions.map ConditionSpec.toJson)).toDoc) = some conditions := by
    rw [Json.toDoc_array_map]
    exact mapM_map_of_inverse _ (fun c => c.ofDoc?_toJson room) conditions
  cases standardType with
  | none =>
    simp [toJson, ofDoc?, orNull, hconditions]
  | some t =>
    have htype : orNull StandardType.ofDoc? (some t.toJson.toDoc) = some (some t) :=
      orNull_some (by simp [StandardType.toJson]) t.ofDoc?_toJson
    simp [toJson, ofDoc?, htype, hconditions]

/-! ## What is stored -/

/-- What is stored of a lookup source, a shape, a field value or a spec is read back as it was,
whatever texts, lists and maps it holds and whichever members are left out. Null is stored
without content. -/
theorem nothing_is_lost_in_storage :
    LookupSource.format.Lossless ∧ ValueShape.format.Lossless ∧ FieldValue.format.Lossless ∧
      ConditionSpec.format.Lossless ∧ FieldSpec.format.Lossless ∧
      FieldValue.null.toJson = .object [("kind", .string "null")] := by
  refine ⟨?_, ?_, ?_, ?_, ?_, rfl⟩
  · exact Format.lossless_of_ofDoc? LookupSource.numberFree_toJson LookupSource.ofDoc?_toJson
  · exact Format.lossless_of_ofDoc? ValueShape.numberFree_toJson (·.ofDoc?_toJson 124)
  · exact Format.lossless_of_ofDoc? FieldValue.numberFree_toJson FieldValue.ofDoc?_toJson
  · exact Format.lossless_of_ofDoc? ConditionSpec.numberFree_toJson (·.ofDoc?_toJson 123)
  · exact Format.lossless_of_ofDoc? FieldSpec.numberFree_toJson (·.ofDoc?_toJson 121)

end RuleFields
