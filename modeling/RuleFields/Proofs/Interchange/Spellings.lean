-- The laws of spelling: however a value is written, it is read as the value.
-- Members may come in any order, with others between them, those that say
-- nothing may be left out, and a list may stand for an object. A member that is
-- written twice is refused.
import Mathlib.Data.List.Forall2
import RuleFields.Proofs.Interchange.FieldValues
import RuleFields.Proofs.Json.Compact

namespace RuleFields

open Json (Doc)

/-! ## The ways to write a value -/

def Condition.WrittenAs (c : Condition) (d : Doc) : Prop := d.Names c.id

def StandardType.WrittenAs (t : StandardType) (d : Doc) : Prop := d.Names t.id

/-- The parameters may be left out if there are none. -/
def LookupSource.WrittenAs (s : LookupSource) (d : Doc) : Prop :=
  ∃ parameters, Doc.DefaultWrittenAs StringMap.WrittenAs .empty s.parameters parameters ∧
    Doc.Parts.WrittenAs [("name", some (.string (some s.name))), ("parameters", parameters)] d

/-- A shape has its kind as a part, and what belongs to the kind. -/
inductive ValueShape.HasParts : ValueShape → Doc.Parts → Prop
  | empty : HasParts .empty [("kind", some (.string (some "empty")))]
  | text : HasParts .text [("kind", some (.string (some "text")))]
  | tokenizer {source : LookupSource} {d : Doc} (h : source.WrittenAs d) :
      HasParts (.tokenizer source)
        [("kind", some (.string (some "tokenizer"))), ("lookup_source", some d)]

def ValueShape.WrittenAs (v : ValueShape) (d : Doc) : Prop :=
  ∃ ps, v.HasParts ps ∧ Doc.Parts.WrittenAs ps d

/-- Only an object may leave out the content of null. -/
inductive FieldValue.WrittenAs (v : FieldValue) : Doc → Prop
  | object {kind : String} {content : Option Doc} {ms : Doc.Members} (hfits : Fits kind content v)
      (h : Doc.Parts.WrittenAs [("kind", some (.string (some kind))), ("value", content)]
        (.object ms)) : WrittenAs v (.object ms)
  | list {kind : String} {content : Doc} (hfits : Fits kind (some content) v) :
      WrittenAs v (.array [.string (some kind), content])

/-- The shape may be left out or null if there is none. -/
def ConditionSpec.WrittenAs (c : ConditionSpec) (d : Doc) : Prop :=
  ∃ condition value, c.condition.WrittenAs condition ∧
    Doc.OptionWrittenAs ValueShape.WrittenAs c.value value ∧
    Doc.Parts.WrittenAs
      [("condition", some condition), ("label", some (.string (some c.label))), ("value", value)] d

/-- A list of conditions, each written in its own way. -/
def ConditionSpec.ListWrittenAs (cs : List ConditionSpec) (d : Doc) : Prop :=
  ∃ items, List.Forall₂ ConditionSpec.WrittenAs cs items ∧ d = .array items

/-- The type may be left out or null if there is none, and the conditions may be left out. -/
def FieldSpec.WrittenAs (f : FieldSpec) (d : Doc) : Prop :=
  ∃ standardType conditions,
    Doc.OptionWrittenAs StandardType.WrittenAs f.standardType standardType ∧
    Doc.DefaultWrittenAs ConditionSpec.ListWrittenAs [] f.conditions conditions ∧
    Doc.Parts.WrittenAs
      [("constant", some (.string (some f.constant))), ("name", some (.string (some f.name))),
        ("standard_type", standardType), ("conditions", conditions)] d

/-! ## Reading what is written -/

theorem Condition.ofName?_eq_some_iff (name : String) (c : Condition) :
    ofName? name = some c ↔ c.id = name := by
  refine ⟨?_, ?_⟩
  · intro h
    unfold ofName? at h
    split at h
    all_goals cases h
    all_goals rfl
  · rintro rfl
    cases c <;> rfl

theorem StandardType.ofName?_eq_some_iff (name : String) (t : StandardType) :
    ofName? name = some t ↔ t.id = name := by
  refine ⟨?_, ?_⟩
  · intro h
    unfold ofName? at h
    split at h
    all_goals cases h
    all_goals rfl
  · rintro rfl
    cases t <;> rfl

theorem Condition.ofDoc?_eq_some_iff {c : Condition} {d : Doc} :
    ofDoc? d = some c ↔ c.WrittenAs d := by
  unfold ofDoc?
  simp only [Option.bind_eq_bind, Option.bind_eq_some_iff, ofName?_eq_some_iff, exists_eq_right']
  exact Doc.name?_eq_some_iff

theorem StandardType.ofDoc?_eq_some_iff {t : StandardType} {d : Doc} :
    ofDoc? d = some t ↔ t.WrittenAs d := by
  unfold ofDoc?
  simp only [Option.bind_eq_bind, Option.bind_eq_some_iff, ofName?_eq_some_iff, exists_eq_right']
  exact Doc.name?_eq_some_iff

theorem LookupSource.ofDoc?_of_writtenAs {s : LookupSource} {d : Doc} {room : Nat}
    (h : s.WrittenAs d) (hd : d.isReadable room = true) : ofDoc? d = some s := by
  obtain ⟨name, parameters⟩ := s
  obtain ⟨content, hcontent, h⟩ := h
  cases d with
  | object ms =>
    have hkeys := Doc.hasReadableKeys_of_isReadable hd
    have hname : Doc.Members.required? ms "name" = some (.string (some name)) :=
      h.required? (by simp) (by simp)
    have hparameters : Doc.Members.optional? ms "parameters" = some content :=
      h.optional? (by simp) (by simp)
    cases hcontent with
    | leftOut hnone =>
      obtain rfl : parameters = .empty := hnone
      simp [ofDoc?, hkeys, hname, hparameters]
    | written hmap =>
      simp [ofDoc?, hkeys, hname, hparameters, Doc.stringMap?_eq_some_iff.mpr hmap]
  | array items =>
    have hitems := h.listed
    obtain ⟨rest, rfl, hrest⟩ := Doc.Parts.listed_cons_some.mp hitems
    cases hcontent with
    | leftOut hnone =>
      obtain rfl : parameters = .empty := hnone
      obtain ⟨rfl, -⟩ := Doc.Parts.listed_cons_none.mp hrest
      rfl
    | written hmap =>
      obtain ⟨rest, rfl, hend⟩ := Doc.Parts.listed_cons_some.mp hrest
      obtain rfl := Doc.Parts.listed_nil.mp hend
      simp [ofDoc?, Doc.stringMap?_eq_some_iff.mpr hmap]
  | _ => cases h

/-- The other members are what the kind needs, whatever stands between them. -/
theorem ValueShape.ofMembers?_of_hasParts {v : ValueShape} {ps : Doc.Parts} {ms : Doc.Members}
    {room : Nat} (hps : v.HasParts ps) (h : ps.WrittenAs (.object ms))
    (hall : ∀ m ∈ ms, m.2.isReadable room = true) :
    ∃ kind, ms.required? "kind" = some (.string (some kind)) ∧
      ofMembers? kind (ms.filter fun m => m.1 != some "kind") = some v := by
  cases hps with
  | empty => exact ⟨"empty", h.required? (by simp) (by simp), rfl⟩
  | text => exact ⟨"text", h.required? (by simp) (by simp), rfl⟩
  | @tokenizer source d hsource =>
    have hholds : Doc.Members.Holds ms "lookup_source" (some d) := h.holds (by simp) (by simp)
    have hother : "lookup_source" ≠ "kind" := by decide
    have hrequired := Doc.Members.required?_eq_some_iff.mpr (hholds.without hother)
    have hread := LookupSource.ofDoc?_of_writtenAs hsource (hall _ hholds.mem)
    refine ⟨"tokenizer", h.required? (by simp) (by simp), ?_⟩
    simp [ofMembers?, hrequired, hread]

/-- A list goes on after the kind with what the kind needs. -/
theorem ValueShape.ofElements?_of_hasParts {v : ValueShape} {ps : Doc.Parts} {items : List Doc}
    {room : Nat} (hps : v.HasParts ps) (h : ps.Listed items)
    (hall : ∀ d ∈ items, d.isReadable room = true) :
    ∃ kind others, items = .string (some kind) :: others ∧ ofElements? kind others = some v := by
  cases hps with
  | empty =>
    obtain ⟨others, rfl, hend⟩ := Doc.Parts.listed_cons_some.mp h
    obtain rfl := Doc.Parts.listed_nil.mp hend
    exact ⟨"empty", [], rfl, rfl⟩
  | text =>
    obtain ⟨others, rfl, hend⟩ := Doc.Parts.listed_cons_some.mp h
    obtain rfl := Doc.Parts.listed_nil.mp hend
    exact ⟨"text", [], rfl, rfl⟩
  | @tokenizer source d hsource =>
    obtain ⟨others, rfl, hlookup⟩ := Doc.Parts.listed_cons_some.mp h
    obtain ⟨rest, rfl, hend⟩ := Doc.Parts.listed_cons_some.mp hlookup
    obtain rfl := Doc.Parts.listed_nil.mp hend
    have hread := LookupSource.ofDoc?_of_writtenAs hsource (hall d (by simp))
    exact ⟨"tokenizer", [d], rfl, by simp [ofElements?, hread]⟩

/-- A shape is read however it is written, if there is room for all of its members. -/
theorem ValueShape.ofDoc?_of_writtenAs {v : ValueShape} {d : Doc} {room : Nat}
    (h : v.WrittenAs d) (hd : d.isReadable room = true) : ofDoc? room d = some v := by
  obtain ⟨ps, hps, h⟩ := h
  cases d with
  | object ms =>
    have hkeys := Doc.hasReadableKeys_of_isReadable hd
    have hall : ∀ m ∈ ms, m.2.isReadable (room - 1) = true := fun m hm =>
      (Doc.isReadable_of_mem_object hd m hm).2
    have hothers : (ms.filter fun m => m.1 != some "kind").all
        (fun m => m.2.isReadable (room - 1)) = true :=
      List.all_eq_true.mpr fun m hm => hall m (List.mem_of_mem_filter hm)
    obtain ⟨kind, hkind, hread⟩ := ofMembers?_of_hasParts hps h hall
    simp [ofDoc?, hkeys, hkind, hothers, hread]
  | array items =>
    have hall := Doc.isReadable_of_mem_array hd
    obtain ⟨kind, others, rfl, hread⟩ := ofElements?_of_hasParts hps h.listed hall
    have hothers : others.all (Doc.isReadable (room - 1)) = true :=
      List.all_eq_true.mpr fun d hd => hall d (List.mem_cons_of_mem _ hd)
    simp [ofDoc?, hothers, hread]
  | _ => cases h

/-- The source may stand before the kind that needs it, and be a list. -/
example : ValueShape.ofDoc? Doc.nestingLimit
    (.object [(some "lookup_source", .array [.string (some "tags")]), (some "x", .null),
      (some "x", .null), (some "kind", .string (some "tokenizer"))]) =
    some (.tokenizer ⟨"tags", .empty⟩) := rfl

theorem FieldValue.ofDoc?_of_writtenAs {v : FieldValue} {d : Doc} {room : Nat}
    (h : v.WrittenAs d) (hd : d.isReadable room = true) : ofDoc? d = some v := by
  cases h with
  | object hfits h =>
    have hkeys := Doc.hasReadableKeys_of_isReadable hd
    have hkind := h.holds (by simp) (List.mem_cons_self)
    refine (ofDoc?_object_of_kind hkeys hkind).mpr ⟨_, ?_, hfits⟩
    exact h.holds (by simp) (by simp)
  | list hfits => exact ofDoc?_array_eq_some_iff.mpr ⟨_, _, rfl, hfits⟩

theorem ConditionSpec.ofDoc?_of_writtenAs {c : ConditionSpec} {d : Doc} {room : Nat}
    (h : c.WrittenAs d) (hd : d.isReadable room = true) : ofDoc? room d = some c := by
  obtain ⟨condition, label, value⟩ := c
  obtain ⟨name, content, hname, hvalue, h⟩ := h
  have hcondition := Condition.ofDoc?_eq_some_iff.mpr hname
  cases d with
  | object ms =>
    have hkeys := Doc.hasReadableKeys_of_isReadable hd
    have hall := Doc.isReadable_of_mem_object hd
    have hname : Doc.Members.required? ms "condition" = some name :=
      h.required? (by simp) (by simp)
    have hlabel : Doc.Members.required? ms "label" = some (.string (some label)) :=
      h.required? (by simp) (by simp)
    have hholds : Doc.Members.Holds ms "value" content := h.holds (by simp) (by simp)
    have hcontent := Doc.Members.optional?_eq_some_iff.mpr hholds
    have hread : orNull (ValueShape.ofDoc? (room - 1)) content = some value := by
      refine Doc.orNull_of_writtenAs hvalue rfl ?_
      rintro shape d rfl hshape
      exact ValueShape.ofDoc?_of_writtenAs hshape (hall _ hholds.mem).2
    simp [ofDoc?, hkeys, hname, hcondition, hlabel, hcontent, hread]
  | array items =>
    have hall := Doc.isReadable_of_mem_array hd
    obtain ⟨items, rfl, hlabel⟩ := Doc.Parts.listed_cons_some.mp h.listed
    obtain ⟨items, rfl, hitems⟩ := Doc.Parts.listed_cons_some.mp hlabel
    cases content with
    | none =>
      obtain ⟨rfl, -⟩ := Doc.Parts.listed_cons_none.mp hitems
      obtain rfl : value = none := hvalue.eq_none
      simp [ofDoc?, hcondition]
    | some d =>
      obtain ⟨items, rfl, hend⟩ := Doc.Parts.listed_cons_some.mp hitems
      obtain rfl := Doc.Parts.listed_nil.mp hend
      have hread : orNull (ValueShape.ofDoc? (room - 1)) (some d) = some value := by
        refine Doc.orNull_of_writtenAs hvalue rfl ?_
        intro shape e he hshape
        obtain rfl := Option.some.inj he
        exact ValueShape.ofDoc?_of_writtenAs hshape (hall _ (by simp))
      simp [ofDoc?, hcondition, hread]
  | _ => cases h

/-- Conditions are read however each of them is written. -/
theorem ConditionSpec.listOfDoc?_of_writtenAs {cs : List ConditionSpec} {content : Option Doc}
    {room : Nat} (h : Doc.DefaultWrittenAs ListWrittenAs [] cs content)
    (hd : ∀ d, content = some d → d.isReadable room = true) :
    listOfDoc? room content = some cs := by
  cases h with
  | leftOut hnone =>
    rw [hnone]
    rfl
  | written h =>
    obtain ⟨items, hitems, rfl⟩ := h
    have hall := Doc.isReadable_of_mem_array (hd _ rfl)
    exact Doc.mapM_of_forall₂ hitems fun c d hmem hc => ofDoc?_of_writtenAs hc (hall d hmem)

theorem FieldSpec.ofDoc?_of_writtenAs {f : FieldSpec} {d : Doc} {room : Nat}
    (h : f.WrittenAs d) (hd : d.isReadable room = true) : ofDoc? room d = some f := by
  obtain ⟨constant, name, standardType, conditions⟩ := f
  obtain ⟨type, content, htype, hcontent, h⟩ := h
  have hread : orNull StandardType.ofDoc? type = some standardType :=
    Doc.orNull_of_writtenAs htype rfl fun t d _ ht => StandardType.ofDoc?_eq_some_iff.mpr ht
  cases d with
  | object ms =>
    have hkeys := Doc.hasReadableKeys_of_isReadable hd
    have hall := Doc.isReadable_of_mem_object hd
    have hconstant : Doc.Members.required? ms "constant" = some (.string (some constant)) :=
      h.required? (by simp) (by simp)
    have hname : Doc.Members.required? ms "name" = some (.string (some name)) :=
      h.required? (by simp) (by simp)
    have htype' : Doc.Members.optional? ms "standard_type" = some type :=
      h.optional? (by simp) (by simp)
    have hholds : Doc.Members.Holds ms "conditions" content := h.holds (by simp) (by simp)
    have hcontent' := Doc.Members.optional?_eq_some_iff.mpr hholds
    have hconditions : ConditionSpec.listOfDoc? (room - 1) content = some conditions := by
      refine ConditionSpec.listOfDoc?_of_writtenAs hcontent ?_
      rintro d rfl
      exact (hall _ hholds.mem).2
    simp [ofDoc?, hkeys, hconstant, hname, htype', hread, hcontent', hconditions]
  | array items =>
    have hall := Doc.isReadable_of_mem_array hd
    obtain ⟨items, rfl, hname⟩ := Doc.Parts.listed_cons_some.mp h.listed
    obtain ⟨items, rfl, hitems⟩ := Doc.Parts.listed_cons_some.mp hname
    have hconditions : (∀ d, content = some d → d.isReadable (room - 1) = true) →
        ConditionSpec.listOfDoc? (room - 1) content = some conditions :=
      ConditionSpec.listOfDoc?_of_writtenAs hcontent
    cases type with
    | none =>
      obtain ⟨rfl, hnone⟩ := Doc.Parts.listed_cons_none.mp hitems
      obtain rfl : content = none := hnone ("conditions", content) (by simp)
      simp [ofDoc?, hread, hconditions]
    | some t =>
      obtain ⟨items, rfl, hlast⟩ := Doc.Parts.listed_cons_some.mp hitems
      cases content with
      | none =>
        obtain ⟨rfl, -⟩ := Doc.Parts.listed_cons_none.mp hlast
        simp [ofDoc?, hread, hconditions]
      | some cs =>
        obtain ⟨items, rfl, hend⟩ := Doc.Parts.listed_cons_some.mp hlast
        obtain rfl := Doc.Parts.listed_nil.mp hend
        have hcs := hconditions fun d hd => Option.some.inj hd ▸ hall cs (by simp)
        simp [ofDoc?, hread, hcs]
  | _ => cases h

/-! ## What is stored -/

/-- A map is stored as an object with its entries in their order. -/
theorem StringMap.writtenAs_toJson (m : StringMap) : m.WrittenAs m.toJson.toDoc :=
  Doc.stringMap?_eq_some_iff.mp (Doc.stringMap?_toJson m)

theorem LookupSource.writtenAs_toJson (s : LookupSource) : s.WrittenAs s.toJson.toDoc := by
  unfold toJson
  split
  · rename_i hempty
    exact ⟨none, .leftOut (SortedMap.eq_empty_of_isEmpty hempty), Doc.Parts.writtenAs_members _⟩
  · exact ⟨_, .written s.parameters.writtenAs_toJson, Doc.Parts.writtenAs_members _⟩

theorem ValueShape.writtenAs_toJson (v : ValueShape) : v.WrittenAs v.toJson.toDoc := by
  cases v with
  | empty => exact ⟨_, .empty, Doc.Parts.writtenAs_members _⟩
  | text => exact ⟨_, .text, Doc.Parts.writtenAs_members _⟩
  | tokenizer source =>
    exact ⟨_, .tokenizer source.writtenAs_toJson, Doc.Parts.writtenAs_members _⟩

theorem FieldValue.writtenAs_toJson (v : FieldValue) : v.WrittenAs v.toJson.toDoc := by
  cases v with
  | null => exact .object .null (Doc.Parts.writtenAs_members _)
  | bool b => exact .object (.bool b) (Doc.Parts.writtenAs_members _)
  | text s => exact .object (.text s) (Doc.Parts.writtenAs_members _)
  | textList items =>
    rw [toJson, Json.toDoc_object, Json.memberDocs_cons, Json.memberDocs_cons,
      Json.toDoc_array_map]
    exact .object (.textList items) (Doc.Parts.writtenAs_members _)
  | textMap entries =>
    exact .object (.textMap entries.writtenAs_toJson) (Doc.Parts.writtenAs_members _)
  | phid id => exact .object (.phid id) (Doc.Parts.writtenAs_members _)
  | phidList ids =>
    rw [toJson, Json.toDoc_object, Json.memberDocs_cons, Json.memberDocs_cons,
      Json.toDoc_array_map]
    exact .object (.phidList ids) (Doc.Parts.writtenAs_members _)

theorem ConditionSpec.writtenAs_toJson (c : ConditionSpec) : c.WrittenAs c.toJson.toDoc := by
  obtain ⟨condition, label, value⟩ := c
  cases value with
  | none => exact ⟨_, none, .text, .leftOut, Doc.Parts.writtenAs_members _⟩
  | some shape =>
    exact ⟨_, _, .text, .written shape.writtenAs_toJson, Doc.Parts.writtenAs_members _⟩

theorem FieldSpec.writtenAs_toJson (f : FieldSpec) : f.WrittenAs f.toJson.toDoc := by
  obtain ⟨constant, name, standardType, conditions⟩ := f
  have hconditions : ConditionSpec.ListWrittenAs conditions
      (Json.array (conditions.map ConditionSpec.toJson)).toDoc := by
    refine ⟨conditions.map fun c => c.toJson.toDoc, ?_, ?_⟩
    · rw [List.forall₂_map_right_iff, List.forall₂_same]
      exact fun c _ => c.writtenAs_toJson
    · exact Json.toDoc_array_map ConditionSpec.toJson conditions
  cases standardType with
  | none => exact ⟨none, _, .leftOut, .written hconditions, Doc.Parts.writtenAs_members _⟩
  | some t => exact ⟨_, _, .written .text, .written hconditions, Doc.Parts.writtenAs_members _⟩

/-! ## Members that stand twice -/

section
variable {ms : Doc.Members} {key : String} {room : Nat}

theorem LookupSource.ofDoc?_of_twice (hkey : key ∈ ["name", "parameters"]) (h : ms.Twice key) :
    ofDoc? (.object ms) = none := by
  simp only [List.mem_cons, List.not_mem_nil, or_false] at hkey
  rcases hkey with rfl | rfl
  · simp [ofDoc?, Doc.Members.required?_of_twice h]
  · simp [ofDoc?, Doc.Members.optional?_of_twice h]

theorem ValueShape.ofDoc?_of_twice (h : ms.Twice "kind") : ofDoc? room (.object ms) = none := by
  simp [ofDoc?, Doc.Members.required?_of_twice h]

/-- What belongs to the kind is refused as well if it stands twice. -/
theorem ValueShape.ofDoc?_of_source_twice
    (hkind : ms.Holds "kind" (some (.string (some "tokenizer"))))
    (h : ms.Twice "lookup_source") : ofDoc? room (.object ms) = none := by
  have hother : "lookup_source" ≠ "kind" := by decide
  have hothers := Doc.Members.required?_of_twice (h.without hother)
  simp [ofDoc?, Doc.Members.required?_eq_some_iff.mpr hkind, ofMembers?, hothers]

theorem FieldValue.ofDoc?_of_twice (hkey : key ∈ ["kind", "value"]) (h : ms.Twice key) :
    ofDoc? (.object ms) = none := by
  simp only [List.mem_cons, List.not_mem_nil, or_false] at hkey
  rcases hkey with rfl | rfl
  · simp [ofDoc?, Doc.Members.required?_of_twice h]
  · simp [ofDoc?, Doc.Members.optional?_of_twice h]

theorem ConditionSpec.ofDoc?_of_twice (hkey : key ∈ ["condition", "label", "value"])
    (h : ms.Twice key) : ofDoc? room (.object ms) = none := by
  simp only [List.mem_cons, List.not_mem_nil, or_false] at hkey
  rcases hkey with rfl | rfl | rfl
  · simp [ofDoc?, Doc.Members.required?_of_twice h]
  · simp [ofDoc?, Doc.Members.required?_of_twice h]
  · simp [ofDoc?, Doc.Members.optional?_of_twice h]

theorem FieldSpec.ofDoc?_of_twice
    (hkey : key ∈ ["constant", "name", "standard_type", "conditions"]) (h : ms.Twice key) :
    ofDoc? room (.object ms) = none := by
  simp only [List.mem_cons, List.not_mem_nil, or_false] at hkey
  rcases hkey with rfl | rfl | rfl | rfl
  · simp [ofDoc?, Doc.Members.required?_of_twice h]
  · simp [ofDoc?, Doc.Members.required?_of_twice h]
  · simp [ofDoc?, Doc.Members.optional?_of_twice h]
  · simp [ofDoc?, Doc.Members.optional?_of_twice h]

end

/-! ## Formats -/

namespace Format

variable {α : Type}

/-- However a value is written, the text is read as the value, if no text, number or depth in it
is beyond what can be read. What is stored of a value is one way to write it. -/
structure Understands (f : Format α) (W : α → Doc → Prop) : Prop where
  stored : ∀ x, W x (f.toJson x).toDoc
  read : ∀ x d text, W x d → d.isReadable Doc.nestingLimit = true → d.WrittenIn text →
    f.decode? text = some x

/-- No object with one of these keys twice is read. -/
def RefusesTwice (f : Format α) (keys : List String) : Prop :=
  ∀ key ∈ keys, ∀ ms text, Doc.Members.Twice ms key → (Doc.object ms).WrittenIn text →
    f.decode? text = none

theorem decode?_of_writtenIn (f : Format α) {d : Doc} {text : String} (h : d.WrittenIn text) :
    f.decode? text = f.ofDoc? d := by
  unfold decode?
  rw [Doc.read?_of_writtenIn h]
  rfl

theorem understands_of_ofDoc? {f : Format α} {W : α → Doc → Prop}
    (hstored : ∀ x, W x (f.toJson x).toDoc)
    (hread : ∀ {x d}, W x d → d.isReadable Doc.nestingLimit = true → f.ofDoc? d = some x) :
    f.Understands W := by
  refine ⟨hstored, ?_⟩
  intro x d text hx hd h
  rw [decode?_of_writtenIn f h, hread hx hd]

theorem refusesTwice_of_ofDoc? {f : Format α} {keys : List String}
    (h : ∀ {ms key}, key ∈ keys → Doc.Members.Twice ms key → f.ofDoc? (.object ms) = none) :
    f.RefusesTwice keys := by
  intro key hkey ms text htwice htext
  rw [decode?_of_writtenIn f htext, h hkey htwice]

end Format

/-! ## The laws -/

/-- A lookup source, a shape, a field value and a spec are read however they are written: as an
object with the members in any order and anything under other keys between them, or as the list
of what the members hold, with any blanks, and with what says nothing left out or written out. An
object with one of the members twice is never read. -/
theorem the_spelling_of_a_value_does_not_count :
    LookupSource.format.Understands LookupSource.WrittenAs ∧
      ValueShape.format.Understands ValueShape.WrittenAs ∧
      FieldValue.format.Understands FieldValue.WrittenAs ∧
      ConditionSpec.format.Understands ConditionSpec.WrittenAs ∧
      FieldSpec.format.Understands FieldSpec.WrittenAs ∧
      LookupSource.format.RefusesTwice ["name", "parameters"] ∧
      ValueShape.format.RefusesTwice ["kind"] ∧
      (∀ ms text, Doc.Members.Holds ms "kind" (some (.string (some "tokenizer"))) →
        Doc.Members.Twice ms "lookup_source" → (Doc.object ms).WrittenIn text →
          ValueShape.format.decode? text = none) ∧
      FieldValue.format.RefusesTwice ["kind", "value"] ∧
      ConditionSpec.format.RefusesTwice ["condition", "label", "value"] ∧
      FieldSpec.format.RefusesTwice ["constant", "name", "standard_type", "conditions"] := by
  refine ⟨?_, ?_, ?_, ?_, ?_, ?_, ?_, ?_, ?_, ?_, ?_⟩
  · exact Format.understands_of_ofDoc? LookupSource.writtenAs_toJson LookupSource.ofDoc?_of_writtenAs
  · exact Format.understands_of_ofDoc? ValueShape.writtenAs_toJson ValueShape.ofDoc?_of_writtenAs
  · exact Format.understands_of_ofDoc? FieldValue.writtenAs_toJson FieldValue.ofDoc?_of_writtenAs
  · exact Format.understands_of_ofDoc? ConditionSpec.writtenAs_toJson
      ConditionSpec.ofDoc?_of_writtenAs
  · exact Format.understands_of_ofDoc? FieldSpec.writtenAs_toJson FieldSpec.ofDoc?_of_writtenAs
  · exact Format.refusesTwice_of_ofDoc? LookupSource.ofDoc?_of_twice
  · refine Format.refusesTwice_of_ofDoc? fun hkey htwice => ?_
    obtain rfl := List.mem_singleton.mp hkey
    exact ValueShape.ofDoc?_of_twice htwice
  · intro ms text hkind htwice htext
    rw [Format.decode?_of_writtenIn _ htext]
    exact ValueShape.ofDoc?_of_source_twice hkind htwice
  · exact Format.refusesTwice_of_ofDoc? FieldValue.ofDoc?_of_twice
  · exact Format.refusesTwice_of_ofDoc? ConditionSpec.ofDoc?_of_twice
  · exact Format.refusesTwice_of_ofDoc? FieldSpec.ofDoc?_of_twice

end RuleFields
